import Mathlib.Data.String.Basic

/-! # Paths

`Clean` and `Join` of `path/filepath` on Unix. Lexically a path is whether it is absolute and a
list of elements, in which `..` only stands in front.
-/

namespace Coldsnap.Paths

open List

abbrev Part := List Char

def parent : Part := ['.', '.']

/-- An element read by `Clean`; those it keeps so far are in reverse order. -/
def push (rooted : Bool) (kept : List Part) (part : Part) : List Part :=
  if part = [] || part = ['.'] then kept
  else if part = parent then
    match kept with
    | [] => if rooted then [] else [parent]
    | last :: others => if last = parent then parent :: kept else others
  else part :: kept

variable (path : String)

def isAbs : Bool := path.toList.head? = some '/'

def elements : List Part :=
  ((path.toList.splitOn '/').foldl (push (isAbs path)) []).reverse

def render (rooted : Bool) (parts : List Part) : String :=
  if rooted then .ofList ('/' :: ['/'].intercalate parts)
  else if parts = [] then "." else .ofList (['/'].intercalate parts)

def clean : String := render (isAbs path) (elements path)

def isCleanAbsolute : Bool := isAbs path && clean path = path

/-- `Base` of `path/filepath`, which does not clean the path. -/
def base : String :=
  if path = "" then "."
  else match ((path.toList.splitOn '/').filter (· ≠ [])).getLast? with
    | some part => .ofList part
    | none => "/"

def joinParts (parts : List String) : String :=
  .ofList (['/'].intercalate (parts.map String.toList))

def join (parts : List String) : String :=
  match parts.dropWhile (· = "") with
  | [] => ""
  | first :: rest => clean (joinParts (first :: rest))

structure Inside (root path : String) : Prop where
  rooted : isAbs path = isAbs root
  below : ∃ rest, rest ≠ [] ∧ parent ∉ rest ∧ elements path = elements root ++ rest

variable {part : Part}

theorem slash_notMem_of_mem_splitOn :
    ∀ {text : List Char}, part ∈ text.splitOn '/' → '/' ∉ part := by
  intro text
  induction size : text.length using Nat.strong_induction_on generalizing text with
  | _ length induction =>
    intro member
    by_cases slash : '/' ∈ text
    · rcases append_of_mem slash with ⟨before, after, rfl⟩
      rw [splitOn_append_cons_self, mem_append] at member
      simp only [length_append, length_cons] at size
      rcases member with early | late
      · exact induction before.length (by omega) rfl early
      · exact induction after.length (by omega) rfl late
    · rw [splitOn_eq_singleton slash, mem_singleton] at member
      rwa [member]

structure Plain (part : Part) : Prop where
  nonempty : part ≠ []
  other : part ≠ ['.']
  below : part ≠ parent

theorem Plain.of_length (long : 2 < part.length) : Plain part := by
  constructor <;> rintro rfl <;> simp [parent] at long

theorem push_plain (plain : Plain part) (rooted : Bool) (kept : List Part) :
    push rooted kept part = part :: kept := by
  simp [push, plain.nonempty, plain.other, plain.below]

theorem push_skipped (skipped : part = [] ∨ part = ['.']) (rooted : Bool) (kept : List Part)
    : push rooted kept part = kept := by
  simp [push, skipped]

theorem push_parent_plain {last : Part} (plain : Plain last) (rooted : Bool)
    (others : List Part) : push rooted (last :: others) parent = others := by
  have upward : parent ≠ [] ∧ parent ≠ ['.'] := by decide
  simp [push, upward, plain.below]

theorem push_parent_parents (count : Nat) :
    push false (replicate count parent) parent = replicate (count + 1) parent := by
  cases count <;> rfl

variable (rooted : Bool)

theorem push_parent_cases (kept : List Part) :
    push rooted kept parent = parent :: kept ∨ (push rooted kept parent).length ≤ kept.length := by
  cases kept with
  | nil => cases rooted <;> decide
  | cons last others =>
    by_cases upward : last = parent
    · subst upward
      exact .inl rfl
    · have upwards : parent ≠ [] ∧ parent ≠ ['.'] := by decide
      simp [push, upwards, upward]

variable {parts : List Part}

theorem foldl_push_plain (plain : ∀ part ∈ parts, Plain part) :
    ∀ kept, parts.foldl (push rooted) kept = parts.reverse ++ kept := by
  induction parts with
  | nil => exact fun _ => rfl
  | cons part parts induction =>
    intro kept
    rw [foldl_cons, push_plain (plain part mem_cons_self),
      induction (forall_mem_cons.mp plain).2,
      reverse_cons, append_assoc, singleton_append]

theorem foldl_push_parents (added : Nat) :
    ∀ count, (replicate added parent).foldl (push false) (replicate count parent) =
      replicate (added + count) parent := by
  induction added with
  | zero =>
    intro count
    rw [Nat.zero_add]
    rfl
  | succ added induction =>
    intro count
    rw [replicate_succ, foldl_cons, push_parent_parents, induction]
    congr 1
    omega

/-- The elements which `Clean` keeps, in their order: some `..` unless the path is absolute,
then others. -/
structure Canonical (rooted : Bool) (parts : List Part) : Prop where
  slashless : ∀ part ∈ parts, '/' ∉ part
  shape : ∃ count inner, parts = replicate count parent ++ inner ∧
    (∀ part ∈ inner, Plain part) ∧ (rooted = true → count = 0)

theorem Canonical.nil : Canonical rooted [] :=
  ⟨nofun, 0, [], rfl, nofun, fun _ => rfl⟩

variable {rooted : Bool}

section

variable (canonical : Canonical rooted parts)

include canonical

theorem Canonical.foldl : parts.foldl (push rooted) [] = parts.reverse := by
  rcases canonical.shape with ⟨count, inner, rfl, plain, bounded⟩
  rw [foldl_append, reverse_append, foldl_push_plain rooted plain, reverse_replicate]
  congr 1
  cases rooted with
  | false => exact foldl_push_parents count 0
  | true =>
    rw [bounded rfl]
    rfl

theorem Canonical.snoc (slashless : '/' ∉ part) (plain : Plain part)
    : Canonical rooted (parts ++ [part]) := by
  rcases canonical with ⟨clear, count, inner, rfl, inside, bounded⟩
  constructor
  · exact forall_mem_append.mpr ⟨clear, forall_mem_singleton.mpr slashless⟩
  · exact ⟨count, inner ++ [part], append_assoc _ _ _,
      forall_mem_append.mpr ⟨inside, forall_mem_singleton.mpr plain⟩, bounded⟩

omit canonical in
/-- A `..` is kept after other `..`, and removes any other element. -/
theorem Canonical.pushParent {kept : List Part} (canonical : Canonical rooted kept.reverse) :
    Canonical rooted (push rooted kept parent).reverse := by
  rcases canonical with ⟨clear, count, inner, split, inside, bounded⟩
  rw [reverse_eq_iff] at split
  subst split
  rcases eq_nil_or_concat inner with rfl | ⟨front, final, rfl⟩
  · rw [append_nil, reverse_replicate]
    cases rooted with
    | true =>
      rw [bounded rfl]
      exact Canonical.nil true
    | false =>
      rw [push_parent_parents, reverse_replicate]
      refine ⟨?_, count + 1, [], (append_nil _).symm, ?_, ?_⟩
      · intro part member
        rw [eq_of_mem_replicate member]
        decide
      · exact nofun
      · exact fun never => absurd never (by decide)
  · rw [concat_eq_append] at clear inside ⊢
    have last := inside final (mem_append_right _ mem_cons_self)
    rw [← append_assoc, reverse_append, reverse_singleton, singleton_append,
      push_parent_plain last, reverse_reverse]
    refine ⟨?_, count, front, rfl, ?_, bounded⟩
    · intro part member
      apply clear part
      rw [reverse_reverse, ← append_assoc]
      exact mem_append_left _ member
    · exact fun part member => inside part (mem_append_left _ member)

omit canonical in
theorem Canonical.push {kept : List Part} (canonical : Canonical rooted kept.reverse)
    (slashless : '/' ∉ part) : Canonical rooted (push rooted kept part).reverse := by
  by_cases skipped : part = [] ∨ part = ['.']
  · rwa [push_skipped skipped]
  · rw [not_or] at skipped
    by_cases upward : part = parent
    · rw [upward]
      exact canonical.pushParent
    · have plain : Plain part := ⟨skipped.1, skipped.2, upward⟩
      rw [push_plain plain, reverse_cons]
      exact canonical.snoc slashless plain

omit canonical in
theorem elements_canonical (path : String) : Canonical (isAbs path) (elements path) := by
  have loop : ∀ (rest : List Part) (kept : List Part), (∀ part ∈ rest, '/' ∉ part) →
      Canonical (isAbs path) kept.reverse →
      Canonical (isAbs path) (rest.foldl (Paths.push (isAbs path)) kept).reverse := by
    intro rest
    induction rest with
    | nil => exact fun _ _ => id
    | cons part rest induction =>
      intro kept slashless canonical
      exact induction _ (forall_mem_cons.mp slashless).2
        (canonical.push (slashless part mem_cons_self))
  exact loop _ [] (fun _ => slash_notMem_of_mem_splitOn) (Canonical.nil _)

theorem Canonical.nonempty : ∀ part ∈ parts, part ≠ [] := by
  rcases canonical.shape with ⟨count, inner, rfl, inside, _⟩
  intro part member
  rcases mem_append.mp member with upward | other
  · rw [eq_of_mem_replicate upward]
    exact cons_ne_nil _ _
  · exact (inside part other).nonempty

theorem Canonical.isAbs_render : isAbs (render rooted parts) = rooted := by
  cases rooted with
  | true => simp [isAbs, render]
  | false =>
    cases parts with
    | nil => decide
    | cons first others =>
      have filled := canonical.nonempty first mem_cons_self
      have clear := canonical.slashless first mem_cons_self
      cases first with
      | nil => exact absurd rfl filled
      | cons character rest =>
        have different : character ≠ '/' := fun same =>
          clear (same ▸ mem_cons_self)
        cases others <;> simp [isAbs, render, different, intercalate]

theorem Canonical.elements_render : elements (render rooted parts) = parts := by
  by_cases empty : parts = []
  · subst empty
    cases rooted <;> decide
  · have split := splitOn_intercalate '/' canonical.slashless empty
    rw [elements, canonical.isAbs_render]
    cases rooted with
    | true =>
      have leading : ('/' :: ['/'].intercalate parts).splitOn '/' = [] :: parts := by
        rw [← nil_append ('/' :: _), splitOn_append_cons_self, split]
        rfl
      simp [render, leading, push_skipped (.inl rfl), canonical.foldl]
    | false =>
      simp [render, empty, split, canonical.foldl]

end

theorem isAbs_clean : isAbs (clean path) = isAbs path :=
  (elements_canonical path).isAbs_render

theorem elements_clean : elements (clean path) = elements path :=
  (elements_canonical path).elements_render

variable {name : String}

/-- A relative path which `Clean` keeps names something below, unless it is `.` or leads
upwards. -/
theorem parts_of_clean (relative : isAbs name = false) (cleaned : clean name = name)
    (other : name ≠ ".") (below : name ≠ "..") (inside : ¬['.', '.', '/'] <+: name.toList) :
    ∀ part ∈ name.toList.splitOn '/', Plain part := by
  rw [clean, relative] at cleaned
  have canonical := elements_canonical name
  have filled : elements name ≠ [] := by
    intro empty
    rw [empty] at cleaned
    exact other cleaned.symm
  have text : name.toList = ['/'].intercalate (elements name) := by
    have rendered := congrArg String.toList cleaned
    rwa [render, if_neg Bool.false_ne_true, if_neg filled, String.toList_ofList, eq_comm]
      at rendered
  have split : name.toList.splitOn '/' = elements name := by
    rw [text]
    exact splitOn_intercalate '/' canonical.slashless filled
  rw [split]
  rcases canonical.shape with ⟨count, inner, shape, plain, _⟩
  cases count with
  | zero =>
    rw [shape]
    exact plain
  | succ count =>
    rw [shape, replicate_succ, cons_append] at text
    cases rest : replicate count parent ++ inner with
    | nil =>
      rw [rest, intercalate_singleton] at text
      exact absurd (String.toList_inj.mp text) below
    | cons next others =>
      rw [rest, intercalate_cons_cons] at text
      apply absurd _ inside
      rw [text, append_assoc]
      exact ⟨_, rfl⟩

variable (root : String)

/-- What is appended to a directory is read after its elements. -/
theorem elements_join (filled : name ≠ "") (relative : isAbs name = false) :
    isAbs (join [root, name]) = isAbs root ∧
    elements (join [root, name]) =
      ((name.toList.splitOn '/').foldl (push (isAbs root)) (elements root).reverse).reverse := by
  by_cases empty : root = ""
  · subst empty
    have joined : join ["", name] = clean name := by
      simp [join, joinParts, filled]
    rw [joined, isAbs_clean, elements_clean, relative, elements, relative]
    exact ⟨rfl, rfl⟩
  · have joined : join [root, name] = clean (joinParts [root, name]) := by
      simp [join, empty]
    have text : (joinParts [root, name]).toList = root.toList ++ '/' :: name.toList := by
      simp [joinParts, intercalate_cons_cons]
    have rooted : isAbs (joinParts [root, name]) = isAbs root := by
      have characters : root.toList ≠ [] := fun none => empty (String.toList_inj.mp none)
      rw [isAbs, isAbs, text, head?_append_of_ne_nil _ characters]
    rw [joined, isAbs_clean, elements_clean, rooted, elements, rooted, text,
      splitOn_append_cons_self, foldl_append]
    refine ⟨rfl, ?_⟩
    rw [elements, reverse_reverse]

/-- A name of plain elements, appended to a directory. -/
theorem inside_join {root : String} (plain : ∀ part ∈ name.toList.splitOn '/', Plain part) :
    Inside root (join [root, name]) := by
  have filled : name ≠ "" := by
    rintro rfl
    exact (plain [] (by decide)).nonempty rfl
  have relative : isAbs name = false := by
    cases text : name.toList with
    | nil => rw [isAbs, text]; rfl
    | cons character rest =>
      by_contra rooted
      rw [Bool.not_eq_false, isAbs, text] at rooted
      have slash : character = '/' := by simpa using rooted
      have leading : [] ∈ name.toList.splitOn '/' := by
        rw [text, slash, ← nil_append ('/' :: rest), splitOn_append_cons_self]
        exact mem_append_left _ (by decide)
      exact (plain [] leading).nonempty rfl
  rcases elements_join root filled relative with ⟨rooted, joined⟩
  refine ⟨rooted, name.toList.splitOn '/', ?_, ?_, ?_⟩
  · exact splitOn_ne_nil _ _
  · exact fun member => (plain parent member).below rfl
  · rw [joined, foldl_push_plain _ plain, reverse_append, reverse_reverse, reverse_reverse]

theorem not_inside_join_dot : ¬Inside root (join [root, "."]) := by
  rintro ⟨_, rest, filled, _, below⟩
  rw [(elements_join root (by decide) (by decide)).2] at below
  have skipped : push (isAbs root) (elements root).reverse ['.'] = (elements root).reverse :=
    push_skipped (.inr rfl) _ _
  have split : ".".toList.splitOn '/' = [['.']] := by decide
  rw [split, foldl_cons, foldl_nil, skipped, reverse_reverse] at below
  exact filled (self_eq_append_right.mp below)

theorem not_inside_join_parent : ¬Inside root (join [root, ".."]) := by
  rintro ⟨_, rest, filled, inside, below⟩
  have split : "..".toList.splitOn '/' = [parent] := by decide
  rw [(elements_join root (by decide) (by decide)).2, split, foldl_cons, foldl_nil] at below
  rcases push_parent_cases (isAbs root) (elements root).reverse with kept | removed
  · rw [kept, reverse_cons, reverse_reverse] at below
    have up := append_cancel_left below
    exact inside (up ▸ mem_cons_self)
  · have lengths := congrArg length below
    rw [length_reverse, length_append] at lengths
    rw [length_reverse] at removed
    have some := length_pos_iff.mpr filled
    omega

/-- A relative path which `Clean` keeps and which does not start with `../` leads inside the
directory, but for two. -/
theorem inside_join_iff {root : String} (relative : isAbs name = false)
    (cleaned : clean name = name) (inside : ¬['.', '.', '/'] <+: name.toList) :
    Inside root (join [root, name]) ↔ name ≠ "." ∧ name ≠ ".." := by
  constructor
  · intro below
    constructor
    · rintro rfl
      exact not_inside_join_dot root below
    · rintro rfl
      exact not_inside_join_parent root below
  · rintro ⟨other, below⟩
    exact inside_join (parts_of_clean relative cleaned other below inside)

end Coldsnap.Paths
