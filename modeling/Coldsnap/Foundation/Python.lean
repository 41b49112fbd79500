import Coldsnap.Foundation.Results
import Mathlib.Data.List.Sort
import Mathlib.Data.Prod.Lex
import Mathlib.Data.Rat.Floor
import Mathlib.Data.String.Basic

/-! # Python values

The part of Python that a program sees when it reads a JSON document it did not
write: dynamically typed values, `int()` on any of them, equality across number
types, dictionaries, stable sorting by a key that may raise, and exceptions.
-/

namespace Coldsnap.Python

open List

inductive ErrorKind where
  | keyError
  | typeError
  | valueError
  | overflowError
  | attributeError
  | assertionError
  | runtimeError
  | osError
  | fileNotFoundError
  | eofError
  | jsonDecodeError
deriving DecidableEq, Repr

structure PyError where
  kind : ErrorKind
  message : String
deriving DecidableEq, Repr

def keyError (key : String) : PyError := ⟨.keyError, key⟩
def typeError (message : String) : PyError := ⟨.typeError, message⟩
def valueError (message : String) : PyError := ⟨.valueError, message⟩
def runtimeError (message : String) : PyError := ⟨.runtimeError, message⟩
def osError (message : String) : PyError := ⟨.osError, message⟩

/-- A value as `json.loads` returns it. Finite floats are exact rationals. -/
inductive Json where
  | null
  | bool (value : Bool)
  | int (value : Int)
  | float (value : Rat)
  | infinity (negative : Bool)
  | nan
  | str (value : String)
  | arr (items : List Json)
  | obj (fields : List (String × Json))
deriving Repr

/-- A dictionary with string keys, in insertion order. -/
abbrev Dict := List (String × Json)

/-- The builtins whose full text grammar or rendering plays no part here. Of
`int(text)` and `str.isdigit` only the decimal numerals are fixed. -/
class Builtins where
  parseInt : String → Option Int
  isDigit : String → Bool
  render : Json → String
  parseInt_repr : ∀ value : Nat, parseInt (toString value) = some (value : Int)

/-- The builtins on ASCII numerals without sign, blanks or underscores. -/
@[reducible] def Builtins.decimal : Builtins where
  parseInt text :=
    if text.toList ≠ [] ∧ text.toList.all Char.isDigit then
      some (Nat.ofDigitChars 10 text.toList 0)
    else none
  isDigit text := text.toList ≠ [] && text.toList.all Char.isDigit
  render _ := ""
  parseInt_repr value := by
    have digits : (toString value).toList = Nat.toDigits 10 value := Nat.toList_repr
    have all : (Nat.toDigits 10 value).all Char.isDigit = true :=
      all_eq_true.mpr fun _ member =>
        Nat.isDigit_of_mem_toDigits (by decide) (by decide) member
    rw [digits, if_pos ⟨Nat.toDigits_ne_nil, all⟩,
      Nat.ofDigitChars_toDigits (by decide) (by decide)]

theorem toString_nat_inj {value other : Nat} (same : toString value = toString other) :
    value = other := by
  let decimal := Builtins.decimal
  have parsed := congrArg Builtins.parseInt same
  rw [Builtins.parseInt_repr, Builtins.parseInt_repr] at parsed
  exact Int.ofNat_inj.mp (Option.some.inj parsed)

theorem toString_int_inj {value other : Int} (same : toString value = toString other) :
    value = other := by
  have signed : ∀ below above : Nat, "-" ++ toString below ≠ toString above := by
    intro below above equal
    have text : '-' :: (toString below).toList = Nat.toDigits 10 above := by
      rw [← Nat.toList_repr]
      simpa using congrArg String.toList equal
    have digit := Nat.isDigit_of_mem_toDigits (b := 10) (n := above) (by decide) (by decide)
      (text ▸ mem_cons_self)
    exact absurd digit (by decide)
  cases value <;> cases other
  · exact congrArg Int.ofNat (toString_nat_inj same)
  · exact absurd same.symm (signed _ _)
  · exact absurd same (signed _ _)
  · have below := toString_nat_inj ((String.append_right_inj _).mp same)
    rw [Nat.succ.inj below]

/-! ## Fallible computations -/

abbrev Checked (α : Type) := Except PyError α

namespace Checked

variable {α β : Type}

def require (condition : Bool) (error : PyError) : Checked Unit :=
  if condition then .ok () else .error error

def rescue (kinds : List ErrorKind) (replacement : PyError) (body : Checked α) : Checked α :=
  match body with
  | .ok value => .ok value
  | .error error => if error.kind ∈ kinds then .error replacement else .error error

theorem require_true (error : PyError) : require true error = .ok () := rfl

@[simp] theorem require_eq_ok {condition : Bool} {error : PyError} {value : Unit} :
    require condition error = .ok value ↔ condition = true := by
  cases condition with
  | false => simp [require]
  | true => simp [require]

@[simp] theorem rescue_eq_ok {kinds : List ErrorKind} {replacement : PyError}
    {body : Checked α} {value : α} :
    rescue kinds replacement body = .ok value ↔ body = .ok value := by
  cases body with
  | ok result => simp [rescue]
  | error error =>
    simp only [rescue]
    split <;> simp

def foldEach (step : α → β → Checked α) : α → List β → Checked α
  | state, [] => .ok state
  | state, item :: items => step state item >>= fun next => foldEach step next items

variable {step : α → β → Checked α} {state : α}

@[simp] theorem foldEach_nil : foldEach step state [] = .ok state := rfl

variable {items : List β} {item : β}

@[simp] theorem foldEach_cons : foldEach step state (item :: items) =
      step state item >>= fun next => foldEach step next items := rfl

variable {check : β → Checked Unit}

theorem foldEach_check (passes : ∀ item ∈ items, check item = .ok ()) :
    foldEach (fun _ => check) () items = .ok () := by
  induction items with
  | nil => rfl
  | cons item items induction =>
    rw [forall_mem_cons] at passes
    rw [foldEach_cons, passes.1]
    exact induction passes.2

variable {compute : β → Checked α}

theorem mapEach_map {γ : Type} {record : γ → β} {result : γ → α} {items : List γ}
    (computes : ∀ item ∈ items, compute (record item) = .ok (result item)) :
    mapEach compute (items.map record) = .ok (items.map result) := by
  rw [mapEach_eq_ok, forall₂_map_left_iff, forall₂_map_right_iff, forall₂_same]
  exact computes

variable {results : List α}

theorem mapEach_eq_map [Inhabited α] (returned : mapEach compute items = .ok results) :
    ∃ result, results = items.map result ∧ ∀ item ∈ items, compute item = .ok (result item) := by
  refine ⟨fun item => (compute item).toOption.getD default, ?_⟩
  have related := mapEach_eq_ok.mp returned
  clear returned
  induction related with
  | nil => exact ⟨rfl, nofun⟩
  | cons head _ induction =>
    simp only [map_cons, forall_mem_cons, head, ← induction.1]
    exact ⟨rfl, rfl, induction.2⟩

theorem exists_of_forall₂ {relation : β → α → Prop}
    (related : Forall₂ relation items results) (member : item ∈ items) :
    ∃ result ∈ results, relation item result := by
  induction related with
  | nil => cases member
  | cons head _ induction =>
    rcases mem_cons.mp member with rfl | member
    · exact ⟨_, mem_cons_self, head⟩
    · rcases induction member with ⟨result, listed, related⟩
      exact ⟨result, mem_cons_of_mem _ listed, related⟩

theorem find_of_nodup {κ : Type} [DecidableEq κ] {key : β → κ} (distinct : (items.map key).Nodup)
    (member : item ∈ items) : items.find? (fun other => key other = key item) = some item := by
  cases found : items.find? fun other => key other = key item with
  | none => exact absurd (decide_eq_true rfl) (find?_eq_none.mp found item member)
  | some other =>
    have same := find?_some found
    rw [inj_on_of_nodup_map distinct (mem_of_find?_eq_some found) member (of_decide_eq_true same)]

theorem mapEach_cons_ok {head : α} {tail : List α} (first : compute item = .ok head)
    (rest : mapEach compute items = .ok tail) :
    mapEach compute (item :: items) = .ok (head :: tail) :=
  mapEach_eq_ok.mpr (.cons first (mapEach_eq_ok.mp rest))

/-- A comprehension over a permutation of the items yields a permutation. -/
theorem mapEach_perm {left right : List β} (perm : left.Perm right)
    (returned : mapEach compute left = .ok results) :
    ∃ others, mapEach compute right = .ok others ∧ results.Perm others := by
  rw [mapEach_eq_ok] at returned
  rcases perm_comp_forall₂ perm.symm returned with ⟨others, related, same⟩
  exact ⟨others, mapEach_eq_ok.mpr related, same.symm⟩

theorem forM_eq_ok {result : Unit} :
    items.forM check = .ok result ↔ ∀ item ∈ items, check item = .ok () := by
  induction items with
  | nil => simp
  | cons item items induction =>
    rw [forall_mem_cons, ← induction]
    exact bind_eq_ok.trans ⟨fun ⟨_, first, rest⟩ => ⟨first, rest⟩, fun both => ⟨(), both⟩⟩

/-! ## Results and errors -/

/-- The computation returns a value with a property, or raises such an error. -/
inductive Ensures (returns : α → Prop) (raises : PyError → Prop) : Checked α → Prop where
  | ok {value : α} (kept : returns value) : Ensures returns raises (.ok value)
  | error {error : PyError} (raised : raises error) : Ensures returns raises (.error error)

namespace Ensures

variable {returns : α → Prop} {raises : PyError → Prop} {error : PyError}

theorem bind {first : Checked α} {next : α → Checked β} {last : β → Prop}
    (head : Ensures returns raises first)
    (tail : ∀ value, returns value → Ensures last raises (next value)) :
    Ensures last raises (first >>= next) := by
  cases head with
  | ok kept => exact tail _ kept
  | error raised => exact .error raised

theorem imp {body : Checked α} {weaker : α → Prop} (ensured : Ensures returns raises body)
    (weakens : ∀ value, returns value → weaker value) : Ensures weaker raises body := by
  cases ensured with
  | ok kept => exact .ok (weakens _ kept)
  | error raised => exact .error raised

theorem require {condition : Bool} (raised : raises error) :
    Ensures (fun _ => condition = true) raises (require condition error) := by
  cases condition with
  | false => exact .error raised
  | true => exact .ok rfl

theorem elim {value : Option α} (raised : raises error) :
    Ensures (fun _ => True) raises (value.elim (.error error) .ok) := by
  cases value with
  | none => exact .error raised
  | some value => exact .ok trivial

theorem mapEach (each : ∀ item, Ensures returns raises (compute item)) :
    ∀ items, Ensures (fun results => ∀ result ∈ results, returns result) raises
      (mapEach compute items)
  | [] => .ok nofun
  | item :: items => (each item).bind fun _ head => (mapEach each items).bind fun _ tail =>
    .ok (forall_mem_cons.mpr ⟨head, tail⟩)

end Ensures

end Checked

/-! ## Generators -/

/-- What a generator has produced, and the error at which it stopped. -/
structure Produced (α : Type) where
  items : List α
  error : Option PyError
deriving DecidableEq, Repr

namespace Produced

variable {α β : Type}

def raise (error : PyError) : Produced α := ⟨[], some error⟩

/-- One generator after another; what was produced before an error stays. -/
def followedBy (first later : Produced α) : Produced α :=
  if first.error = none then ⟨first.items ++ later.items, later.error⟩ else first

def each (compute : β → Checked α) : List β → Produced α
  | [] => ⟨[], none⟩
  | item :: items =>
    match compute item with
    | .ok value => followedBy ⟨[value], none⟩ (each compute items)
    | .error error => raise error

theorem followedBy_inj {first left right : Produced α} :
    first.followedBy left = first.followedBy right ↔ (first.error = none → left = right) := by
  unfold followedBy
  split
  · rename_i returned
    rw [mk.injEq, List.append_cancel_left_eq, forall_prop_of_true returned]
    exact ⟨fun both => congrArg₂ mk both.1 both.2, fun same => same ▸ ⟨rfl, rfl⟩⟩
  · rename_i raised
    exact ⟨fun _ returned => absurd returned raised, fun _ => rfl⟩

end Produced

/-! ## Dictionaries -/

namespace Dict

def lookup : Dict → String → Option Json
  | [], _ => none
  | (name, value) :: rest, key => if name = key then some value else lookup rest key

variable (fields : Dict) (key name : String) (value : Json)

def get : Json :=
  (lookup fields key).getD .null

def getD (default : Json) : Json :=
  (lookup fields key).getD default

def item : Checked Json :=
  match lookup fields key with
  | some value => .ok value
  | none => .error (keyError key)

def set (fields : Dict) (key : String) (value : Json) : Dict :=
  match fields with
  | [] => [(key, value)]
  | (name, old) :: rest =>
    if name = key then (name, value) :: rest else (name, old) :: set rest key value

def update (fields values : Dict) : Dict :=
  values.foldl (fun result entry => result.set entry.1 entry.2) fields

def pop : Dict := fields.filter fun entry => entry.1 ≠ key

theorem lookup_set :
    lookup (fields.set key value) name =
      if name = key then some value else lookup fields name := by
  induction fields with
  | nil => simp [set, lookup, eq_comm]
  | cons entry rest induction =>
    rcases entry with ⟨first, old⟩
    by_cases hit : first = key
    · subst hit
      by_cases same : first = name
      · simp [set, lookup, same]
      · simp [set, lookup, same, Ne.symm same]
    · by_cases same : first = name
      · subst same
        simp [set, lookup, hit]
      · simp [set, lookup, hit, same, induction]

@[simp] theorem get_set :
    (fields.set key value).get name = if name = key then value else fields.get name := by
  simp only [get, lookup_set]
  split <;> rfl

@[simp] theorem item_set :
    (fields.set key value).item name =
      if name = key then .ok value else fields.item name := by
  simp only [item, lookup_set]
  by_cases same : name = key <;> simp [same]

end Dict

/-! ## Dynamic typing -/

namespace Json

/-- The number a value compares as: booleans are integers. -/
def number? : Json → Option Rat
  | .bool value => some (if value then 1 else 0)
  | .int value => some value
  | .float value => some value
  | _ => none

mutual

def equal : Json → Json → Bool
  | .null, .null => true
  | .str left, .str right => left == right
  | .infinity left, .infinity right => left == right
  | .arr left, .arr right => equalItems left right
  | .obj left, .obj right => left.length == right.length && equalFields left right
  | left, right =>
    match left.number?, right.number? with
    | some first, some second => first == second
    | _, _ => false

def equalItems : List Json → List Json → Bool
  | [], [] => true
  | left :: lefts, right :: rights => left.equal right && equalItems lefts rights
  | _, _ => false

def equalFields : List (String × Json) → List (String × Json) → Bool
  | [], _ => true
  | (key, value) :: rest, fields =>
    (match Dict.lookup fields key with
      | some other => value.equal other
      | none => false) && equalFields rest fields

end

def toInt [Builtins] : Json → Checked Int
  | .bool value => .ok (if value then 1 else 0)
  | .int value => .ok value
  | .float value => .ok (if 0 ≤ value then ⌊value⌋ else ⌈value⌉)
  | .infinity _ => .error ⟨.overflowError, "cannot convert float infinity to integer"⟩
  | .nan => .error (valueError "cannot convert float NaN to integer")
  | .str text =>
    match Builtins.parseInt text with
    | some value => .ok value
    | none => .error (valueError "invalid literal for int() with base 10")
  | _ => .error (typeError "int() argument must be a string or a real number")

def toText [Builtins] : Json → String
  | .str text => text
  | value => Builtins.render value

def isTrue : Json → Bool
  | .bool true => true
  | _ => false

def isFalse : Json → Bool
  | .bool false => true
  | _ => false

def asList : Json → Option (List Json)
  | .arr items => some items
  | _ => none

def asDict : Json → Option Dict
  | .obj fields => some fields
  | _ => none

def asString : Json → Option String
  | .str text => some text
  | _ => none

def asDicts (value : Json) : Option (List Dict) :=
  value.asList >>= fun items => items.mapM asDict

@[simp] theorem asDicts_map (extents : List Dict) :
    asDicts (.arr (extents.map .obj)) = some extents := by
  simp only [asDicts, asList, Option.bind_eq_bind, Option.bind_some]
  induction extents with
  | nil => rfl
  | cons extent extents induction => simp [asDict, induction]

@[simp] theorem toInt_int [Builtins] (value : Int) : toInt (.int value) = .ok value := rfl

@[simp] theorem toText_str [Builtins] (text : String) : toText (.str text) = text := rfl

@[simp] theorem equal_str (text other : String) :
    equal (.str text) (.str other) = (text == other) := by
  simp [equal]

theorem eq_of_equal_str {value : Json} {text : String} (same : value.equal (.str text) = true) :
    value = .str text := by
  cases value <;> simp [equal, number?] at same ⊢
  exact same

@[simp] theorem equal_int (value other : Int) :
    equal (.int value) (.int other) = (value == other) := by
  simp [equal, number?]

end Json

def Dict.int [Builtins] (fields : Dict) (key : String) : Checked Int :=
  fields.item key >>= Json.toInt

/-! ## Sets -/

/-- `set(left) == set(right)`. -/
def sameSet {α : Type} [DecidableEq α] (left right : List α) : Bool :=
  left.all (· ∈ right) && right.all (· ∈ left)

theorem sameSet_iff {α : Type} [DecidableEq α] {left right : List α} :
    sameSet left right = true ↔ ∀ item, item ∈ left ↔ item ∈ right := by
  simp only [sameSet, Bool.and_eq_true, all_eq_true, decide_eq_true_eq]
  exact ⟨fun both item => ⟨both.1 item, both.2 item⟩,
    fun same => ⟨fun item => (same item).mp, fun item => (same item).mpr⟩⟩

/-! ## Sorting -/

section Sorting

variable {α κ : Type} [LinearOrder κ]

def sortedBy (key : α → Checked κ) (items : List α) : Checked (List α) := do
  let keys ← mapEach key items
  return ((keys.zip items).insertionSort fun left right => left.1 ≤ right.1).map Prod.snd

variable {items : List α}

theorem sortedBy_perm {key : α → Checked κ} {sorted : List α}
    (returned : sortedBy key items = .ok sorted) : sorted.Perm items := by
  simp only [sortedBy, bind_eq_ok, pure_eq_ok] at returned
  rcases returned with ⟨keys, computed, rfl⟩
  have length := (mapEach_eq_ok.mp computed).length_eq
  have perm := (perm_insertionSort
    (fun left right : κ × α => left.1 ≤ right.1) (keys.zip items)).map Prod.snd
  rwa [map_snd_zip length.le] at perm

def sortedOn (key : α → κ) (items : List α) : List α :=
  items.insertionSort fun left right => key left ≤ key right

theorem sortedOn_perm (key : α → κ) (items : List α) : (sortedOn key items).Perm items :=
  perm_insertionSort _ items

theorem sortedOn_pairwise (key : α → κ) (items : List α) :
    (sortedOn key items).Pairwise fun left right => key left ≤ key right := by
  exact pairwise_insertionSort _ items

theorem sortedOn_eq_self {key : α → κ}
    (sorted : items.Pairwise fun left right => key left ≤ key right) : sortedOn key items = items :=
  Pairwise.insertionSort_eq sorted

theorem sortedOn_map {β : Type} (key : β → κ) (project : α → β) (items : List α) :
    sortedOn key (items.map project) =
      (sortedOn (fun item => key (project item)) items).map project :=
  (map_insertionSort _ _ project items fun _ _ _ _ => .rfl).symm

/-- Sorting records by a key which cannot raise on them. -/
theorem sortedBy_map_ok {β : Type} {key : β → Checked κ} {total : α → κ} {record : α → β}
    (computes : ∀ item ∈ items, key (record item) = .ok (total item)) :
    sortedBy key (items.map record) = .ok ((sortedOn total items).map record) := by
  have keys : mapEach key (items.map record) = .ok (items.map total) :=
    Checked.mapEach_map computes
  have zipped : (items.map total).zip (items.map record) =
      items.map fun item => (total item, record item) := zip_map'
  have sorted := map_insertionSort (fun left right : α => total left ≤ total right)
    (fun left right : κ × β => left.1 ≤ right.1) (fun item => (total item, record item)) items
    fun _ _ _ _ => .rfl
  simp only [sortedBy, keys, zipped, ← sorted, bind_eq_ok, Except.ok.injEq,
    exists_eq_left', pure_eq_ok, map_map]
  rfl

/-- The sorted keys depend on nothing but the multiset of the keys. -/
theorem sortedOn_keys {key : α → κ} {left right : List α}
    (perm : (left.map key).Perm (right.map key)) :
    (sortedOn key left).map key = (sortedOn key right).map key := by
  refine Perm.eq_of_pairwise (fun _ _ _ _ => le_antisymm)
    (pairwise_map.mpr (sortedOn_pairwise key left))
    (pairwise_map.mpr (sortedOn_pairwise key right)) ?_
  exact ((sortedOn_perm key left).map key).trans
    (perm.trans ((sortedOn_perm key right).map key).symm)

end Sorting

end Coldsnap.Python
