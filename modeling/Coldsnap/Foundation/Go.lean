import Coldsnap.Foundation.Results
import Mathlib.Data.List.Nodup

/-! # Go functions and maps

A function which returns a value and an error, of which callers use the value only if the
error is nil; loops over such functions; and maps as lists of entries.
-/

namespace Coldsnap.Go

open List

abbrev Result (α : Type) := Except String α

variable {α β : Type}

def check (condition : Bool) (message : String) : Result Unit :=
  if condition then .ok () else .error message

@[simp] theorem check_eq_ok {condition : Bool} {message : String} {value : Unit} :
    check condition message = .ok value ↔ condition = true := by
  cases condition with
  | false => simp [check]
  | true => simp [check]

variable {body : Result α}

def quoted (text : String) : String := "\"" ++ text ++ "\""

def within (context : String) (body : Result α) : Result α :=
  body.mapError fun message => context ++ ": " ++ message

@[simp] theorem within_eq_ok {context : String} {value : α} :
    within context body = .ok value ↔ body = .ok value := by
  cases body with
  | error message => simp [within, Except.mapError]
  | ok result => simp [within, Except.mapError]

def forEach (step : α → β → Result α) : α → List β → Result α
  | state, [] => .ok state
  | state, item :: items => step state item >>= fun next => forEach step next items

variable {step : α → β → Result α} {items : List β}

/-- What every turn of a loop keeps, the loop keeps. -/
theorem forEach_keeps {invariant : α → Prop}
    (kept : ∀ {state item next}, item ∈ items → invariant state → step state item = .ok next →
      invariant next) :
    ∀ {state final : α}, invariant state → forEach step state items = .ok final →
      invariant final := by
  induction items with
  | nil =>
    intro state final holds done
    cases done
    exact holds
  | cons item items induction =>
    intro state final holds done
    rcases bind_eq_ok.mp done with ⟨next, first, rest⟩
    exact induction (fun member => kept (mem_cons_of_mem _ member))
      (kept mem_cons_self holds first) rest

/-- What one turn establishes and the later ones keep holds in the end. -/
theorem forEach_establishes (reached : β → α → Prop)
    (sets : ∀ {state item next}, step state item = .ok next → reached item next)
    (kept : ∀ {state item next other}, reached other state → step state item = .ok next →
      reached other next) :
    ∀ {state final : α}, forEach step state items = .ok final →
      ∀ item ∈ items, reached item final := by
  induction items with
  | nil => exact nofun
  | cons item items induction =>
    intro state final done
    rcases bind_eq_ok.mp done with ⟨next, first, rest⟩
    refine forall_mem_cons.mpr ⟨?_, induction rest⟩
    exact forEach_keeps (fun _ => kept) (sets first) rest

/-- What every turn of a loop checks about its item holds of all items. -/
theorem forEach_checks (checked : β → Prop)
    (checks : ∀ {state item next}, step state item = .ok next → checked item) {state final : α}
    (done : forEach step state items = .ok final) : ∀ item ∈ items, checked item :=
  forEach_establishes (fun item _ => checked item) checks (fun holds _ => holds) done

/-- A loop which refuses keys it has seen before. -/
theorem forEach_fresh {κ : Type} (key : β → κ) (seen : α → List κ)
    (fresh : ∀ {state item next}, step state item = .ok next →
      key item ∉ seen state ∧ seen next = key item :: seen state) :
    ∀ {state final : α}, forEach step state items = .ok final →
      (items.map key).Nodup ∧ ∀ item ∈ items, key item ∉ seen state := by
  induction items with
  | nil => exact fun _ => ⟨nodup_nil, nofun⟩
  | cons item items induction =>
    intro state final done
    rcases bind_eq_ok.mp done with ⟨next, first, rest⟩
    rcases fresh first with ⟨unseen, extended⟩
    rcases induction rest with ⟨distinct, others⟩
    rw [extended] at others
    refine ⟨?_, ?_⟩
    · rw [map_cons, nodup_cons]
      refine ⟨?_, distinct⟩
      intro repeated
      rcases mem_map.mp repeated with ⟨other, member, same⟩
      exact others other member (same ▸ mem_cons_self)
    · refine forall_mem_cons.mpr ⟨unseen, fun other member known => ?_⟩
      exact others other member (mem_cons_of_mem _ known)

/-- A loop which collects something of each item. -/
theorem forEach_collects {κ : Type} (collected : α → List κ) (part : β → List κ)
    (adds : ∀ {state item next}, step state item = .ok next →
      collected next = collected state ++ part item) :
    ∀ {state final : α}, forEach step state items = .ok final →
      collected final = collected state ++ items.flatMap part := by
  induction items with
  | nil =>
    intro state final done
    cases done
    exact (append_nil _).symm
  | cons item items induction =>
    intro state final done
    rcases bind_eq_ok.mp done with ⟨next, first, rest⟩
    rw [induction rest, adds first, flatMap_cons, append_assoc]

/-! ## Maps -/

section Maps

variable {κ : Type} [DecidableEq κ]

theorem lookup_of_nodup {entries : List (κ × α)}
    (distinct : (entries.map Prod.fst).Nodup) {source : κ} {target : α} :
    entries.lookup source = some target ↔ (source, target) ∈ entries := by
  induction entries with
  | nil => simp
  | cons entry entries induction =>
    rcases entry with ⟨first, second⟩
    rw [map_cons, nodup_cons] at distinct
    by_cases same : source = first
    · subst same
      have fresh : (source, target) ∉ entries := fun member =>
        distinct.1 (mem_map.mpr ⟨_, member, rfl⟩)
      simp [fresh, eq_comm]
    · have other := beq_false_of_ne same
      simp [lookup_cons, other, same, induction distinct.2]

def assign (entries : List (κ × α)) (entry : κ × α) : List (κ × α) :=
  entries.filter (·.1 ≠ entry.1) ++ [entry]

variable (entries : List (κ × α)) {key other : κ}

theorem lookup_filter_ne : (entries.filter (·.1 ≠ key)).lookup other =
      if other = key then none else entries.lookup other := by
  induction entries with
  | nil => simp
  | cons entry entries induction =>
    grind

theorem lookup_assign {value : α} : (assign entries (key, value)).lookup other =
      if other = key then some value else entries.lookup other := by
  rw [assign, lookup_append, lookup_filter_ne]
  grind

def mapOf (assignments : List (κ × α)) : List (κ × α) :=
  assignments.foldl assign []

/-- Assignments to different keys all remain. -/
theorem mapOf_nodup {assignments : List (κ × α)} (distinct : (assignments.map Prod.fst).Nodup) :
    mapOf assignments = assignments := by
  have extended : ∀ known : List (κ × α), ((known ++ assignments).map Prod.fst).Nodup →
      assignments.foldl assign known = known ++ assignments := by
    clear distinct
    induction assignments with
    | nil => exact fun known _ => (append_nil known).symm
    | cons entry rest induction =>
      intro known distinct
      have kept : known.filter (·.1 ≠ entry.1) = known := by
        rw [filter_eq_self]
        intro other member
        rw [map_append, nodup_append] at distinct
        exact decide_eq_true (distinct.2.2 _ (mem_map_of_mem member) _ mem_cons_self)
      rw [foldl_cons, assign, kept, induction (known ++ [entry])]
      · rw [append_assoc, singleton_append]
      · rw [append_assoc, singleton_append]
        exact distinct
  exact extended [] distinct

end Maps

end Coldsnap.Go
