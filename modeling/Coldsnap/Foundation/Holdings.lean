import Mathlib.Data.Finset.Basic

/-! # Resources and their holders

Resources which are open, and places of which each may hold one of them. A resource which is
open without a holder is never closed.
-/

namespace Coldsnap

variable {π : Type}

@[ext] structure Holdings (π : Type) where
  holds : π → Option Nat
  opened : Finset Nat

namespace Holdings

/-- What is held is open, and held once. -/
structure Exclusive (holdings : Holdings π) : Prop where
  live : ∀ {place resource}, holdings.holds place = some resource → resource ∈ holdings.opened
  unique : ∀ {place other resource}, holdings.holds place = some resource →
    holdings.holds other = some resource → place = other

def Stray (holdings : Holdings π) (resource : Nat) : Prop :=
  resource ∈ holdings.opened ∧ ∀ place, holdings.holds place ≠ some resource

variable [DecidableEq π]

def close (holdings : Holdings π) (place : π) (resource : Nat) : Holdings π :=
  ⟨Function.update holdings.holds place none, holdings.opened.erase resource⟩

def move (holdings : Holdings π) (source target : π) (resource : Nat) : Holdings π :=
  ⟨Function.update (Function.update holdings.holds source none) target (some resource),
    holdings.opened⟩

def gain (holdings : Holdings π) (place : π) (held : Option Nat) (resources : Finset Nat) :
    Holdings π :=
  ⟨Function.update holdings.holds place held, holdings.opened ∪ resources⟩

variable {holdings : Holdings π} {place source target other : π} {resource lost : Nat}
variable {held : Option Nat} {resources : Finset Nat}

@[grind =] theorem close_holds : (holdings.close place resource).holds other =
    if other = place then none else holdings.holds other :=
  Function.update_apply ..

@[grind =] theorem mem_close : lost ∈ (holdings.close place resource).opened ↔
    lost ≠ resource ∧ lost ∈ holdings.opened :=
  Finset.mem_erase

@[grind =] theorem move_holds : (holdings.move source target resource).holds other =
    if other = target then some resource
    else if other = source then none else holdings.holds other := by
  simp [move, Function.update_apply]

@[grind =] theorem gain_holds : (holdings.gain place held resources).holds other =
    if other = place then held else holdings.holds other :=
  Function.update_apply ..

@[grind =] theorem mem_gain : lost ∈ (holdings.gain place held resources).opened ↔
    lost ∈ holdings.opened ∨ lost ∈ resources :=
  Finset.mem_union

theorem Exclusive.close (exclusive : holdings.Exclusive)
    (held : holdings.holds place = some resource) : (holdings.close place resource).Exclusive := by
  constructor
  · intro other found lies
    have alone := @exclusive.unique place other
    grind [exclusive.live]
  · grind [exclusive.unique]

theorem stray_close (held : holdings.holds place = some resource) :
    (holdings.close place resource).Stray lost ↔ holdings.Stray lost := by
  constructor
  · rintro ⟨still, free⟩
    refine ⟨(mem_close.mp still).2, fun other lies => ?_⟩
    have away := free other
    grind
  · rintro ⟨still, free⟩
    exact ⟨by grind, fun other => by grind⟩

theorem Exclusive.move (exclusive : holdings.Exclusive)
    (held : holdings.holds source = some resource) :
    (holdings.move source target resource).Exclusive := by
  constructor
  · grind [exclusive.live, Holdings.move]
  · grind [exclusive.unique]

theorem stray_move (held : holdings.holds source = some resource)
    (free : holdings.holds target = none) :
    (holdings.move source target resource).Stray lost ↔ holdings.Stray lost := by
  constructor
  · rintro ⟨still, free⟩
    refine ⟨still, fun other lies => ?_⟩
    have away := free other
    have target := free target
    grind
  · rintro ⟨still, free⟩
    exact ⟨still, fun other => by grind⟩

theorem Exclusive.gain (exclusive : holdings.Exclusive)
    (fresh : ∀ resource ∈ resources, resource ∉ holdings.opened)
    (among : ∀ resource, held = some resource → resource ∈ resources) :
    (holdings.gain place held resources).Exclusive := by
  constructor
  · grind [exclusive.live]
  · grind [exclusive.live, exclusive.unique]

theorem Exclusive.stray_gain (exclusive : holdings.Exclusive) (free : holdings.holds place = none)
    (fresh : ∀ resource ∈ resources, resource ∉ holdings.opened)
    (among : ∀ resource, held = some resource → resource ∈ resources) :
    (holdings.gain place held resources).Stray lost ↔
      holdings.Stray lost ∨ lost ∈ resources ∧ held ≠ some lost := by
  constructor
  · rintro ⟨still, free⟩
    have away := free place
    rcases mem_gain.mp still with old | new
    · refine .inl ⟨old, fun other lies => ?_⟩
      have away := free other
      grind
    · exact .inr ⟨new, by grind⟩
  · rintro (⟨still, free⟩ | ⟨new, away⟩)
    · exact ⟨by grind, fun other => by grind⟩
    · exact ⟨by grind, fun other => by grind [exclusive.live]⟩

end Holdings

end Coldsnap
