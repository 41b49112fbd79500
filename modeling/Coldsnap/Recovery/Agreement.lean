import Coldsnap.Recovery.Sharing

/-! # Agreement of the ranks

Every rank plans from the descriptors it selected itself. The plans of all ranks are
the same exactly if all ranks selected the same descriptors of every file, up to the
first one that raises.
-/

namespace Coldsnap.Recovery

open Python List

section Plans

variable [Builtins] [Doubles] {source : Source} {worldSize : Nat} {file : CheckpointFile}

/-- With a rank to share with, a file always has a plan, and the plan names every descriptor. -/
theorem planFile_items (positive : 0 < worldSize) (fileNumber : Nat)
    (selected : List SafetensorDescriptor) :
    ∃ entry error, planFile source worldSize fileNumber file selected = ⟨[entry], error⟩ ∧
      entry.owned.map Prod.fst = selected := by
  unfold planFile owners
  rw [Checked.require, if_pos (decide_eq_true positive)]
  exact ⟨_, _, rfl, by simp [owned, Function.comp_def]⟩

/-- Two ranks select the same descriptors of every file, up to the first one that raises. -/
def SelectAlike (source : Source) (worldSize : Nat) (left right : RankFilter) :
    (fileNumber : Nat) → (seen : List String) → List CheckpointFile → Prop
  | _, _, [] => True
  | fileNumber, seen, file :: files =>
    selectFile source left seen file = selectFile source right seen file ∧
      ∀ selected, selectFile source left seen file = .ok selected →
        (planFile source worldSize fileNumber file selected).error = none →
          SelectAlike source worldSize left right (fileNumber + 1)
            (seen ++ selected.map SafetensorDescriptor.name) files

/-- Two ranks have the same plan exactly if they select alike. -/
theorem planFiles_eq_iff (positive : 0 < worldSize) (left right : RankFilter) :
    ∀ (files : List CheckpointFile) (fileNumber : Nat) (seen : List String),
      planFiles source left worldSize fileNumber seen files =
          planFiles source right worldSize fileNumber seen files ↔
        SelectAlike source worldSize left right fileNumber seen files := by
  intro files
  induction files with
  | nil => simp [planFiles, SelectAlike]
  | cons file files induction =>
    intro fileNumber seen
    -- the first entry of a plan, which later files and errors leave alone
    have first : ∀ selected later, ∃ entry rest,
        ((planFile source worldSize fileNumber file selected).followedBy later).items =
          entry :: rest ∧ entry.owned.map Prod.fst = selected := by
      intro selected later
      rcases @planFile_items _ _ source worldSize file positive fileNumber selected with
        ⟨entry, error, planned, named⟩
      rw [planned, Produced.followedBy]
      split
      · exact ⟨entry, _, rfl, named⟩
      · exact ⟨entry, _, rfl, named⟩
    rw [planFiles, planFiles, SelectAlike]
    cases leftSelected : selectFile source left seen file with
    | error leftError =>
      cases rightSelected : selectFile source right seen file with
      | error rightError => simp [Produced.raise]
      | ok rightChosen =>
        refine ⟨fun same => ?_, fun alike => by cases alike.1⟩
        rcases first rightChosen _ with ⟨entry, rest, listed, _⟩
        have items := congrArg Produced.items same
        rw [listed] at items
        cases items
    | ok leftChosen =>
      cases rightSelected : selectFile source right seen file with
      | error rightError =>
        refine ⟨fun same => ?_, fun alike => by cases alike.1⟩
        rcases first leftChosen _ with ⟨entry, rest, listed, _⟩
        have items := congrArg Produced.items same
        rw [listed] at items
        cases items
      | ok rightChosen =>
        have chosen : ∀ {one other}, (planFile source worldSize fileNumber file
            leftChosen).followedBy one = (planFile source worldSize fileNumber file
            rightChosen).followedBy other → leftChosen = rightChosen := by
          intro one other same
          rcases first leftChosen one with ⟨leftEntry, _, leftListed, leftNamed⟩
          rcases first rightChosen other with ⟨rightEntry, _, rightListed, rightNamed⟩
          rw [same, rightListed, cons.injEq] at leftListed
          rw [← leftNamed, ← rightNamed, leftListed.1]
        constructor
        · intro same
          cases chosen same
          refine ⟨rfl, ?_⟩
          rintro _ ⟨⟩ returned
          exact (induction _ _).mp (Produced.followedBy_inj.mp same returned)
        · rintro ⟨⟨⟩, alike⟩
          exact Produced.followedBy_inj.mpr fun returned =>
            (induction _ _).mpr (alike leftChosen rfl returned)

def broadcastSequence (source : Source) (plan : Produced FilePlan) : List Broadcast :=
  plan.items.flatMap fun entry => entry.batches.flatMap (Batch.broadcasts source)

/-- All ranks derive the same batches with the same owners, and the same broadcasts, and
stop at the same error if at all. -/
def Agree (source : Source) (worldSize : Nat) (filters : Nat → RankFilter) : Prop :=
  ∀ left < worldSize, ∀ right < worldSize,
    iteratorPlan source worldSize (filters left) = iteratorPlan source worldSize (filters right) ∧
    broadcastSequence source (iteratorPlan source worldSize (filters left)) =
      broadcastSequence source (iteratorPlan source worldSize (filters right))

/-- All ranks select the same descriptors of every file, up to the first one that raises. -/
def SameSelection (source : Source) (worldSize : Nat) (filters : Nat → RankFilter) : Prop :=
  ∀ left < worldSize, ∀ right < worldSize,
    SelectAlike source worldSize (filters left) (filters right) 0 [] source.ordered

theorem iteratorPlan_agree_iff (source : Source) (worldSize : Nat) (filters : Nat → RankFilter) :
    Agree source worldSize filters ↔ SameSelection source worldSize filters := by
  unfold Agree SameSelection
  refine forall₂_congr fun left leftRank => forall₂_congr fun right _ => ?_
  have plans := @planFiles_eq_iff _ _ source worldSize (Nat.zero_lt_of_lt leftRank) (filters left)
    (filters right) source.ordered 0 []
  exact ⟨fun agree => plans.mp agree.1, fun alike =>
    ⟨plans.mpr alike, congrArg (broadcastSequence source) (plans.mpr alike)⟩⟩

end Plans

/-! ## Two ranks with experts of their own -/

/-- The number behind `.experts.`, up to the next dot. -/
def expertId : List Char → Option Nat
  | [] => none
  | character :: rest =>
    if ".experts.".toList.isPrefixOf (character :: rest) then
      let digits := (rest.drop 8).takeWhile Char.isDigit
      if digits ≠ [] ∧ (rest.drop (8 + digits.length)).head? = some '.' then
        some (Nat.ofDigitChars 10 digits 0)
      else expertId rest
    else expertId rest

def skipRemoteExpert (name : String) : Option (List Int) → Bool
  | none => false
  | some ids => (expertId name.toList).elim false fun id => (id : Int) ∉ ids

@[reducible] def Doubles.exact : Doubles := ⟨id⟩

def expertFile : CheckpointFile where
  filename := "model.safetensors"
  absolutePath := "/model/model.safetensors"
  size := 112
  byte _ := 0
  header := .ok (100, [
    ("mlp.experts.0.w", .obj [("dtype", .str "U8"), ("shape", .arr [.int 4]),
      ("data_offsets", .arr [.int 0, .int 4])]),
    ("mlp.experts.1.w", .obj [("dtype", .str "U8"), ("shape", .arr [.int 8]),
      ("data_offsets", .arr [.int 4, .int 12])])])

def expertSource : Source where
  files := [expertFile]
  index := none
  namePrefix := ""
  weightNamePrefixes := none
  fileWeightFilter := none
  stagingBytes := 268435456
  collectiveBytes := 67108864
  shouldSkipWeight := skipRemoteExpert
  elementSize _ := some 1
  staging_positive := by decide
  collective_positive := by decide

def expertFilters (rank : Nat) : RankFilter := ⟨some [(rank : Int)], []⟩

/-- The ranks wait for broadcasts of different sizes. -/
theorem iteratorPlan_experts :
    broadcastSequence expertSource
      (@iteratorPlan .decimal .exact expertSource 2 (expertFilters 0)) = [⟨1, 0, 4⟩] ∧
    broadcastSequence expertSource
      (@iteratorPlan .decimal .exact expertSource 2 (expertFilters 1)) = [⟨1, 0, 8⟩] ∧
    ¬@Agree .decimal .exact expertSource 2 expertFilters := by
  have first : broadcastSequence expertSource
      (@iteratorPlan .decimal .exact expertSource 2 (expertFilters 0)) = [⟨1, 0, 4⟩] := by
    decide +kernel
  have second : broadcastSequence expertSource
      (@iteratorPlan .decimal .exact expertSource 2 (expertFilters 1)) = [⟨1, 0, 8⟩] := by
    decide +kernel
  refine ⟨first, second, ?_⟩
  intro agree
  have same := (agree 0 (by decide) 1 (by decide)).2
  rw [first, second] at same
  cases same

end Coldsnap.Recovery
