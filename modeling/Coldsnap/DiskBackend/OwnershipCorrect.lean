import Coldsnap.DiskBackend.Writers
import Mathlib.Data.List.Chain

/-! # A worker recognises its own manifests

The identity which a writer records is accepted by the loader of the same
process, whatever the names of the worker and of the host contain.
-/

namespace Coldsnap.DiskBackend

open Python List

theorem rpartition_eq_some {first : Char} {marker before after : List Char}
    (last : rpartition (first :: marker) (marker ++ after) = none) :
    rpartition (first :: marker) (before ++ (first :: marker ++ after)) = some (before, after) := by
  induction before with
  | nil =>
    rw [nil_append, cons_append, rpartition, last]
    simp
  | cons character before induction =>
    rw [cons_append, rpartition, induction]

/-- No dash is followed by the letter which starts a rank marker. -/
def Unmarked (text : List Char) : Prop :=
  text.IsChain fun left right => ¬(left = '-' ∧ right = 'r')

theorem unmarked_of_digits {digits : List Char} (all : ∀ character ∈ digits, character ≠ '-') :
    Unmarked digits := by
  apply Pairwise.isChain
  apply pairwise_of_forall_mem_list
  exact fun first member _ _ both => all first member both.1

theorem rpartition_unmarked {marker text : List Char} (unmarked : Unmarked text) :
    rpartition ('-' :: 'r' :: marker) text = none := by
  induction text with
  | nil => rfl
  | cons first rest induction =>
    have tail : Unmarked rest := unmarked.tail
    rw [rpartition, induction tail]
    simp only [ite_eq_right_iff, reduceCtorEq, imp_false]
    cases rest with
    | nil => simp [isPrefixOf]
    | cons second rest =>
      intro found
      simp only [isPrefixOf_cons_cons, Bool.and_eq_true, beq_iff_eq] at found
      exact (isChain_cons_cons.mp unmarked).1 ⟨found.1.symm, found.2.1.symm⟩

/-- A numeral is not empty and contains neither a dash nor a letter. -/
theorem numeral_toList (value : Nat) : (toString value).toList ≠ [] ∧
    ∀ character ∈ (toString value).toList, character ≠ '-' ∧ character ≠ 'r' := by
  have digits : (toString value).toList = Nat.toDigits 10 value := Nat.toList_repr
  rw [digits]
  refine ⟨Nat.toDigits_ne_nil, fun character member => ?_⟩
  have digit := Nat.isDigit_of_mem_toDigits (by decide) (by decide) member
  constructor <;> rintro rfl <;> exact absurd digit (by decide)

theorem toString_toNat {value : Int} (nonneg : 0 ≤ value) :
    toString value = toString value.toNat := by
  obtain ⟨number, rfl⟩ := Int.eq_ofNat_of_zero_le nonneg
  rfl

theorem Unmarked.number {front : List Char} (clear : Unmarked front) (number : Nat) :
    Unmarked (front ++ (toString number).toList) := by
  have numeral := numeral_toList number
  apply IsChain.append clear
  · exact unmarked_of_digits fun character member => (numeral.2 character member).1
  · intro last _ head member both
    exact (numeral.2 head (mem_of_mem_head? member)).2 both.2

/-- What follows the first two letters of a rank marker. -/
def markerRest (rank : Nat) : List Char :=
  "ank-".toList ++ (toString rank).toList ++ "-pid-".toList

/-- The rank and the process of an identity hold no further rank marker. -/
theorem unmarked_suffix (rank pid : Nat) :
    Unmarked ('r' :: markerRest rank ++ (toString pid).toList) := by
  have shape : 'r' :: markerRest rank ++ (toString pid).toList = "rank-".toList ++
      (toString rank).toList ++ ("-pid-".toList ++ (toString pid).toList) := by
    rw [markerRest, ← append_assoc]
    rfl
  rw [shape]
  apply IsChain.append
  · exact Unmarked.number (by unfold Unmarked; decide) rank
  · exact Unmarked.number (by unfold Unmarked; decide) pid
  · intro last _ head member both
    have dash : head = '-' := by simpa using member.symm
    rw [dash] at both
    exact absurd both.2 (by decide)

variable {setting : Setting}

def hostText (setting : Setting) : String :=
  setting.host.map fun character => if character = ':' then '_' else character

theorem identity_toList (setting : Setting) :
    (identity setting).toList = workerMarker setting.workerId ++ ((hostText setting).toList ++
      ("-rank-".toList ++ (toString setting.rank).toList ++ "-pid-".toList ++
        (toString setting.pid).toList)) := by
  simp [identity, workerMarker, hostText, toString, append_assoc]

theorem capturedNativeIdentityMatches_own [Builtins] (positive : 0 < setting.pid) :
    ∃ answer, capturedNativeIdentityMatches (.str (identity setting)) setting.workerId
      setting.rank setting.pid = .ok answer := by
  have rank := toString_toNat setting.rank_nonneg
  have pid := toString_toNat (le_of_lt positive)
  have marker : s!"-rank-{setting.rank}-pid-".toList =
      '-' :: 'r' :: markerRest setting.rank.toNat := by
    rw [markerRest, ← rank]
    simp [toString]
  have found : rpartition s!"-rank-{setting.rank}-pid-".toList
      ((identity setting).toList.drop (workerMarker setting.workerId).length) =
        some ((hostText setting).toList, (toString setting.pid).toList) := by
    rw [marker, identity_toList, drop_left, rank, pid]
    have last : rpartition ('-' :: 'r' :: markerRest setting.rank.toNat)
        ('r' :: markerRest setting.rank.toNat ++ (toString setting.pid.toNat).toList) = none :=
      rpartition_unmarked (unmarked_suffix _ _)
    exact rpartition_eq_some last
  have prefixed : (workerMarker setting.workerId).isPrefixOf (identity setting).toList = true := by
    rw [identity_toList, isPrefixOf_iff_prefix]
    exact prefix_append _ _
  have parsed : (Json.str (String.ofList (toString setting.pid).toList)).toInt =
      .ok setting.pid := by
    rw [String.ofList_toList, pid, Json.toInt, Builtins.parseInt_repr]
    simp only [Except.ok.injEq]
    omega
  simp only [capturedNativeIdentityMatches, setting.rank_nonneg.not_gt, if_false, prefixed,
    Bool.not_true, Bool.false_eq_true, found]
  split
  · simp only [parsed, bind, Except.bind]
    exact ⟨_, rfl⟩
  · exact ⟨_, rfl⟩

theorem portableIdentityMatches_own (setting : Setting) :
    portableIdentityMatches (.str (identity setting)) setting.workerId setting.rank
      setting.pid = true := by
  have suffix : s!"-rank-{setting.rank}-pid-{setting.pid}".toList = "-rank-".toList ++
      (toString setting.rank).toList ++ "-pid-".toList ++ (toString setting.pid).toList := by
    simp [toString]
  simp only [portableIdentityMatches, Bool.and_eq_true, decide_eq_true_eq,
    isPrefixOf_iff_prefix, isSuffixOf_iff_suffix]
  refine ⟨⟨setting.rank_nonneg, ?_⟩, ?_⟩
  · rw [identity_toList]
    exact prefix_append _ _
  · rw [identity_toList, suffix, ← append_assoc]
    exact suffix_append _ _

structure OwnManifest (setting : Setting) (manifest : Dict) (blob : String) : Prop where
  pid : manifest.get "pid" = .int setting.pid
  identity : manifest.get "identity" = .str (identity setting)
  rank : manifest.get "rank" = .int setting.rank
  workerId : manifest.get "worker_id" = .str setting.workerId
  captureId : manifest.get "capture_id" = .str setting.captureId
  blob : manifest.get "blob" = .str blob

variable {manifest : Dict} {blob : String}

section

variable (own : OwnManifest setting manifest blob)

include own

theorem OwnManifest.mismatches (portable : Bool) :
    ownershipMismatches setting manifest portable blob = [] := by
  simp [ownershipMismatches, own.pid, own.identity, own.rank, own.workerId, own.captureId,
    own.blob, portableIdentityMatches_own]

theorem OwnManifest.captured [Builtins] :
    ∃ answer, capturedOwnerMatches manifest setting.workerId setting.rank = .ok answer := by
  simp only [capturedOwnerMatches, own.rank, own.pid, own.identity]
  split
  · next accepted =>
      simp only [Bool.and_eq_true, decide_eq_true_eq] at accepted
      exact capturedNativeIdentityMatches_own accepted.2
  · exact ⟨_, rfl⟩

/-- The loader admits what the same process has written. -/
theorem checkOwnership_own [Builtins] {selected : Option String} :
    checkOwnership setting .plain selected manifest blob = .ok false := by
  have activated : ∃ answer, activatedPortableNative setting selected manifest = .ok answer := by
    unfold activatedPortableNative activatedPortableNativeManifestMatches
    split
    · split
      · exact own.captured
      · exact ⟨_, rfl⟩
    · exact ⟨_, rfl⟩
  obtain ⟨answer, activated⟩ := activated
  simp [checkOwnership, activated, restoredProcessTemplateRecovery, LoadOptions.plain,
    own.mismatches, bind, Except.bind, Checked.require, pure, Except.pure]

end

end Coldsnap.DiskBackend
