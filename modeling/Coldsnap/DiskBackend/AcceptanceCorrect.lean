import Coldsnap.DiskBackend.ManifestCorrect
import Coldsnap.DiskBackend.OwnershipCorrect

/-! # Manifests of the live layout

A manifest whose entries are the live weight allocations, in any order, is
neither relocated nor refused for its entries.
-/

namespace Coldsnap.DiskBackend

open Python Intervals List Checked

def Setting.ordered (setting : Setting) : List Allocation :=
  sortedOn Allocation.pointer setting.weights

theorem extentList_map {extents : List Dict} (nonempty : extents ≠ []) :
    extentList (.arr (extents.map .obj)) = some extents := by
  unfold extentList
  rw [Json.asDicts_map]
  cases extents with
  | nil => exact absurd rfl nonempty
  | cons _ _ => rfl

theorem sameLayout_self (allocations : List Allocation) :
    sameLayout (allocations.map liveEntry) allocations = true := by
  induction allocations with
  | nil => rfl
  | cons allocation allocations induction =>
    simp only [map_cons, sameLayout, liveEntry, Json.equal_str, beq_self_eq_true, Bool.true_and]
    exact induction

section Entries

variable [Builtins] {setting : Setting} {manifest : Dict} {ι : Type} {items : List ι}
variable {record : ι → Dict} {allocation : ι → Allocation}

theorem relocateSplitNativeManifest_same
    (listed : (manifest.get "entries").asDicts = some (items.map record))
    (layout : ∀ item ∈ items, capturedLayout (record item) = .ok (liveEntry (allocation item)))
    (same : sortedOn Allocation.pointer (items.map allocation) = setting.ordered)
    (ranges : List (Int × Int)) (semantics : List SemanticRange) :
    relocateSplitNativeManifest manifest setting.weights ranges semantics = .ok manifest := by
  have pointers : ∀ item ∈ items, (Dict.getD (record item) "ptr" (.int (-1))).toInt =
      .ok (allocation item).pointer := by
    intro item member
    have read := layout item member
    simp only [capturedLayout, bind_eq_ok, pure_eq_ok] at read
    rcases read with ⟨pointer, found, _, _, equal⟩
    rw [found, (Prod.mk.inj equal).1]
  have sorted : sortedBy (fun entry : Dict => (entry.getD "ptr" (.int (-1))).toInt)
      (items.map record) =
        .ok ((sortedOn (fun item => (allocation item).pointer) items).map record) :=
    sortedBy_map_ok pointers
  have layouts : mapEach capturedLayout
      ((sortedOn (fun item => (allocation item).pointer) items).map record) =
        .ok (setting.ordered.map liveEntry) := by
    rw [← same, sortedOn_map, map_map]
    apply mapEach_map
    intro item member
    exact layout item ((sortedOn_perm _ _).mem_iff.mp member)
  unfold relocateSplitNativeManifest
  simp only [listed, sorted, layouts, bind, Except.bind]
  rw [← Setting.ordered, sameLayout_self]
  rfl

theorem checkAllocations_live
    (listed : extentList (manifest.get "entries") = some (items.map record))
    (saved : ∀ item ∈ items, savedEntry (record item) = .ok (liveEntry (allocation item)))
    (perm : (items.map allocation).Perm setting.weights) :
    checkAllocations setting manifest false = .ok (items.map record) := by
  have read : mapEach savedEntry (items.map record) =
      .ok ((items.map allocation).map liveEntry) := by
    rw [map_map]
    exact mapEach_map saved
  have distinct : distinctEntries ((items.map allocation).map liveEntry) = true := by
    have pointers := (perm.map Allocation.pointer).nodup_iff.mpr setting.weights_tidy.pointers_nodup
    revert pointers
    generalize items.map allocation = allocations
    intro pointers
    induction allocations with
    | nil => rfl
    | cons first rest induction =>
      rcases nodup_cons.mp pointers with ⟨fresh, pointers⟩
      simp only [map_cons, distinctEntries, Bool.and_eq_true, Bool.not_eq_true', any_eq_false]
      refine ⟨fun entry member => ?_, induction pointers⟩
      rcases mem_map.mp member with ⟨other, otherMember, rfl⟩
      have different : first.pointer ≠ other.pointer :=
        fun equal => fresh (equal ▸ mem_map_of_mem otherMember)
      simp [sameEntry, liveEntry, different]
  have live : matchesLive ((items.map allocation).map liveEntry) setting.weights = true := by
    simp only [matchesLive, Bool.and_eq_true, all_eq_true, any_eq_true]
    constructor
    · rw [forall_mem_map]
      intro other otherMember
      exact ⟨other, perm.mem_iff.mp otherMember, sameEntry_self other⟩
    · intro other member
      exact ⟨liveEntry other, mem_map_of_mem (perm.mem_iff.mpr member), sameEntry_self other⟩
  unfold checkAllocations
  simp only [listed, read, distinct, live, rescue, require, bind, Except.bind,
    Bool.or_true, if_true]
  rfl

end Entries

end Coldsnap.DiskBackend
