import Coldsnap.Foundation.Intervals
import Coldsnap.Foundation.Python
import Coldsnap.Foundation.Sha256
import Mathlib.Data.List.Dedup

/-! # Weight allocations and their semantic layout

The live side of the disk backend: allocations of the tagged CuMem pool, the
byte ranges a model reload owns, and the setters which bind them.
-/

namespace Coldsnap.DiskBackend

open Python Intervals List Checked

def preservedRegion : String := "weights"
def weightSourceBlob : String := "blob"
def weightSourceSafetensors : String := "safetensors"
def weightSourceSplitNative : String := "split-native"
def modelPayloadName : String := "model-weights.pack"
def nativeManifestName : String := "native-manifest.json"
def activationProviderName : String := "activation-provider"
def residualLayoutShared : String := "shared-padded-v1"
def manifestFormat : Int := 3
def manifestKind : String := "vllm-live-process-cumem"

structure Allocation where
  pointer : Int
  size : Int
  tag : String
deriving DecidableEq, Repr

namespace Allocation

def stop (allocation : Allocation) : Int := allocation.pointer + allocation.size

def range (allocation : Allocation) : Int × Int := (allocation.pointer, allocation.stop)

end Allocation

/-- The allocations of a pool. The allocator hands out address ranges which are
non-empty, start above the null pointer and do not overlap. -/
structure Pool where
  allocations : List Allocation
  pointer_pos : ∀ allocation ∈ allocations, 0 < allocation.pointer
  size_pos : ∀ allocation ∈ allocations, 0 < allocation.size
  apart : allocations.Pairwise fun left right => Apart left.range right.range

/-- A byte range of the model bound to a stable tensor identity. -/
structure SemanticRange where
  pointer : Int
  size : Int
  semanticId : String
deriving DecidableEq, Repr

namespace SemanticRange

def stop (item : SemanticRange) : Int := item.pointer + item.size

def range (item : SemanticRange) : Int × Int := (item.pointer, item.stop)

def key (item : SemanticRange) : Int ×ₗ Int ×ₗ String :=
  toLex (item.pointer, toLex (item.size, item.semanticId))

end SemanticRange

/-- SHA-256 as `hashlib` exposes it: 64 lowercase hexadecimal characters. -/
class Hashing where
  sha256 : List UInt8 → String
  sha256_length : ∀ bytes, (sha256 bytes).length = 64
  sha256_hex : ∀ bytes, ∀ character ∈ (sha256 bytes).toList, character ∈ "0123456789abcdef".toList

@[reducible] def Hashing.standard : Hashing :=
  ⟨Sha256.sha256, Sha256.sha256_length, Sha256.sha256_hex⟩

def isHex (text : String) : Bool :=
  text.toList.all fun character => character ∈ "0123456789abcdef".toList

def alignUp (value : Int) : Int := (value + 4096 - 1) / 4096 * 4096

theorem le_alignUp (value : Int) : value ≤ alignUp value := by
  unfold alignUp
  omega

theorem alignUp_add {aligned : Int} (multiple : aligned % 4096 = 0) (value : Int) :
    alignUp (aligned + value) = aligned + alignUp value := by
  unfold alignUp
  omega

theorem alignUp_mono {small large : Int} (ordered : small ≤ large) :
    alignUp small ≤ alignUp large := by
  unfold alignUp
  omega

theorem alignUp_mod (value : Int) : alignUp value % 4096 = 0 := by
  unfold alignUp
  omega

/-! ## Setters -/

/-- The model layout a backend object has been told about. -/
structure Bindings where
  modelWeightRanges : List (Int × Int)
  modelWeightSemantics : List SemanticRange
  nativeModelPayloadSemantics : List SemanticRange

def Bindings.initial : Bindings := ⟨[], [], []⟩

def ordinalId [Hashing] (index : Nat) (size : Int) : String :=
  Hashing.sha256 s!"ordinal:{index}:size:{size}".toUTF8.toList

def ordinalSemantics [Hashing] (ranges : List (Int × Int)) : List SemanticRange :=
  ranges.zipIdx.map fun item =>
    ⟨item.1.1, item.1.2, ordinalId item.2 item.1.2⟩

def checkRange (error : PyError) (previousEnd : Int) (range : Int × Int) : Checked Int := do
  require (!(range.1 ≤ 0 || range.2 ≤ 0 || range.1 < previousEnd)) error
  return range.1 + range.2

def setModelWeightRanges [Hashing] (bindings : Bindings) (ranges : List (Int × Int)) :
    Checked Bindings := do
  let normalized := sortedOn (fun range : Int × Int => toLex range) ranges
  let _ ← foldEach
    (checkRange (valueError "model weight ranges must be positive and disjoint")) 0 normalized
  return { bindings with
    modelWeightRanges := normalized
    modelWeightSemantics := ordinalSemantics normalized }

def setModelWeightSemantics (bindings : Bindings) (layout : List SemanticRange) :
    Checked Bindings := do
  let normalized := sortedOn SemanticRange.key layout
  let expected := bindings.modelWeightRanges.dedup
  let actual := normalized.map fun item => (item.pointer, item.size)
  let semanticIds := normalized.map (·.semanticId)
  require
    (sameSet actual expected && normalized.length == expected.length
      && semanticIds.dedup.length == semanticIds.length
      && semanticIds.all fun text => text.length == 64 && isHex text)
    (valueError "model weight semantic layout is invalid")
  return { bindings with modelWeightSemantics := normalized }

def checkSemanticRange (error : PyError) (seen : Int × List String) (item : SemanticRange) :
    Checked (Int × List String) := do
  require
    (!(item.pointer ≤ 0 || item.size ≤ 0 || item.pointer < seen.1
      || item.semanticId.length != 64 || !isHex item.semanticId
      || item.semanticId ∈ seen.2))
    error
  return (item.stop, item.semanticId :: seen.2)

def setNativeModelPayloadSemantics (bindings : Bindings) (layout : List SemanticRange) :
    Checked Bindings := do
  let normalized := sortedOn SemanticRange.key layout
  let _ ← foldEach
    (checkSemanticRange (valueError "native model payload semantic layout is invalid"))
    (0, []) normalized
  require (normalized ≠ []) (valueError "native model payload semantic layout is empty")
  return { bindings with nativeModelPayloadSemantics := normalized }

/-- The bindings a backend object can hold: the initial ones, changed by setter
calls which returned. -/
inductive Bindings.Accepted [Hashing] : Bindings → Prop
  | initial : Accepted Bindings.initial
  | modelWeightRanges {before after : Bindings} {ranges : List (Int × Int)} :
      Accepted before → setModelWeightRanges before ranges = .ok after → Accepted after
  | modelWeightSemantics {before after : Bindings} {layout : List SemanticRange} :
      Accepted before → setModelWeightSemantics before layout = .ok after → Accepted after
  | nativeModelPayloadSemantics {before after : Bindings} {layout : List SemanticRange} :
      Accepted before → setNativeModelPayloadSemantics before layout = .ok after → Accepted after

def Bindings.relocationSemantics (bindings : Bindings) (native : Bool) : List SemanticRange :=
  if native && bindings.nativeModelPayloadSemantics ≠ [] then
    bindings.nativeModelPayloadSemantics
  else bindings.modelWeightSemantics

def Bindings.relocationRanges (bindings : Bindings) (native : Bool) : List (Int × Int) :=
  let derived := (bindings.relocationSemantics native).map fun item => (item.pointer, item.size)
  if derived = [] then bindings.modelWeightRanges else derived

/-! ## What the setters guarantee -/

/-- Address ranges which are non-empty, above the null pointer and apart. -/
def Tidy (spans : List (Int × Int)) : Prop :=
  (∀ span ∈ spans, 0 < span.1 ∧ span.1 < span.2) ∧ spans.Pairwise Apart

theorem Tidy.perm {left right : List (Int × Int)} (tidy : Tidy left) (perm : left.Perm right) :
    Tidy right :=
  ⟨fun span member => tidy.1 span (perm.mem_iff.mpr member),
    perm.pairwise tidy.2 fun away => away.symm⟩

variable {spans : List (Int × Int)}

theorem Tidy.starts_nodup (tidy : Tidy spans) : (spans.map Prod.fst).Nodup := by
  rw [Nodup, pairwise_map]
  refine tidy.2.imp_of_mem ?_
  intro left right leftMember rightMember apart equal
  exact apart left.1 ⟨⟨le_refl _, (tidy.1 left leftMember).2⟩,
    ⟨equal.ge, equal.trans_lt (tidy.1 right rightMember).2⟩⟩

theorem Tidy.nodup (tidy : Tidy spans) : spans.Nodup := .of_map Prod.fst tidy.starts_nodup

def span (range : Int × Int) : Int × Int := (range.1, range.1 + range.2)

section

variable {σ β : Type} {step : σ → β → Checked σ} {items : List β} (cursor : σ → Int)

/-- A loop whose turns each read a range from its cursor on reads ascending ranges. -/
theorem foldEach_ascends (range : β → Int × Int → Prop) (good : Int × Int → Prop)
    (turn : ∀ {state item next}, item ∈ items → step state item = .ok next →
      ∃ found, range item found ∧ good found ∧ cursor state ≤ found.1 ∧ found.1 ≤ found.2 ∧
        found.2 ≤ cursor next) :
    ∀ {state final}, foldEach step state items = .ok final →
      ∃ ranges, Forall₂ range items ranges ∧ Ascends (cursor state) ranges ∧
        cursor state ≤ cursor final ∧ ∀ found ∈ ranges, good found ∧ found.2 ≤ cursor final := by
  induction items with
  | nil =>
    intro state final returned
    cases returned
    exact ⟨[], .nil, trivial, le_refl _, nofun⟩
  | cons item items induction =>
    intro state final returned
    rcases bind_eq_ok.mp returned with ⟨next, first, rest⟩
    rcases turn mem_cons_self first with ⟨found, read, kept, starts, ordered, stops⟩
    rcases induction (fun member => turn (mem_cons_of_mem _ member)) rest with
      ⟨ranges, others, ascends, reached, inside⟩
    have reaches := stops.trans reached
    exact ⟨found :: ranges, .cons read others, ⟨starts, ordered, ascends.mono stops⟩,
      starts.trans (ordered.trans reaches), forall_mem_cons.mpr ⟨⟨kept, reaches⟩, inside⟩⟩

theorem tidy_of_turns (range : β → Int × Int)
    (turn : ∀ {state item next}, step state item = .ok next → 0 < (range item).1 ∧
      cursor state ≤ (range item).1 ∧ (range item).1 < (range item).2 ∧
      (range item).2 ≤ cursor next)
    {state final : σ} (returned : foldEach step state items = .ok final) :
    Tidy (items.map range) := by
  rcases foldEach_ascends cursor (fun item found => range item = found)
      (fun found => 0 < found.1 ∧ found.1 < found.2) (fun _ first =>
        have kept := turn first
        ⟨_, rfl, ⟨kept.1, kept.2.2.1⟩, kept.2.1, kept.2.2.1.le, kept.2.2.2⟩) returned with
    ⟨ranges, read, ascends, _, inside⟩
  rw [← forall₂_map_left_iff, forall₂_eq_eq_eq] at read
  rw [read]
  exact ⟨fun found member => (inside found member).1,
    ascends.pairwise.imp fun before => before.apart⟩

end

theorem perm_of_sameSet {α : Type} [DecidableEq α] {left right : List α}
    (same : sameSet left right.dedup = true) (length : left.length = right.dedup.length) :
    left.Perm right.dedup := by
  have subset : right.dedup ⊆ left := fun item => (sameSet_iff.mp same item).mpr
  have subperm := subperm_of_subset (nodup_dedup right) subset
  exact (subperm.perm_of_length_le length.le).symm

structure Bindings.WellFormed (bindings : Bindings) : Prop where
  ranges : Tidy (bindings.modelWeightRanges.map span)
  semantics : Tidy (bindings.modelWeightSemantics.map SemanticRange.range)
  native : Tidy (bindings.nativeModelPayloadSemantics.map SemanticRange.range)

theorem ordinalSemantics_range [Hashing] (ranges : List (Int × Int)) :
    (ordinalSemantics ranges).map SemanticRange.range = ranges.map span := by
  simp only [ordinalSemantics, map_map]
  have projected : (SemanticRange.range ∘ fun item : (Int × Int) × Nat =>
      (⟨item.1.1, item.1.2, ordinalId item.2 item.1.2⟩ : SemanticRange)) = span ∘ Prod.fst := by
    rfl
  rw [projected, ← map_map, zipIdx_map_fst]

theorem Bindings.Accepted.wellFormed [Hashing] {bindings : Bindings}
    (accepted : bindings.Accepted) : bindings.WellFormed := by
  have empty : Tidy [] := ⟨nofun, .nil⟩
  induction accepted with
  | initial => exact ⟨empty, empty, empty⟩
  | modelWeightRanges _ returned before =>
    simp only [setModelWeightRanges, bind_eq_ok, pure_eq_ok] at returned
    rcases returned with ⟨stop, walked, rfl⟩
    have tidy := tidy_of_turns id span (fun first => by
      simp only [checkRange, bind_eq_ok, require_eq_ok, pure_eq_ok, Bool.not_eq_true',
        Bool.or_eq_false_iff, decide_eq_false_iff_not, not_le, not_lt] at first
      rcases first with ⟨_, accepted, rfl⟩
      simp only [span, id]
      omega) walked
    refine ⟨tidy, ?_, before.native⟩
    rwa [ordinalSemantics_range]
  | @modelWeightSemantics old new layout _ returned before =>
    simp only [setModelWeightSemantics, bind_eq_ok, require_eq_ok,
      pure_eq_ok, Bool.and_eq_true, beq_iff_eq] at returned
    rcases returned with ⟨_, ⟨⟨⟨same, length⟩, _⟩, _⟩, rfl⟩
    refine ⟨before.ranges, ?_, before.native⟩
    have distinct := Nodup.dedup (Nodup.of_map span before.ranges.nodup)
    have perm := perm_of_sameSet same (by simpa using length)
    rw [distinct] at perm
    have spans := perm.map span
    rw [map_map] at spans
    exact before.ranges.perm spans.symm
  | nativeModelPayloadSemantics _ returned before =>
    simp only [setNativeModelPayloadSemantics, bind_eq_ok, require_eq_ok, pure_eq_ok] at returned
    rcases returned with ⟨final, walked, _, _, rfl⟩
    refine ⟨before.ranges, before.semantics, ?_⟩
    refine tidy_of_turns Prod.fst SemanticRange.range (fun first => ?_) walked
    simp only [checkSemanticRange, bind_eq_ok, require_eq_ok, pure_eq_ok, Bool.not_eq_true',
      Bool.or_eq_false_iff, decide_eq_false_iff_not, not_le, not_lt] at first
    rcases first with ⟨_, ⟨⟨⟨⟨⟨pointer, size⟩, ordered⟩, _⟩, _⟩, _⟩, rfl⟩
    simp only [SemanticRange.range, SemanticRange.stop]
    omega

theorem accepted_sorted : Bindings.WellFormed ⟨[(4096, 16), (8192, 16)],
    @ordinalSemantics Hashing.standard [(4096, 16), (8192, 16)], []⟩ := by
  let := Hashing.standard
  have returned : setModelWeightRanges .initial [(8192, 16), (4096, 16)] = .ok _ := rfl
  exact (Bindings.Accepted.initial.modelWeightRanges returned).wellFormed

end Coldsnap.DiskBackend
