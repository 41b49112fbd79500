import Coldsnap.Recovery.Agreement
import Mathlib.Algebra.BigOperators.Ring.List
import Mathlib.Algebra.Order.Field.Rat
import Mathlib.Data.List.TakeWhile
import Mathlib.Tactic.Linarith

/-! # Shares of a checkpoint

Over exact arithmetic `_owners` gives every rank one run of the descriptors, which is as
long as the others up to one descriptor. `_storage_views` lays the tensors of a batch
side by side, and so their alignment depends on the lengths before them.
-/

namespace Coldsnap.Recovery

open Python List

/-! ## The order of a file -/

def laidOut (physicalOrder : Bool) (descriptors : List SafetensorDescriptor) :
    List SafetensorDescriptor :=
  if physicalOrder then sortedOn SafetensorDescriptor.fileOffset descriptors else descriptors

theorem laidOut_perm (physicalOrder : Bool) (descriptors : List SafetensorDescriptor) :
    (laidOut physicalOrder descriptors).Perm descriptors := by
  cases physicalOrder with
  | false => exact .rfl
  | true => exact sortedOn_perm _ _

variable {β : Type}

/-- What belongs to an index, with the descriptor at that index. -/
def atIndex (batch : List SafetensorDescriptor) (item : Nat × β) :
    Option (SafetensorDescriptor × β) :=
  batch[item.1]?.map (·, item.2)

variable (batch : List SafetensorDescriptor)

theorem filterMap_atIndex {order : List (SafetensorDescriptor × Nat)}
    (listed : ∀ item ∈ order, item ∈ batch.zipIdx) :
    ∀ values : List β, ((order.map Prod.snd).zip values).filterMap (atIndex batch) =
      (order.map Prod.fst).zip values := by
  induction order with
  | nil => intro values; rfl
  | cons item order induction =>
    intro values
    cases values with
    | nil => rfl
    | cons value values =>
      have found : atIndex batch (item.2, value) = some (item.1, value) := by
        rw [atIndex, mem_zipIdx_iff_getElem?.mp (listed item mem_cons_self)]
        rfl
      rw [map_cons, map_cons, zip_cons_cons, zip_cons_cons, filterMap_cons_some found,
        induction (forall_mem_cons.mp listed).2]

/-- Every descriptor gets what was computed for its place in the layout. -/
theorem alongFile_perm (physicalOrder : Bool) (compute : List SafetensorDescriptor → List β)
    (length : (compute (laidOut physicalOrder batch)).length = batch.length) :
    (alongFile physicalOrder compute batch).length = batch.length ∧
      (batch.zip (alongFile physicalOrder compute batch)).Perm
        ((laidOut physicalOrder batch).zip (compute (laidOut physicalOrder batch))) := by
  have arranged : ∃ order : List (SafetensorDescriptor × Nat), order.Perm batch.zipIdx ∧
      order.map Prod.fst = laidOut physicalOrder batch ∧
      alongFile physicalOrder compute batch = (sortedOn Prod.fst
        ((order.map Prod.snd).zip (compute (order.map Prod.fst)))).map Prod.snd := by
    cases physicalOrder with
    | false => exact ⟨batch.zipIdx, .rfl, by simp [laidOut], rfl⟩
    | true =>
      refine ⟨_, sortedOn_perm (fun item => item.1.fileOffset) batch.zipIdx, ?_, rfl⟩
      rw [← sortedOn_map]
      simp [laidOut]
  rcases arranged with ⟨order, perm, ordered, computed⟩
  rw [computed, ← ordered]
  rw [← ordered] at length
  generalize compute (order.map Prod.fst) = values at length ⊢
  have pairs := sortedOn_perm Prod.fst ((order.map Prod.snd).zip values)
  generalize sorted : sortedOn Prod.fst ((order.map Prod.snd).zip values) = placed at pairs ⊢
  -- sorted by index, the pairs are those of the descriptors themselves
  have indices : placed.map Prod.fst = batch.zipIdx.map Prod.snd := by
    refine Perm.eq_of_pairwise (fun _ _ _ _ => le_antisymm) ?_ ?_ ?_
    · rw [← sorted]
      exact pairwise_map.mpr (sortedOn_pairwise _ _)
    · simpa using pairwise_le_range'
    · have firsts := pairs.map Prod.fst
      rw [map_fst_zip (by simp [length, perm.length_eq])] at firsts
      exact firsts.trans (perm.map Prod.snd)
  refine ⟨by simpa using congrArg List.length indices, ?_⟩
  have here := filterMap_atIndex batch (fun _ => id) (placed.map Prod.snd)
  rw [← indices, ← zip_of_prod rfl rfl, zipIdx_map_fst] at here
  have there := filterMap_atIndex batch (fun _ => perm.mem_iff.mp) values
  rw [← here, ← there]
  exact pairs.filterMap _

/-! ## Balance -/

theorem prefixSums_length (sizes : List Nat) : ∀ start,
    (prefixSums start sizes).length = sizes.length + 1 := by
  induction sizes with
  | nil => intro start; rfl
  | cons size sizes induction =>
    intro start
    rw [prefixSums, length_cons, induction, length_cons]

theorem closest_spec (distance : Nat → Rat) : ∀ (candidates : List Nat) (best : Nat),
    closest distance best candidates ∈ best :: candidates ∧
      ∀ candidate ∈ best :: candidates,
        distance (closest distance best candidates) ≤ distance candidate := by
  intro candidates
  induction candidates with
  | nil => simp [closest]
  | cons first candidates induction =>
    intro best
    rw [closest]
    split
    · rename_i nearer
      have spec := induction first
      exact ⟨mem_cons_of_mem _ spec.1, forall_mem_cons.mpr
        ⟨(spec.2 first mem_cons_self).trans nearer.le, spec.2⟩⟩
    · rename_i farther
      have spec := induction best
      rw [forall_mem_cons] at spec ⊢
      refine ⟨?_, spec.2.1, forall_mem_cons.mpr ⟨spec.2.1.trans (not_lt.mp farther), spec.2.2⟩⟩
      rcases mem_cons.mp spec.1 with equal | later
      · rw [equal]
        exact mem_cons_self
      · exact mem_cons_of_mem _ (mem_cons_of_mem _ later)

theorem getD_prefixSums (sizes : List Nat) : ∀ start index, index ≤ sizes.length →
    (prefixSums start sizes).getD index 0 = start + (sizes.take index).sum := by
  induction sizes with
  | nil =>
    intro start index inside
    rw [Nat.le_zero.mp inside]
    rfl
  | cons size sizes induction =>
    intro start index inside
    cases index with
    | zero => rfl
    | succ index =>
      rw [prefixSums, getD_cons_succ, induction _ _ (Nat.le_of_succ_le_succ inside),
        take_succ_cons, sum_cons, Nat.add_assoc]

/-- A sequence in steps of at most `most` passes a target at a distance of half a step. -/
theorem near_target {value : Nat → Rat} {most target : Rat} {lower upper : Nat}
    (ordered : lower ≤ upper) (steps : ∀ index < upper, value (index + 1) ≤ value index + most)
    (before : value lower ≤ target) (behind : target ≤ value upper) (positive : 0 ≤ most) :
    ∃ index, lower ≤ index ∧ index ≤ upper ∧ |value index - target| ≤ most / 2 := by
  induction upper, ordered using Nat.le_induction with
  | base =>
    have equal := le_antisymm before behind
    exact ⟨lower, le_rfl, le_rfl, by rw [equal, sub_self, abs_zero]; linarith⟩
  | succ upper above induction =>
    by_cases reached : target ≤ value upper
    · rcases induction (fun index inside => steps index (Nat.lt_succ_of_lt inside)) reached with
        ⟨index, after, upto, near⟩
      exact ⟨index, after, Nat.le_succ_of_le upto, near⟩
    · have step := steps upper (Nat.lt_succ_self upper)
      rcases le_total (target - value upper) (most / 2) with near | far
      · refine ⟨upper, above, Nat.le_succ upper, abs_le.mpr ⟨?_, ?_⟩⟩ <;> linarith
      · refine ⟨upper + 1, Nat.le_succ_of_le above, le_rfl, abs_le.mpr ⟨?_, ?_⟩⟩ <;> linarith

def front (sizes : List Nat) (index : Nat) : Rat := ((sizes.take index).sum : Nat)

section Balance

variable {sizes : List Nat} {most : Nat} (bounded : ∀ size ∈ sizes, size ≤ most)

include bounded

theorem boundary_near {lower : Nat} {target : Rat} (inside : lower ≤ sizes.length)
    (above : front sizes lower - target ≤ most / 2) (behind : target ≤ sizes.sum) :
    ∃ next, @boundary .exact (prefixSums 0 sizes) target lower = next ∧ lower ≤ next ∧
      next ≤ sizes.length ∧ |front sizes next - target| ≤ most / 2 := by
  have spec := closest_spec
    (fun index => |(((prefixSums 0 sizes).getD index 0 : Nat) : Rat) - target|)
    (range' (lower + 1) ((prefixSums 0 sizes).length - (lower + 1))) lower
  have candidate : ∀ index, index ∈ lower :: range' (lower + 1)
      ((prefixSums 0 sizes).length - (lower + 1)) ↔ lower ≤ index ∧ index ≤ sizes.length := by
    intro index
    rw [mem_cons, mem_range'_1, prefixSums_length]
    omega
  have value : ∀ index ≤ sizes.length,
      (((prefixSums 0 sizes).getD index 0 : Nat) : Rat) = front sizes index := by
    intro index upto
    rw [getD_prefixSums sizes 0 index upto, Nat.zero_add, front]
  have near : ∃ index, lower ≤ index ∧ index ≤ sizes.length ∧
      |front sizes index - target| ≤ most / 2 := by
    rcases le_total target (front sizes lower) with reached | before
    · exact ⟨lower, le_rfl, inside, by rwa [abs_of_nonneg (sub_nonneg.mpr reached)]⟩
    · refine near_target inside ?_ before (by simpa [front] using behind) (Nat.cast_nonneg most)
      intro index under
      have step := bounded _ (getElem_mem under)
      rw [front, front, take_add_one, getElem?_eq_getElem under, Option.toList_some, sum_append,
        sum_singleton]
      exact_mod_cast Nat.add_le_add_left step _
  rcases near with ⟨index, after, upto, close⟩
  rcases (candidate _).mp spec.1 with ⟨from', to'⟩
  refine ⟨_, rfl, from', to', ?_⟩
  have best := spec.2 index ((candidate index).mpr ⟨after, upto⟩)
  simp only [value _ to', value _ upto] at best
  exact best.trans close

end Balance

/-- What the owners of neighbouring descriptors are if each run belongs to one rank, for the
partitions from `first` on. -/
def ownersOf (worldSize rotation first : Nat) (runs : List (List SafetensorDescriptor)) :
    List Nat :=
  (runs.zipIdx first).flatMap fun run =>
    replicate run.1.length ((run.2 + rotation) % worldSize)

def bytes (run : List SafetensorDescriptor) : Nat := (run.map SafetensorDescriptor.length).sum

variable (ordered : List SafetensorDescriptor)

theorem front_add (lower count : Nat) :
    front (ordered.map SafetensorDescriptor.length) (lower + count) =
      front (ordered.map SafetensorDescriptor.length) lower +
        bytes ((ordered.drop lower).take count) := by
  simp [front, bytes, take_add, map_take, map_drop]

theorem front_length :
    front (ordered.map SafetensorDescriptor.length) ordered.length = bytes ordered := by
  rw [front, ← map_take, take_length, bytes]

/-- The boundaries stay within half a descriptor of their targets, so a run is within one
descriptor of the distance of two targets. -/
theorem fillOwners_runs {ordered : List SafetensorDescriptor} {most worldSize : Nat}
    (rotation : Nat) (bounded : ∀ descriptor ∈ ordered, descriptor.length ≤ most) :
    ∀ count first lower, first + 1 + count = worldSize → lower ≤ ordered.length →
      |front (ordered.map SafetensorDescriptor.length) lower - bytes ordered / worldSize * first| ≤
        most / 2 →
      ∃ runs : List (List SafetensorDescriptor), runs.length = count + 1 ∧
        runs.flatten = ordered.drop lower ∧
        fillOwners worldSize rotation first lower
            (@boundaries .exact (prefixSums 0 (ordered.map SafetensorDescriptor.length))
              (bytes ordered) worldSize lower (range' (first + 1) count) ++ [ordered.length]) =
          ownersOf worldSize rotation first runs ∧
        ∀ run ∈ runs, |(bytes run : Rat) - bytes ordered / worldSize| ≤ most := by
  intro count
  induction count with
  | zero =>
    intro first lower last inside close
    have whole := front_add ordered lower (ordered.length - lower)
    rw [Nat.add_sub_cancel' inside, front_length, take_of_length_le (by simp)] at whole
    have target : (bytes ordered : Rat) / worldSize * first + bytes ordered / worldSize =
        bytes ordered := by
      rw [← mul_add_one, ← last]
      exact_mod_cast div_mul_cancel₀ _ (Nat.cast_ne_zero.mpr (Nat.succ_ne_zero first))
    refine ⟨[ordered.drop lower], rfl, by simp, by simp [boundaries, fillOwners, ownersOf], ?_⟩
    rw [forall_mem_singleton, abs_le]
    rw [abs_le] at close
    constructor <;> linarith
  | succ count induction =>
    intro first lower last inside close
    have size : (0 : Rat) < worldSize := by
      rw [← last]
      exact_mod_cast (by omega : 0 < first + 1 + (count + 1))
    have average : (0 : Rat) ≤ bytes ordered / worldSize :=
      div_nonneg (Nat.cast_nonneg _) size.le
    have target : (bytes ordered : Rat) * (first + 1 : Nat) / worldSize =
        bytes ordered / worldSize * first + bytes ordered / worldSize := by
      rw [mul_div_right_comm, Nat.cast_succ, mul_add_one]
    have upto : (bytes ordered : Rat) * (first + 1 : Nat) / worldSize ≤ bytes ordered := by
      rw [div_le_iff₀ size]
      exact_mod_cast Nat.mul_le_mul_left _ (by omega)
    have sizes : ∀ size ∈ ordered.map SafetensorDescriptor.length, size ≤ most :=
      forall_mem_map.mpr bounded
    rw [abs_le] at close
    rw [← length_map SafetensorDescriptor.length] at inside
    rcases boundary_near sizes inside (by linarith) upto with
      ⟨next, found, after, within, near⟩
    rw [length_map] at within
    rcases Nat.exists_eq_add_of_le after with ⟨width, rfl⟩
    rw [target] at near
    rcases induction (first + 1) (lower + width) (by omega) within
        (by rwa [Nat.cast_succ, mul_add_one]) with ⟨runs, length, whole, filled, balanced⟩
    refine ⟨(ordered.drop lower).take width :: runs, by rw [length_cons, length], ?_, ?_, ?_⟩
    · rw [flatten_cons, whole, ← drop_drop, take_append_drop]
    · have exact : ∀ value, @Doubles.round .exact value = value := fun _ => rfl
      simp only [range'_succ, boundaries, exact, found, cons_append, fillOwners, filled, ownersOf,
        zipIdx_cons, flatMap_cons]
      congr 2
      rw [length_take, length_drop]
      omega
    · have run := front_add ordered lower width
      rw [forall_mem_cons, abs_le]
      rw [abs_le] at near
      exact ⟨⟨by linarith, by linarith⟩, balanced⟩

theorem alongFile_false {compute : List SafetensorDescriptor → List β}
    (length : (compute batch).length = batch.length) :
    alongFile false compute batch = compute batch := by
  simp only [alongFile, Bool.false_eq_true, if_false, zipIdx_map_fst, zipIdx_map_snd]
  have firsts : ((range' 0 batch.length).zip (compute batch)).map Prod.fst =
      range' 0 batch.length := map_fst_zip (by simp [length])
  rw [sortedOn_eq_self (pairwise_map.mp (by rw [firsts]; exact pairwise_le_range')),
    map_snd_zip (by simp [length])]

/-- Every rank owns one run of the descriptors, in the order in which they are laid out, and
its bytes differ from the average by no more than one descriptor. -/
theorem owners_balanced {worldSize most : Nat} (rotation : Nat) (physicalOrder : Bool)
    (positive : 0 < worldSize) (bounded : ∀ descriptor ∈ batch, descriptor.length ≤ most) :
    ∃ result runs, @owners .exact batch worldSize rotation physicalOrder = .ok result ∧
      runs.length = worldSize ∧ runs.flatten = laidOut physicalOrder batch ∧
      (batch.zip result).Perm
        ((laidOut physicalOrder batch).zip (ownersOf worldSize rotation 0 runs)) ∧
      result.length = batch.length ∧
      (physicalOrder = false → result = ownersOf worldSize rotation 0 runs) ∧
      ∀ run ∈ runs, |(bytes run : Rat) - bytes batch / worldSize| ≤ most := by
  have perm := laidOut_perm physicalOrder batch
  have total : bytes (laidOut physicalOrder batch) = bytes batch :=
    (perm.map SafetensorDescriptor.length).sum_eq
  have last : 0 + 1 + (worldSize - 1) = worldSize := by omega
  rcases fillOwners_runs rotation (fun item member => bounded item (perm.mem_iff.mp member))
      (worldSize - 1) 0 0 last (Nat.zero_le _) (by simp [front]; positivity) with
    ⟨runs, length, whole, filled, balanced⟩
  rw [total] at balanced
  rw [drop_zero] at whole
  have size : (ownersOf worldSize rotation 0 runs).length = batch.length := by
    have lengths := congrArg (List.map List.length) (zipIdx_map_fst 0 runs)
    rw [map_map] at lengths
    rw [← perm.length_eq, ← whole, ownersOf, length_flatMap, length_flatten, ← lengths]
    simp [Function.comp_def]
  simp only [owners, Checked.require, if_pos (decide_eq_true positive)]
  refine ⟨_, runs, rfl, by omega, whole, ?_⟩
  rw [← filled] at size ⊢
  refine ⟨(alongFile_perm batch _ _ size).2, (alongFile_perm batch _ _ size).1, ?_, balanced⟩
  rintro rfl
  exact alongFile_false batch size

def mixed : List SafetensorDescriptor :=
  [⟨"scale", "U8", [1], 100, 1⟩, ⟨"weight", "F32", [1], 101, 4⟩]

theorem owners_balanced_mixed :
    ∃ result runs, @owners .exact mixed 2 0 false = .ok result ∧ runs.length = 2 ∧
      runs.flatten = mixed ∧ result = ownersOf 2 0 0 runs ∧
      ∀ run ∈ runs, |(bytes run : Rat) - bytes mixed / (2 : Nat)| ≤ (4 : Nat) := by
  rcases owners_balanced mixed 0 false (by decide : 0 < 2)
      (by decide : ∀ item ∈ mixed, item.length ≤ 4) with
    ⟨result, runs, owned, length, whole, _, _, same, balanced⟩
  exact ⟨result, runs, owned, length, whole, same rfl, balanced⟩

/-! ## Slabs -/

variable (elementSize : String → Option Nat) (maxBytes : Nat)

/-- So many bytes are a whole number of elements of a tensor. -/
def Fills (descriptor : SafetensorDescriptor) (count : Nat) : Prop :=
  ∀ size, elementSize descriptor.dtypeName = some size → size ∣ count

/-- Every offset is a multiple of the size of the elements there. -/
def Aligned (views : List (SafetensorDescriptor × Nat)) : Prop :=
  ∀ view ∈ views, Fills elementSize view.1 view.2

/-- Where the staging limit admits a run of tensors, the first one fills whole elements of the
last one, and the last one those of the first if it comes earlier in the file. -/
def WholeElements (descriptors : List SafetensorDescriptor) : Prop :=
  ∀ first between last, first :: (between ++ [last]) <:+: descriptors →
    bytes (first :: (between ++ [last])) ≤ maxBytes →
      Fills elementSize last first.length ∧
        (last.fileOffset < first.fileOffset → Fills elementSize first last.length)

variable {elementSize maxBytes}

theorem bytes_append (left right : List SafetensorDescriptor) :
    bytes (left ++ right) = bytes left + bytes right := by
  simp [bytes]

theorem Fills.of_add {descriptor : SafetensorDescriptor} {left right : Nat}
    (both : Fills elementSize descriptor (left + right))
    (one : Fills elementSize descriptor right) : Fills elementSize descriptor left :=
  fun size known => (Nat.dvd_add_iff_left (one size known)).mpr (both size known)

/-- Whatever is laid out before a tensor fills whole elements of it. -/
def Filled (elementSize : String → Option Nat) (ordered : List SafetensorDescriptor) : Prop :=
  ∀ before descriptor after, ordered = before ++ descriptor :: after →
    Fills elementSize descriptor (bytes before)

theorem mem_zip_prefixSums {view : SafetensorDescriptor × Nat} :
    ∀ {ordered : List SafetensorDescriptor} {start : Nat},
      view ∈ ordered.zip ((prefixSums start (ordered.map SafetensorDescriptor.length)).take
          ordered.length) ↔
        ∃ before after, ordered = before ++ view.1 :: after ∧ view.2 = start + bytes before := by
  intro ordered
  induction ordered with
  | nil => simp
  | cons first ordered induction =>
    intro start
    rw [map_cons, prefixSums, length_cons, take_succ_cons, zip_cons_cons, mem_cons, induction]
    simp only [cons_eq_append_iff, bytes]
    constructor
    · rintro (rfl | ⟨before, after, split, offset⟩)
      · exact ⟨[], ordered, .inl ⟨rfl, rfl⟩, rfl⟩
      · exact ⟨first :: before, after, .inr ⟨before, rfl, split⟩, by simp [offset, Nat.add_assoc]⟩
    · rintro ⟨_, after, ⟨rfl, split⟩ | ⟨before, rfl, split⟩, offset⟩
      · exact .inl (Prod.ext (cons.inj split).1 offset)
      · exact .inr ⟨before, after, split, by simpa [Nat.add_assoc] using offset⟩

theorem storageViews_aligned {physicalOrder : Bool} :
    Aligned elementSize (batch.zip (storageViews physicalOrder batch)) ↔
      Filled elementSize (laidOut physicalOrder batch) := by
  have perm := (alongFile_perm batch physicalOrder (fun ordered =>
      (prefixSums 0 (ordered.map SafetensorDescriptor.length)).take ordered.length)
    (by simp [prefixSums_length, (laidOut_perm physicalOrder batch).length_eq])).2
  simp only [Aligned, Filled, storageViews, perm.mem_iff, mem_zip_prefixSums, Nat.zero_add]
  constructor
  · exact fun aligned before descriptor after split =>
      aligned (descriptor, _) ⟨before, after, split, rfl⟩
  · rintro filled view ⟨before, after, split, offset⟩
    exact offset ▸ filled before view.1 after split

/-! ### Batches are runs within the limit -/

variable {names : List String} {all front run back rest : List SafetensorDescriptor}
  {first : SafetensorDescriptor}

theorem cut_succ {start index : Nat} (found : all.drop index = first :: rest)
    (ordered : start ≤ index) :
    cut all (start, index + 1) = cut all (start, index) ++ [first] := by
  have here : (all.drop start)[index - start]? = some first := by
    rw [getElem?_drop, Nat.add_sub_cancel' ordered, ← Nat.add_zero index, ← getElem?_drop, found]
    rfl
  rw [cut, cut, Nat.succ_sub ordered, take_add_one, here]
  rfl

/-- A batch holds one tensor, or stays within the limit. -/
def Fits (maxBytes : Nat) (run : List SafetensorDescriptor) : Prop :=
  run.length ≤ 1 ∨ bytes run ≤ maxBytes

theorem batchesFrom_fits :
    ∀ {start index : Nat}, start ≤ index → all.drop index = rest →
      Fits maxBytes (cut all (start, index)) →
      ∀ range ∈ batchesFrom maxBytes names index start (bytes (cut all (start, index))) rest,
        Fits maxBytes (cut all range) := by
  induction rest with
  | nil =>
    intro start index _ _ fits range member
    rw [batchesFrom] at member
    split at member
    · rwa [mem_singleton.mp member]
    · cases member
  | cons descriptor rest induction =>
    intro start index ordered found fits range member
    have next : all.drop (index + 1) = rest := by
      rw [← drop_drop, found]
      rfl
    have empty : ∀ place, cut all (place, place) = [] := by simp [cut]
    have single := cut_succ found le_rfl
    rw [empty, nil_append] at single
    have alone : Fits maxBytes (cut all (index, index + 1)) := .inl (by rw [single]; rfl)
    rw [batchesFrom] at member
    split at member
    · -- a tensor which is handed on is a batch of its own
      rcases mem_append.mp member with here | there
      · split at here
        · rwa [mem_singleton.mp here]
        · cases here
      · rcases mem_cons.mp there with rfl | there
        · exact alone
        · exact induction le_rfl next (.inl (by simp [empty])) range (by rwa [empty])
    · split at member
      · rcases mem_cons.mp member with rfl | there
        · exact fits
        · exact induction (Nat.le_succ _) next alone range (by rwa [single, bytes, map_singleton,
            sum_singleton])
      · have grown := cut_succ found ordered
        have total : bytes (cut all (start, index + 1)) =
            bytes (cut all (start, index)) + descriptor.length := by
          rw [grown, bytes_append]
          simp [bytes]
        refine induction (Nat.le_add_right_of_le ordered) next ?_ range (by rwa [total])
        rcases ordered.eq_or_lt with rfl | inside
        · exact alone
        · exact .inr (by omega)

theorem batchesFrom_skip {range : Nat × Nat} {index : Nat}
    (handed : ∀ descriptor ∈ front, descriptor.name ∈ names) (member : range ∈
      batchesFrom maxBytes names (index + front.length) (index + front.length) 0 rest) :
    range ∈ batchesFrom maxBytes names index index 0 (front ++ rest) := by
  induction front generalizing index with
  | nil => exact member
  | cons first front induction =>
    rw [forall_mem_cons] at handed
    rw [cons_append, batchesFrom, if_pos handed.1]
    refine mem_append_right _ (mem_cons_of_mem _ (induction handed.2 ?_))
    rwa [length_cons, Nat.add_comm front.length, ← Nat.add_assoc] at member

theorem batchesFrom_run {start index batchBytes : Nat}
    (free : ∀ descriptor ∈ run, descriptor.name ∉ names)
    (inside : batchBytes + bytes run ≤ maxBytes) :
    batchesFrom maxBytes names index start batchBytes (run ++ back) =
      batchesFrom maxBytes names (index + run.length) start (batchBytes + bytes run) back := by
  induction run generalizing index batchBytes with
  | nil => rfl
  | cons first run induction =>
    rw [forall_mem_cons] at free
    have total : bytes (first :: run) = first.length + bytes run := by simp [bytes]
    rw [total, ← Nat.add_assoc] at inside ⊢
    rw [cons_append, batchesFrom, if_neg free.1, if_neg (by omega), induction free.2 inside,
      length_cons, Nat.add_right_comm, Nat.add_assoc index]

/-- With the tensors around it handed on, a run within the limit is a batch. -/
theorem run_mem_batches (nonempty : run ≠ []) (inside : bytes run ≤ maxBytes)
    (distinct : ((front ++ run ++ back).map SafetensorDescriptor.name).Nodup) :
    (front.length, front.length + run.length) ∈ descriptorBatches (front ++ run ++ back) maxBytes
      ((front ++ back).map SafetensorDescriptor.name) := by
  rw [map_append, map_append, nodup_append', nodup_append'] at distinct
  rcases distinct with ⟨⟨_, _, before⟩, _, after⟩
  have free : ∀ descriptor ∈ run,
      descriptor.name ∉ (front ++ back).map SafetensorDescriptor.name := by
    intro descriptor member listed
    have named := mem_map_of_mem (f := SafetensorDescriptor.name) member
    rcases mem_append.mp (map_append ▸ listed) with inFront | inBack
    · exact before inFront named
    · exact after (mem_append_right _ named) inBack
  have positive := length_pos_iff.mpr nonempty
  rw [descriptorBatches, append_assoc]
  refine batchesFrom_skip (fun descriptor member =>
    mem_map_of_mem (mem_append_left _ member)) ?_
  rw [Nat.zero_add, batchesFrom_run free (by omega)]
  cases back with
  | nil =>
    rw [batchesFrom, if_pos (by omega)]
    exact mem_singleton_self _
  | cons descriptor back =>
    rw [batchesFrom, if_pos (mem_map_of_mem (by simp)), if_pos (by omega)]
    exact mem_cons_self

/-! ### Alignment -/

theorem pair_split {α : Type} {left right : α} {items : List α} (pair : [left, right] <+ items) :
    ∃ between, left :: (between ++ [right]) <:+: items := by
  rcases cons_sublist_iff.mp pair with ⟨front, back, rfl, inFront, inBack⟩
  rcases append_of_mem inFront with ⟨before, middle, rfl⟩
  rcases append_of_mem (singleton_sublist.mp inBack) with ⟨following, after, rfl⟩
  exact ⟨middle ++ following, before, after, by simp⟩

theorem laidOut_cons : laidOut true (first :: run) =
      (laidOut true run).takeWhile (¬first.fileOffset ≤ ·.fileOffset) ++
        first :: (laidOut true run).dropWhile (¬first.fileOffset ≤ ·.fileOffset) :=
  orderedInsert_eq_take_drop _ _ _

/-- A tensor is laid out before another one if it stands before it in the list, or if it
comes earlier in the file. -/
theorem laidOut_pairwise {relation : SafetensorDescriptor → SafetensorDescriptor → Prop}
    (physicalOrder : Bool) (related : run.Pairwise fun left right =>
      relation left right ∧ (right.fileOffset < left.fileOffset → relation right left)) :
    (laidOut physicalOrder run).Pairwise relation := by
  cases physicalOrder with
  | false => exact related.imp And.left
  | true =>
    induction run with
    | nil => exact .nil
    | cons first run induction =>
      rcases pairwise_cons.mp related with ⟨ahead, rest⟩
      have sorted := induction rest
      have kept : ∀ {item}, item ∈ laidOut true run → item ∈ run :=
        (laidOut_perm true run).mem_iff.mp
      rw [← takeWhile_append_dropWhile (p := (¬first.fileOffset ≤ ·.fileOffset))
        (l := laidOut true run), pairwise_append] at sorted
      rw [laidOut_cons, pairwise_append, pairwise_cons]
      refine ⟨sorted.1, ⟨fun item member => ?_, sorted.2.1⟩, fun item member =>
        forall_mem_cons.mpr ⟨?_, sorted.2.2 item member⟩⟩
      · exact (ahead item (kept ((dropWhile_suffix _).subset member))).1
      · apply (ahead item (kept ((takeWhile_sublist _).subset member))).2
        simpa using mem_takeWhile_imp member

theorem takeWhile_laidOut {bound : Nat} :
    (laidOut true run).takeWhile (¬bound ≤ ·.fileOffset) =
      (laidOut true run).filter (¬bound ≤ ·.fileOffset) := by
  have sorted := sortedOn_pairwise SafetensorDescriptor.fileOffset run
  change (laidOut true run).Pairwise _ at sorted
  generalize laidOut true run = ordered at sorted ⊢
  induction sorted with
  | nil => rfl
  | @cons first rest ahead _ induction =>
    by_cases reached : bound ≤ first.fileOffset
    · have none : rest.filter (¬bound ≤ ·.fileOffset) = [] :=
        filter_eq_nil_iff.mpr fun item member => by simp [reached.trans (ahead item member)]
      rw [takeWhile_cons_of_neg (by simpa), filter_cons_of_neg (by simpa), none]
    · rw [takeWhile_cons_of_pos (by simpa using reached),
        filter_cons_of_pos (by simpa using reached), induction]

/-- What lies before the first tensor of a run in the order of the file. -/
theorem filled_first (filled : Filled elementSize (laidOut true (first :: rest))) :
    Fills elementSize first (bytes (rest.filter (¬first.fileOffset ≤ ·.fileOffset))) := by
  have before := filled _ _ _ laidOut_cons
  rw [takeWhile_laidOut] at before
  rwa [bytes, ← (((laidOut_perm true rest).filter _).map _).sum_eq]

/-- Taking a tensor from either end of a run shows what it contributes to the offset of the
tensor at the other end. -/
theorem wholeElements_of_filled
    (filled : ∀ run, run <:+: all → run ≠ [] → bytes run ≤ maxBytes →
      ∀ physicalOrder, Filled elementSize (laidOut physicalOrder run)) :
    WholeElements elementSize maxBytes all := by
  intro first between last listed inside
  have whole := filled _ listed (by simp) inside
  constructor
  · have shorter := filled (between ++ [last]) ((suffix_cons _ _).isInfix.trans listed) (by simp)
      (by rw [bytes_append]; simp [bytes] at inside ⊢; omega) false
    refine .of_add ?_ (shorter between last [] rfl)
    have reached := whole false (first :: between) last [] rfl
    rwa [bytes, map_cons, sum_cons] at reached
  · intro earlier
    have shorter := filled (first :: between)
      ((prefix_append (first :: between) [last]).isInfix.trans listed) (by simp)
      (by simp [bytes] at inside ⊢; omega) true
    have reached := filled_first (whole true)
    rw [filter_append, bytes_append, filter_cons_of_pos (by simpa using earlier), filter_nil,
      Nat.add_comm] at reached
    simpa [bytes] using reached.of_add (filled_first shorter)

/-- The views of all batches are aligned, whichever tensors are handed on, exactly if tensors
which the limit admits to one batch fill whole elements of each other. -/
theorem batches_aligned_iff (elementSize : String → Option Nat) (maxBytes : Nat)
    (all : List SafetensorDescriptor) (distinct : (all.map SafetensorDescriptor.name).Nodup) :
    (∀ fileNames physicalOrder, ∀ range ∈ descriptorBatches all maxBytes fileNames,
      Aligned elementSize ((cut all range).zip (storageViews physicalOrder (cut all range)))) ↔
      WholeElements elementSize maxBytes all := by
  simp only [storageViews_aligned]
  constructor
  · intro filled
    apply wholeElements_of_filled
    rintro run ⟨front, back, rfl⟩ nonempty inside physicalOrder
    have batch := filled _ physicalOrder _ (run_mem_batches nonempty inside distinct)
    simpa [cut] using batch
  · intro whole fileNames physicalOrder range member
    have fits : Fits maxBytes (cut all range) :=
      batchesFrom_fits le_rfl drop_zero (.inl (Nat.zero_le _)) range member
    have listed : cut all range <:+: all :=
      .trans (IsPrefix.isInfix <| take_prefix _ _) (drop_suffix _ _).isInfix
    have filling : (laidOut physicalOrder (cut all range)).Pairwise fun earlier later =>
        Fills elementSize later earlier.length := by
      apply laidOut_pairwise
      rw [pairwise_iff_forall_sublist]
      intro first last pair
      rcases pair_split pair with ⟨between, front, back, split⟩
      refine whole first between last (.trans ⟨front, back, split⟩ listed) ?_
      rw [← split] at fits
      simp only [Fits, length_append, length_cons, bytes_append] at fits
      omega
    intro before descriptor after split size known
    rw [split] at filling
    exact List.dvd_sum (forall_mem_map.mpr fun item earlier =>
      (pairwise_append.mp filling).2.2 item earlier descriptor mem_cons_self size known)

def mixedFile : CheckpointFile :=
  { expertFile with
    size := 105
    header := .ok (100, [
      ("scale", .obj [("dtype", .str "U8"), ("shape", .arr [.int 1]),
        ("data_offsets", .arr [.int 0, .int 1])]),
      ("weight", .obj [("dtype", .str "F32"), ("shape", .arr [.int 1]),
        ("data_offsets", .arr [.int 1, .int 5])])]) }

def floatsFirstFile : CheckpointFile :=
  { mixedFile with
    header := .ok (100, [
      ("scale", .obj [("dtype", .str "U8"), ("shape", .arr [.int 1]),
        ("data_offsets", .arr [.int 4, .int 5])]),
      ("weight", .obj [("dtype", .str "F32"), ("shape", .arr [.int 1]),
        ("data_offsets", .arr [.int 0, .int 4])])]) }

def floatsFirst : List SafetensorDescriptor :=
  [⟨"weight", "F32", [1], 100, 4⟩, ⟨"scale", "U8", [1], 104, 1⟩]

def floatSize (dtypeName : String) : Option Nat := if dtypeName = "F32" then some 4 else some 1

/-- A float before a byte. -/
theorem floats_first_aligned :
    @descriptors .decimal floatsFirstFile none none = .ok floatsFirst ∧
      descriptorBatches floatsFirst 268435456 [] = [(0, 2)] ∧
      ∀ fileNames physicalOrder, ∀ range ∈ descriptorBatches floatsFirst 268435456 fileNames,
        Aligned floatSize ((cut floatsFirst range).zip
          (storageViews physicalOrder (cut floatsFirst range))) := by
  have accepted : @descriptors .decimal floatsFirstFile none none = .ok floatsFirst := by
    decide +kernel
  have whole : WholeElements floatSize 268435456 floatsFirst := by
    intro first between last listed _
    have short := listed.length_le
    cases between with
    | nil =>
      cases listed.eq_of_length rfl
      refine ⟨?_, fun earlier => absurd earlier (by decide)⟩
      rintro _ ⟨⟩
      decide
    | cons middle between =>
      simp [floatsFirst] at short
  exact ⟨accepted, by decide,
    (batches_aligned_iff floatSize 268435456 floatsFirst (by decide)).mpr whole⟩

/-- A byte before a float. -/
theorem mixed_unaligned :
    @descriptors .decimal mixedFile none none = .ok mixed ∧
      descriptorBatches mixed 268435456 [] = [(0, 2)] ∧
      ¬Aligned floatSize (mixed.zip (storageViews true mixed)) := by
  refine ⟨by decide +kernel, by decide, fun aligned => ?_⟩
  have divides := aligned (⟨"weight", "F32", [1], 101, 4⟩, 1) (by decide) 4 rfl
  omega

end Coldsnap.Recovery
