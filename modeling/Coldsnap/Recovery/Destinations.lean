import Coldsnap.Foundation.Python

/-! # Finding the destination of a copy

`matching_destinations` of `_observe_direct_weight_transfers`: the tracked tensors in whose bytes
a written range lies.
-/

namespace Coldsnap.Recovery.Destinations

open Python List

/-- A tensor at one moment. Its span is that of `_view_span_bytes`. -/
structure Tensor where
  isCuda : Bool
  isMeta : Bool
  isContiguous : Bool
  numel : Nat
  elementSize : Nat
  dataPtr : Int
  span : Int
  device : String

def Tensor.bytes (tensor : Tensor) : Int := tensor.numel * tensor.elementSize

variable {τ : Type}

structure Interval (τ : Type) where
  start : Int
  stop : Int
  name : String
  tensor : τ

def Interval.key (interval : Interval τ) : Int ×ₗ Int ×ₗ String :=
  toLex (interval.start, toLex (interval.stop, interval.name))

/-- The intervals of the destinations, as the tensors are at first. -/
def intervals (first : τ → Tensor) (destinations : List (String × τ)) : List (Interval τ) :=
  destinations.filterMap fun (name, tensor) =>
    if !(first tensor).isCuda || (first tensor).isMeta || !(first tensor).isContiguous ||
        (first tensor).numel = 0 then none
    else some ⟨(first tensor).dataPtr, (first tensor).dataPtr + (first tensor).bytes, name, tensor⟩

/-- The intervals beside `max_ends`. -/
def reaches : (longest : Option Int) → List (Interval τ) → List (Int × Interval τ)
  | _, [] => []
  | longest, interval :: rest =>
    let reach := max interval.stop (longest.getD interval.stop)
    (reach, interval) :: reaches (some reach) rest

/-- The tensor is still where it was, and its bytes contain the range of the target. -/
def contains (now : τ → Tensor) (target : Tensor) (interval : Interval τ) : Bool :=
  interval.start ≤ target.dataPtr && target.dataPtr < target.dataPtr + target.span &&
    target.dataPtr + target.span ≤ interval.stop &&
    (now interval.tensor).device = target.device &&
    (now interval.tensor).dataPtr = interval.start &&
    (now interval.tensor).bytes = interval.stop - interval.start

def matchingDestinations (first now : τ → Tensor) (destinations : List (String × τ))
    (target : Tensor) : List (String × τ) :=
  if target.isMeta || target.numel = 0 then []
  else
    let sorted := sortedOn Interval.key (intervals first destinations)
    -- What `bisect_right` leaves, and the loop from there to the front.
    let before := (reaches none sorted).takeWhile (·.2.start ≤ target.dataPtr)
    ((before.reverse.takeWhile (target.dataPtr < ·.1)).filter (contains now target ·.2)).map
      fun row => (row.2.name, row.2.tensor)

def linearScan (first now : τ → Tensor) (destinations : List (String × τ)) (target : Tensor) :
    List (String × τ) :=
  if target.isMeta || target.numel = 0 then []
  else ((intervals first destinations).filter (contains now target)).map fun interval =>
    (interval.name, interval.tensor)

theorem map_reaches : ∀ (known : List (Interval τ)) (longest : Option Int),
    (reaches longest known).map Prod.snd = known
  | [], _ => rfl
  | interval :: rest, _ => congrArg (interval :: ·) (map_reaches rest _)

theorem reaches_bound (known : List (Interval τ)) : ∀ {longest : Option Int},
    (reaches longest known).Pairwise (fun left right => left.1 ≤ right.1) ∧
      ∀ row ∈ reaches longest known, row.2.stop ≤ row.1 ∧ ∀ stop ∈ longest, stop ≤ row.1 := by
  induction known with
  | nil => exact ⟨.nil, nofun⟩
  | cons interval rest induction =>
    intro longest
    rcases @induction (some (max interval.stop (longest.getD interval.stop))) with ⟨ordered, bound⟩
    refine ⟨.cons (fun row member => (bound row member).2 _ rfl) ordered, ?_⟩
    have here : ∀ stop ∈ longest, stop ≤ max interval.stop (longest.getD interval.stop) := by
      rintro stop rfl
      exact le_max_right _ _
    rw [reaches, forall_mem_cons]
    exact ⟨⟨le_max_left _ _, here⟩, fun row member => ⟨(bound row member).1,
      fun stop known => (here stop known).trans ((bound row member).2 _ rfl)⟩⟩

/-- Nothing is lost behind the first item which fails a test, if all later ones fail it too and
everything wanted passes it. -/
theorem filter_takeWhile {α : Type} {items : List α} {test wanted : α → Bool}
    (closed : items.Pairwise fun left right => test right = true → test left = true)
    (passes : ∀ item ∈ items, wanted item = true → test item = true) :
    (items.takeWhile test).filter wanted = items.filter wanted := by
  induction items with
  | nil => rfl
  | cons item items induction =>
    rw [pairwise_cons] at closed
    rw [forall_mem_cons] at passes
    by_cases held : test item = true
    · rw [takeWhile_cons_of_pos held, filter_cons, filter_cons, induction closed.2 passes.2]
    · rw [takeWhile_cons_of_neg held, filter_nil, eq_comm, filter_eq_nil_iff, forall_mem_cons]
      exact ⟨fun found => held (passes.1 found),
        fun other member found => held (closed.1 other member (passes.2 other member found))⟩

/-- The search finds what a scan of all tracked destinations finds. -/
theorem matchingDestinations_perm (first now : τ → Tensor) (destinations : List (String × τ))
    (target : Tensor) :
    matchingDestinations first now destinations target ~
      linearScan first now destinations target := by
  unfold matchingDestinations linearScan
  split
  · rfl
  · have starts := sortedOn_pairwise Interval.key (intervals first destinations)
    have perm := sortedOn_perm Interval.key (intervals first destinations)
    generalize sortedOn Interval.key (intervals first destinations) = sorted at starts perm ⊢
    rcases @reaches_bound _ sorted none with ⟨ordered, bound⟩
    rw [← map_reaches sorted none, pairwise_map] at starts
    have around : ∀ row ∈ reaches none sorted, contains now target row.2 = true →
        row.2.start ≤ target.dataPtr ∧ target.dataPtr < row.1 := by
      intro row member found
      have reached := (bound row member).1
      simp only [contains, Bool.and_eq_true, decide_eq_true_eq] at found
      omega
    dsimp only
    rw [filter_takeWhile, filter_reverse, filter_takeWhile]
    · have scanned := (perm.filter (contains now target)).map fun interval =>
        (interval.name, interval.tensor)
      rw [← map_reaches sorted none, filter_map, map_map] at scanned
      exact ((reverse_perm _).map _).trans scanned
    · refine starts.imp fun less later => ?_
      have start := Prod.Lex.monotone_fst _ _ less
      exact decide_eq_true (start.trans (of_decide_eq_true later))
    · exact fun row member found => decide_eq_true (around row member found).1
    · rw [pairwise_reverse]
      refine (ordered.sublist (takeWhile_sublist _)).imp fun less earlier => ?_
      exact decide_eq_true ((of_decide_eq_true earlier).trans_le less)
    · intro row member found
      have passed := (takeWhile_sublist _).subset (mem_reverse.mp member)
      exact decide_eq_true (around row passed found).2

end Coldsnap.Recovery.Destinations
