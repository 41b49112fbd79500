import Mathlib.Data.List.Basic

/-! # Streams in pieces

A connection hands a stream over in pieces: every read returns at most what is left
of the next piece, every write may take a part only. Loops around single reads and
writes make up for it.
-/

namespace Coldsnap.Streams

open List

variable {β : Type}

def readFull : (count : Nat) → List (List β) → Option (List β × List (List β))
  | count, [] => if count = 0 then some ([], []) else none
  | count, piece :: pieces =>
    if count = 0 then some ([], piece :: pieces)
    else if piece.length ≤ count then
      (readFull (count - piece.length) pieces).map fun rest => (piece ++ rest.1, rest.2)
    else some (piece.take count, piece.drop count :: pieces)

variable {pieces : List (List β)}

/-- However the stream is cut, a read succeeds if there is enough. -/
theorem readFull_none : ∀ {count : Nat},
    readFull count pieces = none ↔ pieces.flatten.length < count := by
  induction pieces with
  | nil =>
    intro count
    simp only [readFull, flatten_nil, length_nil]
    split
    · simp [*]
    · simp only [true_iff]
      omega
  | cons piece pieces induction =>
    intro count
    rw [readFull, flatten_cons, length_append]
    split
    · simp [*]
    · split
      · rw [Option.map_eq_none_iff, induction]
        omega
      · simp only [reduceCtorEq, false_iff]
        omega

/-- A read takes the front of the stream, and leaves what is behind it. -/
theorem readFull_some : ∀ {count : Nat} {taken : List β}
    {rest : List (List β)}, readFull count pieces = some (taken, rest) →
      taken = pieces.flatten.take count ∧ rest.flatten = pieces.flatten.drop count := by
  induction pieces with
  | nil =>
    intro count taken rest read
    rw [readFull] at read
    split at read
    · cases read
      simp
    · cases read
  | cons piece pieces induction =>
    intro count taken rest read
    rw [readFull] at read
    split at read
    · next zero =>
        cases read
        simp [zero]
    · split at read
      · next fits =>
          rcases Option.map_eq_some_iff.mp read with ⟨⟨later, others⟩, deeper, equal⟩
          cases equal
          rcases induction deeper with ⟨taken, left⟩
          rw [flatten_cons, take_append, drop_append, take_of_length_le fits,
            drop_of_length_le fits, taken, left]
          exact ⟨rfl, rfl⟩
      · next longer =>
          cases read
          have inside : count ≤ piece.length := by omega
          rw [flatten_cons, flatten_cons, take_append_of_le_length inside,
            drop_append_of_le_length inside]
          exact ⟨rfl, rfl⟩

theorem readFull_append {front behind : List β} (stream : pieces.flatten = front ++ behind) :
    ∃ rest, readFull front.length pieces = some (front, rest) ∧ rest.flatten = behind := by
  cases read : readFull front.length pieces with
  | none =>
    have short := readFull_none.mp read
    rw [stream, length_append] at short
    omega
  | some found =>
    rcases found with ⟨taken, rest⟩
    rcases readFull_some read with ⟨front', behind'⟩
    rw [stream, take_left] at front'
    rw [stream, drop_left] at behind'
    exact ⟨rest, by rw [front'], behind'⟩

/-- What was written, over how many calls, and whether all of it was. -/
structure Written (β : Type) where
  complete : Bool
  calls : Nat
  pieces : List (List β)

def writeFrom (accepts : Nat → Option Nat) : (rounds calls : Nat) → List β → Written β
  | _, calls, [] => ⟨true, calls, []⟩
  | 0, calls, _ :: _ => ⟨false, calls, []⟩
  | rounds + 1, calls, element :: elements =>
    match accepts calls with
    | none => ⟨false, calls + 1, []⟩
    | some 0 => ⟨false, calls + 1, []⟩
    | some (count + 1) =>
      let rest := writeFrom accepts rounds (calls + 1) ((element :: elements).drop (count + 1))
      ⟨rest.complete, rest.calls, (element :: elements).take (count + 1) :: rest.pieces⟩

def writeAll (accepts : Nat → Option Nat) (calls : Nat) (value : List β) : Written β :=
  writeFrom accepts value.length calls value

def Accepting (accepts : Nat → Option Nat) : Prop :=
  ∀ call, ∃ count, accepts call = some (count + 1)

variable {accepts : Nat → Option Nat}

theorem writeFrom_complete (accepting : Accepting accepts) :
    ∀ {rounds calls : Nat} {value : List β}, value.length ≤ rounds →
      (writeFrom accepts rounds calls value).complete = true ∧
        (writeFrom accepts rounds calls value).pieces.flatten = value := by
  intro rounds
  induction rounds with
  | zero =>
    intro calls value enough
    cases length_eq_zero_iff.mp (Nat.le_zero.mp enough)
    exact ⟨rfl, rfl⟩
  | succ rounds induction =>
    intro calls value enough
    cases value with
    | nil => exact ⟨rfl, rfl⟩
    | cons element elements =>
      rcases accepting calls with ⟨count, accepted⟩
      have shorter : ((element :: elements).drop (count + 1)).length ≤ rounds := by
        rw [length_drop]
        omega
      rcases @induction (calls + 1) _ shorter with ⟨complete, pieces⟩
      simp only [writeFrom, accepted]
      refine ⟨complete, ?_⟩
      rw [flatten_cons, pieces, take_append_drop]

theorem writeAll_complete (accepting : Accepting accepts) (calls : Nat) (value : List β) :
    (writeAll accepts calls value).complete = true ∧
      (writeAll accepts calls value).pieces.flatten = value :=
  writeFrom_complete accepting (Nat.le_refl _)

/-- One value after the other, as long as all goes well. -/
def writeEach (accepts : Nat → Option Nat) : (calls : Nat) → List (List β) → Written β
  | calls, [] => ⟨true, calls, []⟩
  | calls, value :: values =>
    let first := writeAll accepts calls value
    if first.complete then
      let rest := writeEach accepts first.calls values
      ⟨rest.complete, rest.calls, first.pieces ++ rest.pieces⟩
    else first

theorem writeEach_complete (accepting : Accepting accepts) (values : List (List β)) : ∀ calls,
      (writeEach accepts calls values).complete = true ∧
        (writeEach accepts calls values).pieces.flatten = values.flatten := by
  induction values with
  | nil => intro calls; exact ⟨rfl, rfl⟩
  | cons value values induction =>
    intro calls
    rcases writeAll_complete accepting calls value with ⟨complete, pieces⟩
    rcases induction (writeAll accepts calls value).calls with ⟨later, others⟩
    rw [writeEach, if_pos complete]
    refine ⟨later, ?_⟩
    rw [flatten_append, pieces, others, flatten_cons]

end Coldsnap.Streams
