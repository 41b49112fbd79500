import Coldsnap.Coordinator.Client
import Coldsnap.Coordinator.Sequential
import Coldsnap.Foundation.Unwinding

/-! # Scopes

Two endpoints share one coordinator. Their operations cannot be noticed by each
other exactly if neither scope continues the other one behind a slash: the key a
caller passes may itself hold slashes.
-/

namespace Coldsnap.Coordinator

open Unwinding List Function

/-- An operation reads and writes one key only. -/
theorem execute_frame {maxValue : Nat} {store : Store} {request : Request} {key : Bytes}
    (other : key ≠ request.key) : (execute maxValue store request).store key = store key := by
  have changed : ∀ {value answer}, (Effect.change store request.key value answer).store key =
      store key := by
    exact update_of_ne other _ _
  have happened := executed maxValue store request
  generalize execute maxValue store request = effect at happened ⊢
  cases happened with
  | refused _ => rfl
  | healthy _ => rfl
  | found _ _ => rfl
  | absent _ _ _ _ => rfl
  | set _ => exact changed
  | delete _ => exact changed
  | add _ _ _ _ => exact changed
  | append _ _ => exact changed

section Agreeing

variable {left right : Store} {request : Request}

/-- Two effects answer alike, and their stores agree where they agreed before. -/
def Alike (left right : Store) (first second : Effect) : Prop :=
  first.response = second.response ∧
    ∀ key, left key = right key → first.store key = second.store key

theorem Alike.answer (status : Status) (value : Bytes) :
    Alike left right (.answer left status value) (.answer right status value) :=
  ⟨rfl, fun _ => id⟩

theorem Alike.change (key : Bytes) (value : Option Bytes) (answer : Bytes) :
    Alike left right (.change left key value answer) (.change right key value answer) := by
  refine ⟨rfl, ?_⟩
  intro other same
  by_cases equal : other = key
  · simp [Effect.change, equal]
  · simp [Effect.change, update_of_ne equal, same]

theorem executeAdd_alike (same : left request.key = right request.key) :
    Alike left right (executeAdd left request) (executeAdd right request) := by
  have current : left.current request.key = right.current request.key := by
    simp [Store.current, same]
  simp only [executeAdd, current]
  split
  · exact .answer _ _
  · split
    · exact .answer _ _
    · split
      · exact .answer _ _
      · exact .change _ _ _

/-- What an operation does depends on the value under its key alone. -/
theorem execute_alike (maxValue : Nat) (same : left request.key = right request.key) :
    Alike left right (execute maxValue left request) (execute maxValue right request) := by
  simp only [execute, same]
  cases request.operation with
  | health => exact .answer _ _
  | other code => exact .answer _ _
  | set =>
    simp only
    split
    · exact .answer _ _
    · exact .change _ _ _
  | delete =>
    simp only
    split
    · exact .answer _ _
    · exact .change _ _ _
  | add =>
    simp only
    split
    · exact .answer _ _
    · exact executeAdd_alike same
  | append =>
    simp only
    split
    · exact .answer _ _
    · split
      · exact .answer _ _
      · exact .change _ _ _
  | get =>
    simp only
    split
    · exact .answer _ _
    · split
      · exact .answer _ _
      · split
        · exact .answer _ _
        · exact ⟨rfl, fun _ => id⟩

end Agreeing

abbrev Turn := Bool × ClientCall

def Turn.endpoint (left right : Endpoint) (turn : Turn) : Endpoint :=
  if turn.1 then left else right

def contend (maxValue : Nat) (left right : Endpoint) (store : Store) (turn : Turn) :
    Option Response × Store :=
  apply maxValue store ((turn.endpoint left right).request turn.2)

/-- What `left` hears is what it would hear if `right` did nothing. -/
def Unnoticed (maxValue : Nat) (left right : Endpoint) : Prop :=
  ∀ history : List Turn,
    observed (contend maxValue left right) Prod.fst Store.empty history =
      observed (contend maxValue left right) Prod.fst Store.empty (history.filter Prod.fst)

def Isolated (maxValue : Nat) (left right : Endpoint) : Prop :=
  Unnoticed maxValue left right ∧ Unnoticed maxValue right left

def KeysApart (left right : Bytes) : Prop :=
  ∀ leftKey rightKey, scopedKey left leftKey ≠ scopedKey right rightKey

theorem KeysApart.symm {left right : Bytes} (apart : KeysApart left right) : KeysApart right left :=
  fun rightKey leftKey equal => apart leftKey rightKey equal.symm

/-- A call names a key of its scope, or none and then it reads and writes nothing. -/
theorem request_key (endpoint : Endpoint) (call : ClientCall) :
    (∃ key, (endpoint.request call).key = scopedKey endpoint.scope key) ∨ call = .health := by
  cases call with
  | health => exact .inr rfl
  | set key value => exact .inl ⟨key, rfl⟩
  | get key wait => exact .inl ⟨key, rfl⟩
  | delete key => exact .inl ⟨key, rfl⟩
  | add key delta => exact .inl ⟨key, rfl⟩
  | append key value => exact .inl ⟨key, rfl⟩

def inScope (scope : Bytes) (store : Store) : Bytes → Option Bytes :=
  fun key => store (scopedKey scope key)

variable {left right : Endpoint} (maxValue : Nat)

theorem contend_unwinds (apart : KeysApart left.scope right.scope) :
    Unwinds (contend maxValue left right) Prod.fst (inScope left.scope) where
  silent store turn others := by
    funext key
    have side : turn.endpoint left right = right := by simp [Turn.endpoint, others]
    rw [contend, side]
    rcases request_key right turn.2 with ⟨named, equal⟩ | health
    · apply execute_frame
      rw [equal]
      exact apart key named
    · rw [health]
      rfl
  consistent := by
    intro store other turn own same
    have side : turn.endpoint left right = left := by simp [Turn.endpoint, own]
    simp only [contend, side]
    rcases request_key left turn.2 with ⟨named, equal⟩ | health
    · have agrees : store (left.request turn.2).key = other (left.request turn.2).key := by
        rw [equal]
        exact congrFun same named
      rcases execute_alike maxValue agrees with ⟨answers, stores⟩
      exact ⟨answers, funext fun key => stores _ (congrFun same key)⟩
    · rw [health]
      exact ⟨rfl, same⟩

theorem unnoticed_of_apart (apart : KeysApart left.scope right.scope) :
    Unnoticed maxValue left right :=
  fun history => (contend_unwinds maxValue apart).observed_alone history rfl

/-- A value set under a common key is found by the other endpoint. -/
theorem noticed_of_common {leftKey rightKey : Bytes}
    (common : scopedKey left.scope leftKey = scopedKey right.scope rightKey) :
    ¬Unnoticed maxValue left right := by
  intro unnoticed
  have nonempty : scopedKey right.scope rightKey ≠ [] := by
    simp [scopedKey, ascii]
  have alone := unnoticed [(false, .set rightKey []), (true, .get leftKey 0)]
  simp [observed, contend, Turn.endpoint, apply, Endpoint.request, ClientCall.requestWith, execute,
    Effect.change, Effect.answer, common, nonempty, Store.empty] at alone

def Continues (left right : Bytes) : Prop := left ++ ascii "/" <+: right

instance (left right : Bytes) : Decidable (Continues left right) :=
  inferInstanceAs (Decidable (_ <+: _))

/-- Of two scopes with a common full key, the shorter one is continued by the other. -/
theorem continues_of_common {left right leftKey rightKey : Bytes} (different : left ≠ right)
    (shorter : left.length ≤ right.length)
    (common : scopedKey left leftKey = scopedKey right rightKey) : Continues left right := by
  have reaches : left.length < right.length := by
    apply Nat.lt_of_le_of_ne shorter
    intro lengths
    rw [scopedKey, scopedKey, append_assoc, append_assoc] at common
    exact different (append_inj common lengths).1
  have first : left ++ ascii "/" <+: scopedKey right rightKey := by
    rw [← common]
    exact prefix_append _ _
  have second : right <+: scopedKey right rightKey := by
    rw [scopedKey, append_assoc]
    exact prefix_append _ _
  apply prefix_of_prefix_length_le first second
  simp only [length_append, ascii]
  exact reaches

variable {left right : Bytes}

theorem common_of_continues (continues : Continues left right) : ¬KeysApart left right := by
  intro apart
  rcases continues with ⟨rest, whole⟩
  apply apart (rest ++ ascii "/") []
  simp [scopedKey, ← whole]

/-- Different scopes have no common key exactly if neither continues the other. -/
theorem keysApart_iff (different : left ≠ right) :
    KeysApart left right ↔ ¬Continues left right ∧ ¬Continues right left := by
  constructor
  · intro apart
    exact ⟨fun continues => common_of_continues continues apart,
      fun continues => common_of_continues continues apart.symm⟩
  · intro ⟨leftEnds, rightEnds⟩ leftKey rightKey common
    rcases Nat.le_total left.length right.length with shorter | shorter
    · exact leftEnds (continues_of_common different shorter common)
    · exact rightEnds (continues_of_common different.symm shorter common.symm)

/-- Endpoints with different scopes do not notice each other, and their full keys never
coincide, exactly if neither scope continues the other behind a slash. -/
theorem isolated_iff (maxValue : Nat) (left right : Endpoint)
    (different : left.scope ≠ right.scope) :
    (Isolated maxValue left right ↔
      ¬Continues left.scope right.scope ∧ ¬Continues right.scope left.scope) ∧
    (KeysApart left.scope right.scope ↔
      ¬Continues left.scope right.scope ∧ ¬Continues right.scope left.scope) := by
  have isolated : Isolated maxValue left right ↔ KeysApart left.scope right.scope := by
    constructor
    · intro isolated leftKey rightKey common
      exact noticed_of_common maxValue common isolated.1
    · intro apart
      exact ⟨unnoticed_of_apart maxValue apart, unnoticed_of_apart maxValue apart.symm⟩
  rw [isolated]
  exact ⟨keysApart_iff different, keysApart_iff different⟩

def outerEndpoint : Endpoint := ⟨ascii "127.0.0.1:7000", ascii "a", ascii "secret"⟩
def innerEndpoint : Endpoint := ⟨ascii "127.0.0.1:7000", ascii "a/b", ascii "secret"⟩
def cousinEndpoint : Endpoint := ⟨ascii "127.0.0.1:7000", ascii "ab", ascii "secret"⟩

theorem isolated_cousin : outerEndpoint.Valid ∧ cousinEndpoint.Valid ∧
    Isolated 64 outerEndpoint cousinEndpoint :=
  ⟨by decide, by decide,
    (isolated_iff 64 outerEndpoint cousinEndpoint (by decide)).1.mpr (by decide)⟩

/-- Key `x` under scope `a/b` is key `b/x` under scope `a`. -/
theorem outer_notices_inner : outerEndpoint.Valid ∧ innerEndpoint.Valid ∧
    outerEndpoint.scope ≠ innerEndpoint.scope ∧
    scopedKey outerEndpoint.scope (ascii "b/x") = scopedKey innerEndpoint.scope (ascii "x") ∧
    observed (contend 64 outerEndpoint innerEndpoint) Prod.fst Store.empty
      [(false, .set (ascii "x") (ascii "v")), (true, .get (ascii "b/x") 0)] =
        [some ⟨.ok, ascii "v"⟩] ∧
    observed (contend 64 outerEndpoint innerEndpoint) Prod.fst Store.empty
      [(true, .get (ascii "b/x") 0)] = [some ⟨.notFound, []⟩] ∧
    ¬Isolated 64 outerEndpoint innerEndpoint := by
  have common : scopedKey outerEndpoint.scope (ascii "b/x") =
      scopedKey innerEndpoint.scope (ascii "x") := by decide
  exact ⟨by decide, by decide, by decide, common, by decide, by decide,
    fun isolated => noticed_of_common 64 common isolated.1⟩

end Coldsnap.Coordinator
