import Coldsnap.Criu.Broker
import Coldsnap.Foundation.Holdings

/-! # What the broker hands over

The store is compared with the history of what was stored and delivered, and the open descriptors
with those who hold them.
-/

namespace Coldsnap.Criu.Broker

open Go Transitions List Function

variable {ι : Type}

/-! ## Histories -/

def outstanding : List (Entry ι) → Key → Option Nat
  | [], _ => none
  | .stored _ key descriptor :: older, other =>
    if other = key then some descriptor else outstanding older other
  | .delivered true key _ :: older, other => if other = key then none else outstanding older other
  | _ :: older, other => outstanding older other

def taken : List (Entry ι) → List Nat
  | [] => []
  | .delivered true _ descriptor :: older => descriptor :: taken older
  | _ :: older => taken older

/-- Objects are stored before the seal, and delivered from the store after it. Only those of the
kind `M` are replaced. -/
def Legal : List (Entry ι) → Prop
  | [] => True
  | .stored _ key _ :: older =>
    .sealed ∉ older ∧ (key.kind = .m ∨ outstanding older key = none) ∧ Legal older
  | .delivered _ key descriptor :: older =>
    .sealed ∈ older ∧ outstanding older key = some descriptor ∧ Legal older
  | .sealed :: older => Legal older

def Entry.removes (key : Key) : Entry ι → Bool
  | .stored _ other _ => other = key && key.kind = .m
  | .delivered take other _ => take && other = key
  | .sealed => false

variable {connection : ι} {key : Key} {descriptor : Nat}

theorem outstanding_of_stored {newer older : List (Entry ι)}
    (legal : Legal (newer ++ .stored connection key descriptor :: older))
    (kept : ∀ entry ∈ newer, entry.removes key = false) :
    outstanding (newer ++ .stored connection key descriptor :: older) key = some descriptor := by
  induction newer with
  | nil => exact if_pos rfl
  | cons entry newer induction =>
    have first := kept entry mem_cons_self
    have rest := (forall_mem_cons.mp kept).2
    cases entry with
    | stored other place found =>
      have before := induction legal.2.2 rest
      have apart : key ≠ place := by
        rintro rfl
        rcases legal.2.1 with replaced | absent
        · simp [Entry.removes, replaced] at first
        · cases absent.symm.trans before
      exact (if_neg apart).trans before
    | delivered take place found =>
      have before := induction legal.2.2 rest
      cases take with
      | false => exact before
      | true =>
        have apart : key ≠ place := by
          rintro rfl
          simp [Entry.removes] at first
        exact (if_neg apart).trans before
    | sealed => exact induction legal rest

/-! ## What a step does -/

def Phase.carried : Phase → Option Nat
  | .putting _ descriptor => some descriptor
  | _ => none

def Fulfils (log : List (Entry ι)) (connection : ι) (request : Result Request) : Phase → Prop
  | .putting key _ => request = .ok (.put key)
  | .fetching take key => request = .ok (.fetch take key)
  | .answering .ok | .returned (some .ok) =>
    ∀ key, request = .ok (.put key) → ∃ descriptor, .stored connection key descriptor ∈ log
  | _ => True

variable {phase : Phase}

theorem Fulfils.mono {log longer : List (Entry ι)} {request : Result Request} (grows : log ⊆ longer)
    (fulfils : Fulfils log connection request phase) : Fulfils longer connection request phase := by
  have stored : (∀ key, request = .ok (.put key) →
        ∃ descriptor, .stored connection key descriptor ∈ log) →
      ∀ key, request = .ok (.put key) → ∃ descriptor, .stored connection key descriptor ∈ longer :=
    fun found key asked => (found key asked).imp fun _ member => grows member
  rcases phase with _ | _ | _ | _ | _ | (_ | _ | _ | _) | (_ | _ | _ | _ | _) <;>
    first | exact fulfils | exact stored fulfils

variable [DecidableEq ι] {state next : State ι} {event : Event ι}

inductive Outcome (state : State ι) : State ι → Prop
  | moves {connection : ι} {phase : Phase}
      (empty : (state.connection connection).phase.carried = none) (still : phase.carried = none)
      (fulfils : ∀ log request, Fulfils log connection request
        (state.connection connection).phase → Fulfils log connection request phase) :
      Outcome state (state.enter connection phase)
  | arrives {connection : ι} (message : Message)
      (idle : (state.connection connection).phase = .idle) :
      Outcome state (state.arrive connection message)
  | refuses {connection : ι} {key : Key} {descriptor : Nat} (text : String)
      (putting : (state.connection connection).phase = .putting key descriptor) :
      Outcome state (state.refuse connection descriptor text)
  | stores {connection : ι} {key : Key} {descriptor : Nat}
      (putting : (state.connection connection).phase = .putting key descriptor)
      (unsealed : state.sealed = false) (room : state.files.length < fdBrokerMaxFiles)
      (free : key.kind = .m ∨ state.files.lookup key = none) :
      Outcome state (state.store connection key descriptor)
  | delivers {connection : ι} {take : Bool} {key : Key} {descriptor : Nat}
      (fetching : (state.connection connection).phase = .fetching take key)
      (sealed : state.sealed = true) (found : state.files.lookup key = some descriptor) :
      Outcome state (state.deliver connection take key descriptor)
  | seals {connection : ι} (sealing : (state.connection connection).phase = .sealing) :
      Outcome state ({ state with sealed := true, log := .sealed :: state.log }.enter connection
        (.answering (.count state.files.length)))

theorem put_outcome (putting : (state.connection connection).phase = .putting key descriptor) :
    Outcome state (state.put connection key descriptor) := by
  rw [State.put]
  split
  · exact .refuses _ putting
  split
  · exact .refuses _ putting
  split
  · exact .refuses _ putting
  · next unsealed full free =>
      refine .stores putting (Bool.eq_false_iff.mpr unsealed) (not_le.mp full) ?_
      simp only [Bool.and_eq_true, decide_eq_true_eq, not_and, not_not, Option.isSome_iff_ne_none]
        at free
      by_cases absent : state.files.lookup key = none
      · exact .inr absent
      · exact .inl (free absent)

variable {take : Bool}

theorem fetch_outcome {sent : Bool}
    (fetching : (state.connection connection).phase = .fetching take key) :
    Outcome state (state.fetch connection take key sent) := by
  have empty : (state.connection connection).phase.carried = none := by rw [fetching]; rfl
  rw [State.fetch]
  split
  · exact .moves empty rfl fun _ _ _ => trivial
  · next sealed =>
      split
      · exact .moves empty rfl fun _ _ _ => trivial
      · next found =>
          split
          · exact .delivers fetching (by simpa using sealed) found
          · exact .moves empty rfl fun _ _ _ => trivial

theorem step_outcome (occurs : step state event = some next) : Outcome state next := by
  cases event with
  | receive connection message =>
    simp only [step] at occurs
    split at occurs
    · next idle =>
        cases occurs
        exact .arrives message idle
    · cases occurs
  | hangup connection =>
    simp only [step] at occurs
    split at occurs
    · next idle =>
        cases occurs
        exact .moves (by rw [idle]; rfl) rfl fun _ _ _ => trivial
    · cases occurs
  | lock connection sent =>
    simp only [step] at occurs
    split at occurs
    · next putting =>
        cases occurs
        exact put_outcome putting
    · next fetching =>
        cases occurs
        exact fetch_outcome fetching
    · next sealing =>
        cases occurs
        exact .seals sealing
    · next reporting =>
        cases occurs
        exact .moves (by rw [reporting]; rfl) rfl fun _ _ _ => trivial
    · cases occurs
  | answer connection written =>
    simp only [step] at occurs
    split at occurs
    · next answer answering =>
        cases occurs
        refine .moves (by rw [answering]; rfl) rfl fun log request fulfils => ?_
        rw [answering] at fulfils
        cases written with
        | false => trivial
        | true => cases answer <;> exact fulfils
    · cases occurs

/-! ## Who holds the descriptors -/

/-- A descriptor is held under its key, or by the connection which stores it. -/
def State.holdings (state : State ι) : Holdings (Key ⊕ ι) where
  holds
    | .inl key => state.files.lookup key
    | .inr connection => (state.connection connection).phase.carried
  opened := state.opened

theorem enter_connection (other : ι) :
    (state.enter connection phase).connection other =
      if other = connection then { state.connection connection with phase }
      else state.connection other :=
  update_apply ..

theorem enter_holdings : (state.enter connection phase).holdings =
    ⟨update state.holdings.holds (.inr connection) phase.carried, state.opened⟩ := by
  ext1
  · funext place
    rcases place with key | other
    · rfl
    · by_cases same : other = connection
      · subst same
        simp [State.holdings, State.enter]
      · simp [State.holdings, State.enter, same]
  · rfl

theorem enter_holdings_same (same : phase.carried = (state.connection connection).phase.carried) :
    (state.enter connection phase).holdings = state.holdings := by
  rw [enter_holdings, same]
  exact Holdings.ext (update_eq_self _ _) rfl

theorem refuse_holdings {text : String} :
    (state.refuse connection descriptor text).holdings =
      state.holdings.close (.inr connection) descriptor := by
  rw [State.refuse, enter_holdings]
  rfl

theorem remove_holdings :
    ({ state with files := state.files.filter (·.1 ≠ key) }.close descriptor).holdings =
      state.holdings.close (.inl key) descriptor := by
  refine Holdings.ext (funext fun place => ?_) rfl
  rw [Holdings.close_holds]
  rcases place with other | other
  · refine (lookup_filter_ne state.files).trans ?_
    simp [State.holdings]
  · rfl

theorem deliver_holdings (fetching : (state.connection connection).phase = .fetching take key) :
    (state.deliver connection take key descriptor).holdings =
      if take then state.holdings.close (.inl key) descriptor else state.holdings := by
  have empty := congrArg Phase.carried fetching.symm
  cases take with
  | false => exact enter_holdings_same empty
  | true => exact Eq.trans (enter_holdings_same empty) remove_holdings

theorem store_holdings : (state.store connection key descriptor).holdings =
    match state.files.lookup key with
    | none => state.holdings.move (.inr connection) (.inl key) descriptor
    | some previous =>
      (state.holdings.close (.inl key) previous).move (.inr connection) (.inl key)
        descriptor := by
  rw [State.store, enter_holdings]
  cases found : state.files.lookup key with
  | none =>
    refine Holdings.ext (funext fun place => ?_) rfl
    rcases place with other | other <;>
      simp [Holdings.move_holds, update_apply, State.holdings, lookup_assign, Phase.carried]
  | some previous =>
    refine Holdings.ext (funext fun place => ?_) rfl
    rcases place with other | other <;>
      simp [Holdings.move_holds, Holdings.close_holds, update_apply, State.holdings,
        lookup_assign, Phase.carried]
    grind

/-! ## Messages -/

def Message.Stores (message : Message) : Prop :=
  message.payload ≠ [] ∧ message.truncated = false ∧
    ∃ key, parseFDBrokerRequest message.payload = .ok (.put key)

def Message.Released (message : Message) : Prop := message.attached = 0 ∨ message.Stores

variable {message : Message} {descriptors : List Nat}

theorem receive_stores (stores : message.Stores) : ∃ key, receive message descriptors =
    match descriptors with
    | [descriptor] => (.putting key descriptor, [descriptor])
    | _ => (.answering (.refused
        s!"FD broker PUT received {descriptors.length} descriptors, want 1"), []) := by
  rcases stores with ⟨filled, whole, key, parsed⟩
  refine ⟨key, ?_⟩
  simp only [receive, filled, whole, parsed, receivedFD, if_false, Bool.false_eq_true]
  rcases descriptors with _ | ⟨_, _ | _⟩ <;> rfl

theorem withoutDescriptors_spec {text : String} (empty : phase.carried = none) :
    (withoutDescriptors descriptors text phase).1.carried = none ∧
      (withoutDescriptors descriptors text phase).2 = descriptors := by
  rw [withoutDescriptors]
  split
  · exact ⟨rfl, rfl⟩
  · next none => exact ⟨empty, (not_not.mp none).symm⟩

theorem receive_leaves (other : ¬message.Stores) :
    (receive message descriptors).1.carried = none ∧
      (receive message descriptors).2 = descriptors := by
  rw [receive]
  split
  · exact ⟨rfl, rfl⟩
  · next filled =>
      split
      · exact ⟨rfl, rfl⟩
      · next whole =>
          split
          · exact ⟨rfl, rfl⟩
          · next key parsed =>
              exact absurd ⟨filled, Bool.eq_false_iff.mpr whole, key, parsed⟩ other
          all_goals exact withoutDescriptors_spec rfl

theorem receive_carried (carried : (receive message descriptors).1.carried = some descriptor) :
    descriptor ∈ (receive message descriptors).2 := by
  by_cases stores : message.Stores
  · rcases receive_stores stores with ⟨key, same⟩
    rw [same] at carried ⊢
    split at carried
    · cases carried
      exact mem_cons_self
    · cases carried
  · cases (receive_leaves stores).1.symm.trans carried

theorem receive_subset : (receive message descriptors).2 ⊆ descriptors := by
  by_cases stores : message.Stores
  · rcases receive_stores stores with ⟨key, same⟩
    rw [same]
    split
    · exact .refl _
    · exact nil_subset _
  · rw [(receive_leaves stores).2]
    exact .refl _

theorem receive_stray (listed : descriptor ∈ descriptors) :
    descriptor ∈ (receive message descriptors).2 ∧
      (receive message descriptors).1.carried ≠ some descriptor ↔ ¬message.Stores := by
  constructor
  · rintro ⟨still, free⟩ stores
    rcases receive_stores stores with ⟨key, same⟩
    rw [same] at still free
    split at still
    · cases mem_singleton.mp still
      exact free rfl
    · cases still
  · intro other
    rcases receive_leaves other with ⟨empty, same⟩
    rw [empty, same]
    exact ⟨listed, nofun⟩

/-- The descriptors of every connection are its own, and open without a holder exactly if the
message of the connection is not released. -/
structure Tidy (state : State ι) : Prop where
  exclusive : state.holdings.Exclusive
  opened : ∀ descriptor ∈ state.opened, descriptor < state.next
  installed : ∀ connection, ∀ descriptor ∈ (state.connection connection).installed,
    descriptor < state.next
  carried : ∀ connection descriptor,
    (state.connection connection).phase.carried = some descriptor →
      descriptor ∈ (state.connection connection).installed
  apart : ∀ connection other, ∀ descriptor ∈ (state.connection connection).installed,
    descriptor ∈ (state.connection other).installed → connection = other
  stray : ∀ connection message, (state.connection connection).message = some message →
    (state.connection connection).installed.length = message.installed ∧
    ∀ descriptor ∈ (state.connection connection).installed,
      (state.holdings.Stray descriptor ↔ ¬message.Stores)

theorem Tidy.enter (tidy : Tidy state) {middle : State ι} {after : Holdings (Key ⊕ ι)}
    (held : (middle.enter connection phase).holdings = after)
    (same : middle.connection = state.connection) (numbered : middle.next = state.next)
    (opened : middle.opened ⊆ state.opened) (empty : phase.carried = none)
    (exclusive : after.Exclusive) (stray : ∀ lost, after.Stray lost ↔ state.holdings.Stray lost) :
    Tidy (middle.enter connection phase) := by
  subst held
  have kept : ∀ other, ((middle.enter connection phase).connection other).message =
      (state.connection other).message ∧
      ((middle.enter connection phase).connection other).installed =
        (state.connection other).installed := by
    intro other
    rw [enter_connection, same]
    split <;> simp_all
  constructor
  · exact exclusive
  · exact fun descriptor member => numbered ▸ tidy.opened descriptor (opened member)
  · intro other descriptor member
    exact numbered ▸ tidy.installed other descriptor ((kept other).2 ▸ member)
  · intro other descriptor carried
    rw [(kept other).2]
    rw [enter_connection, same] at carried
    split at carried
    · cases empty.symm.trans carried
    · exact tidy.carried other descriptor carried
  · simp only [kept]
    exact tidy.apart
  · simp only [kept, stray]
    exact tidy.stray

abbrev State.names (state : State ι) (message : Message) : List Nat :=
  range' state.next message.installed

abbrev State.received (state : State ι) (message : Message) : Phase × List Nat :=
  receive message (state.names message)

theorem arrive_holdings : (state.arrive connection message).holdings =
    state.holdings.gain (.inr connection) (state.received message).1.carried
      (state.received message).2.toFinset := by
  refine Holdings.ext (funext fun place => ?_) rfl
  rw [Holdings.gain_holds]
  rcases place with key | other
  · rfl
  · by_cases same : other = connection
    · subst same
      simp [State.holdings, State.arrive]
    · simp [State.holdings, State.arrive, same]

theorem arrive_connection (other : ι) : (state.arrive connection message).connection other =
    if other = connection then ⟨some message, state.names message, (state.received message).1⟩
    else state.connection other :=
  update_apply ..

theorem Tidy.arrive (tidy : Tidy state) (idle : (state.connection connection).phase = .idle) :
    Tidy (state.arrive connection message) := by
  have ranged : ∀ {descriptor}, descriptor ∈ state.names message →
      state.next ≤ descriptor ∧ descriptor < state.next + message.installed :=
    fun member => mem_range'_1.mp member
  have fresh : ∀ descriptor ∈ (state.received message).2.toFinset,
      descriptor ∈ state.names message ∧ descriptor ∉ state.opened := by
    intro descriptor member
    have listed := receive_subset (mem_toFinset.mp member)
    refine ⟨listed, fun old => ?_⟩
    exact absurd (tidy.opened descriptor old) (not_lt.mpr (ranged listed).1)
  have among : ∀ descriptor, (state.received message).1.carried = some descriptor →
      descriptor ∈ (state.received message).2.toFinset :=
    fun descriptor carried => mem_toFinset.mpr (receive_carried carried)
  have older : ∀ {other descriptor}, descriptor ∈ (state.connection other).installed →
      descriptor ∉ state.names message := fun member new =>
    absurd (tidy.installed _ _ member) (not_lt.mpr (ranged new).1)
  have strays : ∀ lost, (state.arrive connection message).holdings.Stray lost ↔
      state.holdings.Stray lost ∨ lost ∈ (state.received message).2.toFinset ∧
        (state.received message).1.carried ≠ some lost := by
    intro lost
    rw [arrive_holdings]
    exact tidy.exclusive.stray_gain (congrArg Phase.carried idle)
      (fun descriptor member => (fresh descriptor member).2) among
  constructor
  · rw [arrive_holdings]
    exact tidy.exclusive.gain (fun descriptor member => (fresh descriptor member).2) among
  · intro descriptor member
    rcases Finset.mem_union.mp member with old | new
    · exact Nat.lt_add_right _ (tidy.opened descriptor old)
    · exact (ranged (fresh descriptor new).1).2
  · intro other descriptor member
    rw [arrive_connection] at member
    split at member
    · exact (ranged member).2
    · exact Nat.lt_add_right _ (tidy.installed other descriptor member)
  · intro other descriptor carried
    rw [arrive_connection] at carried ⊢
    split at carried
    · next own => exact if_pos own ▸ receive_subset (receive_carried carried)
    · next apart => exact if_neg apart ▸ tidy.carried other descriptor carried
  · intro first second descriptor member also
    rw [arrive_connection] at member also
    split at member <;> split at also
    · next own same => exact own.trans same.symm
    · exact absurd member (older also)
    · exact absurd also (older member)
    · exact tidy.apart first second descriptor member also
  · intro other asked found
    rw [arrive_connection] at found ⊢
    split at found
    · next own =>
        cases found
        rw [if_pos own]
        refine ⟨length_range', fun descriptor member => ?_⟩
        rw [strays, mem_toFinset, ← receive_stray member]
        exact or_iff_right fun old => absurd (tidy.opened _ old.1) (not_lt.mpr (ranged member).1)
    · next apart =>
        rw [if_neg apart]
        refine ⟨(tidy.stray other asked found).1, fun descriptor member => ?_⟩
        rw [strays, ← (tidy.stray other asked found).2 descriptor member]
        exact or_iff_left fun new => older member (fresh descriptor new.1).1

theorem Tidy.outcome (tidy : Tidy state) (outcome : Outcome state next) : Tidy next := by
  have exclusive := tidy.exclusive
  cases outcome with
  | moves empty still _ =>
    exact tidy.enter (enter_holdings_same (still.trans empty.symm)) rfl rfl
      (Finset.Subset.refl _) still exclusive fun _ => .rfl
  | arrives message idle => exact tidy.arrive idle
  | refuses text putting =>
    have held := congrArg Phase.carried putting
    exact tidy.enter refuse_holdings rfl rfl (Finset.erase_subset _ _) rfl
      (exclusive.close held) fun _ => Holdings.stray_close held
  | stores putting unsealed room free =>
    rename_i connection key descriptor
    have held := congrArg Phase.carried putting
    have replaced := @store_holdings ι connection key descriptor _ state
    cases found : state.files.lookup key with
    | none =>
      simp only [found] at replaced
      refine tidy.enter replaced rfl rfl ?_ rfl (exclusive.move held) fun _ =>
        Holdings.stray_move held found
      simp [found]
    | some previous =>
      simp only [found] at replaced
      have old : state.holdings.holds (.inl key) = some previous := found
      have still : (state.holdings.close (.inl key) previous).holds (.inr connection) =
          some descriptor := Holdings.close_holds.trans held
      refine tidy.enter replaced rfl rfl ?_ rfl ((exclusive.close old).move still) fun _ =>
        (Holdings.stray_move still (Holdings.close_holds.trans (if_pos rfl))).trans
          (Holdings.stray_close old)
      simp [found, Finset.erase_subset]
  | delivers fetching sealed found =>
    rename_i connection take key descriptor
    cases take with
    | false =>
      exact tidy.enter (deliver_holdings fetching) rfl rfl (Finset.Subset.refl _) rfl exclusive
        fun _ => .rfl
    | true =>
      exact tidy.enter (deliver_holdings fetching) rfl rfl (Finset.erase_subset _ _) rfl
        (exclusive.close found) fun _ => Holdings.stray_close found
  | seals sealing =>
    have empty := congrArg Phase.carried sealing.symm
    exact tidy.enter (enter_holdings_same empty) rfl rfl (Finset.Subset.refl _) rfl exclusive
      fun _ => .rfl

omit [DecidableEq ι] in
theorem Tidy.initial : Tidy (State.initial : State ι) where
  exclusive := by
    have free : ∀ place, (State.initial : State ι).holdings.holds place = none
      | .inl _ => rfl
      | .inr _ => rfl
    constructor
    · intro place resource held
      cases (free place).symm.trans held
    · intro first second resource held
      cases (free first).symm.trans held
  opened := nofun
  installed := nofun
  carried := nofun
  apart := nofun
  stray := nofun

def Accounted (state : State ι) (connection : ι) : Prop :=
  ∀ descriptor ∈ (state.connection connection).installed,
    descriptor ∉ state.opened ∨ ∃ key, state.files.lookup key = some descriptor

omit [DecidableEq ι] in
theorem Tidy.accounted_iff (tidy : Tidy state) {answer : Option Answer}
    (asked : (state.connection connection).message = some message)
    (returned : (state.connection connection).phase = .returned answer) :
    Accounted state connection ↔ message.Released := by
  rcases tidy.stray connection message asked with ⟨length, strays⟩
  have held : ∀ descriptor ∈ (state.connection connection).installed, ∀ place,
      state.holdings.holds place = some descriptor →
      ∃ key, state.files.lookup key = some descriptor := by
    intro descriptor member place holds
    rcases place with key | other
    · exact ⟨key, holds⟩
    · cases tidy.apart _ _ _ member (tidy.carried other descriptor holds)
      cases (congrArg Phase.carried returned).symm.trans holds
  constructor
  · intro accounted
    by_contra leaks
    rw [Message.Released, not_or] at leaks
    have some : (state.connection connection).installed ≠ [] := by
      rw [← length_pos_iff, length, Message.installed]
      omega
    rcases exists_mem_of_ne_nil _ some with ⟨descriptor, member⟩
    rcases (strays descriptor member).mpr leaks.2 with ⟨still, free⟩
    rcases accounted descriptor member with closed | ⟨key, stored⟩
    · exact closed still
    · exact free (.inl key) stored
  · intro released descriptor member
    rcases released with none | stores
    · have empty : (state.connection connection).installed = [] := by
        rw [← length_eq_zero_iff, length, Message.installed]
        omega
      rw [empty] at member
      cases member
    · by_cases still : descriptor ∈ state.opened
      · have placed := mt (strays descriptor member).mp (not_not.mpr stores)
        rw [Holdings.Stray, not_and, not_forall] at placed
        rcases placed still with ⟨place, holds⟩
        exact .inr (held descriptor member place (not_not.mp holds))
      · exact .inl still

/-- When `serve` returns, all descriptors of its message are in the store or closed exactly if
there are none, or the message is a `PUT` which arrived whole. -/
theorem accounted_iff_released (events : List (Event ι)) :
    Throughout step (fun state => ∀ connection message answer,
      (state.connection connection).message = some message →
      (state.connection connection).phase = .returned answer →
      (Accounted state connection ↔ message.Released)) (State.initial : State ι) events := by
  apply throughout_of_invariant (fun tidy occurs => tidy.outcome (step_outcome occurs)) _ _
    Tidy.initial
  exact fun tidy connection message answer => tidy.accounted_iff

/-- A message which is no request leaves its descriptor open. -/
theorem descriptor_leaked :
    (run step (State.initial : State Nat) [.receive 0 ⟨[0x78], 1⟩, .answer 0 true]).map
      (fun state => ((state.connection 0).phase, (state.connection 0).installed, state.files,
        state.opened)) =
      some (.returned (some (.refused "invalid FD broker protocol")), [0], [], {0}) := by
  decide +kernel

/-! ## What is stored is delivered -/

/-- The store is the one of a legal history. -/
structure Explained (state : State ι) : Prop where
  legal : Legal state.log
  kept : ∀ key, state.files.lookup key = outstanding state.log key
  capacity : state.files.length ≤ fdBrokerMaxFiles
  once : (taken state.log).Nodup

/-- The state agrees with its history. -/
structure Faithful (state : State ι) : Prop extends Explained state where
  sealed : state.sealed = true ↔ .sealed ∈ state.log
  gone : ∀ descriptor ∈ taken state.log, descriptor ∉ state.opened ∧ descriptor < state.next
  fulfils : ∀ connection message, (state.connection connection).message = some message →
    Fulfils state.log connection (parseFDBrokerRequest message.payload)
      (state.connection connection).phase

theorem Faithful.fulfils_enter (faithful : Faithful state) {middle : State ι}
    (grows : state.log ⊆ middle.log) (same : middle.connection = state.connection)
    (now : ∀ request, Fulfils state.log connection request (state.connection connection).phase →
      Fulfils middle.log connection request phase) :
    ∀ other message, ((middle.enter connection phase).connection other).message = some message →
      Fulfils middle.log other (parseFDBrokerRequest message.payload)
        ((middle.enter connection phase).connection other).phase := by
  intro other message
  rw [enter_connection, same]
  split
  · next own =>
      subst own
      exact fun asked => now _ (faithful.fulfils other message asked)
  · exact fun asked => (faithful.fulfils other message asked).mono grows

omit [DecidableEq ι] in
theorem receive_fulfils {log : List (Entry ι)} : Fulfils log connection
    (parseFDBrokerRequest message.payload) (receive message descriptors).1 := by
  rw [receive]
  split
  · trivial
  split
  · trivial
  split
  · trivial
  · next parsed =>
      split
      · trivial
      · exact parsed
  all_goals
    rw [withoutDescriptors]
    split <;> trivial

theorem Faithful.outcome (faithful : Faithful state) (tidy : Tidy state)
    (outcome : Outcome state next) : Faithful next := by
  cases outcome with
  | moves empty still fulfils =>
    exact { faithful with
      fulfils := faithful.fulfils_enter (.refl _) rfl (fulfils _) }
  | arrives message idle =>
    refine { faithful with gone := fun descriptor member => ?_, fulfils := fun other asked => ?_ }
    · rcases faithful.gone descriptor member with ⟨closed, old⟩
      refine ⟨fun still => ?_, Nat.lt_add_right _ old⟩
      rcases Finset.mem_union.mp still with still | new
      · exact closed still
      · have ranged := mem_range'_1.mp (receive_subset (mem_toFinset.mp new))
        exact absurd old (not_lt.mpr ranged.1)
    · rw [arrive_connection]
      split
      · rintro ⟨⟩
        exact receive_fulfils
      · exact faithful.fulfils other asked
  | refuses text putting =>
    refine { faithful with
      gone := fun descriptor member => ?_
      fulfils := faithful.fulfils_enter (.refl _) rfl fun _ _ => trivial }
    exact (faithful.gone descriptor member).imp_left (mt Finset.mem_of_mem_erase)
  | stores putting unsealed room free =>
    rename_i connection key descriptor
    have open_ : .sealed ∉ state.log := fun sealed => by
      cases unsealed.symm.trans (faithful.sealed.mpr sealed)
    refine { faithful with
      legal := ⟨open_, faithful.kept key ▸ free, faithful.legal⟩
      kept := fun other => ?_
      capacity := le_trans ?_ room
      sealed := ?_
      gone := ?_
      fulfils := faithful.fulfils_enter (subset_cons_self _ _) rfl ?_ }
    · refine (lookup_assign state.files).trans ?_
      simp [State.store, State.enter, outstanding, faithful.kept]
    · simpa [State.store, State.enter, assign] using length_filter_le _ state.files
    · simpa [State.store, State.enter] using faithful.sealed
    · intro lost member
      refine (faithful.gone lost member).imp_left fun closed still => closed ?_
      revert still
      simp only [State.store, State.enter]
      split
      · exact id
      · exact Finset.mem_of_mem_erase
    · intro request fulfils other asked
      rw [putting] at fulfils
      cases fulfils.symm.trans asked
      exact ⟨descriptor, mem_cons_self⟩
  | delivers fetching sealed found =>
    rename_i connection take key descriptor
    have legal : Legal (.delivered take key descriptor :: state.log) :=
      ⟨faithful.sealed.mp sealed, faithful.kept key ▸ found, faithful.legal⟩
    have fulfils : ∀ request, Fulfils state.log connection request
        (state.connection connection).phase →
        Fulfils (.delivered take key descriptor :: state.log) connection request
          (.returned (some .ok)) := by
      intro request fulfils other asked
      rw [fetching] at fulfils
      cases fulfils.symm.trans asked
    cases take with
    | false =>
      exact { faithful with
        sealed := by simpa [State.deliver, State.enter] using faithful.sealed
        legal
        fulfils := faithful.fulfils_enter (subset_cons_self _ _) rfl fulfils }
    | true =>
      have held : state.holdings.holds (.inl key) = some descriptor := found
      have live := tidy.exclusive.live held
      have absent : descriptor ∉ taken state.log := fun member =>
        (faithful.gone descriptor member).1 live
      refine ⟨⟨legal, fun other => ?_, ?_, nodup_cons.mpr ⟨absent, faithful.once⟩⟩, ?_, ?_, ?_⟩
      · exact (lookup_filter_ne state.files).trans (by rw [faithful.kept]; rfl)
      · exact le_trans (length_filter_le _ _) faithful.capacity
      · simpa [State.deliver, State.enter, State.close] using faithful.sealed
      · refine forall_mem_cons.mpr ⟨⟨Finset.notMem_erase _ _, tidy.opened _ live⟩, ?_⟩
        exact fun lost earlier =>
          (faithful.gone lost earlier).imp_left (mt Finset.mem_of_mem_erase)
      · exact faithful.fulfils_enter (subset_cons_self _ _) rfl fulfils
  | seals sealing =>
    exact { faithful with
      sealed := by simp [State.enter]
      fulfils := faithful.fulfils_enter (subset_cons_self _ _) rfl fun _ _ => trivial }

omit [DecidableEq ι] in
theorem Faithful.initial : Faithful (State.initial : State ι) where
  sealed := ⟨nofun, nofun⟩
  legal := trivial
  kept := fun _ => rfl
  capacity := Nat.zero_le _
  once := nodup_nil
  gone := nofun
  fulfils := nofun

structure Correct (state : State ι) : Prop extends Explained state where
  /-- A `PUT` is answered with success only if its object has been stored. -/
  answered : ∀ connection message key, (state.connection connection).message = some message →
    parseFDBrokerRequest message.payload = .ok (.put key) →
    (state.connection connection).phase ∈ [.answering .ok, .returned (some .ok)] →
    ∃ descriptor, .stored connection key descriptor ∈ state.log
  /-- A request for an object is accepted if it arrives whole and without descriptors. -/
  accepted : ∀ connection message take key, (state.connection connection).phase = .idle →
    message.attached = 0 → message.payload.length ≤ 256 →
    parseFDBrokerRequest message.payload = .ok (.fetch take key) →
    ∃ next, step state (.receive connection message) = some next ∧
      (next.connection connection).phase = .fetching take key
  delivered : ∀ connection take key newer holder descriptor older,
    (state.connection connection).phase = .fetching take key → .sealed ∈ state.log →
    state.log = newer ++ .stored holder key descriptor :: older →
    (∀ entry ∈ newer, entry.removes key = false) →
    ∃ next, step state (.lock connection true) = some next ∧
      next.log = .delivered take key descriptor :: state.log

theorem receive_fetches (bare : message.attached = 0) (short : message.payload.length ≤ 256)
    (parsed : parseFDBrokerRequest message.payload = .ok (.fetch take key)) :
    (receive message []).1 = .fetching take key := by
  have filled : message.payload ≠ [] := by
    intro empty
    rw [empty] at parsed
    cases parsed
  have whole : message.truncated = false := by
    simp [Message.truncated, bare, short]
  simp [receive, filled, whole, parsed, withoutDescriptors]

theorem Faithful.correct (faithful : Faithful state) : Correct state where
  __ := faithful.toExplained
  answered := by
    intro connection message key asked parsed phase
    have fulfils := faithful.fulfils connection message asked
    rw [parsed] at fulfils
    rcases mem_pair.mp phase with answering | returned
    · rw [answering] at fulfils
      exact fulfils key rfl
    · rw [returned] at fulfils
      exact fulfils key rfl
  accepted := by
    intro connection message take key idle bare short parsed
    refine ⟨state.arrive connection message, by simp only [step, idle], ?_⟩
    rw [arrive_connection, if_pos rfl]
    have none : state.names message = [] := by simp [Message.installed, bare]
    simp only [State.received, none]
    exact receive_fetches bare short parsed
  delivered := by
    intro connection take key newer holder descriptor older fetching sealed logged kept
    have found : state.files.lookup key = some descriptor := by
      rw [faithful.kept, logged]
      exact outstanding_of_stored (logged ▸ faithful.legal) kept
    refine ⟨state.deliver connection take key descriptor, ?_, ?_⟩
    · simp [step, fetching, State.fetch, faithful.sealed.mpr sealed, found]
    · cases take <;> rfl

theorem correct_throughout (events : List (Event ι)) :
    Throughout step Correct (State.initial : State ι) events := by
  have kept : ∀ {state : State ι} {event next}, Tidy state ∧ Faithful state →
      step state event = some next → Tidy next ∧ Faithful next := fun holds occurs =>
    ⟨holds.1.outcome (step_outcome occurs), holds.2.outcome holds.1 (step_outcome occurs)⟩
  exact throughout_of_invariant kept (fun holds => holds.2.correct) events
    ⟨Tidy.initial, Faithful.initial⟩

/-- A `GET` with a descriptor is refused, although the object has been stored and is kept. -/
theorem get_refused :
    (run step (State.initial : State Nat)
      [.receive 0 ⟨ascii "COLDSNAP_FD_BROKER_V1 PUT E 7\n", 1⟩, .lock 0 true, .answer 0 true,
        .receive 1 ⟨ascii "COLDSNAP_FD_BROKER_V1 SEAL\n", 0⟩, .lock 1 true, .answer 1 true,
        .receive 2 ⟨ascii "COLDSNAP_FD_BROKER_V1 GET E 7\n", 1⟩, .answer 2 true]).map
      (fun state => ((state.connection 0).phase, (state.connection 2).phase, state.log)) =
    some (.returned (some .ok),
      .returned (some (.refused "descriptor request included descriptors")),
      [.sealed, .stored 0 ⟨.e, 7⟩ 0]) := by
  decide +kernel

end Coldsnap.Criu.Broker
