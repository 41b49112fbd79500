import Coldsnap.Validation.Validators

/-! # What published records vouch for

A record names files through their identity. It is sound if all files it names have been
read to their ends with the digest of the record. The file a validator finds when it opens
the payload again need not be the one it has read.
-/

namespace Coldsnap.Validation

open Transitions List Function

/-- What is known about a validator which has come so far. -/
def Phase.Backed (state : State) : Phase → Prop
  | .idle => True
  | .opened _ version => version ∈ state.installed
  | .hashing _ version before read =>
    version ∈ state.installed ∧ before = version.contentIdentity ∧ read <+: version.content
  | .verified request version =>
    version ∈ state.installed ∧ (version, request.expectedSha256) ∈ state.hashed
  | .reopened request version found =>
    version ∈ state.installed ∧ (version, request.expectedSha256) ∈ state.hashed ∧
      found ∈ state.installed
  | .accepted _ version => version ∈ state.installed
  | .failed => True

variable {before after : State} {phase : Phase}

theorem Phase.Backed.mono (installed : before.installed ⊆ after.installed)
    (hashed : before.hashed ⊆ after.hashed) (backed : phase.Backed before)
    : phase.Backed after := by
  cases phase with
  | idle => trivial
  | opened request version => exact installed backed
  | hashing request version identity read => exact ⟨installed backed.1, backed.2⟩
  | verified request version => exact ⟨installed backed.1, hashed backed.2⟩
  | reopened request version found =>
    exact ⟨installed backed.1, hashed backed.2.1, installed backed.2.2⟩
  | accepted request version => exact installed backed
  | failed => trivial

structure Consistent (state : State) : Prop where
  present : state.current ∈ state.installed
  backed : ∀ process, (state.phase process).Backed state
  marker : ∀ record, state.marker = some record → record ∈ state.published
  named : ∀ record ∈ state.published, ∃ version ∈ state.installed,
    version.contentIdentity = record.contentIdentity
  whole : ∀ entry ∈ state.hashed, entry.2 = digestOf entry.1.content

variable (version : Version)

theorem Consistent.initial : Consistent (.initial version) where
  present := mem_singleton_self version
  backed _ := trivial
  marker := nofun
  named := nofun
  whole := nofun

def Request.recordOf (request : Request) (found : Version) : Record :=
  ⟨request.expectedSha256, request.expectedBytes, found.contentIdentity⟩

inductive Outcome (state : State) : Event → State → Prop where
  | installs (version : Version) : Outcome state (.rename version)
      { state with current := version, installed := version :: state.installed }
  | moves {event : Event} {process : Nat} {phase : Phase} (backed : phase.Backed state)
      (cached : ∀ request version, phase = .accepted request version →
        state.marker = some (request.recordOf version)) :
      Outcome state event (state.enter process phase)
  | hashes {event : Event} {process : Nat} {version : Version} {phase : Phase}
      (backed : phase.Backed
        { state with hashed := (version, digestOf version.content) :: state.hashed })
      (undecided : ∀ request other, phase ≠ .accepted request other) :
      Outcome state event
        ({ state with hashed := (version, digestOf version.content) :: state.hashed }.enter
          process phase)
  | publishes {process : Nat} {request : Request} {version found : Version}
      (reopened : state.phase process = .reopened request version found) :
      Outcome state (.replace process) (state.publish process request version found)

variable {state : State} {event : Event} {process : Nat}

theorem finish_outcome {request : Request} {version : Version} {before : Identity}
    (present : version ∈ state.installed) :
    Outcome state event (state.finish process request version before version.content) := by
  unfold State.finish
  split
  · exact .hashes trivial nofun
  · split
    · exact .hashes trivial nofun
    · rename_i same
      have equal : digestOf version.content = request.expectedSha256 := by simpa using same
      refine .hashes ⟨present, ?_⟩ nofun
      rw [← equal]
      exact mem_cons_self

theorem read_extends {content read : List UInt8} (begun : read <+: content) (count : Nat) :
    ((content.drop read.length).take (count + 1) = [] → read = content) ∧
      read ++ (content.drop read.length).take (count + 1) <+: content := by
  rcases begun with ⟨rest, rfl⟩
  rw [drop_left]
  constructor
  · intro ended
    cases rest with
    | nil => exact (append_nil read).symm
    | cons byte rest => cases ended
  · exact (prefix_append_right_inj read).mpr ( take_prefix (count + 1) rest)

variable {next : State}

theorem step_outcome (consistent : Consistent state) (occurs : step state event = some next)
    : Outcome state event next := by
  cases event <;> simp only [step] at occurs
  case rename version =>
    cases occurs
    exact .installs version
  case start process request =>
    split at occurs
    · split at occurs
      · cases occurs
        exact .moves trivial nofun
      · cases occurs
        exact .moves consistent.present nofun
    · cases occurs
  case consult process readable =>
    split at occurs
    · rename_i request version at_
      have backed := consistent.backed process
      rw [at_] at backed
      by_cases found : recordMatches (if readable then state.marker else none) request
          version.contentIdentity = true
      · rw [if_pos found] at occurs
        cases occurs
        refine .moves backed ?_
        intro _ _ same
        cases same
        cases readable with
        | true => exact of_decide_eq_true found
        | false => cases found
      · rw [if_neg found] at occurs
        cases occurs
        exact .moves ⟨backed, rfl, nil_prefix⟩ nofun
    · cases occurs
  case read process count =>
    split at occurs
    · rename_i request version before read at_
      have backed := consistent.backed process
      rw [at_] at backed
      rcases backed with ⟨present, same, begun⟩
      rcases read_extends begun count with ⟨whole, more⟩
      split at occurs
      · rename_i ended
        cases occurs
        rw [whole ended]
        exact finish_outcome present
      · cases occurs
        exact .moves ⟨present, same, more⟩ nofun
    · cases occurs
  case reopen process =>
    split at occurs
    · rename_i request version at_
      have backed := consistent.backed process
      rw [at_] at backed
      split at occurs
      · cases occurs
        exact .moves trivial nofun
      · cases occurs
        exact .moves ⟨backed.1, backed.2, consistent.present⟩ nofun
    · cases occurs
  case replace process =>
    split at occurs
    · rename_i reopened
      cases occurs
      exact .publishes reopened
    · cases occurs
  case fail process =>
    cases occurs
    exact .moves trivial nofun

theorem backed_enter (others : ∀ other, (before.phase other).Backed before)
    (installed : before.installed ⊆ after.installed) (hashed : before.hashed ⊆ after.hashed)
    (phases : after.phase = update before.phase process phase)
    (backed : phase.Backed after) (other : Nat) : (after.phase other).Backed after := by
  rw [phases]
  exact (forall_update_iff _ fun _ (phase : Phase) => phase.Backed after).mpr
    ⟨backed, fun other _ => (others other).mono installed hashed⟩ other

theorem Consistent.step (consistent : Consistent state) (occurs : step state event = some next)
    : Consistent next := by
  cases step_outcome consistent occurs with
  | installs version =>
    exact { consistent with
      present := mem_cons_self
      backed process := (consistent.backed process).mono (subset_cons_self ..) (.refl _)
      named record member := by
        rcases consistent.named record member with ⟨named, present, same⟩
        exact ⟨named, mem_cons_of_mem _ present, same⟩ }
  | moves backed cached =>
    exact { consistent with
      backed := backed_enter consistent.backed (.refl _) (.refl _) rfl backed }
  | hashes backed undecided =>
    exact { consistent with
      backed := backed_enter consistent.backed (.refl _) (subset_cons_self ..) rfl backed
      whole := forall_mem_cons.mpr ⟨rfl, consistent.whole⟩ }
  | @publishes process request version found reopened =>
    have known := consistent.backed process
    rw [reopened] at known
    exact { consistent with
      backed := backed_enter consistent.backed (.refl _) (.refl _) rfl known.1
      marker record published := by
        cases published
        exact mem_cons_self
      named := forall_mem_cons.mpr ⟨⟨found, known.2.2, rfl⟩, consistent.named⟩ }

/-- All files which the record names have been hashed to its digest. -/
def State.Vouches (state : State) (record : Record) : Prop :=
  ∀ version ∈ state.installed, version.contentIdentity = record.contentIdentity →
    (version, record.expectedSha256) ∈ state.hashed

structure Sound (state : State) : Prop where
  /-- Every published record names a file, and only files that were hashed to its digest. -/
  records : ∀ record ∈ state.published,
    (∃ version ∈ state.installed, version.contentIdentity = record.contentIdentity) ∧
      state.Vouches record
  /-- No validator accepts a file that nobody hashed. -/
  acceptances : ∀ process request version, state.phase process = .accepted request version →
    (version, request.expectedSha256) ∈ state.hashed

theorem Sound.initial : Sound (.initial version) where
  records := nofun
  acceptances := nofun

theorem accepted_enter
    (others : ∀ process request version, before.phase process = .accepted request version →
      (version, request.expectedSha256) ∈ before.hashed) (hashed : before.hashed ⊆ after.hashed)
    (phases : after.phase = update before.phase process phase)
    (entered : ∀ request version, phase = .accepted request version →
      (version, request.expectedSha256) ∈ after.hashed) (other : Nat) (request : Request)
    (version : Version) (accepted : after.phase other = .accepted request version) :
    (version, request.expectedSha256) ∈ after.hashed := by
  rw [phases] at accepted
  by_cases same : other = process
  · subst same
    rw [update_self] at accepted
    exact entered request version accepted
  · rw [update_of_ne same] at accepted
    exact hashed (others other request version accepted)

/-- Renamed files have identities of their own, and a validator finds the file it has read
when it opens the payload again. -/
def Undisturbed (state : State) : Event → Prop
  | .rename version => ∀ other ∈ state.installed, version.contentIdentity ≠ other.contentIdentity
  | .replace process => ∀ request version found,
      state.phase process = .reopened request version found → found = version
  | _ => True

def Distinct (state : State) : Prop :=
  ∀ version ∈ state.installed, ∀ other ∈ state.installed,
    version.contentIdentity = other.contentIdentity → version = other

section

variable (consistent : Consistent state) (distinct : Distinct state)
  (undisturbed : Undisturbed state event)

include consistent distinct undisturbed

theorem Distinct.step (occurs : step state event = some next) : Distinct next := by
  cases step_outcome consistent occurs with
  | installs version =>
    refine forall_mem_cons.mpr ⟨?_, fun first present => ?_⟩
    · refine forall_mem_cons.mpr ⟨fun _ => rfl, fun second present same => ?_⟩
      exact absurd same (undisturbed second present)
    · refine forall_mem_cons.mpr ⟨fun same => ?_, distinct first present⟩
      exact absurd same.symm (undisturbed first present)
  | moves backed cached => exact distinct
  | hashes backed undecided => exact distinct
  | publishes reopened => exact distinct

theorem Sound.step (sound : Sound state) (occurs : step state event = some next) : Sound next := by
  have named := (consistent.step occurs).named
  cases step_outcome consistent occurs with
  | installs version =>
    refine ⟨fun record member => ⟨named record member, ?_⟩, sound.acceptances⟩
    refine forall_mem_cons.mpr ⟨fun same => ?_, (sound.records record member).2⟩
    rcases consistent.named record member with ⟨other, present, equal⟩
    exact absurd (same.trans equal.symm) (undisturbed other present)
  | moves backed cached =>
    refine ⟨sound.records, accepted_enter sound.acceptances (.refl _) rfl ?_⟩
    intro request version accepted
    have published := consistent.marker _ (cached request version accepted)
    subst accepted
    exact (sound.records _ published).2 version backed rfl
  | hashes backed undecided =>
    refine ⟨fun record member => ⟨named record member, fun version present same => ?_⟩, ?_⟩
    · exact mem_cons_of_mem _ ((sound.records record member).2 version present same)
    · apply accepted_enter sound.acceptances (subset_cons_self ..) rfl
      intro request version accepted
      exact absurd accepted (undecided request version)
  | @publishes process request version found reopened =>
    have known := consistent.backed process
    rw [reopened] at known
    refine ⟨fun record member => ⟨named record member, ?_⟩, ?_⟩
    · rcases mem_cons.mp member with rfl | member
      · intro other present same
        rw [distinct other present found known.2.2 same, undisturbed request version found reopened]
        exact known.2.1
      · exact (sound.records record member).2
    · refine accepted_enter sound.acceptances (.refl _) rfl ?_
      intro _ _ accepted
      cases accepted
      exact known.2.1

end

/-- What undisturbed events keep. -/
structure Trusted (state : State) : Prop where
  consistent : Consistent state
  distinct : Distinct state
  sound : Sound state

theorem Trusted.initial : Trusted (.initial version) where
  consistent := .initial version
  distinct := by
    intro first firstPresent second secondPresent _
    rw [mem_singleton.mp firstPresent, mem_singleton.mp secondPresent]
  sound := .initial version

theorem Trusted.step (trusted : Trusted state) (undisturbed : Undisturbed state event)
    (occurs : step state event = some next) : Trusted next where
  consistent := trusted.consistent.step occurs
  distinct := trusted.distinct.step trusted.consistent undisturbed occurs
  sound := trusted.sound.step trusted.consistent trusted.distinct undisturbed occurs

/-! ## Events -/

def Event.renamed : Event → Option Version
  | .rename version => some version
  | _ => none

/-- No rename falls between the two openings of a validator, and the files which are renamed in
have identities of their own. -/
structure Quiet (version : Version) (events : List Event) : Prop where
  openings : ∀ process request other,
    ¬[.start process request, .rename other, .reopen process] <+ events
  identities : ((version :: events.filterMap Event.renamed).map Version.contentIdentity).Nodup

/-- What the events so far say about the file of a validator: it is the payload still, or a
rename came after the first opening. -/
def Phase.Followed (front : List Event) (current : Version) (process : Nat) : Phase → Prop
  | .opened _ version | .hashing _ version _ _ | .verified _ version =>
    (∃ request, .start process request ∈ front) ∧
      (version = current ∨ ∃ request other, [.start process request, .rename other] <+ front)
  | .reopened _ version found => found = version
  | _ => True

structure Followed (version : Version) (front : List Event) (state : State) : Prop where
  installed : ∀ other ∈ state.installed, other ∈ version :: front.filterMap Event.renamed
  phases : ∀ process, (state.phase process).Followed front state.current process

variable {front : List Event} {current : Version}

theorem Phase.Followed.later (followed : phase.Followed front current process) (event : Event) :
    phase.Followed (front ++ [event]) current process := by
  have longer := sublist_append_left front [event]
  cases phase with
  | opened | hashing | verified =>
    rcases followed with ⟨⟨request, started⟩, file⟩
    refine ⟨⟨request, longer.subset started⟩, file.imp_right ?_⟩
    exact fun ⟨request, other, renamed⟩ => ⟨request, other, renamed.trans longer⟩
  | reopened => exact followed
  | idle | accepted | failed => trivial

theorem Phase.Followed.rename (followed : phase.Followed front current process)
    (other : Version) : phase.Followed (front ++ [.rename other]) other process := by
  cases phase with
  | opened | hashing | verified =>
    rcases followed with ⟨⟨request, started⟩, _⟩
    exact ⟨⟨request, mem_append_left _ started⟩,
      .inr ⟨request, other, (singleton_sublist.mpr started).append (.refl _)⟩⟩
  | reopened => exact followed
  | idle | accepted | failed => trivial

theorem Followed.step {version : Version} (followed : Followed version front state)
    (quiet : ∀ process request other,
      ¬[.start process request, .rename other, .reopen process] <+ front ++ [event])
    (occurs : step state event = some next) : Followed version (front ++ [event]) next := by
  have enter : ∀ {process phase} {after : State}, after.current = state.current →
      after.installed = state.installed → after.phase = update state.phase process phase →
      phase.Followed (front ++ [event]) state.current process →
        Followed version (front ++ [event]) after := by
    intro process phase after current installed phases entered
    refine ⟨fun other present => ?_, ?_⟩
    · rw [installed] at present
      rw [filterMap_append, ← cons_append]
      exact mem_append_left _ (followed.installed other present)
    · rw [phases, current]
      exact (forall_update_iff _ fun process (phase : Phase) =>
        phase.Followed (front ++ [event]) state.current process).mpr
          ⟨entered, fun process _ => (followed.phases process).later event⟩
  cases event <;> simp only [Validation.step] at occurs
  case rename other =>
    cases occurs
    refine ⟨?_, fun process => (followed.phases process).rename other⟩
    rw [filterMap_append, ← cons_append]
    refine forall_mem_cons.mpr ⟨mem_append_right _ mem_cons_self, fun installed present => ?_⟩
    exact mem_append_left _ (followed.installed installed present)
  case start process request =>
    split at occurs
    · split at occurs
      · cases occurs
        exact enter rfl rfl rfl trivial
      · cases occurs
        exact enter rfl rfl rfl ⟨⟨request, mem_append_right _ mem_cons_self⟩, .inl rfl⟩
    · cases occurs
  case consult process readable =>
    split at occurs
    · rename_i request version at_
      have known := (followed.phases process).later (.consult process readable)
      rw [at_] at known
      by_cases found : recordMatches (if readable then state.marker else none) request
          version.contentIdentity = true
      · rw [if_pos found] at occurs
        cases occurs
        exact enter rfl rfl rfl trivial
      · rw [if_neg found] at occurs
        cases occurs
        exact enter rfl rfl rfl known
    · cases occurs
  case read process count =>
    split at occurs
    · rename_i at_
      have known := (followed.phases process).later (.read process count)
      rw [at_] at known
      split at occurs
      · cases occurs
        unfold State.finish
        split
        · exact enter rfl rfl rfl trivial
        · split
          · exact enter rfl rfl rfl trivial
          · exact enter rfl rfl rfl known
      · cases occurs
        exact enter rfl rfl rfl known
    · cases occurs
  case reopen process =>
    split at occurs
    · rename_i at_
      have known := followed.phases process
      rw [at_] at known
      split at occurs
      · cases occurs
        exact enter rfl rfl rfl trivial
      · cases occurs
        refine enter rfl rfl rfl (known.2.resolve_right ?_).symm
        exact fun ⟨request, other, renamed⟩ => quiet process request other
          (renamed.append (.refl _))
    · cases occurs
  case replace process =>
    split at occurs
    · cases occurs
      exact enter rfl rfl rfl trivial
    · cases occurs
  case fail process =>
    cases occurs
    exact enter rfl rfl rfl trivial

theorem Quiet.each {version : Version} {events : List Event} :
    ∀ {front : List Event} {state : State}, Followed version front state →
      Quiet version (front ++ events) → Each step Undisturbed state events := by
  induction events with
  | nil => exact fun _ _ => trivial
  | cons event events induction =>
    intro front state followed quiet next occurs
    have whole : front ++ event :: events = (front ++ [event]) ++ events := by simp
    constructor
    · cases event with
      | rename other =>
        intro installed present same
        have distinct := quiet.identities
        rw [filterMap_append, ← cons_append, map_append] at distinct
        exact (nodup_append.mp distinct).2.2 _
          (mem_map_of_mem (followed.installed installed present)) _ mem_cons_self same.symm
      | replace process =>
        intro request version found reopened
        have known := followed.phases process
        rwa [reopened] at known
      | start | consult | read | reopen | fail => trivial
    · rw [whole] at quiet
      refine induction (followed.step (fun process request other found => ?_) occurs) quiet
      exact quiet.openings process request other (found.trans (sublist_append_left _ _))

theorem Followed.initial : Followed version [] (.initial version) where
  installed := fun _ => id
  phases _ := trivial

def firstFile : Version := ⟨1, 10, 0, [0]⟩

def secondFile : Version := ⟨1, 11, 0, [1]⟩

def firstRequest : Request := ⟨digestOf [0], 1⟩

def secondRequest : Request := ⟨digestOf [1], 1⟩

/-- A validator reads, publishes, and another one accepts the file from the record. -/
def validate (first second : Nat) (request : Request) : List Event :=
  [.start first request, .consult first true, .read first 0, .read first 0, .reopen first,
    .replace first, .start second request, .consult second true]

/-- The payload is replaced between two rounds. -/
def rounds : List Event :=
  validate 0 1 firstRequest ++ .rename secondFile :: validate 2 3 secondRequest

theorem rounds_quiet : Quiet firstFile rounds where
  openings process request other found := by
    simp [rounds, validate, cons_sublist_cons'] at found
    omega
  identities := by decide

/-- If no rename falls between the two openings of a validator, its record is sound. -/
theorem undisturbed_sound {events : List Event}
    (undisturbed : Each step Undisturbed (.initial version) events) :
    Throughout step Sound (.initial version) events :=
  (undisturbed.throughout Trusted.step (.initial version)).mono fun _ => Trusted.sound

theorem undisturbed_rounds :
    (run step (.initial firstFile) rounds).map (fun state => (state.published, state.phase 3)) =
      some ([secondRequest.recordOf secondFile, firstRequest.recordOf firstFile],
        .accepted secondRequest secondFile) ∧
    Throughout step Sound (.initial firstFile) rounds :=
  ⟨by decide +kernel, undisturbed_sound _ (Quiet.each (.initial _) rounds_quiet)⟩

/-- Where no rename falls between the two openings of a validator and no identity is used
again, every record which is published names a file that was hashed to its digest, and every
file which is accepted has been hashed. -/
theorem quiet_sound {version : Version} {events : List Event} (quiet : Quiet version events) :
    Throughout step Sound (.initial version) events := by
  have each : Each step Undisturbed (.initial version) events :=
    Quiet.each (Followed.initial version) quiet
  exact (each.throughout Trusted.step (.initial version)).mono fun _ => Trusted.sound

theorem rounds_sound :
    (run step (.initial firstFile) rounds).map
        (fun state => (state.published, state.phase 1, state.phase 3)) =
      some ([secondRequest.recordOf secondFile, firstRequest.recordOf firstFile],
        .accepted firstRequest firstFile, .accepted secondRequest secondFile) ∧
    Throughout step Sound (.initial firstFile) rounds :=
  ⟨by decide +kernel, quiet_sound rounds_quiet⟩

def overtaken : List Event :=
  [.start 0 firstRequest, .consult 0 true, .read 0 0, .read 0 0, .rename secondFile, .reopen 0,
    .replace 0, .start 1 firstRequest, .consult 1 true]

theorem overtaken_unsound :
    (run step (.initial firstFile) overtaken).map
        (fun state => (state.published, state.phase 1, state.hashed)) =
      some ([firstRequest.recordOf secondFile], .accepted firstRequest secondFile,
        [(firstFile, digestOf [0])]) := by
  decide +kernel

end Coldsnap.Validation
