import Coldsnap.Foundation.Go
import Coldsnap.Foundation.Paths
import Coldsnap.Validation.Publication

/-! # Admission of a payload

`Validate` of `internal/payloadvalidation/validation.go`, run by any number of processes while
writers rename new files over the payload. The file that is hashed is the one that was opened, and
its identity is taken from the same descriptor, so a record names the file that was read.
-/

namespace Coldsnap.PayloadValidation

open Go Transitions Validation List Paths

structure Options where
  path : String
  record : String
  expectedSHA256 : String
  expectedBytes : Int
  worker : String
deriving DecidableEq

def recordSuffix : String := ".coldsnap-validation.json"

def validSHA256 (digits : List Char) : Bool :=
  digits.length = 64 &&
    digits.all fun character => character.isDigit || ('a' ≤ character && character ≤ 'f')

def normalize (options : Options) : Result (String × String × String) := do
  let path := clean options.path
  check (options.path ≠ "" && isAbs options.path && path = options.path &&
      !path.toList.contains (Char.ofNat 0))
    "model payload path must be clean and absolute"
  let recordPath := if options.record = "" then path ++ recordSuffix else options.record
  check (clean recordPath = recordPath && recordPath = path ++ recordSuffix)
    "model payload validation record must use the canonical adjacent path"
  check (0 ≤ options.expectedBytes) "expected model payload bytes cannot be negative"
  check (options.expectedSHA256 = "" ||
      ("sha256:".toList.isPrefixOf options.expectedSHA256.toList &&
        validSHA256 (options.expectedSHA256.toList.drop 7)))
    "expected model payload SHA-256 is not canonical"
  return (path, recordPath, options.expectedSHA256)

structure DiagnosticIdentity where
  cTimeNS : Int
  uid : Nat
  gid : Nat
  mode : Nat
deriving DecidableEq

structure Expected where
  bytes : Int
  sha256 : String
deriving DecidableEq

structure Record where
  format : Int
  kind : String
  provider : String
  blob : String
  expected : Expected
  contentIdentity : Identity
  diagnosticIdentity : DiagnosticIdentity
  contentEvidence : String
deriving DecidableEq

def recordMatches (record : Record) (blob expectedSHA256 : String) (expectedBytes : Int)
    (identity : Identity) : Bool :=
  record.format = 1 && record.kind = "coldsnap-payload-validation" &&
    record.provider = "sha256-cache-v1" && record.blob = blob &&
    record.expected = ⟨expectedBytes, expectedSHA256⟩ && record.contentIdentity = identity

structure Evidence where
  record : String
  provider : String
  contentEvidence : String
  reason : String
  identity : Identity
  diagnostics : DiagnosticIdentity
  bytesHashed : Nat
deriving DecidableEq

structure Admission where
  format : Int
  kind : String
  decision : String
  worker : String
  path : String
  bytes : Nat
  sha256 : String
  validation : Evidence
deriving DecidableEq

def admission (options : Options) (identity : Identity) (diagnostics : DiagnosticIdentity)
    (digest evidence reason : String) (bytesHashed : Nat) : Admission where
  format := 1
  kind := "coldsnap-payload-validation-result"
  decision := "accept"
  worker := options.worker
  path := options.path
  bytes := identity.size
  sha256 := digest
  validation := ⟨options.path ++ recordSuffix, "sha256-cache-v1", evidence, reason, identity,
    diagnostics, bytesHashed⟩

/-- What a validator holds from its first look at the payload on. Open descriptors keep their
file. -/
structure Opened where
  options : Options
  version : Version
  diagnostics : DiagnosticIdentity
deriving DecidableEq

inductive Phase where
  | idle
  | opened (opened : Opened)
  | hashing (opened : Opened) (read : List UInt8)
  | hashed (opened : Opened) (digest : String) (bytesHashed : Nat)
  | publishing (opened : Opened) (record : Record) (bytesHashed : Nat)
  | admitted (opened : Opened) (admission : Admission)
  | failed (message : String)
deriving DecidableEq

structure State where
  /-- The file under the name of the payload, and all files that ever were there. -/
  current : Option Version
  installed : List Version
  marker : Option Record
  phase : Nat → Phase
  /-- The files which have been read to their ends, with the digests. -/
  read : List (Version × String)

def State.initial (current : Option Version) : State :=
  ⟨current, current.toList, none, fun _ => .idle, []⟩

inductive Event where
  | rename (version : Version)
  | start (process : Nat) (options : Options) (diagnostics : DiagnosticIdentity)
  | consult (process : Nat) (readable : Bool)
  /-- A read returns at most `count + 1` bytes, and none only at the end of the file. -/
  | read (process count : Nat)
  | restat (process : Nat) (diagnostics : DiagnosticIdentity)
  | publish (process : Nat) (synced : Bool)
  | fail (process : Nat) (message : String)

def State.enter (state : State) (process : Nat) (phase : Phase) : State :=
  { state with phase := Function.update state.phase process phase }

@[simp] theorem State.enter_self (state : State) (process : Nat) (phase : Phase) :
    (state.enter process phase).phase process = phase := by
  simp [State.enter]

@[simp] theorem State.enter_other (state : State) {process other : Nat}
    (different : other ≠ process) (phase : Phase) :
    (state.enter process phase).phase other = state.phase other := by
  simp [State.enter, different]

def start (options : Options) (current : Option Version) (diagnostics : DiagnosticIdentity) :
    Phase :=
  match normalize options, current with
  | .error message, _ => .failed message
  | .ok _, none => .failed "open model payload"
  | .ok _, some version =>
    if 0 < options.expectedBytes &&
        (version.contentIdentity.size : Int) ≠ options.expectedBytes then
      .failed s!"model payload size differs from the committed artifact: expected={
        options.expectedBytes} actual={version.contentIdentity.size}"
    else .opened ⟨options, version, diagnostics⟩

def consult (opened : Opened) (record : Option Record) : Phase :=
  let options := opened.options
  let identity := opened.version.contentIdentity
  if options.expectedSHA256 ≠ "" && 0 < options.expectedBytes &&
      record.any fun record => recordMatches record (base options.path)
        options.expectedSHA256 options.expectedBytes identity then
    .admitted opened (admission options identity opened.diagnostics options.expectedSHA256
      "cached-full-sha256" "cached_validation" 0)
  else .hashing opened []

def compare (opened : Opened) (after : Identity) (diagnostics : DiagnosticIdentity)
    (actualSHA256 : String) (bytesHashed : Nat) : Phase :=
  let options := opened.options
  if opened.version.contentIdentity ≠ after then
    .failed "model payload changed during validation"
  else if options.expectedSHA256 ≠ "" && actualSHA256 ≠ options.expectedSHA256 then
    .failed s!"model payload digest differs from the committed artifact: expected={
      options.expectedSHA256} actual={actualSHA256}"
  else
    let expectedSHA256 :=
      if options.expectedSHA256 = "" then actualSHA256 else options.expectedSHA256
    let expectedBytes := if options.expectedBytes = 0 then (after.size : Int)
      else options.expectedBytes
    .publishing { opened with diagnostics } {
      format := 1
      kind := "coldsnap-payload-validation"
      provider := "sha256-cache-v1"
      blob := base options.path
      expected := ⟨expectedBytes, expectedSHA256⟩
      contentIdentity := after
      diagnosticIdentity := diagnostics
      contentEvidence := "full-sha256-this-operation" } bytesHashed

def conclude (opened : Opened) (record : Record) (bytesHashed : Nat) (synced : Bool) : Phase :=
  if synced then
    .admitted opened (admission opened.options record.contentIdentity record.diagnosticIdentity
      record.expected.sha256 "full-sha256-this-operation" "revalidated_existing" bytesHashed)
  else .failed "publish model payload validation record"

def step (path : String) (state : State) : Event → Option State
  | .rename version =>
    some { state with current := some version, installed := version :: state.installed }
  | .start process options diagnostics =>
    match state.phase process with
    | .idle =>
      if options.path = path then
        some (state.enter process (start options state.current diagnostics))
      else none
    | _ => none
  | .consult process readable =>
    match state.phase process with
    | .opened opened =>
      some (state.enter process (consult opened (if readable then state.marker else none)))
    | _ => none
  | .read process count =>
    match state.phase process with
    | .hashing opened read =>
      let chunk := (opened.version.content.drop read.length).take (count + 1)
      if chunk = [] then
        some ({ state with read := (opened.version, digestOf read) :: state.read }.enter process
          (.hashed opened (digestOf read) read.length))
      else some (state.enter process (.hashing opened (read ++ chunk)))
    | _ => none
  | .restat process diagnostics =>
    match state.phase process with
    | .hashed opened digest bytesHashed =>
      some (state.enter process
        (compare opened opened.version.contentIdentity diagnostics digest bytesHashed))
    | _ => none
  | .publish process synced =>
    match state.phase process with
    | .publishing opened record bytesHashed =>
      some ({ state with marker := some record }.enter process
        (conclude opened record bytesHashed synced))
    | _ => none
  | .fail process message => some (state.enter process (.failed message))

/-- An admission speaks of the file which the validator has opened: this has been read to its end
with the digest which the admission shows, and that is the expected one where one is expected. -/
structure Vouched (state : State) (opened : Opened) (admission : Admission) : Prop where
  installed : opened.version ∈ state.installed
  identity : admission.validation.identity = opened.version.contentIdentity
  digest : admission.sha256 = digestOf opened.version.content
  expected : opened.options.expectedSHA256 = "" ∨ admission.sha256 = opened.options.expectedSHA256
  read : (opened.version, admission.sha256) ∈ state.read

/-- A record was made for a file which has been read to its end. -/
structure Record.Truthful (record : Record) (state : State) (version : Version) : Prop where
  installed : version ∈ state.installed
  identity : record.contentIdentity = version.contentIdentity
  read : (version, record.expected.sha256) ∈ state.read

/-- What is known about a validator which has come so far. -/
def Phase.Backed (state : State) : Phase → Prop
  | .idle => True
  | .opened file => file.version ∈ state.installed
  | .hashing file read => file.version ∈ state.installed ∧ read <+: file.version.content
  | .hashed file digest _ => file.version ∈ state.installed ∧ (file.version, digest) ∈ state.read
  | .publishing file record _ =>
    record.Truthful state file.version ∧
      (file.options.expectedSHA256 = "" ∨ record.expected.sha256 = file.options.expectedSHA256)
  | .admitted file admission => Vouched state file admission
  | .failed _ => True

theorem Phase.Backed.mono {before after : State} {phase : Phase} (backed : phase.Backed before)
    (installed : before.installed ⊆ after.installed) (read : before.read ⊆ after.read) :
    phase.Backed after := by
  cases phase with
  | idle => trivial
  | opened opened => exact installed backed
  | hashing opened done => exact ⟨installed backed.1, backed.2⟩
  | hashed opened digest bytesHashed => exact ⟨installed backed.1, read backed.2⟩
  | publishing opened record bytesHashed =>
    rcases backed with ⟨truthful, expected⟩
    exact ⟨⟨installed truthful.installed, truthful.identity, read truthful.read⟩, expected⟩
  | admitted opened admission =>
    exact ⟨installed backed.installed, backed.identity, backed.digest, backed.expected,
      read backed.read⟩
  | failed message => trivial

/-- What holds in every state, where the files which are ever installed are among some. -/
structure Consistent (versions : List Version) (state : State) : Prop where
  among : state.installed ⊆ versions
  present : ∀ version, state.current = some version → version ∈ state.installed
  backed : ∀ process, (state.phase process).Backed state
  marker : ∀ record, state.marker = some record → ∃ version, record.Truthful state version
  whole : ∀ entry ∈ state.read, entry.2 = digestOf entry.1.content

/-- Device, inode, size and modification time identify a version. -/
def Identified (versions : List Version) : Prop :=
  ∀ first ∈ versions, ∀ second ∈ versions,
    first.contentIdentity = second.contentIdentity → first = second

instance identifiedDecidable (versions : List Version) : Decidable (Identified versions) :=
  inferInstanceAs (Decidable (∀ first ∈ versions, ∀ second ∈ versions, _ → _))

variable {versions : List Version}

theorem Consistent.initial {current : Option Version} (among : current.toList ⊆ versions)
    : Consistent versions (.initial current) where
  among := among
  present version found := by
    exact Option.mem_toList.mpr found
  backed _ := trivial
  marker _ found := by cases found
  whole := nofun

variable {state : State}

section

variable (consistent : Consistent versions state)

include consistent

theorem Consistent.enter {process : Nat} {phase : Phase}
    (backed : phase.Backed state) : Consistent versions (state.enter process phase) where
  __ := consistent
  backed other := by
    by_cases same : other = process
    · subst same
      rw [State.enter_self]
      exact backed.mono (.refl _) (.refl _)
    · rw [State.enter_other _ same]
      exact (consistent.backed other).mono (.refl _) (.refl _)
  marker record found := by
    rcases consistent.marker record found with ⟨version, truthful⟩
    exact ⟨version, { truthful with }⟩

theorem Consistent.reads (version : Version) : Consistent versions
      { state with read := (version, digestOf version.content) :: state.read } where
  __ := consistent
  backed other := (consistent.backed other).mono (.refl _) (subset_cons_self ..)
  marker record found := by
    rcases consistent.marker record found with ⟨version, truthful⟩
    exact ⟨version, truthful.installed, truthful.identity, mem_cons_of_mem _ truthful.read⟩
  whole := forall_mem_cons.mpr ⟨rfl, consistent.whole⟩

theorem Consistent.marks {record : Record}
    {version : Version} (truthful : record.Truthful state version) :
    Consistent versions { state with marker := some record } where
  __ := consistent
  backed other := (consistent.backed other).mono (.refl _) (.refl _)
  marker other found := by
    cases found
    exact ⟨version, { truthful with }⟩

end

theorem start_backed {options : Options} {diagnostics : DiagnosticIdentity}
    (present : ∀ version, state.current = some version → version ∈ state.installed) :
    (start options state.current diagnostics).Backed state := by
  unfold start
  split
  · trivial
  · trivial
  · rename_i version _ found
    split
    · trivial
    · exact present version found

variable {opened : Opened}

/-- A record which matches the open file was made for it. -/
theorem consult_backed (identified : Identified versions) (consistent : Consistent versions state)
    (installed : opened.version ∈ state.installed) {record : Option Record}
    (marked : ∀ found, record = some found → state.marker = some found) :
    (consult opened record).Backed state := by
  unfold consult
  dsimp only
  split
  · rename_i cached
    rw [Bool.and_eq_true] at cached
    rcases (Option.any_eq_true ..).mp cached.2 with ⟨record, found, matching⟩
    rcases consistent.marker record (marked record found) with ⟨version, truthful⟩
    simp only [recordMatches, Bool.and_eq_true, decide_eq_true_eq] at matching
    rcases matching with ⟨⟨_, expected⟩, identity⟩
    have same := identified version (consistent.among truthful.installed) opened.version
        (consistent.among installed) (truthful.identity.symm.trans identity)
    have read := truthful.read
    rw [same, expected] at read
    exact ⟨installed, rfl, consistent.whole _ read, .inr rfl, read⟩
  · exact ⟨installed, nil_prefix⟩

theorem compare_backed {digest : String} (installed : opened.version ∈ state.installed)
    (read : (opened.version, digest) ∈ state.read) (diagnostics : DiagnosticIdentity)
    (bytesHashed : Nat) :
    (compare opened opened.version.contentIdentity diagnostics digest bytesHashed).Backed
      state := by
  rw [compare, if_neg (fun changed => changed rfl)]
  split
  · trivial
  · rename_i accepted
    by_cases discovered : opened.options.expectedSHA256 = ""
    · simp only [discovered, if_true]
      exact ⟨⟨installed, rfl, read⟩, .inl discovered⟩
    · have equal : digest = opened.options.expectedSHA256 := by
        simpa [discovered] using accepted
      simp only [discovered, if_false]
      exact ⟨⟨installed, rfl, equal ▸ read⟩, .inr rfl⟩

theorem conclude_backed {record : Record} (truthful : record.Truthful state opened.version)
    (expected : opened.options.expectedSHA256 = "" ∨
      record.expected.sha256 = opened.options.expectedSHA256)
    (whole : ∀ entry ∈ state.read, entry.2 = digestOf entry.1.content) (bytesHashed : Nat)
    (synced : Bool) : (conclude opened record bytesHashed synced).Backed state := by
  cases synced with
  | false => trivial
  | true =>
    exact ⟨truthful.installed, truthful.identity, whole _ truthful.read, expected, truthful.read⟩

theorem Consistent.step {path : String} {next : State} {event : Event}
    (identified : Identified versions) (consistent : Consistent versions state)
    (among : ∀ version, event = .rename version → version ∈ versions)
    (occurs : step path state event = some next) : Consistent versions next := by
  cases event <;> simp only [PayloadValidation.step] at occurs
  case rename version =>
    cases occurs
    exact {
      among := cons_subset.mpr ⟨among version rfl, consistent.among⟩
      present other found := by
        cases found
        exact mem_cons_self
      backed process := (consistent.backed process).mono (subset_cons_self ..) (.refl _)
      marker record found := by
        rcases consistent.marker record found with ⟨other, truthful⟩
        exact ⟨other, { truthful with installed := mem_cons_of_mem _ truthful.installed }⟩
      whole := consistent.whole }
  case start process options diagnostics =>
    split at occurs
    · split at occurs
      · cases occurs
        exact consistent.enter (start_backed consistent.present)
      · cases occurs
    · cases occurs
  case consult process readable =>
    split at occurs
    · rename_i file opened
      cases occurs
      have installed := consistent.backed process
      rw [opened] at installed
      apply consistent.enter
      apply consult_backed identified consistent installed
      intro record found
      cases readable with
      | true => exact found
      | false => cases found
    · cases occurs
  case read process count =>
    split at occurs
    · rename_i file done hashing
      have known := consistent.backed process
      rw [hashing] at known
      rcases known with ⟨installed, begun⟩
      rcases read_extends begun count with ⟨whole, more⟩
      split at occurs
      · rename_i ended
        cases occurs
        rw [whole ended]
        apply (consistent.reads file.version).enter
        exact ⟨installed, mem_cons_self⟩
      · cases occurs
        exact consistent.enter ⟨installed, more⟩
    · cases occurs
  case restat process diagnostics =>
    split at occurs
    · rename_i file digest bytesHashed hashed
      cases occurs
      have known := consistent.backed process
      rw [hashed] at known
      exact consistent.enter (compare_backed known.1 known.2 diagnostics bytesHashed)
    · cases occurs
  case publish process synced =>
    split at occurs
    · rename_i file record bytesHashed publishing
      cases occurs
      have known := consistent.backed process
      rw [publishing] at known
      rcases known with ⟨truthful, expected⟩
      apply (consistent.marks truthful).enter
      have concluded := conclude_backed truthful expected consistent.whole bytesHashed synced
      exact concluded.mono (.refl _) (.refl _)
    · cases occurs
  case fail process message =>
    cases occurs
    exact consistent.enter trivial

/-- The files which are under the name of the payload in the course of some events. -/
def versionsOf (current : Option Version) (events : List Event) : List Version :=
  current.toList ++ events.filterMap fun event =>
    match event with
    | .rename version => some version
    | _ => none

/-- In every interleaving, whatever a validator admits is a file which has been read to its end
with the expected digest. -/
theorem admissions_vouched (path : String) (current : Option Version) (events : List Event)
    (identified : Identified (versionsOf current events)) :
    Throughout (step path) (fun state => ∀ process opened admission,
        state.phase process = .admitted opened admission → Vouched state opened admission)
      (.initial current) events := by
  let versions := versionsOf current events
  have renamed : ∀ event ∈ events, ∀ version, event = .rename version → version ∈ versions := by
    rintro _ member version rfl
    exact mem_append_right _ (mem_filterMap.mpr ⟨_, member, rfl⟩)
  have kept : ∀ {state event next}, Consistent versions state →
      (∀ version, event = .rename version → version ∈ versions) →
      step path state event = some next → Consistent versions next :=
    fun consistent => consistent.step identified
  have initially : Consistent versions (.initial current) :=
    .initial (subset_append_left _ _)
  have consistent := (Each.of_mem renamed _).throughout kept initially
  apply consistent.mono
  intro state consistent process opened admission admitted
  have backed := consistent.backed process
  rwa [admitted] at backed

def firstOptions : Options :=
  ⟨"/models/payload.pack", "", digestOf firstFile.content, 1, "worker-0"⟩

def sameOwner : DiagnosticIdentity := ⟨0, 0, 0, 0x180⟩

/-- A validator hashes the first file. Before another one uses its record, that file is open, and
a writer renames the second file over it. -/
def usedAgain : List Event :=
  [.start 0 firstOptions sameOwner, .consult 0 true, .read 0 0, .read 0 0, .restat 0 sameOwner,
    .publish 0 true, .start 1 firstOptions sameOwner, .rename secondFile, .consult 1 true]

def Phase.reason : Phase → Option String
  | .admitted _ admission => some admission.validation.reason
  | _ => none

theorem usedAgain_vouched :
    (run (step "/models/payload.pack") (.initial (some firstFile)) usedAgain).map
        (fun state => ((state.phase 0).reason, (state.phase 1).reason)) =
      some (some "revalidated_existing", some "cached_validation") ∧
    Throughout (step "/models/payload.pack")
      (fun state => ∀ process opened admission,
        state.phase process = .admitted opened admission → Vouched state opened admission)
      (.initial (some firstFile)) usedAgain := by
  refine ⟨?_, ?_⟩
  · decide +kernel
  · exact admissions_vouched "/models/payload.pack" (some firstFile) usedAgain (by decide)

end Coldsnap.PayloadValidation
