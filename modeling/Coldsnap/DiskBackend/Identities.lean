import Coldsnap.DiskBackend.OwnershipCorrect
import Coldsnap.Topology.Graph
import Mathlib.Data.List.Infix

/-! # Telling workers apart by their names

Identities and snapshot directories are recognised by the text in front of the host. An
identifier may contain `-host-`, and then this text does not tell where the identifier ends.
-/

namespace Coldsnap.DiskBackend

open Python Checked List

def processTemplateName (workerId : String) : String :=
  "worker-id-" ++ workerId ++ "-process-template"

def directoryIdentity (setting : Setting) (processTemplatePhase : Bool) : String :=
  if processTemplatePhase then processTemplateName setting.workerId else identity setting

def capturedProcessTemplateIdentityMatches [Builtins] (value : Json) (workerId : String)
    (expectedRank : Int) : Checked Bool :=
  match value with
  | .str text =>
    if !(workerMarker workerId).isPrefixOf text.toList then .ok false
    else
      match rpartition "-pid-".toList (text.toList.drop (workerMarker workerId).length) with
      | none => .ok false
      | some (hostAndRank, pid) =>
        match rpartition "-rank-".toList hostAndRank with
        | none => .ok false
        | some (host, rankText) =>
          if 0 ≤ expectedRank && host ≠ [] && rankText = (toString expectedRank).toList
              && Builtins.isDigit (String.ofList pid) then do
            let parsed ← (Json.str (String.ofList pid)).toInt
            return 0 < parsed
          else .ok false
  | _ => .ok false

/-- The directory of all workers. `locator` is the stripped text of a worker's file
`activation-directory-…`; a directory is activated if it has a file `activation-provider`. -/
structure SnapshotRoot where
  locator : String → Option String
  directories : List String
  activated : String → Bool

section

variable (setting : Setting)

def pidSuffix : List Char := s!"-pid-{setting.pid}".toList

def belongs (name : String) : Bool :=
  (workerMarker setting.workerId).isPrefixOf name.toList &&
    (pidSuffix setting).isSuffixOf name.toList

def directoryCandidates (root : SnapshotRoot) : List String :=
  root.directories.filter fun name =>
    let text := name.toList.take (name.toList.length - (pidSuffix setting).length)
    belongs setting name &&
      (rpartition "-rank-".toList (text.drop (workerMarker setting.workerId).length)).isSome

def snapshotDirectory [Builtins] (processTemplatePhase : Bool) (root : SnapshotRoot) :
    Checked String :=
  match root.locator setting.workerId with
  | some name => do
    let restored ← (if setting.processTemplateRestored then
        capturedProcessTemplateIdentityMatches (.str name) setting.workerId setting.rank
      else .ok false)
    -- `Path(name).name` is the name itself.
    require (name ≠ "" && name ≠ "." && !name.toList.contains '/' &&
        (name = processTemplateName setting.workerId || restored || belongs setting name) &&
        root.directories.contains name)
      (runtimeError "activation hydration directory does not belong to the live worker")
    return name
  | none =>
    let preferred := directoryIdentity setting processTemplatePhase
    let candidates := directoryCandidates setting root
    if root.directories.contains preferred || !processTemplatePhase then .ok preferred
    else
      match candidates, candidates.filter root.activated with
      | [path], _ => .ok path
      | _, [path] => .ok path
      | [], _ => .ok preferred
      | _, _ => .error
          (runtimeError "process-template hydration directory is ambiguous for the live worker")

end

inductive Accepts [Builtins] (workerId name : String) : Prop
  | native (rank pid : Int)
      (accepted : capturedNativeIdentityMatches (.str name) workerId rank pid = .ok true)
  | processTemplate (rank : Int)
      (accepted : capturedProcessTemplateIdentityMatches (.str name) workerId rank = .ok true)
  | portable (rank pid : Int)
      (accepted : portableIdentityMatches (.str name) workerId rank pid = true)
  | directory (setting : Setting) (processTemplatePhase : Bool) (root : SnapshotRoot)
      (own : setting.workerId = workerId)
      (returned : snapshotDirectory setting processTemplatePhase root = .ok name)

/-! ## Accepted names -/

variable {own other name : String} {setting : Setting}

theorem belongs_marked (belongs : belongs setting name = true) :
    workerMarker setting.workerId <+: name.toList := by
  simp only [DiskBackend.belongs, Bool.and_eq_true, isPrefixOf_iff_prefix] at belongs
  exact belongs.1

theorem processTemplate_marked [Builtins] {rank : Int}
    (accepted : capturedProcessTemplateIdentityMatches (.str name) own rank = .ok true) :
    workerMarker own <+: name.toList := by
  by_contra unmarked
  rw [← isPrefixOf_iff_prefix] at unmarked
  simp [capturedProcessTemplateIdentityMatches, unmarked] at accepted

theorem identity_marked (setting : Setting) :
    workerMarker setting.workerId <+: (identity setting).toList := by
  rw [identity_toList]
  exact prefix_append _ _

theorem snapshotDirectory_marked [Builtins] {processTemplatePhase : Bool} {root : SnapshotRoot}
    (returned : snapshotDirectory setting processTemplatePhase root = .ok name) :
    workerMarker setting.workerId <+: name.toList ∨
      name = processTemplateName setting.workerId := by
  have candidate : ∀ {path}, path ∈ directoryCandidates setting root →
      workerMarker setting.workerId <+: path.toList := by
    intro path member
    have kept := (mem_filter.mp member).2
    simp only [Bool.and_eq_true] at kept
    exact belongs_marked kept.1
  have preferred : workerMarker setting.workerId <+:
        (directoryIdentity setting processTemplatePhase).toList ∨
      directoryIdentity setting processTemplatePhase = processTemplateName setting.workerId := by
    cases processTemplatePhase with
    | true => exact .inr rfl
    | false => exact .inl (identity_marked setting)
  simp only [snapshotDirectory] at returned
  split at returned
  · simp only [bind_eq_ok, require_eq_ok, pure_eq_ok, Bool.and_eq_true, Bool.or_eq_true,
      decide_eq_true_eq] at returned
    rcases returned with ⟨restored, matched, _, ⟨⟨-, (template | accepted) | belongs⟩, -⟩, rfl⟩
    · exact .inr template
    · rw [accepted] at matched
      split at matched
      · exact .inl (processTemplate_marked matched)
      · cases matched
    · exact .inl (belongs_marked belongs)
  · split at returned
    · cases returned
      exact preferred
    · split at returned
      · next only =>
          cases returned
          exact .inl (candidate (only ▸ mem_cons_self))
      · next only _ =>
          cases returned
          exact .inl (candidate (mem_of_mem_filter (only ▸ mem_cons_self)))
      · cases returned
        exact preferred
      · cases returned

theorem Accepts.marked [Builtins] (accepts : Accepts own name) :
    workerMarker own <+: name.toList ∨ name = processTemplateName own := by
  cases accepts with
  | native rank pid accepted =>
    left
    by_contra unmarked
    rw [← isPrefixOf_iff_prefix] at unmarked
    simp only [capturedNativeIdentityMatches, unmarked] at accepted
    split at accepted <;> simp at accepted
  | processTemplate rank accepted => exact .inl (processTemplate_marked accepted)
  | portable rank pid accepted =>
    simp only [portableIdentityMatches, Bool.and_eq_true, isPrefixOf_iff_prefix] at accepted
    exact .inl accepted.1.2
  | directory setting phase root same returned =>
    cases same
    exact snapshotDirectory_marked returned

/-! ## Confused names -/

/-- What is left of one identifier's marker behind another identifier, if the name of a process
template continues it. -/
theorem prefix_host_of_prefix_template {rest : List Char}
    (first : rest <+: "-process-template".toList)
    (last : rest <:+ "-host-".toList ∨ "-host-".toList <:+ rest) : rest <+: "-host-".toList := by
  have all : ∀ rest ∈ "-process-template".toList.inits,
      rest <:+ "-host-".toList ∨ "-host-".toList <:+ rest → rest <+: "-host-".toList := by decide
  exact all rest ((mem_inits _ _).mpr first) last

theorem template_marked (marked : workerMarker own <+: (processTemplateName other).toList) :
    workerMarker own <+: workerMarker other := by
  rw [processTemplateName, String.toList_append] at marked
  rw [workerMarker.eq_1 other, String.toList_append]
  rcases prefix_or_prefix_of_prefix marked (prefix_append _ _) with short | ⟨rest, whole⟩
  · exact short.trans (prefix_append _ _)
  · rw [← whole, prefix_append_right_inj] at marked
    rw [← whole, prefix_append_right_inj]
    have first : rest <:+ workerMarker own := ⟨_, whole⟩
    have second : "-host-".toList <:+ workerMarker own := ⟨_, (String.toList_append ..).symm⟩
    exact prefix_host_of_prefix_template marked (suffix_or_suffix_of_suffix first second)

theorem accepts_identity [Builtins] (marked : workerMarker own <+: (identity setting).toList) :
    Accepts own (identity setting) := by
  apply Accepts.portable setting.rank setting.pid
  have accepted := portableIdentityMatches_own setting
  simp only [portableIdentityMatches, Bool.and_eq_true, isPrefixOf_iff_prefix] at accepted ⊢
  exact ⟨⟨accepted.1.1, marked⟩, accepted.2⟩

theorem colon_notMem_workerMarker (admitted : Topology.idPattern own = true) :
    ':' ∉ workerMarker own := by
  have plain : ':' ∉ own.toList := by
    intro colon
    rw [Topology.idPattern] at admitted
    split at admitted
    · next empty =>
        rw [empty] at colon
        cases colon
    · next first rest text =>
        simp only [Bool.and_eq_true, all_eq_true] at admitted
        rw [text] at colon
        rcases mem_cons.mp colon with rfl | later
        · exact absurd admitted.1.1 (by decide)
        · exact absurd (admitted.2 _ later) (by decide)
  simp [workerMarker, plain]

theorem hostText_plain (plain : ':' ∉ setting.host.toList) :
    (hostText setting).toList = setting.host.toList := by
  rw [hostText, String.toList_map]
  nth_rewrite 2 [← map_id setting.host.toList]
  apply map_congr_left
  rintro character member
  rw [if_neg (ne_of_mem_of_not_mem member plain), id]

def workerOn (workerId host : String) : Setting :=
  { Setting.oneWeight 4096 4096 page_positive page_positive with workerId, host }

/-- No worker of one identifier takes a name of the other one for its own exactly if neither
marker continues the other. -/
theorem names_apart_iff [Builtins] {own other : String} (admitted : Topology.idPattern own = true)
    (distinct : own ≠ other) :
    (∀ setting : Setting, setting.workerId = other → ∀ processTemplatePhase,
      ¬Accepts own (directoryIdentity setting processTemplatePhase)) ↔
    ¬workerMarker own <+: workerMarker other ∧ ¬workerMarker other <+: workerMarker own := by
  constructor
  · intro apart
    constructor
    · intro continues
      apply apart (workerOn other "") rfl false
      exact accepts_identity (continues.trans (identity_marked (workerOn other "")))
    · rintro ⟨rest, whole⟩
      apply apart (workerOn other (String.ofList rest)) rfl false
      apply accepts_identity
      rw [identity_toList, ← append_assoc, hostText_plain, workerOn, String.toList_ofList, whole]
      · exact prefix_append _ _
      · intro colon
        apply colon_notMem_workerMarker admitted
        rw [← whole]
        apply mem_append_right
        simpa [workerOn] using colon
  · rintro ⟨notOwn, notOther⟩ setting rfl phase accepts
    rcases accepts.marked with marked | template
    · cases phase with
      | true => exact notOwn (template_marked marked)
      | false =>
        rcases prefix_or_prefix_of_prefix marked (identity_marked setting) with first | second
        · exact notOwn first
        · exact notOther second
    · cases phase with
      | true =>
        apply distinct
        have texts := congrArg String.toList template
        simpa [directoryIdentity, processTemplateName, String.toList_inj] using texts.symm
      | false =>
        apply notOther
        apply template_marked
        rw [← template]
        exact identity_marked setting

theorem names_apart_plain :
    (Topology.idPattern "w0" = true ∧ "w0" ≠ "w1") ∧
      ∀ setting : Setting, setting.workerId = "w1" → ∀ processTemplatePhase,
        ¬@Accepts Builtins.decimal "w0" (directoryIdentity setting processTemplatePhase) := by
  refine ⟨by decide, ?_⟩
  apply (@names_apart_iff Builtins.decimal "w0" "w1" (by decide) (by decide)).mpr
  decide

/-- A worker takes the identity of another one for its own. -/
theorem names_confused :
    Topology.idPattern "a" = true ∧ Topology.idPattern "a-host-b" = true ∧
      identity (workerOn "a-host-b" "h") = "worker-id-a-host-b-host-h-rank-0-pid-7" ∧
      portableIdentityMatches (.str "worker-id-a-host-b-host-h-rank-0-pid-7") "a" 0 7 = true := by
  decide +kernel

end Coldsnap.DiskBackend
