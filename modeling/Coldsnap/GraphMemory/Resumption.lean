import Coldsnap.GraphMemory.Bookkeeping

/-! # When a resume brings everything back

`coldsnap_graph_resume` visits the matching records one after the other. It
returns zero exactly when each of them is active or without any mapping, in the
record and in the driver.
-/

namespace Coldsnap.GraphMemory

open Program List

def World.Resumes (world : World) (allocation : Allocation) : Prop :=
  ∃ range, world.driver.ranges allocation.address = some range ∧ Resumable allocation range

/-- The allocation is mapped and accessible at its address, in its size. -/
structure World.Backs (world : World) (allocation : Allocation) : Prop where
  recorded : ∃ resumed ∈ world.allocations,
    resumed.identity = allocation.identity ∧ resumed.state = .active
  reserved : ∃ range, world.driver.ranges allocation.address = some range ∧
    range.size = allocation.mappedSize ∧ range.mapping.isSome = true ∧ range.accessible = true

/-- A resume of the matching records has come past `seen`. -/
structure Progress (promise : Promise) (hardware : Hardware) (selects : Allocation → Bool)
    (start now : World) (seen : List Allocation) : Prop where
  sound : Sound promise hardware now
  done : ∀ allocation ∈ seen, selects allocation = true →
    start.Resumes allocation ∧ now.Backs allocation
  waiting : ∀ allocation ∈ start.allocations, allocation ∉ seen →
    allocation ∈ now.allocations ∧
      now.driver.ranges allocation.address = start.driver.ranges allocation.address

section Resume

variable {promise : Promise} {hardware : Hardware} {thread : Nat} {start middle now : World}
variable {selects : Allocation → Bool} {seen : List Allocation}

theorem Progress.blind : Blind fun world => Progress promise hardware selects start world seen := by
  intro world thread update progress
  refine ⟨progress.sound.blind promise hardware world thread update, ?_, progress.waiting⟩
  intro allocation member selected
  have done := progress.done allocation member selected
  exact ⟨done.1, done.2.recorded, done.2.reserved⟩

variable {resumed allocation : Allocation}

/-- What backs an allocation is not touched by work on another record. -/
theorem World.Backs.elsewhere {other : Allocation} {range : Range} (backs : middle.Backs other)
    (focus : Focus middle resumed range now) (same : resumed.identity = allocation.identity)
    (different : other.address ≠ allocation.address) : now.Backs other := by
  have apart : other.address ≠ resumed.address := by
    rwa [Allocation.address_of_identity same]
  rcases backs with ⟨⟨active, listed, equal, state⟩, reserved⟩
  constructor
  · refine ⟨active, ?_, equal, state⟩
    rw [focus.allocations]
    apply mem_store_other listed
    rwa [Allocation.address_of_identity equal]
  · rw [focus.elsewhere apart]
    exact reserved

theorem Restored.backs {original : Allocation} (listed : original ∈ middle.allocations)
    (restored : Restored promise middle now original resumed) : now.Backs original := by
  rcases restored with ⟨same, active, range, focus, faithful, mapped, accessible⟩
  have equal := Allocation.address_of_identity same
  constructor
  · refine ⟨resumed, ?_, same, active⟩
    rw [focus.allocations]
    exact mem_map.mpr ⟨original, listed, if_pos equal.symm⟩
  · refine ⟨range, ?_, ?_, mapped, accessible⟩
    · rw [← equal]
      exact focus.here
    · rw [faithful.sized, Allocation.mappedSize_of_identity same]

theorem Progress.advance (progress : Progress promise hardware selects start middle seen)
    (distinct : (start.allocations.map Allocation.address).Nodup)
    (visited : ∀ other ∈ seen, other ∈ start.allocations) (listed : allocation ∈ start.allocations)
    (unseen : allocation ∉ seen) (restored : Restored promise middle now allocation resumed)
    (resumes : start.Resumes allocation) :
    Progress promise hardware selects start now (seen ++ [allocation]) := by
  have here := (progress.waiting allocation listed unseen).1
  have backs := restored.backs here
  have separate : ∀ other ∈ start.allocations, other ≠ allocation →
      other.address ≠ allocation.address :=
    fun other member different equal =>
      different (inj_on_of_nodup_map distinct member listed equal)
  rcases restored with ⟨same, _, range, focus, faithful, _, _⟩
  refine ⟨focus.sound progress.sound here same faithful, ?_, ?_⟩
  · intro other member selected
    rcases mem_append.mp member with earlier | last
    · have done := progress.done other earlier selected
      have different : other ≠ allocation := fun equal => unseen (equal ▸ earlier)
      exact ⟨done.1, done.2.elsewhere focus same (separate other (visited other earlier) different)⟩
    · cases mem_singleton.mp last
      exact ⟨resumes, backs⟩
  · intro other member fresh
    rw [mem_append, mem_singleton, not_or] at fresh
    have waiting := progress.waiting other member fresh.1
    have different := separate other member fresh.2
    have apart : other.address ≠ resumed.address := by
      rwa [Allocation.address_of_identity same]
    refine ⟨?_, (focus.elsewhere apart).trans waiting.2⟩
    rw [focus.allocations]
    exact mem_store_other waiting.1 apart

theorem resumeEach_keeps (starts : Sound promise hardware start)
    (calm : promise.calm → ∀ allocation ∈ start.allocations, selects allocation = true →
      start.Resumes allocation) :
    promise.Keeps (Progress promise hardware selects start · []) (Program.forEach
        (fun allocation => Program.onlyIf (selects allocation)
          (resumeAllocation hardware thread allocation))
        start.allocations)
      (fun _ now => Progress promise hardware selects start now start.allocations)
      (Halted promise hardware) := by
  apply Triple.eachSeen fun seen now => Progress promise hardware selects start now seen
  intro seen allocation rest split
  have listed : allocation ∈ start.allocations := by simp [split]
  have visited : ∀ other ∈ seen, other ∈ start.allocations := by
    intro other member
    simp [split, member]
  have unseen : allocation ∉ seen := by
    have distinct := starts.distinct.of_map
    rw [split] at distinct
    exact fun member => (nodup_append.mp distinct).2.2 allocation member allocation
      mem_cons_self rfl
  apply Triple.onlyIf
  · intro selected
    apply Triple.pinned
    intro middle progress
    rcases progress.waiting allocation listed unseen with ⟨here, kept⟩
    rcases starts.faithful allocation listed with ⟨range, reserved, _⟩
    have resumable : promise.calm → Resumable allocation range := by
      intro holds
      rcases calm holds allocation listed selected with ⟨found, present, able⟩
      rw [reserved] at present
      cases present
      exact able
    apply Triple.consequence
      (resumeAllocation_keeps progress.sound here (kept.trans reserved) resumable) _
      (fun _ => id) _ fun _ _ => id
    · rintro _ rfl
      exact Focus.opened progress.sound here (kept.trans reserved)
    · rintro _ now ⟨⟨resumed, restored⟩, able⟩
      exact progress.advance starts.distinct visited listed unseen restored ⟨range, reserved, able⟩
  · intro unselected now progress
    refine ⟨progress.sound, ?_, ?_⟩
    · intro other member selected
      rcases mem_append.mp member with earlier | last
      · exact progress.done other earlier selected
      · cases mem_singleton.mp last
        rw [unselected] at selected
        cases selected
    · intro other member fresh
      exact progress.waiting other member fun earlier =>
        fresh (mem_append_left _ earlier)

/-- `coldsnap_graph_resume` returns zero after resuming every matching record, and
`-1` otherwise. When nothing fails and every matching record can be resumed, it
returns zero. -/
theorem graphResume_keeps {tag : String} {device : Int} (starts : Sound promise hardware start)
    (calm : promise.calm → start.activeScopeCount = 0 ∧
      ∀ allocation ∈ start.allocations, allocation.isSelected tag device = true →
        start.Resumes allocation) :
    promise.Keeps (fun now => now = start) (graphResume hardware thread tag device)
      (fun code now => (code = 0 ∧ Progress promise hardware (·.isSelected tag device) start now
        start.allocations) ∨ (code = -1 ∧ Halted promise hardware now)) (fun _ => False) := by
  have blind := Halted.blind promise hardware
  have opened : Progress promise hardware (·.isSelected tag device) start start [] :=
    ⟨starts, forall_mem_nil _, fun _ listed _ => ⟨listed, rfl⟩⟩
  have scopes : promise.Keeps (fun now => now = start)
      (Program.onlyIf (start.activeScopeCount != 0) (refuse thread
        "cannot resume CUDA graph backing during active graph capture" cudaErrorUnknown))
      (fun _ now => now = start) (Halted promise hardware) := by
    apply Triple.onlyIf
    · intro busy
      apply refuse_keeps blind
      rintro _ rfl
      refine ⟨starts, fun holds => ?_⟩
      simp [(calm holds).1] at busy
    · exact fun _ _ => id
  apply Triple.recover
  · apply Triple.through fun _ now =>
      Progress promise hardware (·.isSelected tag device) start now start.allocations
    · have reads : ∀ {α : Type} (project : World → α), promise.Keeps (fun now => now = start)
          (Program.read project) (fun value now => now = start ∧ value = project start)
          (Halted promise hardware) := by
        intro α project
        apply Triple.read
        rintro _ rfl
        exact ⟨rfl, rfl⟩
      apply Triple.bind (reads World.activeScopeCount)
      intro count
      apply Triple.assuming
      rintro rfl
      apply Triple.bind scopes
      intro _
      apply Triple.bind (reads World.allocations)
      intro allocations
      apply Triple.assuming
      rintro rfl
      apply Triple.bind (Triple.starting _ (resumeEach_keeps starts fun holds => (calm holds).2))
      · intro _
        exact synchronizeMatchingDevices_keeps
          (fun calmless _ progress => ⟨progress.sound, calmless⟩) Progress.blind blind
      · rintro _ rfl
        exact opened
    intro _
    exact Triple.pure fun _ progress => .inl ⟨rfl, progress⟩
  · intro _
    exact Triple.pure fun _ halted => .inr ⟨rfl, halted⟩

end Resume

end Coldsnap.GraphMemory
