import Coldsnap.Snapshot.Confinement

/-! # Derived caches and mounts

The paths of derived caches are compared with each other and with the targets of mounts by
their texts. For the other paths that is the comparison of their elements, but the text of the
root ends in a slash.
-/

namespace Coldsnap.Snapshot

open Go Marshal Coldsnap.Topology List Paths

/-- Neither path is the other one or lies below it. -/
def Unrelated (first second : String) : Prop :=
  ¬elements first <+: elements second ∧ ¬elements second <+: elements first

/-- Below the root, the text of a path puts a slash before every element. -/
def Rooted (path : String) : Prop := path.toList = (elements path).flatMap ('/' :: ·)

theorem slash_intercalate {parts : List Part} (some : parts ≠ []) :
    '/' :: ['/'].intercalate parts = parts.flatMap ('/' :: ·) := by
  induction parts with
  | nil => exact absurd rfl some
  | cons part parts induction =>
    cases parts with
    | nil => simp
    | cons next later =>
      rw [intercalate_cons_cons, flatMap_cons, ← induction (cons_ne_nil _ _)]
      simp

variable {path first second : String}

theorem rooted_of_text (text : path.toList = '/' :: ['/'].intercalate (elements path))
    (other : path ≠ "/") : Rooted path := by
  rw [Rooted, text, slash_intercalate]
  intro none
  rw [none] at text
  exact other (String.toList_inj.mp text)

theorem rooted_of_isCleanAbsolute (valid : isCleanAbsolute path = true) (other : path ≠ "/") :
    Rooted path := by
  simp only [isCleanAbsolute, Bool.and_eq_true, decide_eq_true_eq] at valid
  rcases valid with ⟨absolute, cleaned⟩
  have text := congrArg String.toList cleaned
  rw [clean, absolute, render, if_pos rfl, String.toList_ofList] at text
  exact rooted_of_text text.symm other

theorem rooted_of_safeCachePath (safe : safeCachePath path = true) : Rooted path := by
  apply rooted_of_isCleanAbsolute
  · simp only [safeCachePath, Bool.and_eq_true] at safe
    exact safe.1.1
  · intro root
    rw [root] at safe
    exact absurd safe (by decide +kernel)

/-- A path which lies below another one continues its text with a slash. -/
theorem Rooted.overlap (upper : Rooted first) (lower : Rooted second)
    (below : elements first <+: elements second) :
    first = second ∨ startsWith second (first ++ "/") = true := by
  obtain ⟨rest, equal⟩ := below
  rw [Rooted, ← equal, flatMap_append, ← upper] at lower
  cases rest with
  | nil =>
    rw [flatMap_nil, append_nil] at lower
    exact .inl (String.toList_inj.mp lower.symm)
  | cons part parts =>
    refine .inr ?_
    rw [startsWith, isPrefixOf_iff_prefix, lower]
    exact ⟨part ++ parts.flatMap ('/' :: ·), by simp⟩

theorem Rooted.unrelated (upper : Rooted first) (lower : Rooted second)
    (apart : pathsOverlap first second = false) : Unrelated first second := by
  simp only [pathsOverlap, Bool.or_eq_false_iff, decide_eq_false_iff_not] at apart
  constructor
  · intro inside
    rcases upper.overlap lower inside with same | starts
    · exact apart.1.1 same
    · exact absurd starts (Bool.eq_false_iff.mp apart.2)
  · intro inside
    rcases lower.overlap upper inside with same | starts
    · exact apart.1.1 same.symm
    · exact absurd starts (Bool.eq_false_iff.mp apart.1.2)

/-- The cache paths which were seen so far are safe and unrelated. -/
structure Seen (paths : List String) : Prop where
  safe : ∀ path ∈ paths, safeCachePath path = true
  unrelated : paths.Pairwise Unrelated

theorem seen_of_validateCachePath {seen next : List String} (before : Seen seen)
    (valid : validateCachePath seen path = .ok next) : Seen next := by
  simp only [validateCachePath, bind_eq_ok, check_eq_ok, pure_eq_ok, Bool.and_eq_true,
    all_eq_true, decide_eq_true_eq, Bool.not_eq_true'] at valid
  obtain ⟨_, ⟨safe, fresh⟩, _, apart, rfl⟩ := valid
  refine ⟨forall_mem_cons.mpr ⟨safe, before.safe⟩, .cons (fun other member => ?_) before.unrelated⟩
  have different : path ≠ other := fun same => fresh (same ▸ member)
  have earlier := rooted_of_safeCachePath (before.safe other member)
  apply (rooted_of_safeCachePath safe).unrelated earlier
  rw [pathsOverlap, Bool.or_assoc, apart other member, decide_eq_false different]
  rfl

theorem seen_of_paths {paths final : List String}
    (valid : forEach validateCachePath [] paths = .ok final) :
    Seen final ∧ final = paths.reverse := by
  constructor
  · exact forEach_keeps (fun _ => seen_of_validateCachePath)
      ⟨fun _ member => absurd member not_mem_nil, .nil⟩ valid
  · have collected := forEach_collects reverse (fun path => [path]) (fun step => ?_) valid
    · simpa [reverse_eq_iff] using collected
    · simp only [validateCachePath, bind_eq_ok, pure_eq_ok] at step
      obtain ⟨_, _, _, _, rfl⟩ := step
      exact reverse_cons

theorem mounts_of_launch [PayloadText] {launch : LaunchSpec} (valid : launch.validate = .ok ()) :
    ∀ unit ∈ launch.units, ∀ mount ∈ unit.mounts, isCleanAbsolute mount.target = true := by
  simp only [LaunchSpec.validate, Topology.LaunchSpec.validate, bind_eq_ok] at valid
  obtain ⟨_, _, _, _, _, _, final, units, _⟩ := valid
  intro unit member mount listed
  obtain ⟨index, found⟩ := mem_iff_getElem?.mp member
  have placed : (unit.topology, index) ∈ launch.topology.units.zipIdx := by
    simp [mem_zipIdx_iff_getElem?, LaunchSpec.topology, found]
  have checked := forEach_checks (fun entry : Topology.LaunchUnit × Nat => ∀ mount ∈ entry.1.mounts,
    isCleanAbsolute mount.target = true) (fun step => ?_) units _ placed
  · exact checked _ (mem_map_of_mem listed)
  · simp only [LaunchSpec.validateUnit, bind_eq_ok] at step
    obtain ⟨_, _, _, _, _, _, _, _, _, _, _, _, _, _, _, mounts, _⟩ := step
    refine forEach_checks (fun mount => isCleanAbsolute mount.target = true) (fun done => ?_) mounts
    simp only [LaunchSpec.validateMount, bind_eq_ok, check_eq_ok, Bool.and_eq_true] at done
    obtain ⟨_, valid, _⟩ := done
    exact valid.1.2

theorem apart_of_units {units : List LaunchUnit} {paths : List String}
    {message : LaunchUnit → Mount → String}
    (done : ExecutionGraph.checkEach units (fun unit => ExecutionGraph.checkEach unit.mounts
      fun mount => check (paths.all fun path => !pathsOverlap mount.target path)
        (message unit mount)) = .ok ()) :
    ∀ unit ∈ units, ∀ mount ∈ unit.mounts, ∀ path ∈ paths,
      pathsOverlap mount.target path = false := by
  refine forEach_checks _ (fun mounts => ?_) done
  refine forEach_checks (fun mount => ∀ path ∈ paths, pathsOverlap mount.target path = false)
    (fun tested => ?_) mounts
  simpa using tested

section Accepted

variable [DoubleFormat] {request : Request}

theorem apart_of_caches (valid : request.validateCaches = .ok ()) :
    ∀ unit ∈ request.launch.units, ∀ mount ∈ unit.mounts,
      ∀ path ∈ request.policy.cache.paths, pathsOverlap mount.target path = false := by
  simp only [Request.validateCaches, bind_eq_ok] at valid
  obtain ⟨_, _, valid⟩ := valid
  split at valid
  · simp only [bind_eq_ok] at valid
    obtain ⟨_, _, _, _, _, _, loop⟩ := valid
    exact apart_of_units loop
  · exact apart_of_units valid

/-- No mount and no other derived cache of an accepted request lies above or below a derived
cache exactly if there is none or nothing is mounted at the root. -/
theorem caches_unrelated_iff [PayloadText] (accepted : request.validate = .ok ()) :
    ((∀ unit ∈ request.launch.units, ∀ mount ∈ unit.mounts, ∀ path ∈ request.policy.cache.paths,
        Unrelated mount.target path) ∧ request.policy.cache.paths.Pairwise Unrelated) ↔
      request.policy.cache.paths = [] ∨
        ∀ unit ∈ request.launch.units, ∀ mount ∈ unit.mounts, mount.target ≠ "/" := by
  simp only [Request.validate, SnapshotPolicy.validate, CachePolicy.validate,
    bind_eq_ok] at accepted
  obtain ⟨_, _, _, _, _, launch, _, ⟨_, _, _, _, _, ⟨_, _, _, _, final, paths, _⟩, _⟩, _, _, _, _,
    _, _, _, caches, _⟩ := accepted
  obtain ⟨⟨safe, apart⟩, rfl⟩ := seen_of_paths paths
  have overlaps := apart_of_caches caches
  constructor
  · rintro ⟨mounts, _⟩
    rw [or_iff_not_imp_left]
    rintro some unit member mount listed same
    obtain ⟨path, others, equal⟩ := exists_cons_of_ne_nil some
    have unrelated := mounts unit member mount listed path (equal ▸ mem_cons_self)
    rw [same] at unrelated
    exact unrelated.1 nil_prefix
  · intro clear
    refine ⟨fun unit member mount listed path cached => ?_, ?_⟩
    · have cache := rooted_of_safeCachePath (safe path (mem_reverse.mpr cached))
      have other := clear.resolve_left (ne_nil_of_mem cached) unit member mount listed
      have valid := mounts_of_launch launch unit member mount listed
      exact (rooted_of_isCleanAbsolute valid other).unrelated cache
        (overlaps unit member mount listed path cached)
    · exact (pairwise_reverse.mp apart).imp And.symm

end Accepted

section Sample

local instance decimalDoubles : DoubleFormat := .decimal
local instance emptyTexts : PayloadText := .empty

/-- A directory is mounted, and the name of one derived cache starts with that of the other. -/
def mountedRequest (target : String) : Request :=
  let named := namedRequest "worker-0.pack"
  { named with
    launch := { singleLaunch with
      units := singleLaunch.units.map fun unit => { unit with mounts := [⟨"/srv", target, true⟩] } }
    policy := { named.policy with cache := { named.policy.cache with
      paths := ["/var/cache/coldsnap/runtime", "/var/cache/coldsnap/runtime-2"] } } }

theorem caches_unrelated_mounted :
    (mountedRequest "/data").validate = .ok () ∧
      Unrelated "/data" "/var/cache/coldsnap/runtime" ∧
      Unrelated "/data" "/var/cache/coldsnap/runtime-2" ∧
      Unrelated "/var/cache/coldsnap/runtime" "/var/cache/coldsnap/runtime-2" := by
  have accepted : (mountedRequest "/data").validate = .ok () := by decide +kernel
  obtain ⟨mounts, caches⟩ := (caches_unrelated_iff accepted).mpr (.inr (by decide))
  have apart := mounts _ mem_cons_self _ mem_cons_self
  exact ⟨accepted, apart _ mem_cons_self, apart _ (mem_cons_of_mem _ mem_cons_self),
    rel_of_pairwise_cons caches mem_cons_self⟩

theorem mounted_accepted :
    (mountedRequest "/").validate = .ok () ∧ ∃ unit ∈ (mountedRequest "/").launch.units,
      ∃ mount ∈ unit.mounts, mount.target = "/" ∧
        ∃ path ∈ (mountedRequest "/").policy.cache.paths, ¬Unrelated mount.target path := by
  refine ⟨by decide +kernel, _, mem_cons_self, _, mem_cons_self, rfl, _, mem_cons_self, ?_⟩
  exact fun unrelated => unrelated.1 nil_prefix

end Sample

end Coldsnap.Snapshot
