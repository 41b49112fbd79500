import Coldsnap.Artifact.CaptureCorrect

/-! # Matching storages by names

The storages of a fresh model are resolved exactly when it registers the same
names, with the same views, and shares storages in the same way.
-/

namespace Coldsnap.Artifact

open Python List Checked Dict

/-! ## Comparing records -/

section Compare

variable [Builtins] {path : String}

theorem mismatches_eq_nil {expected actual : Dict} :
    identityMismatches (.obj expected) (.obj actual) path = [] ↔
      (∀ entry ∈ mismatchedFields expected actual path, entry.2 = []) ∧
        ∀ field ∈ actual, field.1 ∈ expected.map Prod.fst := by
  rw [identityMismatches, flatMap_eq_nil_iff]
  simp only [(sortedOn_perm _ _).mem_iff, mem_append, mem_map, mem_filter, decide_eq_true_eq]
  constructor
  · intro none
    refine ⟨fun entry member => none entry (.inl member), fun field member => ?_⟩
    by_contra unexpected
    have empty := none _ (.inr ⟨field, ⟨member, unexpected⟩, rfl⟩)
    cases empty
  · rintro ⟨fields, known⟩ entry (member | ⟨field, ⟨member, unexpected⟩, rfl⟩)
    · exact fields entry member
    · exact absurd (known field member) unexpected

omit [Builtins] in
theorem equal_sizes (left right : List Nat) :
    (sizesJson left).equal (sizesJson right) = true ↔ left = right := by
  have items : ∀ left right : List Nat,
      Json.equalItems (left.map fun size : Nat => .int (size : Int))
        (right.map fun size : Nat => .int (size : Int)) = true ↔ left = right := by
    intro left
    induction left with
    | nil => intro right; cases right <;> simp [Json.equalItems]
    | cons size left induction =>
      intro right
      cases right with
      | nil => simp [Json.equalItems]
      | cons other right =>
        simp [Json.equalItems, induction, Json.equal, Json.number?]
  simpa [sizesJson, Json.equal] using items left right

theorem mismatches_leaf {expected actual : Json} (leaf : expected.asDict = none) :
    identityMismatches expected actual path = [] ↔ expected.equal actual = true := by
  have leaves : identityMismatches expected actual path =
      if expected.equal actual then []
      else [s!"{path}: expected {Builtins.render expected}, found {Builtins.render actual}"] := by
    cases expected with
    | obj fields => cases leaf
    | _ => rw [identityMismatches]; exact nofun
  rw [leaves]
  split <;> simp_all

theorem mismatches_str {expected actual : String} :
    identityMismatches (.str expected) (.str actual) path = [] ↔ expected = actual := by
  rw [mismatches_leaf rfl, Json.equal_str, beq_iff_eq]

theorem mismatches_int {expected actual : Int} :
    identityMismatches (.int expected) (.int actual) path = [] ↔ expected = actual := by
  rw [mismatches_leaf rfl]
  simp [Json.equal, Json.number?]

theorem mismatches_sizes {expected actual : List Nat} :
    identityMismatches (sizesJson expected) (sizesJson actual) path = [] ↔ expected = actual := by
  rw [mismatches_leaf rfl, equal_sizes]

/-- Two records of tensors have no mismatch exactly if they are equal. -/
theorem mismatches_reference {saved current : Reference} :
    identityMismatches (.obj saved.toDict) (.obj current.toDict) path = [] ↔ saved = current := by
  have keys : ∀ field ∈ current.toDict, field.1 ∈ saved.toDict.map Prod.fst := by
    have same : saved.toDict.map Prod.fst = current.toDict.map Prod.fst := rfl
    rw [same]
    exact fun field => mem_map_of_mem
  have fields : mismatchedFields saved.toDict current.toDict path =
      [("name", identityMismatches (.str saved.name) (.str current.name) (path ++ "." ++ "name")),
        ("dtype", identityMismatches (.str saved.dtype) (.str current.dtype)
          (path ++ "." ++ "dtype")),
        ("shape", identityMismatches (sizesJson saved.shape) (sizesJson current.shape)
          (path ++ "." ++ "shape")),
        ("stride", identityMismatches (sizesJson saved.stride) (sizesJson current.stride)
          (path ++ "." ++ "stride")),
        ("storage_offset_bytes", identityMismatches (.int saved.storageOffsetBytes)
          (.int current.storageOffsetBytes) (path ++ "." ++ "storage_offset_bytes")),
        ("nbytes", identityMismatches (.int saved.nbytes) (.int current.nbytes)
          (path ++ "." ++ "nbytes"))] := by
    simp [Reference.toDict, mismatchedFields, Dict.lookup]
  rw [mismatches_eq_nil, fields]
  simp only [forall_mem_cons, not_mem_nil, false_implies, implies_true, and_true,
    mismatches_str, mismatches_int, mismatches_sizes, and_iff_left keys, Nat.cast_inj]
  constructor
  · cases saved
    simp_all
  · rintro rfl
    exact ⟨rfl, rfl, rfl, rfl, rfl, rfl⟩

end Compare

/-! ## Resolving -/

section Resolve

variable [Builtins] {tensors : List (String × Tensor)}

theorem tensorNamed_eq_ok {name : String} {tensor : Tensor} (nodup : (tensors.map Prod.fst).Nodup) :
    tensorNamed tensors name = .ok tensor ↔ (name, tensor) ∈ tensors := by
  unfold tensorNamed
  constructor
  · intro found
    split at found
    · rename_i item search
      cases found
      have member := mem_of_find?_eq_some search
      have same := find?_some search
      rw [← of_decide_eq_true same]
      exact member
    · cases found
  · intro member
    cases search : tensors.find? fun item => decide (item.1 = name) with
    | none =>
      have differs := find?_eq_none.mp search (name, tensor) member
      simp at differs
    | some item =>
      have known := mem_of_find?_eq_some search
      have same := find?_some search
      rw [decide_eq_true_eq] at same
      have equal := inj_on_of_nodup_map nodup known member same
      rw [equal]

/-- A fresh tensor which shows what is recorded, in the given storage. -/
def Shows (tensors : List (String × Tensor)) (key : Storage) (reference : Reference) : Prop :=
  ∃ tensor, tensorNamed tensors reference.name = .ok tensor ∧ tensor.storage = key ∧
    reference = tensorReference reference.name tensor key.pointer

theorem resolveRef_eq_ok {key : Storage} {names next : List String} {reference : Reference} :
    resolveRef tensors key names (.obj reference.toDict) = .ok next ↔
      reference.name ∉ names ∧ Shows tensors key reference ∧
        next = names ++ [reference.name] := by
  have name : get reference.toDict "name" = .str reference.name := rfl
  simp only [resolveRef, Json.asDict, Option.elim_some, name, nameOf, ok_bind,
    bind_eq_ok, require_eq_ok, decide_eq_true_eq, validateRef,
    mismatches_reference, pure_eq_ok, Shows]
  constructor
  · rintro ⟨_, fresh, tensor, known, _, same, _, view, rfl⟩
    exact ⟨fresh, ⟨tensor, known, same, view⟩, rfl⟩
  · rintro ⟨fresh, ⟨tensor, known, same, view⟩, rfl⟩
    exact ⟨(), fresh, tensor, known, (), same, (), view, rfl⟩

theorem resolveRefs_eq_ok {key : Storage} {refs : List Reference} :
    ∀ {names next : List String}, (names ++ refs.map Reference.name).Nodup →
      (foldEach (resolveRef tensors key) names
          (refs.map fun reference => .obj reference.toDict) = .ok next ↔
        (∀ reference ∈ refs, Shows tensors key reference) ∧
          next = names ++ refs.map Reference.name) := by
  induction refs with
  | nil =>
    simp [eq_comm]
  | cons reference refs induction =>
    intro names next nodup
    have step : (names ++ [reference.name] ++ refs.map Reference.name).Nodup := by
      rwa [map_cons, append_cons] at nodup
    have fresh : reference.name ∉ names := by
      intro member
      have apart := (nodup_append.mp nodup).2.2
      exact apart _ member _ mem_cons_self rfl
    rw [map_cons, foldEach, bind_eq_ok]
    simp only [resolveRef_eq_ok, forall_mem_cons]
    constructor
    · rintro ⟨_, ⟨_, shows, rfl⟩, rest⟩
      rcases (induction step).mp rest with ⟨others, rfl⟩
      exact ⟨⟨shows, others⟩, by simp⟩
    · rintro ⟨⟨shows, others⟩, rfl⟩
      exact ⟨_, ⟨fresh, shows, rfl⟩, (induction step).mpr ⟨others, by simp⟩⟩

structure Fits (tensors : List (String × Tensor)) (group : Group) (tensor : Tensor) : Prop where
  lead : tensorNamed tensors group.firstName = .ok tensor
  size : tensor.storage.nbytes = group.tensor.storage.nbytes
  views : ∀ reference ∈ group.refs, Shows tensors tensor.storage reference

variable {memory : Int → UInt8}

theorem resolveEntry_eq_ok {state next : Resolution} {item : Group × Nat}
    (some : item.1.refs ≠ []) (nodup : (state.names ++ item.1.refs.map Reference.name).Nodup) :
    resolveEntry tensors state (.obj (entryOf memory item)) = .ok next ↔
      ∃ tensor, Fits tensors item.1 tensor ∧ tensor.storage ∉ state.used ∧
        next = ⟨state.names ++ item.1.refs.map Reference.name, state.used ++ [tensor.storage],
          state.resolved ++ [(tensor, entryOf memory item)]⟩ := by
  rcases exists_cons_of_ne_nil some with ⟨first, rest, refs⟩
  have firstName : item.1.firstName = first.name := by
    unfold Group.firstName
    rw [refs]
  have saved : get (entryOf memory item) "refs" =
      .arr (item.1.refs.map fun reference => .obj reference.toDict) := rfl
  have size : getD (entryOf memory item) "nbytes" (.int (-1)) =
      .int item.1.tensor.storage.nbytes := rfl
  have semantic : semanticRefs (.arr (item.1.refs.map fun reference => .obj reference.toDict)) =
      .ok (item.1.refs.map fun reference => .obj reference.toDict) := by
    rw [refs]
    rfl
  have head : (item.1.refs.map fun reference => Json.obj reference.toDict).headD .null =
      .obj first.toDict := by
    rw [refs]
    rfl
  have name : get first.toDict "name" = .str first.name := rfl
  simp only [resolveEntry, Json.asDict, Option.elim_some, ok_bind, saved, semantic, head,
    name, nameOf, size, Json.toInt_int, bind_eq_ok, require_eq_ok,
    decide_eq_true_eq, resolveRefs_eq_ok nodup, pure_eq_ok, Int.natCast_inj]
  constructor
  · rintro ⟨tensor, known, _, unused, _, bytes, _, ⟨views, rfl⟩, rfl⟩
    exact ⟨tensor, ⟨firstName ▸ known, bytes, views⟩, unused, rfl⟩
  · rintro ⟨tensor, fits, unused, rfl⟩
    exact ⟨tensor, firstName ▸ fits.lead, (), unused, (), fits.size, _, ⟨fits.views, rfl⟩, rfl⟩

theorem resolveEntries_eq_ok {layout : List (Group × Nat)} :
    ∀ {state next : Resolution}, (∀ item ∈ layout, item.1.refs ≠ []) →
      (state.names ++ (layout.flatMap fun item => item.1.refs).map Reference.name).Nodup →
      (foldEach (resolveEntry tensors) state
          (layout.map fun item => .obj (entryOf memory item)) = .ok next ↔
        ∃ fresh : List Tensor, Forall₂ (fun item => Fits tensors item.1) layout fresh ∧
          (fresh.map Tensor.storage).Nodup ∧
          (∀ tensor ∈ fresh, tensor.storage ∉ state.used) ∧
          next = ⟨state.names ++ (layout.flatMap fun item => item.1.refs).map Reference.name,
            state.used ++ fresh.map Tensor.storage,
            state.resolved ++ fresh.zip (layout.map (entryOf memory))⟩) := by
  induction layout with
  | nil =>
    intro state next _ _
    constructor
    · intro done
      cases done
      exact ⟨[], .nil, nodup_nil, nofun, by simp⟩
    · rintro ⟨fresh, fits, _, _, rfl⟩
      cases fits
      simp
  | cons item layout induction =>
    intro state next some nodup
    have parts : (state.names ++ item.1.refs.map Reference.name ++
        (layout.flatMap fun item => item.1.refs).map Reference.name).Nodup := by
      rwa [flatMap_cons, map_append, ← append_assoc] at nodup
    have first := (nodup_append.mp parts).1
    rw [map_cons, foldEach, bind_eq_ok]
    simp only [resolveEntry_eq_ok (some item mem_cons_self) first]
    constructor
    · rintro ⟨middle, ⟨tensor, fits, unused, rfl⟩, rest⟩
      rcases (induction (forall_mem_cons.mp some).2
        parts).mp rest with ⟨fresh, all, distinct, apart, rfl⟩
      have new : tensor.storage ∉ fresh.map Tensor.storage := by
        intro member
        rcases mem_map.mp member with ⟨other, present, same⟩
        apply apart other present
        rw [same]
        exact mem_concat_self
      refine ⟨tensor :: fresh, .cons fits all, nodup_cons.mpr ⟨new, distinct⟩, ?_, ?_⟩
      · refine forall_mem_cons.mpr ⟨unused, fun other later early => ?_⟩
        exact apart other later (mem_append_left _ early)
      · simp
    · rintro ⟨fresh, fits, distinct, apart, rfl⟩
      cases fits with
      | cons here rest =>
        rename_i tensor others
        rw [map_cons, nodup_cons] at distinct
        refine ⟨_, ⟨tensor, here, apart tensor mem_cons_self, rfl⟩, ?_⟩
        apply (induction (forall_mem_cons.mp some).2 parts).mpr
        refine ⟨others, rest, distinct.2, ?_, ?_⟩
        · intro other member used
          rcases mem_append.mp used with early | last
          · exact apart other (mem_cons_of_mem _ member) early
          · apply distinct.1
            rw [← mem_singleton.mp last]
            exact mem_map_of_mem member
        · simp

end Resolve

/-! ## The same layout -/

/-- Two models register the same names, for views of the same form in storages of
the same size, and share storages in the same way. -/
structure SameLayout (left right : List (String × Tensor)) : Prop where
  names : ∀ name, name ∈ left.map Prod.fst ↔ name ∈ right.map Prod.fst
  views : ∀ {name saved fresh}, (name, saved) ∈ left → (name, fresh) ∈ right →
    recordOf (name, saved) = recordOf (name, fresh) ∧ saved.storage.nbytes = fresh.storage.nbytes
  aliases : ∀ {first saved fresh second savedToo freshToo},
    (first, saved) ∈ left → (first, fresh) ∈ right →
    (second, savedToo) ∈ left → (second, freshToo) ∈ right →
    (saved.storage = savedToo.storage ↔ fresh.storage = freshToo.storage)

theorem SameLayout.refl {tensors : List (String × Tensor)}
    (nodup : (tensors.map Prod.fst).Nodup) : SameLayout tensors tensors := by
  refine ⟨fun _ => .rfl, ?_, ?_⟩
  · intro name left right first second
    cases eq_of_name nodup first second
    exact ⟨rfl, rfl⟩
  · intro first left right second leftToo rightToo leftKnown rightKnown leftTooKnown rightTooKnown
    cases eq_of_name nodup leftKnown rightKnown
    cases eq_of_name nodup leftTooKnown rightTooKnown
    exact .rfl

theorem layoutFrom_map_fst {groups : List Group} : ∀ {position : Nat},
    (layoutFrom position groups).map Prod.fst = groups := by
  induction groups with
  | nil => intro position; rfl
  | cons group groups induction =>
    intro position
    rw [layoutFrom, map_cons, induction]

theorem layoutFrom_refs (groups : List Group) (position : Nat) :
    ((layoutFrom position groups).flatMap fun item => item.1.refs) = groups.flatMap Group.refs := by
  have flat := flatMap_map (l := layoutFrom position groups) (f := Prod.fst) (g := Group.refs)
  rw [layoutFrom_map_fst] at flat
  exact flat.symm

section Layout

variable {saved fresh : List (String × Tensor)} {groups : List Group}

section

variable (grouped : Grouped saved groups)

include grouped

variable {item : String × Tensor}

theorem Grouped.group_of (nodup : (saved.map Prod.fst).Nodup) (member : item ∈ saved) :
    ∃ group ∈ groups, recordOf item ∈ group.refs ∧ group.tensor.storage = item.2.storage := by
  have recorded := grouped.refs.mem_iff.mpr (mem_map_of_mem member)
  rcases mem_flatMap.mp recorded with ⟨group, known, present⟩
  refine ⟨group, known, present, ?_⟩
  rcases grouped.members group known _ present with ⟨other, otherKnown, same, storage⟩
  have equal := inj_on_of_nodup_map nodup member otherKnown (congrArg Reference.name same)
  rw [equal]
  exact storage.symm

theorem Grouped.names :
    ((groups.flatMap Group.refs).map Reference.name).Perm (saved.map Prod.fst) := by
  have perm := grouped.refs.map Reference.name
  rwa [map_map] at perm

theorem Grouped.unique {left right : Group} (first : left ∈ groups) (second : right ∈ groups)
    (same : left.tensor.storage = right.tensor.storage) : left = right :=
  inj_on_of_nodup_map grouped.nodup first second same

omit grouped in
theorem exists_forall₂ {α β : Type} {relation : α → β → Prop} {items : List α}
    (each : ∀ item ∈ items, ∃ value, relation item value) :
    ∃ values, Forall₂ relation items values := by
  induction items with
  | nil => exact ⟨[], .nil⟩
  | cons item items induction =>
    rcases each item mem_cons_self with ⟨value, holds⟩
    rcases induction (forall_mem_cons.mp each).2 with ⟨values, all⟩
    exact ⟨value :: values, .cons holds all⟩

variable [Builtins] {group : Group}

omit grouped in
/-- What the resolution of a storage says about the tensors in it. -/
theorem Fits.shows {tensor : Tensor} (fits : Fits fresh group tensor)
    (nodup : (fresh.map Prod.fst).Nodup) (recorded : recordOf item ∈ group.refs) :
    ∃ view, (item.1, view) ∈ fresh ∧
      view.storage = tensor.storage ∧ recordOf item = recordOf (item.1, view) := by
  rcases fits.views _ recorded with ⟨view, known, same, equal⟩
  refine ⟨view, (tensorNamed_eq_ok nodup).mp known, same, ?_⟩
  rw [equal, ← same]
  rfl

/-- Different saved storages resolve to different fresh ones. -/
theorem sameLayout_of_fits (savedNodup : (saved.map Prod.fst).Nodup)
    (freshNodup : (fresh.map Prod.fst).Nodup) {resolved : List Tensor}
    (fits : Forall₂ (Fits fresh) groups resolved) (distinct : (resolved.map Tensor.storage).Nodup)
    (covered : ∀ name ∈ fresh.map Prod.fst, name ∈ saved.map Prod.fst) :
    SameLayout saved fresh := by
  rcases forall₂_iff_zip.mp fits with ⟨length, paired⟩
  have firsts := map_fst_zip length.le
  have seconds := map_snd_zip length.ge
  have found : ∀ {item : String × Tensor}, item ∈ saved → ∃ group tensor view,
      (group, tensor) ∈ groups.zip resolved ∧ group.tensor.storage = item.2.storage ∧
      (item.1, view) ∈ fresh ∧ view.storage = tensor.storage ∧
      recordOf item = recordOf (item.1, view) := by
    intro item member
    rcases grouped.group_of savedNodup member with ⟨group, known, recorded, storage⟩
    rw [← firsts] at known
    rcases mem_map.mp known with ⟨⟨_, tensor⟩, pair, rfl⟩
    rcases (paired pair).shows freshNodup recorded with ⟨view, present, same, equal⟩
    exact ⟨_, tensor, view, pair, storage, present, same, equal⟩
  refine ⟨fun name => ⟨?_, covered name⟩, ?_, ?_⟩
  · intro member
    rcases mem_map.mp member with ⟨item, known, rfl⟩
    rcases found known with ⟨_, _, view, _, _, present, _⟩
    exact mem_map.mpr ⟨_, present, rfl⟩
  · intro name left right leftKnown rightKnown
    rcases found leftKnown with ⟨group, tensor, view, pair, storage, present, same, equal⟩
    cases eq_of_name freshNodup present rightKnown
    refine ⟨equal, ?_⟩
    have size := (paired pair).size
    rw [← storage, same, size]
  · intro first left right second leftToo rightToo leftKnown rightKnown leftTooKnown rightTooKnown
    rcases found leftKnown with ⟨group, tensor, view, pair, storage, present, same, _⟩
    rcases found leftTooKnown with
      ⟨groupToo, tensorToo, viewToo, pairToo, storageToo, presentToo, sameToo, _⟩
    cases eq_of_name freshNodup present rightKnown
    cases eq_of_name freshNodup presentToo rightTooKnown
    rw [same, sameToo]
    constructor
    · intro shared
      have equal : group = groupToo := by
        apply grouped.unique (of_mem_zip pair).1 (of_mem_zip pairToo).1
        exact storage.trans (shared.trans storageToo.symm)
      have groupsNodup : ((groups.zip resolved).map Prod.fst).Nodup := by
        rw [firsts]
        exact .of_map _ grouped.nodup
      have pairs := inj_on_of_nodup_map groupsNodup pair pairToo equal
      cases pairs
      rfl
    · intro shared
      have storagesNodup : ((groups.zip resolved).map (Tensor.storage ∘ Prod.snd)).Nodup := by
        rw [← map_map, seconds]
        exact distinct
      have pairs := inj_on_of_nodup_map storagesNodup pair pairToo shared
      have groupsEqual : group = groupToo := congrArg Prod.fst pairs
      rw [← storage, ← storageToo, groupsEqual]

theorem fits_of_sameLayout (same : SameLayout saved fresh) (freshNodup : (fresh.map Prod.fst).Nodup)
    (member : group ∈ groups) :
    ∃ tensor, Fits fresh group tensor ∧ ∃ name, (name, group.tensor) ∈ saved ∧
      (name, tensor) ∈ fresh := by
  rcases grouped.leads group member with ⟨name, rest, lead, refs⟩
  have listed : name ∈ fresh.map Prod.fst :=
    (same.names name).mp (mem_map.mpr ⟨_, lead, rfl⟩)
  rcases mem_map.mp listed with ⟨⟨other, tensor⟩, known, equal⟩
  subst equal
  have firstName : group.firstName = other := by
    unfold Group.firstName
    rw [refs]
    rfl
  refine ⟨tensor, ⟨?_, (same.views lead known).2.symm, ?_⟩, other, lead, known⟩
  · rw [firstName]
    exact (tensorNamed_eq_ok freshNodup).mpr known
  · intro reference recorded
    rcases grouped.members group member reference recorded with ⟨item, itemKnown, rfl, storage⟩
    rcases mem_map.mp ((same.names item.1).mp (mem_map_of_mem itemKnown)) with
      ⟨⟨otherName, view⟩, viewKnown, equal⟩
    cases equal
    have shared := (same.aliases itemKnown viewKnown lead known).mp storage
    refine ⟨view, (tensorNamed_eq_ok freshNodup).mpr viewKnown, shared, ?_⟩
    rw [← shared]
    exact (same.views itemKnown viewKnown).1

/-- Resolution succeeds exactly for a model of the same layout. -/
theorem resolveStorages_eq_ok {model : Model} {memory : Int → UInt8} {rows : List (Tensor × Dict)}
    (savedNodup : (saved.map Prod.fst).Nodup) (registered : registeredCudaTensors model = .ok fresh)
    :
    resolveStorages model ((entriesOf memory groups).map .obj) = .ok rows ↔
      SameLayout saved fresh ∧ ∃ resolved,
        Forall₂ (Fits fresh) groups resolved ∧
        (resolved.map Tensor.storage).Nodup ∧ rows = resolved.zip (entriesOf memory groups) := by
  have freshNodup := (registered_of_ok registered).1.nodup
  have some : ∀ item ∈ layoutFrom 0 groups, item.1.refs ≠ [] := by
    intro item member
    rcases grouped.leads item.1 (mem_layoutFrom member) with ⟨_, _, _, refs⟩
    rw [refs]
    exact cons_ne_nil _ _
  have names : (([] : List String) ++
      ((layoutFrom 0 groups).flatMap fun item => item.1.refs).map Reference.name).Nodup := by
    rw [nil_append, layoutFrom_refs]
    exact grouped.names.nodup_iff.mpr savedNodup
  have records : (entriesOf memory groups).map Json.obj =
      (layoutFrom 0 groups).map fun item => .obj (entryOf memory item) := by
    rw [entriesOf, map_map]
    rfl
  have groupsOf : ∀ {resolved : List Tensor},
      Forall₂ (fun (item : Group × Nat) tensor => Fits fresh item.1 tensor)
        (layoutFrom 0 groups) resolved ↔
      Forall₂ (Fits fresh) groups resolved := by
    intro resolved
    rw [← @layoutFrom_map_fst groups 0, forall₂_map_left_iff, layoutFrom_map_fst]
  have covers : ∀ {seen : List String},
      sortedOn id ((fresh.map Prod.fst).filter fun name => decide (name ∉ seen)) = [] ↔
        ∀ name ∈ fresh.map Prod.fst, name ∈ seen := by
    intro seen
    rw [← length_eq_zero_iff, (sortedOn_perm _ _).length_eq, length_eq_zero_iff, filter_eq_nil_iff]
    simp
  have savedNames : ∀ name, name ∈ ((layoutFrom 0 groups).flatMap fun item =>
      item.1.refs).map Reference.name ↔ name ∈ saved.map Prod.fst := by
    intro name
    rw [layoutFrom_refs]
    exact grouped.names.mem_iff
  simp only [resolveStorages, registered, ok_bind, bind_eq_ok, records,
    require_eq_ok, decide_eq_true_eq, pure_eq_ok, covers]
  constructor
  · rintro ⟨state, done, _, covered, rfl⟩
    rcases (resolveEntries_eq_ok some names).mp done with ⟨resolved, fits, distinct, _, rfl⟩
    refine ⟨?_, resolved, groupsOf.mp fits, distinct, rfl⟩
    apply sameLayout_of_fits grouped savedNodup freshNodup (groupsOf.mp fits) distinct
    exact fun name member => (savedNames name).mp (covered name member)
  · rintro ⟨same, resolved, fits, distinct, rfl⟩
    refine ⟨_, (resolveEntries_eq_ok some names).mpr ⟨resolved, groupsOf.mpr fits, distinct,
      fun _ _ => not_mem_nil, rfl⟩, (), ?_, rfl⟩
    exact fun name member => (savedNames name).mpr ((same.names name).mpr member)

theorem exists_resolved (same : SameLayout saved fresh) (freshNodup : (fresh.map Prod.fst).Nodup)
    : ∃ resolved,
      Forall₂ (Fits fresh) groups resolved ∧
      (resolved.map Tensor.storage).Nodup := by
  rcases exists_forall₂ fun group member =>
    fits_of_sameLayout grouped same freshNodup member with ⟨resolved, all⟩
  refine ⟨resolved, all.imp fun _ _ both => both.1, ?_⟩
  have apart := pairwise_map.mp grouped.nodup
  rw [Nodup, pairwise_map]
  clear grouped
  induction all with
  | nil => exact .nil
  | cons both rest induction =>
    rename_i group tensor groups resolved
    rw [pairwise_cons] at apart ⊢
    refine ⟨?_, induction apart.2⟩
    intro other member shared
    rcases both.2 with ⟨name, lead, known⟩
    rcases forall₂_iff_zip.mp rest with ⟨length, paired⟩
    have seconds := map_snd_zip length.ge
    rw [← seconds] at member
    rcases mem_map.mp member with ⟨⟨otherGroup, _⟩, pair, rfl⟩
    rcases (paired pair).2 with ⟨otherName, otherLead, otherKnown⟩
    apply apart.1 otherGroup (of_mem_zip pair).1
    exact (same.aliases lead known otherLead otherKnown).mpr shared

end

end Layout

end Coldsnap.Artifact
