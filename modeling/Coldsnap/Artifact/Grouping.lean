import Coldsnap.Artifact.Capture

/-! # Tensors grouped by storage

Every registered tensor is recorded in exactly one group, the group of its
storage, and different groups have different storages.
-/

namespace Coldsnap.Artifact

open Python Intervals List Checked

/-! ## Registered tensors -/

structure Registered (model : Model) (tensors : List (String × Tensor)) : Prop where
  nodup : (tensors.map Prod.fst).Nodup
  known : ∀ item ∈ tensors, ∃ name, (name, item.2) ∈ model.parameters ++ model.buffers
  nonempty : ∀ item ∈ tensors, 0 < item.2.numel

section Register

variable [Builtins] {model : Model} {nonpersistent : List String} {kind : String}

theorem Registered.register {tensors next : List (String × Tensor)} {item : String × Tensor}
    (registered : Registered model tensors) (member : item ∈ model.parameters ++ model.buffers)
    (done : register kind nonpersistent tensors item = .ok next) : Registered model next := by
  unfold Artifact.register at done
  split at done
  · cases done
    exact registered
  · split at done
    · rename_i holds
      simp only at done
      split at done
      · cases done
      · rename_i fresh
        cases done
        refine ⟨?_, ?_, ?_⟩
        · rw [map_append, nodup_append]
          refine ⟨registered.nodup, nodup_singleton _, ?_⟩
          intro name early other late equal
          rw [map_singleton, mem_singleton] at late
          rw [equal, late] at early
          exact fresh early
        · exact forall_mem_append.mpr ⟨registered.known, forall_mem_singleton.mpr ⟨item.1, member⟩⟩
        · exact forall_mem_append.mpr ⟨registered.nonempty, forall_mem_singleton.mpr holds.2⟩
    · cases done
      exact registered

theorem Registered.registerAll {items : List (String × Tensor)} :
    ∀ {tensors final : List (String × Tensor)}, Registered model tensors →
      (∀ item ∈ items, item ∈ model.parameters ++ model.buffers) →
      foldEach (Artifact.register kind nonpersistent) tensors items = .ok final →
      Registered model final := by
  induction items with
  | nil =>
    intro tensors final registered _ done
    cases done
    exact registered
  | cons item items induction =>
    intro tensors final registered members done
    simp only [foldEach, bind_eq_ok] at done
    rcases done with ⟨next, first, rest⟩
    exact induction (registered.register (members item mem_cons_self) first)
      (forall_mem_cons.mp members).2 rest

theorem registered_of_ok {tensors : List (String × Tensor)}
    (done : registeredCudaTensors model = .ok tensors) :
    Registered model tensors ∧ tensors ≠ [] := by
  simp only [registeredCudaTensors, bind_eq_ok, require_eq_ok,
    pure_eq_ok, decide_eq_true_eq] at done
  rcases done with ⟨parameters, first, all, second, _, nonempty, rfl⟩
  have initially : Registered model [] := ⟨nodup_nil, by simp, by simp⟩
  have early := initially.registerAll (fun _ => mem_append_left _) first
  exact ⟨early.registerAll (fun _ => mem_append_right _) second, nonempty⟩

end Register

variable {model : Model} {tensors : List (String × Tensor)}

theorem eq_of_name (nodup : (tensors.map Prod.fst).Nodup) {name : String} {left right : Tensor}
    (first : (name, left) ∈ tensors) (second : (name, right) ∈ tensors) : left = right := by
  have same := inj_on_of_nodup_map nodup first second rfl
  exact congrArg Prod.snd same

namespace Registered

theorem apart (registered : Registered model tensors) {left right : String × Tensor}
    (first : left ∈ tensors) (second : right ∈ tensors)
    (different : left.2.storage ≠ right.2.storage) :
    Apart left.2.storage.range right.2.storage.range := by
  rcases registered.known left first with ⟨leftName, leftKnown⟩
  rcases registered.known right second with ⟨rightName, rightKnown⟩
  exact model.apart (leftName, left.2) leftKnown (rightName, right.2) rightKnown different

theorem storage_nonempty (registered : Registered model tensors) {item : String × Tensor}
    (member : item ∈ tensors) : 0 < item.2.storage.nbytes := by
  have some : item.2.bytes ≠ [] :=
    Strides.bytes_ne_nil item.2.element_positive (registered.nonempty item member)
  rcases exists_mem_of_ne_nil _ some with ⟨byte, present⟩
  exact Nat.lt_of_le_of_lt (Nat.zero_le _) (item.2.inside byte present)

end Registered

/-! ## Groups -/

def recordOf (item : String × Tensor) : Reference :=
  tensorReference item.1 item.2 item.2.storage.pointer

structure Grouped (tensors : List (String × Tensor)) (groups : List Group) : Prop where
  refs : (groups.flatMap Group.refs).Perm (tensors.map recordOf)
  members : ∀ group ∈ groups, ∀ ref ∈ group.refs, ∃ item ∈ tensors,
    ref = recordOf item ∧ item.2.storage = group.tensor.storage
  leads : ∀ group ∈ groups, ∃ name rest, (name, group.tensor) ∈ tensors ∧
    group.refs = recordOf (name, group.tensor) :: rest
  nodup : (groups.map fun group => group.tensor.storage).Nodup

theorem addToGroup_cases (groups : List Group) (item : String × Tensor) :
    ((∀ group ∈ groups, group.tensor.storage ≠ item.2.storage) ∧
      addToGroup groups item = groups ++ [⟨item.2, [recordOf item]⟩]) ∨
    ∃ before group after, groups = before ++ group :: after ∧
      group.tensor.storage = item.2.storage ∧
      addToGroup groups item =
        before ++ ⟨group.tensor, group.refs ++ [recordOf item]⟩ :: after := by
  induction groups with
  | nil => exact .inl ⟨nofun, rfl⟩
  | cons group groups induction =>
    unfold addToGroup
    by_cases same : group.tensor.storage = item.2.storage
    · rw [if_pos same]
      exact .inr ⟨[], group, groups, rfl, same, rfl⟩
    · rw [if_neg same]
      rcases induction with ⟨none, added⟩ | ⟨before, found, after, split, equal, added⟩
      · left
        refine ⟨?_, by rw [added]; rfl⟩
        exact forall_mem_cons.mpr ⟨same, none⟩
      · right
        exact ⟨group :: before, found, after, by rw [split]; rfl, equal, by rw [added]; rfl⟩

variable {groups : List Group}

theorem Grouped.add (grouped : Grouped tensors groups) (item : String × Tensor) :
    Grouped (tensors ++ [item]) (addToGroup groups item) := by
  have widen : ∀ {group : Group} {ref : Reference},
      (∃ other ∈ tensors, ref = recordOf other ∧ other.2.storage = group.tensor.storage) →
      ∃ other ∈ tensors ++ [item], ref = recordOf other ∧
        other.2.storage = group.tensor.storage := by
    rintro group ref ⟨other, member, same⟩
    exact ⟨other, mem_append_left _ member, same⟩
  have last : item ∈ tensors ++ [item] := mem_concat_self
  rcases addToGroup_cases groups item with ⟨none, added⟩ | ⟨before, group, after, rfl, same, added⟩
  · rw [added]
    refine ⟨?_, ?_, ?_, ?_⟩
    · simpa using grouped.refs.append_right [recordOf item]
    · intro group member ref present
      rcases mem_append.mp member with early | late
      · exact widen (grouped.members group early ref present)
      · cases mem_singleton.mp late
        exact ⟨item, last, mem_singleton.mp present, rfl⟩
    · intro group member
      rcases mem_append.mp member with early | late
      · rcases grouped.leads group early with ⟨name, rest, known, refs⟩
        exact ⟨name, rest, mem_append_left _ known, refs⟩
      · cases mem_singleton.mp late
        exact ⟨item.1, [], last, rfl⟩
    · rw [map_append, nodup_append]
      refine ⟨grouped.nodup, nodup_singleton _, ?_⟩
      intro storage early other late equal
      rcases mem_map.mp early with ⟨group, member, rfl⟩
      rw [map_singleton, mem_singleton] at late
      exact none group member (equal.trans late)
  · rw [added]
    have here : group ∈ before ++ group :: after :=
      mem_append_right _ mem_cons_self
    let grown : Group := ⟨group.tensor, group.refs ++ [recordOf item]⟩
    have others : ∀ {other : Group}, other ∈ before ++ grown :: after →
        other = grown ∨ other ∈ before ++ group :: after := by
      intro other member
      simp only [mem_append, mem_cons] at member ⊢
      tauto
    refine ⟨?_, ?_, ?_, ?_⟩
    · have moved : ((before ++ grown :: after).flatMap Group.refs).Perm
          ((before ++ group :: after).flatMap Group.refs ++ [recordOf item]) := by
        simp only [grown, flatMap_append, flatMap_cons, append_assoc]
        apply Perm.append_left
        apply Perm.append_left
        exact perm_append_comm
      rw [map_append]
      exact moved.trans (grouped.refs.append_right _)
    · intro other member ref present
      rcases others member with rfl | old
      · rcases mem_append.mp present with early | late
        · exact widen (grouped.members group here ref early)
        · exact ⟨item, last, mem_singleton.mp late, same.symm⟩
      · exact widen (grouped.members other old ref present)
    · intro other member
      rcases others member with rfl | old
      · rcases grouped.leads group here with ⟨name, rest, known, refs⟩
        exact ⟨name, rest ++ [recordOf item], mem_append_left _ known, by simp [grown, refs]⟩
      · rcases grouped.leads other old with ⟨name, rest, known, refs⟩
        exact ⟨name, rest, mem_append_left _ known, refs⟩
    · have kept := grouped.nodup
      simpa using kept

theorem grouped_foldl {items : List (String × Tensor)} :
    ∀ {tensors : List (String × Tensor)} {groups : List Group}, Grouped tensors groups →
      Grouped (tensors ++ items) (items.foldl addToGroup groups) := by
  induction items with
  | nil => simp
  | cons item items induction =>
    intro tensors groups grouped
    have next := induction (grouped.add item)
    rwa [append_assoc, singleton_append] at next

theorem Grouped.perm {other : List (String × Tensor)} {sorted : List Group}
    (grouped : Grouped tensors groups) (perm : tensors.Perm other) (order : groups.Perm sorted) :
    Grouped other sorted where
  refs := (order.symm.flatMap_right Group.refs).trans (grouped.refs.trans (perm.map recordOf))
  members group member ref present := by
    rcases grouped.members group (order.mem_iff.mpr member) ref present with ⟨item, known, same⟩
    exact ⟨item, perm.mem_iff.mp known, same⟩
  leads group member := by
    rcases grouped.leads group (order.mem_iff.mpr member) with ⟨name, rest, known, refs⟩
    exact ⟨name, rest, perm.mem_iff.mp known, refs⟩
  nodup := (order.map _).nodup_iff.mp grouped.nodup

theorem storageGroups_eq_ok [Builtins] :
    storageGroups model = .ok groups ↔ ∃ tensors, registeredCudaTensors model = .ok tensors ∧
      sortedOn Group.firstName ((sortedOn Prod.fst tensors).foldl addToGroup []) = groups := by
  simp [storageGroups]

theorem grouped_storageGroups [Builtins] (registered : registeredCudaTensors model = .ok tensors)
    (grouping : storageGroups model = .ok groups) : Grouped tensors groups := by
  rcases storageGroups_eq_ok.mp grouping with ⟨known, again, rfl⟩
  cases registered.symm.trans again
  have initially : Grouped [] [] := ⟨.refl _, nofun, nofun, nodup_nil⟩
  exact (grouped_foldl initially).perm (sortedOn_perm _ _) (sortedOn_perm _ _).symm

end Coldsnap.Artifact
