import TgsRl.Settlements

/-!
The names a reservation adds. They are its own, and new unless an admission binding brings them
(`drafted_names`).
-/
namespace TgsRl.Frames
open Resources Messages State Loops Reservations Drafts

variable {F : Type} [Platform F] [DecidableEq F]

section Drafted
variable {before : ClusterSnapshot F} {plan : PlacementPlan F} {devices : List (Device F)}
  {allocations : List (Allocation F)} {ids : List String}

/-- The names a reservation adds: its own, not empty, and new unless an admission binding brings them. -/
structure Added (before : ClusterSnapshot F) (plan : PlacementPlan F) (ids extra : List String) : Prop where
  distinct : extra.Nodup
  reserved : ∀ id ∈ extra, id ∈ ids
  named : "" ∉ extra
  fresh : ∀ id ∈ extra, id ∉ before.allocations.map Allocation.allocationId ∨
    isMutationPurpose (effectivePlanPurpose plan) = false ∧ ∃ binding ∈ plan.bindings, id = allocationID F binding.bindingId

omit [DecidableEq F] in
theorem added_nil : Added before plan ids [] := ⟨by simp,by simp,by simp,by simp⟩

omit [DecidableEq F] in
theorem added_one {id : String} {binding : Binding F} (listed : id ∈ ids) (name : id = allocationID F binding.bindingId)
    (unused : findAllocation before.allocations id = none) : Added before plan ids [id] := by
  refine ⟨by simp,?_,?_,?_⟩
  · intro i member
    rw [List.mem_singleton.mp member]
    exact listed
  · rw [List.mem_singleton]
    intro empty
    exact allocationID_ne_empty F binding.bindingId (name.symm.trans empty.symm)
  · intro i member
    rw [List.mem_singleton.mp member]
    exact Or.inl (Keyed.find_none_iff.mp unused)

omit [Platform F] [DecidableEq F] in
theorem withStates_names (state : AllocationState) (few : List String) :
    (withStates state few allocations).map Allocation.allocationId = allocations.map Allocation.allocationId :=
  Keyed.modifyAll_keys (f := fun a : Allocation F => { a with state }) (fun _ => rfl) few

theorem drafted_names (drafted : Drafted before plan devices allocations ids) :
    ∃ extra, allocations.map Allocation.allocationId = before.allocations.map Allocation.allocationId ++ extra ∧
      Added before plan ids extra := by
  cases drafted with
  | admission now admitted purpose loop =>
    obtain ⟨fresh,news,appended,distinct,made⟩ := admitBinding_loop loop
    have bound : ∀ id ∈ fresh.map Allocation.allocationId,
        ∃ binding ∈ plan.bindings, id = allocationID F binding.bindingId := by
      intro id member
      obtain ⟨a,among,rfl⟩ := List.mem_map.mp member
      obtain ⟨binding,listed,new⟩ := exists_of_forall₂ news among
      exact ⟨binding,listed,new.name⟩
    refine ⟨fresh.map Allocation.allocationId,by rw [appended,List.map_append],distinct,?_,?_,?_⟩
    · intro id member
      rw [made.names]
      exact member
    · intro empty
      obtain ⟨binding,_,name⟩ := bound "" empty
      exact allocationID_ne_empty F binding.bindingId name.symm
    · intro id member
      exact Or.inr ⟨purpose,bound id member⟩
  | lifecycle | keepSize => exact ⟨[],by simp,added_nil⟩
  | release =>
    refine ⟨[],?_,added_nil⟩
    rw [List.append_nil,withStates_names]
  | resize action a size =>
    refine ⟨[],?_,added_nil⟩
    rw [List.append_nil]
    exact Keyed.modify_keys (f := fun mutable : Allocation F =>
      { mutable with resources := some size, intentVersion := plan.intentVersion }) (fun _ => rfl)
  | rebind action a fresh binding size purpose single kind target bound asked fits unused new =>
    exact ⟨[allocationID F binding.bindingId],by simp [new.name],added_one (by simp) rfl unused⟩
  | recreate action a fresh binding size purpose single kind target bound asked held samePlace unused new =>
    exact ⟨[allocationID F binding.bindingId],by simp [new.name],added_one (by simp) rfl unused⟩
  | preemption parts victims fresh purpose shape targets distinct fits unused new =>
    refine ⟨[allocationID F parts.replacement.bindingId],?_,added_one (by simp) rfl unused⟩
    rw [List.map_append,List.map_singleton,new.name,withStates_names]

/-- An admission plan brings new names only; of other plans this is checked. -/
def Unbound (before : ClusterSnapshot F) (plan : PlacementPlan F) : Prop :=
  isMutationPurpose (effectivePlanPurpose plan) = false → ∀ binding ∈ plan.bindings,
    allocationID F binding.bindingId ∉ before.allocations.map Allocation.allocationId

instance : Decidable (Unbound before plan) :=
  inferInstanceAs (Decidable (isMutationPurpose (effectivePlanPurpose plan) = false → ∀ binding ∈ plan.bindings,
    allocationID F binding.bindingId ∉ before.allocations.map Allocation.allocationId))

theorem drafted_distinct (drafted : Drafted before plan devices allocations ids) (unbound : Unbound before plan)
    (distinct : (before.allocations.map Allocation.allocationId).Nodup) :
    (allocations.map Allocation.allocationId).Nodup := by
  obtain ⟨extra,names,added⟩ := drafted_names drafted
  rw [names,List.nodup_append]
  refine ⟨distinct,added.distinct,?_⟩
  intro id old other new same
  subst same
  rcases added.fresh id new with fresh | ⟨admission,binding,member,name⟩
  · exact fresh old
  · rw [name] at old
    exact unbound admission binding member old

end Drafted

end TgsRl.Frames
