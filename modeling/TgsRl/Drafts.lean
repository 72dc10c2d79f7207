import TgsRl.Reservations

/-!
What a successful reservation has done: `reserveNewPlan_accepted` takes every accepted plan apart
once. The results about capacity, locking and finalization go by cases on `Drafted` and never unfold
a reservation again.
-/
namespace TgsRl.Drafts
open Resources Messages State Loops Mutations Preemption Reservations

variable {F : Type}

/-- The allocation an action works on: an active one of those the plan names, first of its name in the snapshot. -/
structure Target (before : ClusterSnapshot F) (plan : PlacementPlan F) (action : Action F) (a : Allocation F) :
    Prop where
  found : findAllocation before.allocations a.allocationId = some a
  listed : a.allocationId ∈ plan.affectedAllocationIds
  named : action.targetId ≠ "" → a.allocationId = action.targetId
  active : a.state = .active

variable {ids : List String} {affected : Map String (Allocation F)} {a : Allocation F} {action : Action F}
  {before : ClusterSnapshot F} {plan : PlacementPlan F} {reservation : PlanReservation F} {now : Int} {s next : Store F}

theorem affectedAllocationsByID_lookup {allocations : List (Allocation F)}
    (accepted : affectedAllocationsByID allocations ids = .ok affected) {id : String} (held : affected.lookup id = some a) :
    findAllocation allocations id = some a ∧ id ∈ ids := by
  unfold affectedAllocationsByID at accepted
  split at accepted
  · cases accepted
  refine foldlM_keeps (P := fun items : Map String (Allocation F) => ∀ id a, items.lookup id = some a →
    findAllocation allocations id = some a ∧ id ∈ ids) ?_ ?_ accepted id a held
  · intro id a impossible
    simp at impossible
  · intro items key items' member holds stepped id a looked
    split at stepped
    · cases stepped
    rename_i allocation found
    split at stepped
    · cases stepped
      by_cases same : id = key
      · subst same
        rw [AList.lookup_insert] at looked
        cases looked
        exact ⟨found,member⟩
      · rw [AList.lookup_insert_ne same] at looked
        exact holds id a looked
    · cases stepped

theorem values_singleton {only : Allocation F} (single : affected.values = [only]) : ∃ id, affected.lookup id = some only := by
  have member : only ∈ affected.values := by simp [single]
  obtain ⟨e,entry,same⟩ := List.mem_map.mp member
  refine ⟨e.1,Map.mem_entries_iff.mp ?_⟩
  rw [← same]
  exact entry

theorem namedAffectedAllocation_lookup (accepted : namedAffectedAllocation action affected = .ok a) :
    affected.lookup action.targetId = some a := by
  unfold namedAffectedAllocation at accepted
  split at accepted
  · cases accepted
  rename_i found
  cases accepted
  exact found

theorem singleAffectedAllocation_lookup (accepted : singleAffectedAllocation action affected = .ok a) :
    ∃ id, affected.lookup id = some a ∧ (action.targetId ≠ "" → id = action.targetId) := by
  unfold singleAffectedAllocation at accepted
  split at accepted
  · rename_i only single
    split at accepted
    · rename_i unnamed
      cases accepted
      obtain ⟨id,held⟩ := values_singleton single
      exact ⟨id,held,fun named => absurd unnamed named⟩
    · exact ⟨_,namedAffectedAllocation_lookup accepted,fun _ => rfl⟩
  · exact ⟨_,namedAffectedAllocation_lookup accepted,fun _ => rfl⟩

/-- The target of a single affected allocation, apart from its state. -/
theorem singleAffectedAllocation_found
    (listed : affectedAllocationsByID before.allocations plan.affectedAllocationIds = .ok affected)
    (accepted : singleAffectedAllocation action affected = .ok a) :
    findAllocation before.allocations a.allocationId = some a ∧ a.allocationId ∈ plan.affectedAllocationIds ∧
      (action.targetId ≠ "" → a.allocationId = action.targetId) := by
  obtain ⟨id,held,named⟩ := singleAffectedAllocation_lookup accepted
  obtain ⟨found,member⟩ := affectedAllocationsByID_lookup listed held
  have same : a.allocationId = id := (Keyed.find_some found).2
  rw [same]
  exact ⟨found,member,named⟩

theorem activeTarget_target (listed : affectedAllocationsByID before.allocations plan.affectedAllocationIds = .ok affected)
    (accepted : activeTarget action affected = .ok a) : Target before plan action a := by
  unfold activeTarget at accepted
  split at accepted
  · cases accepted
  rename_i allocation single
  split at accepted
  · cases accepted
  rename_i active
  cases accepted
  obtain ⟨found,member,named⟩ := singleAffectedAllocation_found listed single
  exact ⟨found,member,named,by simpa using active⟩

/-- A new allocation of a binding: pending, on the binding's devices, with its resources. -/
structure Fresh [Platform F] (binding : Binding F) (a : Allocation F) : Prop where
  name : a.allocationId = allocationID F binding.bindingId
  devices : a.deviceIds = binding.deviceIds
  resources : a.resources = binding.resources
  pending : a.state = .pending

/-- What the victims hold on a device, as the source adds it up. -/
def releasedOn [Platform F] (target : String) (victims : List (Allocation F)) : ResourceVector F :=
  victims.foldl (fun released victim =>
    if target ∈ victim.deviceIds then addReleased released victim.resources else released) .empty

/-- The allocations with the first of each name in the given state. -/
def withStates (state : AllocationState) (ids : List String) (allocations : List (Allocation F)) :
    List (Allocation F) :=
  Keyed.modifyAll Allocation.allocationId ids (fun allocation => { allocation with state }) allocations

def ActionPurpose (plan : PlacementPlan F) : Prop :=
  isMutationPurpose (effectivePlanPurpose plan) = true ∧ effectivePlanPurpose plan ≠ .preemption

/-- `Drafted before plan devices allocations ids`: a reservation of the plan turns the devices and allocations of
    `before` into the given ones and reserves the names `ids`. -/
inductive Drafted [Platform F] [DecidableEq F] (before : ClusterSnapshot F) (plan : PlacementPlan F) :
    List (Device F) → List (Allocation F) → List String → Prop
  | admission (now : Int) (admitted : AdmissionState F)
      (purpose : isMutationPurpose (effectivePlanPurpose plan) = false)
      (loop : plan.bindings.foldlM (admitBinding plan now) ⟨before.devices,pendingByID before.pendingUnits,
        before.allocations,newReservation plan before,[],[]⟩ = .ok admitted) :
      Drafted before plan admitted.devices admitted.allocations admitted.reservation.allocationIDs
  | lifecycle (ids : List String) (purpose : ActionPurpose plan)
      (nonempty : plan.actions ≠ [])
      (mergeable : ∀ action ∈ plan.actions, mergeableLifecycleAction action.actionType = true)
      (targets : ∀ id ∈ ids, id ∈ plan.affectedAllocationIds ∧ (findAllocation before.allocations id).isSome) :
      Drafted before plan before.devices before.allocations ids
  | release (action : Action F) (a : Allocation F) (purpose : ActionPurpose plan) (single : plan.actions = [action])
      (kind : action.actionType = .release) (target : Target before plan action a) :
      Drafted before plan before.devices (withStates .releasing [a.allocationId] before.allocations) [a.allocationId]
  | keepSize (action : Action F) (a : Allocation F) (size : ResourceVector F) (purpose : ActionPurpose plan)
      (single : plan.actions = [action]) (kind : action.actionType = .resize) (target : Target before plan action a)
      (asked : action.binding.bind Binding.resources = some size) (held : a.resources = some size) :
      Drafted before plan before.devices before.allocations [a.allocationId]
  | resize (action : Action F) (a : Allocation F) (size current : ResourceVector F) (purpose : ActionPurpose plan)
      (single : plan.actions = [action]) (kind : action.actionType = .resize) (target : Target before plan action a)
      (asked : action.binding.bind Binding.resources = some size) (held : a.resources = some current)
      (fits : ∀ d ∈ a.deviceIds, checkFits before (positiveResourceDelta size current) d = .ok ()) :
      Drafted before plan
        (Keyed.modifyAll Device.deviceId a.deviceIds (fun device => giveBack (positiveResourceDelta current size)
          (consume (positiveResourceDelta size current) device)) before.devices)
        (Keyed.modify Allocation.allocationId a.allocationId
          (fun mutable => { mutable with resources := some size, intentVersion := plan.intentVersion })
          before.allocations)
        [a.allocationId]
  | rebind (action : Action F) (a fresh : Allocation F) (binding : Binding F) (size : ResourceVector F)
      (purpose : ActionPurpose plan) (single : plan.actions = [action]) (kind : action.actionType = .rebind)
      (target : Target before plan action a) (bound : action.binding = some binding)
      (asked : binding.resources = some size)
      (fits : ∀ d ∈ binding.deviceIds, checkReadyFits before size d = .ok ())
      (unused : findAllocation before.allocations (allocationID F binding.bindingId) = none)
      (new : Fresh binding fresh) :
      Drafted before plan (Keyed.modifyAll Device.deviceId binding.deviceIds (consume size) before.devices)
        (before.allocations ++ [fresh]) [a.allocationId,allocationID F binding.bindingId]
  | recreate (action : Action F) (a fresh : Allocation F) (binding : Binding F) (size : ResourceVector F)
      (purpose : ActionPurpose plan) (single : plan.actions = [action]) (kind : action.actionType = .recreate)
      (target : Target before plan action a) (bound : action.binding = some binding)
      (asked : binding.resources = some size) (held : a.resources = some size)
      (samePlace : binding.deviceIds = a.deviceIds)
      (unused : findAllocation before.allocations (allocationID F binding.bindingId) = none)
      (new : Fresh binding fresh) :
      Drafted before plan before.devices (before.allocations ++ [fresh])
        [a.allocationId,allocationID F binding.bindingId]
  | preemption (parts : PreemptionParts F) (victims : List (Allocation F)) (fresh : Allocation F)
      (purpose : effectivePlanPurpose plan = .preemption) (shape : preemptionPlanParts plan = .ok parts)
      (targets : List.Forall₂ (Target before plan) parts.releaseActions victims)
      (distinct : (victims.map Allocation.allocationId).Nodup)
      (fits : checkReadyFits before (positiveResourceDelta parts.resources (releasedOn parts.target victims))
        parts.target = .ok ())
      (unused : findAllocation before.allocations (allocationID F parts.replacement.bindingId) = none)
      (new : Fresh parts.replacement fresh) :
      Drafted before plan
        (Keyed.modifyAll Device.deviceId [parts.target]
          (consume (positiveResourceDelta parts.resources (releasedOn parts.target victims))) before.devices)
        (withStates .releasing (victims.map Allocation.allocationId) before.allocations ++ [fresh])
        (victims.map Allocation.allocationId ++ [allocationID F parts.replacement.bindingId])

/-- The reservation of a plan, unfinalized, made on the given snapshot, with the given names. -/
structure Made (plan : PlacementPlan F) (before : ClusterSnapshot F) (ids : List String)
    (reservation : PlanReservation F) : Prop where
  plan : reservation.plan = plan
  before : reservation.beforeSnapshot = some before
  unfinalized : reservation.finalized = false
  names : reservation.allocationIDs = ids

theorem made_new (plan : PlacementPlan F) (before : ClusterSnapshot F) :
    Made plan before [] (newReservation plan before) := ⟨rfl,rfl,rfl,rfl⟩

theorem made_remember (made : Made plan before ids reservation) (deviceIDs : List String) :
    Made plan before ids (rememberDeviceAllocatable reservation deviceIDs) := by
  unfold rememberDeviceAllocatable
  split
  · exact made
  · exact ⟨made.plan,made.before,made.unfinalized,made.names⟩

theorem made_reserve (made : Made plan before ids reservation) (more : List String) :
    Made plan before (ids ++ more) (reserveIDs reservation more) :=
  ⟨made.plan,made.before,made.unfinalized,by simp [reserveIDs,made.names]⟩

theorem made_units (made : Made plan before ids reservation) (units : List (PendingUnit F)) :
    Made plan before ids { reservation with pendingUnits := units } :=
  ⟨made.plan,made.before,made.unfinalized,made.names⟩

variable [Platform F] [DecidableEq F]

def DraftOf (before : ClusterSnapshot F) (plan : PlacementPlan F) (draft : Draft F) : Prop :=
  ∃ ids, Drafted before plan draft.1.devices draft.1.allocations ids ∧ Made plan before ids draft.2

section OneAction
variable {draft : Draft F} (purpose : ActionPurpose plan) (single : plan.actions = [action])
  (listed : affectedAllocationsByID before.allocations plan.affectedAllocationIds = .ok affected)
include purpose single listed

theorem reserveReleaseAction_drafted (kind : action.actionType = .release)
    (accepted : reserveReleaseAction before plan action affected (newReservation plan before) = .ok draft) :
    DraftOf before plan draft := by
  unfold reserveReleaseAction at accepted
  split at accepted
  · cases accepted
  rename_i a active
  split at accepted
  · cases accepted
  cases accepted
  refine ⟨_,.release action a purpose single kind (activeTarget_target listed active),?_⟩
  have made := made_reserve (made_new plan before) [a.allocationId]
  dsimp only
  split
  · exact ⟨made.plan,made.before,made.unfinalized,made.names⟩
  · exact made

theorem reserveLifecycleOnlyAction_drafted (kind : mergeableLifecycleAction action.actionType = true)
    (accepted : reserveLifecycleOnlyAction before action affected (newReservation plan before) = .ok draft) :
    DraftOf before plan draft := by
  unfold reserveLifecycleOnlyAction at accepted
  split at accepted
  · cases accepted
  rename_i a active
  cases accepted
  have target := activeTarget_target listed active
  refine ⟨[a.allocationId],.lifecycle _ purpose (by simp [single]) (by simpa [single] using kind) ?_,
    made_reserve (made_new plan before) _⟩
  intro id member
  rw [List.mem_singleton.mp member]
  exact ⟨target.listed,by simp [target.found]⟩

theorem reserveResizeAction_drafted (kind : action.actionType = .resize)
    (accepted : reserveResizeAction before plan action affected (newReservation plan before) = .ok draft) :
    DraftOf before plan draft := by
  unfold reserveResizeAction at accepted
  split at accepted
  · cases accepted
  rename_i a active
  have target := activeTarget_target listed active
  split at accepted
  · cases accepted
  rename_i size asked
  split at accepted
  · cases accepted
  rename_i current held
  split at accepted
  · cases accepted
  rename_i mutable found
  rw [target.found] at found
  cases found
  split at accepted
  · rename_i same
    cases accepted
    subst same
    exact ⟨_,.keepSize action a _ purpose single kind target asked held,made_reserve (made_new plan before) _⟩
  · dsimp only at accepted
    split at accepted
    · cases accepted
    rename_i checked
    cases accepted
    refine ⟨_,.resize action a size current purpose single kind target asked held
      (checkEach_ok_iff.mp checked),?_⟩
    exact made_reserve (made_remember (made_new plan before) _) _

theorem reserveReplacementAction_drafted (sameDevice : Bool)
    (kind : action.actionType = if sameDevice then .recreate else .rebind)
    (accepted : reserveReplacementAction before plan action affected (newReservation plan before) now sameDevice =
      .ok draft) : DraftOf before plan draft := by
  unfold reserveReplacementAction at accepted
  split at accepted
  · cases accepted
  rename_i a active
  have target := activeTarget_target listed active
  split at accepted
  · cases accepted
  rename_i binding bound
  split at accepted
  · cases accepted
  rename_i size asked
  split at accepted
  · cases accepted
  split at accepted
  · cases accepted
  rename_i full
  have held : a.resources = some size := (not_not.mp full).symm.trans asked
  have made := made_remember (made_remember (made_new plan before) a.deviceIds) binding.deviceIds
  cases sameDevice with
  | true =>
    simp only [if_true] at accepted kind
    split at accepted
    · cases accepted
    rename_i place
    unfold addReplacement at accepted
    dsimp only at accepted
    split at accepted
    · cases accepted
    rename_i unused
    cases accepted
    exact ⟨_,.recreate action a _ binding size purpose single kind target bound asked held
      (by simpa using place) unused ⟨rfl,rfl,rfl,rfl⟩,made_reserve made _⟩
  | false =>
    simp only [Bool.false_eq_true,if_false] at accepted kind
    split at accepted
    · cases accepted
    rename_i checked
    unfold addReplacement at accepted
    dsimp only at accepted
    split at accepted
    · cases accepted
    rename_i unused
    cases accepted
    exact ⟨_,.rebind action a _ binding size purpose single kind target bound asked
      (checkEach_ok_iff.mp checked) unused ⟨rfl,rfl,rfl,rfl⟩,made_reserve made _⟩

theorem applyMutationReservation_drafted
    (accepted : applyMutationReservation before plan action affected (newReservation plan before) now = .ok draft) :
    DraftOf before plan draft := by
  unfold applyMutationReservation at accepted
  split at accepted
  case h_1 kind => exact reserveReleaseAction_drafted purpose single listed kind accepted
  case h_8 kind => exact reserveResizeAction_drafted purpose single listed kind accepted
  case h_9 kind => exact reserveReplacementAction_drafted purpose single listed false kind accepted
  case h_10 kind => exact reserveReplacementAction_drafted purpose single listed true kind accepted
  case h_11 => cases accepted
  case h_12 => cases accepted
  all_goals
    rename_i kind
    exact reserveLifecycleOnlyAction_drafted purpose single listed (by rw [kind]; rfl) accepted

end OneAction

omit [Platform F] [DecidableEq F] in
/-- The loop over lifecycle actions collects mergeable actions and names of affected allocations. -/
theorem lifecycleStep_loop (listed : affectedAllocationsByID before.allocations plan.affectedAllocationIds = .ok affected)
    {mutations : Map String (List ActionType)} (loop : plan.actions.foldlM (lifecycleStep affected) ∅ = .ok mutations) :
    (∀ action ∈ plan.actions, mergeableLifecycleAction action.actionType = true) ∧
      ∀ id ∈ mutations.pairs.map Prod.fst, id ∈ plan.affectedAllocationIds ∧
        (findAllocation before.allocations id).isSome := by
  have held : (∀ action ∈ plan.actions, mergeableLifecycleAction action.actionType = true) ∧
      ∀ id ∈ mutations, id ∈ plan.affectedAllocationIds ∧ (findAllocation before.allocations id).isSome := by
    refine foldlM_prefix (P := fun (seen : List (Action F)) (mutations : Map String (List ActionType)) =>
      (∀ action ∈ seen, mergeableLifecycleAction action.actionType = true) ∧
        ∀ id ∈ mutations, id ∈ plan.affectedAllocationIds ∧ (findAllocation before.allocations id).isSome) ?_ ?_ loop
    · simp
    · intro seen mutations action next _ holds stepped
      unfold lifecycleStep at stepped
      split at stepped
      · cases stepped
      rename_i mergeable
      split at stepped
      · cases stepped
      rename_i a single
      dsimp only at stepped
      split at stepped
      · cases stepped
        obtain ⟨found,member,_⟩ := singleAffectedAllocation_found listed single
        refine ⟨?_,?_⟩
        · intro other among
          rcases List.mem_append.mp among with earlier | last
          · exact holds.1 other earlier
          · rw [List.mem_singleton.mp last]
            simpa using mergeable
        · intro id among
          rcases (AList.mem_insert _).mp among with same | earlier
          · rw [same]
            exact ⟨member,by simp [found]⟩
          · exact holds.2 id earlier
      · cases stepped
  refine ⟨held.1,?_⟩
  intro id among
  obtain ⟨⟨key,types⟩,entry,rfl⟩ := List.mem_map.mp among
  refine held.2 key (AList.lookup_isSome.mp ?_)
  simp [Map.mem_pairs_iff.mp entry]

omit [DecidableEq F] in
theorem releasedOn_append (target : String) (victims : List (Allocation F)) (victim : Allocation F) :
    releasedOn target (victims ++ [victim]) =
      if target ∈ victim.deviceIds then addReleased (releasedOn target victims) victim.resources
      else releasedOn target victims := by
  simp [releasedOn]

omit [Platform F] [DecidableEq F] in
theorem withStates_append (state : AllocationState) (ids : List String) (id : String)
    (allocations : List (Allocation F)) :
    withStates state (ids ++ [id]) allocations =
      Keyed.modify Allocation.allocationId id (fun a => { a with state }) (withStates state ids allocations) := by
  simp [withStates,Keyed.modifyAll]

/-- The loop over the release actions: one distinct active victim for each action, marked releasing and counted. -/
theorem releaseVictim_loop {target : String} {actions : List (Action F)} {final : VictimState F}
    (listed : affectedAllocationsByID before.allocations plan.affectedAllocationIds = .ok affected)
    (loop : actions.foldlM (releaseVictim affected target) ⟨before,newReservation plan before,.empty,[]⟩ = .ok final) :
    ∃ victims, List.Forall₂ (Target before plan) actions victims ∧ (victims.map Allocation.allocationId).Nodup ∧
      final.working.devices = before.devices ∧
      final.working.allocations = withStates .releasing (victims.map Allocation.allocationId) before.allocations ∧
      final.releasedOnTarget = releasedOn target victims ∧
      Made plan before (victims.map Allocation.allocationId) final.reservation := by
  have held : ∃ victims, List.Forall₂ (Target before plan) actions victims ∧
      (victims.map Allocation.allocationId).Nodup ∧ final.working.devices = before.devices ∧
      final.working.allocations = withStates .releasing (victims.map Allocation.allocationId) before.allocations ∧
      final.releasedOnTarget = releasedOn target victims ∧
      Made plan before (victims.map Allocation.allocationId) final.reservation ∧
      ∀ v ∈ victims, v.allocationId ∈ final.releasedVictims := by
    refine foldlM_prefix (P := fun (seen : List (Action F)) (state : VictimState F) =>
      ∃ victims, List.Forall₂ (Target before plan) seen victims ∧ (victims.map Allocation.allocationId).Nodup ∧
        state.working.devices = before.devices ∧
        state.working.allocations = withStates .releasing (victims.map Allocation.allocationId) before.allocations ∧
        state.releasedOnTarget = releasedOn target victims ∧
        Made plan before (victims.map Allocation.allocationId) state.reservation ∧
        ∀ v ∈ victims, v.allocationId ∈ state.releasedVictims) ?_ ?_ loop
    · exact ⟨[],.nil,by simp,rfl,rfl,rfl,made_new plan before,by simp⟩
    · rintro seen state action next _ ⟨victims,targets,distinct,devices,allocations,released,made,remembered⟩ stepped
      unfold releaseVictim at stepped
      split at stepped
      · cases stepped
      rename_i victim active
      split at stepped
      · cases stepped
      split at stepped
      · cases stepped
      rename_i unseen
      split at stepped
      · cases stepped
      cases stepped
      refine ⟨victims ++ [victim],?_,?_,devices,?_,?_,?_,?_⟩
      · exact List.rel_append targets (.cons (activeTarget_target listed active) .nil)
      · rw [List.map_append,List.nodup_append]
        refine ⟨distinct,by simp,?_⟩
        intro id among other single same
        obtain ⟨v,member,rfl⟩ := List.mem_map.mp among
        rw [List.map_singleton,List.mem_singleton] at single
        exact unseen (by rw [← single,← same]; exact remembered v member)
      · simp only [setAllocation]
        rw [allocations,List.map_append,List.map_singleton,withStates_append]
      · simp only [released,releasedOn_append]
      · rw [List.map_append]
        exact made_reserve made _
      · intro v among
        rcases List.mem_append.mp among with earlier | last
        · exact List.mem_cons_of_mem _ (remembered v earlier)
        · rw [List.mem_singleton.mp last]
          exact List.mem_cons_self
  obtain ⟨victims,targets,distinct,devices,allocations,released,made,_⟩ := held
  exact ⟨victims,targets,distinct,devices,allocations,released,made⟩

omit [DecidableEq F] in
theorem checkReadyFits_congr {first second : ClusterSnapshot F} (same : first.devices = second.devices)
    (resources : ResourceVector F) (d : String) :
    checkReadyFits first resources d = checkReadyFits second resources d := by
  simp only [checkReadyFits,same]

omit [Platform F] [DecidableEq F] in
theorem findAllocation_withStates_none {state : AllocationState} {allocations : List (Allocation F)} {id : String} :
    findAllocation (withStates state ids allocations) id = none ↔ findAllocation allocations id = none := by
  simp only [findAllocation,Keyed.find_none_iff,withStates]
  rw [Keyed.modifyAll_keys]
  exact fun _ => rfl

theorem reservePreemptionReplacement_drafted {parts : PreemptionParts F} {draft : Draft F}
    (purpose : effectivePlanPurpose plan = .preemption) (shape : preemptionPlanParts plan = .ok parts)
    (listed : affectedAllocationsByID before.allocations plan.affectedAllocationIds = .ok affected)
    (accepted : reservePreemptionReplacement before plan parts affected (newReservation plan before) now = .ok draft) :
    DraftOf before plan draft := by
  unfold reservePreemptionReplacement at accepted
  split at accepted
  · cases accepted
  rename_i final loop
  obtain ⟨victims,targets,distinct,devices,allocations,released,made⟩ := releaseVictim_loop listed loop
  unfold placeReplacement at accepted
  split at accepted
  · cases accepted
  rename_i pending remaining _
  dsimp only at accepted
  split at accepted
  · cases accepted
  rename_i fits
  split at accepted
  · cases accepted
  rename_i unused
  cases accepted
  rw [released] at fits
  replace fits := (checkReadyFits_congr devices.symm _ _).trans fits
  rw [allocations,findAllocation_withStates_none] at unused
  refine ⟨victims.map Allocation.allocationId ++ [allocationID F parts.replacement.bindingId],?_,?_⟩
  · have drafted := Drafted.preemption parts victims (buildPreemptionReplacementAllocation plan
      parts.bindAction parts.replacement pending (allocationID F parts.replacement.bindingId) now)
      purpose shape targets distinct fits unused ⟨rfl,rfl,rfl,rfl⟩
    simpa only [setDevices,devices,allocations,released] using drafted
  · exact made_reserve (made_remember (made_units made _) _) _

/-- One admitted binding: its unit and device pass the checks, the device gives up the resources and the binding's
    allocation joins the snapshot and the reservation. -/
theorem admitBinding_ok {state next : AdmissionState F} {binding : Binding F}
    (accepted : admitBinding plan now state binding = .ok next) :
    ∃ (size : ResourceVector F) (d : String) (fresh : Allocation F),
      binding.resources = some size ∧ binding.deviceIds = [d] ∧ admissionDevice state size d = .ok () ∧
      Fresh binding fresh ∧ allocationID F binding.bindingId ∉ state.seenAllocations ∧
      next.devices = (Keyed.modify Device.deviceId d (consume size) state.devices.reverse).reverse ∧
      next.allocations = state.allocations ++ [fresh] ∧
      next.seenAllocations = allocationID F binding.bindingId :: state.seenAllocations ∧
      ∃ units, next.reservation = { state.reservation with
        pendingUnits := units
        allocationIDs := state.reservation.allocationIDs ++ [allocationID F binding.bindingId] } := by
  unfold admitBinding at accepted
  dsimp only at accepted
  split at accepted
  · cases accepted
  split at accepted
  · rename_i size d asked placed
    split at accepted
    · cases accepted
    rename_i unit _
    split at accepted
    · cases accepted
    rename_i fits
    split at accepted
    · cases accepted
    rename_i unseen
    cases accepted
    exact ⟨size,d,buildAdmissionAllocation plan binding unit now,asked,placed,fits,⟨rfl,rfl,rfl,rfl⟩,unseen,
      rfl,rfl,rfl,_,rfl⟩
  · cases accepted

/-- The loop over the bindings: one new allocation for each binding, with distinct names. -/
theorem admitBinding_loop {final : AdmissionState F}
    (loop : plan.bindings.foldlM (admitBinding plan now) ⟨before.devices,pendingByID before.pendingUnits,
      before.allocations,newReservation plan before,[],[]⟩ = .ok final) :
    ∃ fresh, List.Forall₂ Fresh plan.bindings fresh ∧ final.allocations = before.allocations ++ fresh ∧
      (fresh.map Allocation.allocationId).Nodup ∧
      Made plan before (fresh.map Allocation.allocationId) final.reservation := by
  have held : ∃ fresh, List.Forall₂ Fresh plan.bindings fresh ∧ final.allocations = before.allocations ++ fresh ∧
      (fresh.map Allocation.allocationId).Nodup ∧
      Made plan before (fresh.map Allocation.allocationId) final.reservation ∧
      ∀ a ∈ fresh, a.allocationId ∈ final.seenAllocations := by
    refine foldlM_prefix (P := fun (seen : List (Binding F)) (state : AdmissionState F) =>
      ∃ fresh, List.Forall₂ Fresh seen fresh ∧ state.allocations = before.allocations ++ fresh ∧
        (fresh.map Allocation.allocationId).Nodup ∧
        Made plan before (fresh.map Allocation.allocationId) state.reservation ∧
        ∀ a ∈ fresh, a.allocationId ∈ state.seenAllocations) ?_ ?_ loop
    · exact ⟨[],.nil,by simp,by simp,made_new plan before,by simp⟩
    · rintro seen state binding next _ ⟨fresh,news,allocations,distinct,made,remembered⟩ stepped
      obtain ⟨size,d,a,_,_,_,new,unseen,_,allocations',seen',units,reservation⟩ := admitBinding_ok stepped
      refine ⟨fresh ++ [a],List.rel_append news (.cons new .nil),?_,?_,?_,?_⟩
      · rw [allocations',allocations,List.append_assoc]
      · rw [List.map_append,List.nodup_append]
        refine ⟨distinct,by simp,?_⟩
        intro id among other single same
        obtain ⟨b,member,rfl⟩ := List.mem_map.mp among
        rw [List.map_singleton,List.mem_singleton] at single
        exact unseen (by rw [← new.name,← single,← same]; exact remembered b member)
      · rw [reservation,List.map_append,List.map_singleton,new.name]
        exact made_reserve (made_units made units) _
      · intro b among
        rw [seen']
        rcases List.mem_append.mp among with earlier | last
        · exact List.mem_cons_of_mem _ (remembered b earlier)
        · rw [List.mem_singleton.mp last,new.name]
          exact List.mem_cons_self
  obtain ⟨fresh,news,allocations,distinct,made,_⟩ := held
  exact ⟨fresh,news,allocations,distinct,made⟩

omit [DecidableEq F] in
theorem fresh_names {bindings : List (Binding F)} {fresh : List (Allocation F)} (news : List.Forall₂ Fresh bindings fresh) :
    fresh.map Allocation.allocationId = bindings.map (fun binding => allocationID F binding.bindingId) := by
  induction news with
  | nil => rfl
  | cons new _ ih => rw [List.map_cons,List.map_cons,new.name,ih]

/-- The names an unfinalized reservation of another plan holds are free of the plan's targets. -/
def Unlocked (s : Store F) (plan : PlacementPlan F) : Prop :=
  ∀ id ∈ plan.affectedAllocationIds, lockHolder s.reservations plan.planId id = none

omit [Platform F] [DecidableEq F] in
theorem ensureMutationTargetsUnlocked_ok
    (accepted : ensureMutationTargetsUnlocked s.reservations plan.planId plan.affectedAllocationIds = .ok ()) :
    Unlocked s plan := by
  intro id member
  have checked := checkEach_ok_iff.mp accepted id member
  split at checked
  · rename_i free; exact free
  · cases checked

structure Accepted (s : Store F) (plan : PlacementPlan F) (next : Store F) (ids : List String)
    (reservation : PlanReservation F) : Prop where
  drafted : Drafted s.snapshot plan next.snapshot.devices next.snapshot.allocations ids
  made : Made plan s.snapshot ids reservation
  reservations : next.reservations = s.reservations.insert plan.planId reservation
  transactions : next.transactions = s.transactions
  unlocked : isMutationPurpose (effectivePlanPurpose plan) = true → Unlocked s plan

omit [Platform F] [DecidableEq F] in
theorem effective_preemption : effectivePlanPurpose plan = .preemption ↔ plan.purpose = .preemption := by
  unfold effectivePlanPurpose
  split
  · rename_i legacy
    simp [legacy.1]
  · rfl

theorem reserveActionPlan_accepted (purpose : ActionPurpose plan) (accepted : reserveActionPlan s plan now = .ok next) :
    ∃ ids reservation, Accepted s plan next ids reservation := by
  unfold reserveActionPlan at accepted
  split at accepted
  · cases accepted
  · rename_i first second later several
    unfold reserveLifecyclePlan at accepted
    split at accepted
    · cases accepted
    rename_i affected listed
    split at accepted
    · cases accepted
    rename_i unlocked
    split at accepted
    · cases accepted
    rename_i mutations loop
    cases accepted
    obtain ⟨mergeable,targets⟩ := lifecycleStep_loop listed loop
    refine ⟨_,_,.lifecycle _ purpose ?_ mergeable ?_,made_reserve (made_new plan s.snapshot) _,rfl,rfl,
      fun _ => ensureMutationTargetsUnlocked_ok unlocked⟩
    · simp [several]
    · intro id member
      exact targets id ((List.mem_insertionSort _).mp member)
  · rename_i action single
    split at accepted
    · cases accepted
    split at accepted
    · cases accepted
    rename_i affected listed
    split at accepted
    · cases accepted
    rename_i unlocked
    split at accepted
    · cases accepted
    split at accepted
    · cases accepted
    rename_i working reservation drafted
    cases accepted
    obtain ⟨ids,draft,made⟩ := applyMutationReservation_drafted purpose single listed drafted
    refine ⟨ids,reservation,?_,made,?_,?_,fun _ => ensureMutationTargetsUnlocked_ok unlocked⟩
    · simpa [Store.setReservation] using draft
    · simp [Store.setReservation]
    · simp [Store.setReservation]

theorem reservePreemptionPlan_accepted (purpose : effectivePlanPurpose plan = .preemption)
    (accepted : reservePreemptionPlan s plan now = .ok next) : ∃ ids reservation, Accepted s plan next ids reservation := by
  unfold reservePreemptionPlan at accepted
  split at accepted
  · cases accepted
  rename_i parts shape
  split at accepted
  · cases accepted
  rename_i affected listed
  split at accepted
  · cases accepted
  rename_i unlocked
  split at accepted
  · cases accepted
  split at accepted
  · cases accepted
  rename_i working reservation drafted
  cases accepted
  obtain ⟨ids,draft,made⟩ := reservePreemptionReplacement_drafted purpose shape listed drafted
  refine ⟨ids,reservation,?_,made,?_,?_,fun _ => ensureMutationTargetsUnlocked_ok unlocked⟩
  · simpa [Store.setReservation] using draft
  · simp [Store.setReservation]
  · simp [Store.setReservation]

theorem reserveAdmissionPlan_accepted (purpose : isMutationPurpose (effectivePlanPurpose plan) = false)
    (accepted : reserveAdmissionPlan s plan now = .ok next) : ∃ ids reservation, Accepted s plan next ids reservation := by
  unfold reserveAdmissionPlan at accepted
  split at accepted
  · cases accepted
  split at accepted
  · cases accepted
  dsimp only at accepted
  split at accepted
  · cases accepted
  rename_i admitted loop
  cases accepted
  obtain ⟨fresh,_,_,_,made⟩ := admitBinding_loop loop
  refine ⟨_,_,.admission now admitted purpose loop,?_,rfl,rfl,fun mutation => ?_⟩
  · rw [made.names]; exact made
  · rw [purpose] at mutation; cases mutation

theorem reserveNewPlan_accepted (accepted : reserveNewPlan s plan now = .ok next) :
    ∃ ids reservation, Accepted s plan next ids reservation := by
  unfold reserveNewPlan at accepted
  split at accepted
  · cases accepted
  split at accepted
  · rename_i mutation
    unfold reserveMutationPlan at accepted
    split at accepted
    · rename_i preempts
      exact reservePreemptionPlan_accepted (effective_preemption.mpr preempts) accepted
    · rename_i other
      exact reserveActionPlan_accepted ⟨mutation,effective_preemption.not.mpr other⟩ accepted
  · rename_i admission
    exact reserveAdmissionPlan_accepted (by simpa using admission) accepted

theorem reservePlan_accepted (accepted : (reservePlan s plan now).err = none) :
    s.reservations.lookup plan.planId = none ∧
      ∃ ids reservation, Accepted s plan (reservePlan s plan now).store ids reservation := by
  unfold reservePlan reservePlanLocked at *
  split
  · rename_i unnamed
    simp [unnamed] at accepted
  · rename_i named
    simp only [named,if_false] at accepted
    split
    · rename_i existing found
      rw [found] at accepted
      dsimp only at accepted
      split at accepted <;> cases accepted
    · rename_i absent
      rw [absent] at accepted
      dsimp only at accepted
      refine ⟨absent,?_⟩
      split
      · rename_i err failed
        rw [failed] at accepted
        cases accepted
      · rename_i next reserved
        exact reserveNewPlan_accepted reserved

theorem reservePlan_refused {err : Err} (refused : (reservePlan s plan now).err = some err) :
    (reservePlan s plan now).store = s := by
  unfold reservePlan reservePlanLocked at *
  split
  · rfl
  rename_i named
  simp only [named,if_false] at refused
  split
  · split <;> rfl
  · rename_i absent
    rw [absent] at refused
    dsimp only at refused
    split
    · rfl
    rename_i next reserved
    rw [reserved] at refused
    cases refused

end TgsRl.Drafts
