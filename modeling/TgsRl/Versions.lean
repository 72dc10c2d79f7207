import TgsRl.Frames
import TgsRl.Restart

/-!
The intent versions of live allocations. An accepted publication moves the allocations of its
execution and stage that are pending or active to its version; it passes over an allocation that is
being released, and the rollback of a resize or of a preemption writes the version of the
before-image back (`victim_falls_behind`).
-/
namespace TgsRl.Versions
open Resources Messages State Loops Intents Mutations Preemption
open Reservations Drafts Settlements Frames Bystanders Durable
open Restart (checkPublication_ok checkPublication_error)

variable {F : Type}

/-- Every allocation comes from one of its name, execution and stage, with the version it had or one that was written. -/
structure Descends (Written : String → UInt64 → Prop) (old new : List (Allocation F)) : Prop where
  names : (new.map Allocation.allocationId).Sublist (old.map Allocation.allocationId)
  source : ∀ b ∈ new, ∃ a ∈ old, a.allocationId = b.allocationId ∧ a.executionId = b.executionId ∧
    a.stageId = b.stageId ∧ (b.intentVersion = a.intentVersion ∨ Written b.allocationId b.intentVersion)

section Descents
variable {Written : String → UInt64 → Prop} {old middle new : List (Allocation F)}

theorem descends_refl (allocations : List (Allocation F)) : Descends Written allocations allocations :=
  ⟨List.Sublist.refl _,fun a member => ⟨a,member,rfl,rfl,rfl,Or.inl rfl⟩⟩

theorem Descends.trans (first : Descends Written old middle) (second : Descends Written middle new) :
    Descends Written old new := by
  refine ⟨second.names.trans first.names,?_⟩
  intro c member
  obtain ⟨b,among,name,execution,stage,version⟩ := second.source c member
  obtain ⟨a,among',name',execution',stage',version'⟩ := first.source b among
  refine ⟨a,among',name'.trans name,execution'.trans execution,stage'.trans stage,?_⟩
  rcases version with kept | written
  · rw [kept,← name]
    exact version'
  · exact Or.inr written

theorem descends_filter (keep : Allocation F → Bool) (allocations : List (Allocation F)) :
    Descends Written allocations (allocations.filter keep) :=
  ⟨List.Sublist.map _ List.filter_sublist,fun a member => ⟨a,List.mem_of_mem_filter member,rfl,rfl,rfl,Or.inl rfl⟩⟩

/-- A change of allocations that keeps name, execution, stage and version. -/
structure Mild (f : Allocation F → Allocation F) : Prop where
  name : ∀ a, (f a).allocationId = a.allocationId
  execution : ∀ a, (f a).executionId = a.executionId
  stage : ∀ a, (f a).stageId = a.stageId
  version : ∀ a, (f a).intentVersion = a.intentVersion

theorem mild_state (state : AllocationState) : Mild (fun a : Allocation F => { a with state }) :=
  ⟨fun _ => rfl,fun _ => rfl,fun _ => rfl,fun _ => rfl⟩

variable {f : Allocation F → Allocation F}

theorem descends_map (mild : Mild f) (allocations : List (Allocation F)) :
    Descends Written allocations (allocations.map f) := by
  refine ⟨?_,?_⟩
  · rw [List.map_map,show Allocation.allocationId ∘ f = Allocation.allocationId from funext mild.name]
  · intro b member
    obtain ⟨a,among,rfl⟩ := List.mem_map.mp member
    exact ⟨a,among,(mild.name a).symm,(mild.execution a).symm,(mild.stage a).symm,Or.inl (mild.version a)⟩

theorem descends_modify {id : String} (name : ∀ a, (f a).allocationId = a.allocationId)
    (execution : ∀ a, (f a).executionId = a.executionId) (stage : ∀ a, (f a).stageId = a.stageId)
    (version : ∀ a, (f a).intentVersion = a.intentVersion ∨ Written id (f a).intentVersion) (allocations : List (Allocation F)) :
    Descends Written allocations (Keyed.modify Allocation.allocationId id f allocations) := by
  refine ⟨?_,?_⟩
  · rw [Keyed.modify_keys name]
  · intro b member
    rcases Keyed.mem_modify member with old | ⟨a,among,here,rfl⟩
    · exact ⟨b,old,rfl,rfl,rfl,Or.inl rfl⟩
    · refine ⟨a,among,(name a).symm,(execution a).symm,(stage a).symm,?_⟩
      rw [name,here]
      exact version a

theorem descends_state (id : String) (state : AllocationState) (allocations : List (Allocation F)) :
    Descends Written allocations (Keyed.modify Allocation.allocationId id (fun a => { a with state }) allocations) := by
  refine descends_modify ?_ ?_ ?_ ?_ _
  · exact fun _ => rfl
  · exact fun _ => rfl
  · exact fun _ => rfl
  · exact fun _ => Or.inl rfl

theorem descends_modifyAll (mild : Mild f) (ids : List String) (allocations : List (Allocation F)) :
    Descends Written allocations (Keyed.modifyAll Allocation.allocationId ids f allocations) := by
  induction ids generalizing allocations with
  | nil => exact descends_refl _
  | cons id ids ih =>
    have here : Descends Written allocations (Keyed.modify Allocation.allocationId id f allocations) :=
      descends_modify mild.name mild.execution mild.stage (fun a => Or.inl (mild.version a)) _
    exact here.trans (ih _)

end Descents

variable [Platform F] [DecidableEq F]

/-- The plan resizes the allocation to the version. -/
def Resizes (plan : PlacementPlan F) (id : String) (version : UInt64) : Prop :=
  version = plan.intentVersion ∧ (∃ action, plan.actions = [action] ∧ action.actionType = .resize) ∧
    id ∈ plan.affectedAllocationIds

section Drafted
variable {before : ClusterSnapshot F} {plan : PlacementPlan F} {devices : List (Device F)}
  {allocations : List (Allocation F)} {ids : List String}

/-- What a reservation leaves: what was there, with the version of a resize, and allocations of new names. -/
theorem drafted_descends (drafted : Drafted before plan devices allocations ids) (unbound : Unbound before plan) :
    ∃ kept fresh, allocations = kept ++ fresh ∧ Descends (Resizes plan) before.allocations kept ∧
      ∀ a ∈ fresh, a.allocationId ∉ before.allocations.map Allocation.allocationId := by
  cases drafted with
  | admission now admitted purpose loop =>
    obtain ⟨fresh,news,appended,_,_⟩ := admitBinding_loop loop
    refine ⟨before.allocations,fresh,appended,descends_refl _,?_⟩
    intro a member
    obtain ⟨binding,among,new⟩ := exists_of_forall₂ news member
    rw [new.name]
    exact unbound purpose binding among
  | lifecycle | keepSize => exact ⟨_,[],(List.append_nil _).symm,descends_refl _,by simp⟩
  | release => exact ⟨_,[],(List.append_nil _).symm,descends_modifyAll (mild_state _) _ _,by simp⟩
  | resize action a size current purpose single kind target =>
    refine ⟨_,[],(List.append_nil _).symm,?_,by simp⟩
    refine descends_modify ?_ ?_ ?_ ?_ _
    · exact fun _ => rfl
    · exact fun _ => rfl
    · exact fun _ => rfl
    · exact fun _ => Or.inr ⟨rfl,⟨action,single,kind⟩,target.listed⟩
  | rebind action a fresh binding size purpose single kind target bound asked fits unused new =>
    refine ⟨_,_,rfl,descends_refl _,?_⟩
    intro x member
    rw [List.mem_singleton.mp member,new.name]
    exact Keyed.find_none_iff.mp unused
  | recreate action a fresh binding size purpose single kind target bound asked held samePlace unused new =>
    refine ⟨_,_,rfl,descends_refl _,?_⟩
    intro x member
    rw [List.mem_singleton.mp member,new.name]
    exact Keyed.find_none_iff.mp unused
  | preemption parts victims fresh purpose shape targets distinct fits unused new =>
    refine ⟨_,_,rfl,descends_modifyAll (mild_state _) _ _,?_⟩
    intro x member
    rw [List.mem_singleton.mp member,new.name]
    exact Keyed.find_none_iff.mp unused

end Drafted

variable {plan : PlacementPlan F} {now : Int} {intent : SchedulingIntent F}

theorem reservePlan_version {s : Store F} (accepted : (reservePlan s plan now).err = none) :
    ∃ intent, s.intents.lookup ⟨plan.executionId,plan.stageId⟩ = some intent ∧ plan.intentVersion = intent.version := by
  have valid : validatePlan s plan now = .ok () := by
    simp only [reservePlan,reservePlanLocked,reserveNewPlan] at accepted
    split at accepted
    · cases accepted
    split at accepted
    · split at accepted <;> cases accepted
    · cases checked : validatePlan s plan now with
      | error err => simp [checked] at accepted
      | ok _ => rfl
  simp only [validatePlan] at valid
  split at valid
  · cases valid
  split at valid
  · cases valid
  rename_i intent stored
  split at valid
  · cases valid
  split at valid
  · cases valid
  · rename_i same
    exact ⟨intent,stored,not_not.mp same⟩

/-- The rollback of the reservation writes the before-image's version to the allocation. -/
def Rewrites (reservation : PlanReservation F) (id : String) : Prop :=
  (effectivePlanPurpose reservation.plan = .preemption ∧ ∃ parts, preemptionPlanParts reservation.plan = .ok parts ∧
    ∃ action ∈ parts.releaseActions, action.targetId = id) ∨
  ∃ action, reservation.plan.actions = [action] ∧ action.actionType = .resize ∧ rollbackTarget action reservation = id

/-- The version stands in the before-image of a reservation that writes it back. -/
def Imaged (reservation : PlanReservation F) (id : String) (version : UInt64) : Prop :=
  Rewrites reservation id ∧ ∃ before, reservation.beforeSnapshot = some before ∧
    ∃ a ∈ before.allocations, a.allocationId = id ∧ a.intentVersion = version

section Settlement
variable {Written : String → UInt64 → Prop} {snapshot working : ClusterSnapshot F}

omit [DecidableEq F] in
theorem returnAllocationsByID_allocations (working : ClusterSnapshot F) (ids : List String) :
    (returnAllocationsByID working ids).allocations = working.allocations := by
  unfold returnAllocationsByID
  induction ids generalizing working with
  | nil => rfl
  | cons id ids ih =>
    rw [List.foldl_cons,ih]
    split <;> rfl

omit [DecidableEq F] in
theorem reverse_allocations {deviceIDs : List String} {consumption back : ResourceVector F}
    (accepted : reverseDeviceResourceDelta snapshot deviceIDs consumption back = .ok working) :
    working.allocations = snapshot.allocations := by
  simp only [reverseDeviceResourceDelta] at accepted
  split at accepted
  · cases accepted
  · cases accepted
    rfl

omit [Platform F] [DecidableEq F] in
theorem restorePending_allocations (units : List (PendingUnit F)) :
    (restorePendingUnitsFromReservation snapshot units).allocations = snapshot.allocations := by
  unfold restorePendingUnitsFromReservation
  split <;> rfl

omit [DecidableEq F] in
theorem settleAdmission_allocations (snapshot : ClusterSnapshot F) (reservation : PlanReservation F)
    (retained degraded : List String) (succeeded : Bool) :
    (settleAdmission snapshot reservation retained degraded succeeded).allocations =
      (snapshot.allocations.filter (fun allocation => !(reservation.allocationIDs.contains allocation.allocationId &&
        !retained.contains allocation.allocationId))).map (fun allocation =>
          if !reservation.allocationIDs.contains allocation.allocationId then allocation
          else if degraded.contains allocation.allocationId then { allocation with state := .failed }
          else { allocation with state := .active }) := by
  unfold settleAdmission
  dsimp only
  split <;> rfl

omit [DecidableEq F] in
theorem settleAdmission_descends (reservation : PlanReservation F) (retained degraded : List String) (succeeded : Bool) :
    Descends Written snapshot.allocations
      (settleAdmission snapshot reservation retained degraded succeeded).allocations := by
  rw [settleAdmission_allocations]
  refine (descends_filter _ _).trans (descends_map ?_ _)
  constructor
  all_goals
    intro a
    split
    · rfl
    · split <;> rfl

omit [DecidableEq F] in
theorem commitMutation_descends (kind : ActionType) (reservation : PlanReservation F) :
    Descends Written snapshot.allocations (commitMutation snapshot kind reservation).allocations := by
  unfold commitMutation
  split
  · refine Descends.trans ?_ (descends_filter _ _)
    rw [returnAllocationsByID_allocations]
    exact descends_refl _
  · refine Descends.trans (Descends.trans ?_ (descends_filter _ _)) (descends_modifyAll (mild_state _) _ _)
    rw [returnAllocationsByID_allocations]
    exact descends_refl _
  · exact descends_refl _
  · exact (descends_filter _ _).trans (descends_modifyAll (mild_state _) _ _)
  · exact descends_refl _
  · exact descends_modifyAll (mild_state _) _ _

variable {reservation : PlanReservation F} {parts : PreemptionParts F}

theorem restoreMutation_descends (same : reservation.plan = plan)
    (accepted : restoreMutationStateFromBeforeImage snapshot plan reservation = .ok working) :
    Descends (Imaged reservation) snapshot.allocations working.allocations := by
  simp only [restoreMutationStateFromBeforeImage] at accepted
  split at accepted
  · cases accepted
  rename_i action later listed
  split at accepted
  · cases accepted
  rename_i before image
  split at accepted
  · rename_i single
    subst single
    split at accepted
    · cases accepted
    rename_i restored reversed
    cases accepted
    rw [restorePending_allocations]
    simp only [restoreAction] at reversed
    split at reversed
    · split at reversed
      · cases reversed
        exact descends_state _ _ _
      · cases reversed
    · rename_i kind
      split at reversed
      · rename_i previous current found here
        split at reversed
        · cases reversed
        rename_i turned exchanged
        cases reversed
        have held := Keyed.find_some found
        rw [← reverse_allocations exchanged]
        refine descends_modify ?_ ?_ ?_ ?_ _
        · exact fun _ => rfl
        · exact fun _ => rfl
        · exact fun _ => rfl
        intro a
        exact Or.inr ⟨Or.inr ⟨action,by rw [same,listed],kind,rfl⟩,before,image,previous,
          List.mem_reverse.mp held.1,held.2,rfl⟩
      · cases reversed
    · split at reversed
      · cases reversed
      · rename_i turned exchanged
        cases reversed
        rw [← reverse_allocations exchanged]
        exact descends_filter _ _
    · cases reversed
      exact descends_filter _ _
    all_goals
      cases reversed
      try exact descends_refl _
  · split at accepted
    · cases accepted
    · cases accepted
      exact descends_refl _

omit [DecidableEq F] in
theorem returnVictim_allocations (target : String) (victim : Allocation F) (state : ClusterSnapshot F × ResourceVector F) :
    (returnVictim target victim state).1.allocations = state.1.allocations := by
  unfold returnVictim
  induction victim.deviceIds generalizing state with
  | nil => rfl
  | cons d rest ih =>
    rw [List.foldl_cons,ih,returnOn]
    split
    · rfl
    · split <;> rfl

omit [DecidableEq F] in
theorem commitVictims_allocations {target : String} {actions : List (Action F)}
    {start final : ClusterSnapshot F × ResourceVector F}
    (loop : actions.foldlM (commitVictim target) start = .ok final) : final.1.allocations = start.1.allocations := by
  refine foldlM_keeps (P := fun state : ClusterSnapshot F × ResourceVector F =>
    state.1.allocations = start.1.allocations) rfl ?_ loop
  intro state action next _ same stepped
  simp only [commitVictim] at stepped
  split at stepped
  · cases stepped
  rename_i victim _
  cases stepped
  exact (returnVictim_allocations target victim state).trans same

omit [DecidableEq F] in
theorem commitPreemption_allocations (accepted : commitPreemptionReplacement snapshot parts = .ok working) :
    working.allocations = Keyed.remove Allocation.allocationId (parts.releaseActions.map Action.targetId)
      (Keyed.modify Allocation.allocationId (allocationID F parts.replacement.bindingId)
        (fun mutable => { mutable with state := .active }) snapshot.allocations) := by
  simp only [commitPreemptionReplacement] at accepted
  split at accepted
  · cases accepted
  split at accepted
  · cases accepted
  rename_i returned released loop
  have same := commitVictims_allocations loop
  split at accepted
  · cases accepted
    exact congrArg _ same
  · split at accepted
    · cases accepted
    · cases accepted
      exact congrArg _ same

omit [DecidableEq F] in
theorem commitPreemption_descends (accepted : commitPreemptionReplacement snapshot parts = .ok working) :
    Descends Written snapshot.allocations working.allocations := by
  rw [commitPreemption_allocations accepted]
  exact (descends_state _ _ _).trans (descends_filter _ _)

theorem abortPreemption_descends (purpose : effectivePlanPurpose reservation.plan = .preemption)
    (shape : preemptionPlanParts reservation.plan = .ok parts)
    (accepted : abortPreemptionReplacement snapshot parts reservation = .ok working) :
    Descends (Imaged reservation) snapshot.allocations working.allocations := by
  simp only [abortPreemptionReplacement] at accepted
  split at accepted
  · cases accepted
  rename_i restored released loop
  have victims : Descends (Imaged reservation) snapshot.allocations restored.allocations := by
    refine foldlM_keeps (P := fun state : ClusterSnapshot F × ResourceVector F =>
      Descends (Imaged reservation) snapshot.allocations state.1.allocations) (descends_refl _) ?_ loop
    intro state action next member descends stepped
    simp only [restoreVictim] at stepped
    split at stepped
    · cases stepped
    rename_i previous imaged
    split at stepped
    · cases stepped
    cases stepped
    obtain ⟨before,image,found⟩ := Option.bind_eq_some_iff.mp imaged
    have held := Keyed.find_some found
    refine descends.trans (descends_modify ?_ ?_ ?_ ?_ _)
    · exact fun _ => rfl
    · exact fun _ => rfl
    · exact fun _ => rfl
    intro a
    exact Or.inr ⟨Or.inl ⟨purpose,parts,shape,action,member,rfl⟩,before,image,previous,held.1,held.2,rfl⟩
  split at accepted
  · cases accepted
  rename_i reversed exchanged
  cases accepted
  rw [restorePending_allocations]
  refine victims.trans ?_
  rw [← reverse_allocations exchanged]
  exact descends_filter _ _

/-- What a settlement leaves: what was there, with the versions that a rollback writes back. -/
theorem settlement_descends {succeeded : Bool} {results : List (Option ActionResult)} (same : reservation.plan = plan)
    (settled : settlement snapshot plan reservation succeeded results = .ok working) :
    Descends (Imaged reservation) snapshot.allocations working.allocations := by
  simp only [settlement] at settled
  split at settled
  · rename_i preempts
    simp only [settlePreemption] at settled
    split at settled
    · cases settled
    rename_i parts shape
    split at settled
    · exact commitPreemption_descends settled
    split at settled
    · rw [← same] at preempts shape
      exact abortPreemption_descends preempts shape settled
    · cases settled
      exact descends_modifyAll (mild_state _) _ _
  · split at settled
    · simp only [settleMutation] at settled
      split at settled
      · cases settled
      split at settled
      · cases settled
        exact commitMutation_descends _ _
      · split at settled
        · exact restoreMutation_descends same settled
        · cases settled
          exact descends_modifyAll (mild_state _) _ _
    · cases settled
      exact settleAdmission_descends _ _ _ _

end Settlement

def Taken (s : Store F) (intent : SchedulingIntent F) (now : Int) : Prop :=
  (publishIntent s intent now).2.1.status = .accepted

instance (s : Store F) (intent : SchedulingIntent F) (now : Int) : Decidable (Taken s intent now) :=
  inferInstanceAs (Decidable (_ = _))

omit [Platform F] [DecidableEq F] in
theorem rejected_status (incoming : SchedulingIntent F) (err : Err) : (rejected incoming err).1.status ≠ .accepted :=
  (by decide : IntentPublishStatus.rejected ≠ .accepted)

/-- What a publication does: nothing unless it is accepted; then the snapshot follows the intent, which is newer than
    the stored one and takes its place. -/
theorem publishIntent_outcome (s : Store F) (intent : SchedulingIntent F) (now : Int) :
    ¬ Taken s intent now ∧ (publishIntent s intent now).1 = s ∨
      Taken s intent now ∧ (publishIntent s intent now).1.snapshot = publishedSnapshot s.snapshot intent now ∧
        (publishIntent s intent now).1.reservations = s.reservations ∧
        (publishIntent s intent now).1.intents = s.intents.insert (intentKeyOf intent) intent ∧
        ∀ current, s.intents.lookup (intentKeyOf intent) = some current → current.version < intent.version := by
  simp only [Taken,publishIntent]
  cases prepared : preparePublishIntent s intent now with
  | error unpublished =>
    left
    refine ⟨?_,rfl⟩
    dsimp only
    simp only [preparePublishIntent] at prepared
    split at prepared
    · cases prepared
      exact rejected_status _ _
    · split at prepared
      · rename_i refused
        cases prepared
        exact checkPublication_error refused
      · split at prepared
        · cases prepared
          exact rejected_status _ _
        · split at prepared
          · cases prepared
            exact rejected_status _ _
          · cases prepared
  | ok prepared' =>
    right
    simp only [preparePublishIntent] at prepared
    split at prepared
    · cases prepared
    split at prepared
    · cases prepared
    rename_i clear
    split at prepared
    · cases prepared
    split at prepared
    · cases prepared
    · cases prepared
      exact ⟨rfl,rfl,rfl,rfl,(checkPublication_ok clear).2⟩

/-- A Store, and for each allocation in it the highest version of its execution and stage that was accepted while the
    allocation was live; zero for a name that is not in the snapshot. -/
structure Watched (F : Type) where
  store : Store F
  highest : String → Nat

inductive Op (F : Type) where
  | publish (intent : SchedulingIntent F)
  | reserve (plan : PlacementPlan F)
  | finalize (plan : PlacementPlan F) (succeeded : Bool) (results : List (Option ActionResult))

/-- One operation at the time the clock shows; a failed one leaves the Store as it was. -/
def perform (s : Store F) (op : Op F × Int) : Store F :=
  match op with
  | (.publish intent,now) => (publishIntent s intent now).1
  | (.reserve plan,now) => (reservePlan s plan now).store
  | (.finalize plan succeeded results,now) => match finalizePlanResults s plan succeeded results now with
    | .ok next => next
    | .error _ => s

/-- The allocation is of the intent's execution and stage, and pending, active or being released. -/
def Concerns (intent : SchedulingIntent F) (a : Allocation F) : Prop :=
  a.executionId = intent.executionId ∧ a.stageId = intent.stageId ∧ reservable a.state = true

instance (intent : SchedulingIntent F) (a : Allocation F) : Decidable (Concerns intent a) :=
  inferInstanceAs (Decidable (_ ∧ _ ∧ _))

/-- The highest version after an operation. -/
def raised (s : Store F) (op : Op F × Int) (highest : String → Nat) (id : String) : Nat :=
  if id ∉ (perform s op).snapshot.allocations.map Allocation.allocationId then 0
  else match op with
    | (.publish intent,now) =>
      if Taken s intent now ∧ ∃ a ∈ s.snapshot.allocations, a.allocationId = id ∧ Concerns intent a then
        max (highest id) intent.version.toNat
      else highest id
    | _ => highest id

def step (w : Watched F) (op : Op F × Int) : Watched F := ⟨perform w.store op,raised w.store op w.highest⟩

def watch (s : Store F) : Watched F := ⟨s,fun _ => 0⟩

/-- Nothing is published for an allocation that is being released, resized or preempted; a plan resizes allocations of
    its own execution and stage; and an admission brings new names. -/
def Steady (w : Watched F) (op : Op F × Int) : Prop :=
  match op with
  | (.publish intent,now) => Taken w.store intent now → ∀ a ∈ w.store.snapshot.allocations, Concerns intent a →
      a.state ≠ .releasing ∧ ∀ p r, w.store.reservations.lookup p = some r → r.finalized = false →
        ¬ Rewrites r a.allocationId
  | (.reserve plan,_) => Unbound w.store.snapshot plan ∧
      ((∃ action, plan.actions = [action] ∧ action.actionType = .resize) → ∀ a ∈ w.store.snapshot.allocations,
        a.allocationId ∈ plan.affectedAllocationIds → a.executionId = plan.executionId ∧ a.stageId = plan.stageId)
  | (.finalize _ _ _,_) => True

/-- No allocation, and no before-image that may be written back, is behind the highest version; and the stored intent
    of an allocation is not behind it either. -/
structure Upheld (w : Watched F) : Prop where
  names : (w.store.snapshot.allocations.map Allocation.allocationId).Nodup
  absent : ∀ id, id ∉ w.store.snapshot.allocations.map Allocation.allocationId → w.highest id = 0
  held : ∀ a ∈ w.store.snapshot.allocations, w.highest a.allocationId ≤ a.intentVersion.toNat
  imaged : ∀ p r, w.store.reservations.lookup p = some r → r.finalized = false → ∀ id version,
    Imaged r id version → w.highest id ≤ version.toNat
  stored : ∀ a ∈ w.store.snapshot.allocations, w.highest a.allocationId ≠ 0 →
    ∃ intent, w.store.intents.lookup ⟨a.executionId,a.stageId⟩ = some intent ∧
      w.highest a.allocationId ≤ intent.version.toNat

omit [Platform F] in
theorem watch_upheld {s : Store F} (names : (s.snapshot.allocations.map Allocation.allocationId).Nodup) :
    Upheld (watch s) :=
  ⟨names,fun _ _ => rfl,fun _ _ => Nat.zero_le _,fun _ _ _ _ _ _ _ => Nat.zero_le _,fun _ _ raised => absurd rfl raised⟩

omit [DecidableEq F] in
theorem publishedSnapshot_names (snapshot : ClusterSnapshot F) (intent : SchedulingIntent F) (now : Int) :
    (publishedSnapshot snapshot intent now).allocations.map Allocation.allocationId =
      snapshot.allocations.map Allocation.allocationId := by
  simp only [publishedSnapshot,List.map_map]
  refine List.map_congr_left ?_
  intro a _
  simp only [Function.comp_apply]
  split <;> rfl

omit [DecidableEq F] in
/-- An allocation after a publication comes from one of its name and place; the publication has moved it to its version
    if it was pending or active. -/
theorem mem_publishedSnapshot {snapshot : ClusterSnapshot F} {b : Allocation F}
    (member : b ∈ (publishedSnapshot snapshot intent now).allocations) :
    ∃ a ∈ snapshot.allocations, b.allocationId = a.allocationId ∧ b.executionId = a.executionId ∧ b.stageId = a.stageId ∧
      b.intentVersion = if liveFor intent a then intent.version else a.intentVersion := by
  obtain ⟨a,among,image⟩ := List.mem_map.mp member
  refine ⟨a,among,?_⟩
  rw [← image]
  split <;> exact ⟨rfl,rfl,rfl,rfl⟩

variable {w : Watched F}

theorem publish_upheld (upheld : Upheld w) (steady : Steady w (.publish intent,now)) :
    Upheld (step w (.publish intent,now)) := by
  rcases publishIntent_outcome w.store intent now with ⟨refused,same⟩ | ⟨taken,snapshot,reservations,intents,newer⟩
  · -- A refused publication changes neither the Store nor the highest versions.
    have store : (step w (.publish intent,now)).store = w.store := same
    have highest : (step w (.publish intent,now)).highest = w.highest := by
      funext id
      simp only [step,raised,perform,same,refused,false_and,if_false]
      split
      · rename_i gone
        exact (upheld.absent id gone).symm
      · rfl
    constructor
    · rw [store]
      exact upheld.names
    · rw [store,highest]
      exact upheld.absent
    · rw [store,highest]
      exact upheld.held
    · rw [store,highest]
      exact upheld.imaged
    · rw [store,highest]
      exact upheld.stored
  · have names : (step w (.publish intent,now)).store.snapshot.allocations.map Allocation.allocationId =
        w.store.snapshot.allocations.map Allocation.allocationId := by
      simp only [step,perform]
      rw [snapshot,publishedSnapshot_names]
    have highest : ∀ id, (step w (.publish intent,now)).highest id =
        if ∃ a ∈ w.store.snapshot.allocations, a.allocationId = id ∧ Concerns intent a then
          max (w.highest id) intent.version.toNat else w.highest id := by
      intro id
      simp only [step,raised]
      by_cases here : id ∈ w.store.snapshot.allocations.map Allocation.allocationId
      · rw [if_neg (by rw [show (perform w.store (.publish intent,now)).snapshot.allocations.map Allocation.allocationId =
          _ from names]; exact not_not.mpr here)]
        simp only [taken,true_and]
      · rw [if_pos (by rw [show (perform w.store (.publish intent,now)).snapshot.allocations.map Allocation.allocationId =
          _ from names]; exact here),if_neg,upheld.absent id here]
        rintro ⟨a,among,rfl,_⟩
        exact here (List.mem_map_of_mem among)
    -- The highest version of an allocation the publication concerns is now the intent's.
    have reached : ∀ a ∈ w.store.snapshot.allocations, Concerns intent a →
        (step w (.publish intent,now)).highest a.allocationId = intent.version.toNat := by
      intro a among concerns
      rw [highest,if_pos ⟨a,among,rfl,concerns⟩,Nat.max_eq_right]
      by_cases zero : w.highest a.allocationId = 0
      · omega
      · obtain ⟨current,found,bound⟩ := upheld.stored a among zero
        rw [concerns.1,concerns.2.1] at found
        have := UInt64.lt_iff_toNat_lt.mp (newer current found)
        omega
    have unmoved : ∀ a ∈ w.store.snapshot.allocations, ¬ Concerns intent a →
        (step w (.publish intent,now)).highest a.allocationId = w.highest a.allocationId := by
      intro a among apart
      rw [highest,if_neg]
      rintro ⟨other,among',name,concerns⟩
      rw [List.inj_on_of_nodup_map upheld.names among' among name] at concerns
      exact apart concerns
    constructor
    · rw [names]
      exact upheld.names
    · intro id gone
      rw [names] at gone
      rw [highest,if_neg,upheld.absent id gone]
      rintro ⟨a,among,rfl,_⟩
      exact gone (List.mem_map_of_mem among)
    · intro b member
      have member' : b ∈ (publishedSnapshot w.store.snapshot intent now).allocations := snapshot ▸ member
      obtain ⟨a,among,name,_,_,version⟩ := mem_publishedSnapshot member'
      rw [name,version]
      by_cases concerns : Concerns intent a
      · have notReleasing := (steady taken a among concerns).1
        have live : liveFor intent a = true := by
          have states := concerns.2.2
          simp only [reservable,Bool.or_eq_true,decide_eq_true_eq,notReleasing,or_false] at states
          simp only [liveFor,concerns.1,concerns.2.1,decide_true,Bool.true_and,Bool.or_eq_true,decide_eq_true_eq]
          exact states.symm
        rw [reached a among concerns,live,if_pos rfl]
      · have still : liveFor intent a = false := by
          rw [Bool.eq_false_iff]
          intro live
          simp only [liveFor,Bool.and_eq_true,Bool.or_eq_true,decide_eq_true_eq] at live
          refine concerns ⟨live.1.1,live.1.2,?_⟩
          rcases live.2 with pending | active
          · simp [reservable,pending]
          · simp [reservable,active]
        rw [unmoved a among concerns,still]
        exact upheld.held a among
    · intro p r found unfinalized id version imaged
      have found' : w.store.reservations.lookup p = some r := reservations ▸ found
      rw [highest,if_neg]
      · exact upheld.imaged p r found' unfinalized id version imaged
      · rintro ⟨a,among,rfl,concerns⟩
        exact (steady taken a among concerns).2 p r found' unfinalized imaged.1
    · intro b member nonzero
      have member' : b ∈ (publishedSnapshot w.store.snapshot intent now).allocations := snapshot ▸ member
      obtain ⟨a,among,name,execution,stage,_⟩ := mem_publishedSnapshot member'
      rw [show (step w (.publish intent,now)).store.intents = _ from intents,execution,stage]
      rw [name] at nonzero ⊢
      by_cases concerns : Concerns intent a
      · refine ⟨intent,?_,(reached a among concerns).le⟩
        rw [concerns.1,concerns.2.1]
        exact AList.lookup_insert _
      · rw [unmoved a among concerns] at nonzero ⊢
        obtain ⟨current,stored,bound⟩ := upheld.stored a among nonzero
        by_cases same : (⟨a.executionId,a.stageId⟩ : IntentKey) = intentKeyOf intent
        · refine ⟨intent,by rw [same]; exact AList.lookup_insert _,bound.trans ?_⟩
          rw [same] at stored
          exact (UInt64.lt_iff_toNat_lt.mp (newer current stored)).le
        · exact ⟨current,(AList.lookup_insert_ne same).trans stored,bound⟩

omit [Platform F] in
/-- Plans: a Store whose allocations descend from those before, or have new names, and whose written versions and
    before-images are not behind. -/
theorem upheld_of_descends {next : Store F} {kept fresh : List (Allocation F)} {W : String → UInt64 → Prop} (upheld : Upheld w)
    (intents : next.intents = w.store.intents) (allocations : next.snapshot.allocations = kept ++ fresh)
    (descends : Descends W w.store.snapshot.allocations kept)
    (new : ∀ a ∈ fresh, a.allocationId ∉ w.store.snapshot.allocations.map Allocation.allocationId)
    (names : (next.snapshot.allocations.map Allocation.allocationId).Nodup)
    (written : ∀ a ∈ w.store.snapshot.allocations, ∀ version, W a.allocationId version →
      w.highest a.allocationId ≤ version.toNat)
    (images : ∀ p r, next.reservations.lookup p = some r → r.finalized = false → ∀ id version,
      Imaged r id version → w.highest id ≤ version.toNat) :
    Upheld ⟨next,fun id => if id ∉ next.snapshot.allocations.map Allocation.allocationId then 0 else w.highest id⟩ := by
  have present : ∀ a ∈ next.snapshot.allocations, (if a.allocationId ∉ next.snapshot.allocations.map
      Allocation.allocationId then 0 else w.highest a.allocationId) = w.highest a.allocationId :=
    fun a member => if_neg (not_not.mpr (List.mem_map_of_mem member))
  have lower : ∀ id, (if id ∉ next.snapshot.allocations.map Allocation.allocationId then 0 else w.highest id) ≤
      w.highest id := by
    intro id
    split
    · exact Nat.zero_le _
    · exact le_rfl
  constructor
  · exact names
  · intro id gone
    exact if_pos gone
  · intro b member
    dsimp only
    rw [present b member]
    rw [allocations,List.mem_append] at member
    rcases member with old | added
    · obtain ⟨a,among,name,_,_,version⟩ := descends.source b old
      rw [← name]
      rcases version with same | overwritten
      · rw [same]
        exact upheld.held a among
      · rw [← name] at overwritten
        exact written a among _ overwritten
    · rw [upheld.absent _ (new b added)]
      exact Nat.zero_le _
  · intro p r found unfinalized id version imaged
    exact (lower id).trans (images p r found unfinalized id version imaged)
  · intro b member nonzero
    dsimp only at nonzero ⊢
    rw [present b member] at nonzero ⊢
    rw [allocations,List.mem_append] at member
    rcases member with old | added
    · obtain ⟨a,among,name,execution,stage,_⟩ := descends.source b old
      rw [← name] at nonzero ⊢
      rw [intents,← execution,← stage]
      exact upheld.stored a among nonzero
    · exact absurd (upheld.absent _ (new b added)) nonzero

omit [Platform F] in
theorem upheld_of_same {next : Store F} (upheld : Upheld w) (intents : next.intents = w.store.intents)
    (allocations : next.snapshot.allocations = w.store.snapshot.allocations)
    (images : ∀ p r, next.reservations.lookup p = some r → r.finalized = false → ∀ id version,
      Imaged r id version → w.highest id ≤ version.toNat) :
    Upheld ⟨next,fun id => if id ∉ next.snapshot.allocations.map Allocation.allocationId then 0 else w.highest id⟩ := by
  refine upheld_of_descends (W := fun _ _ => False) upheld intents (allocations.trans (List.append_nil _).symm)
    (descends_refl _) ?_ ?_ ?_ images
  · intro a member
    cases member
  · rw [allocations]
    exact upheld.names
  · intro a _ version impossible
    exact impossible.elim

theorem reserve_upheld (upheld : Upheld w) (steady : Steady w (.reserve plan,now)) : Upheld (step w (.reserve plan,now)) := by
  obtain ⟨unbound,own⟩ := steady
  cases verdict : (reservePlan w.store plan now).err with
  | some err =>
    have same : perform w.store (.reserve plan,now) = w.store := reservePlan_refused verdict
    unfold step raised
    rw [same]
    exact upheld_of_same upheld rfl rfl upheld.imaged
  | none =>
    obtain ⟨unreserved,ids,reservation,accepted⟩ := reservePlan_accepted verdict
    obtain ⟨kept,fresh,appended,descends,new⟩ := drafted_descends accepted.drafted unbound
    refine upheld_of_descends upheld (reservePlan_agree w.store plan now).intents appended descends new ?_ ?_ ?_
    · exact drafted_distinct accepted.drafted unbound upheld.names
    · -- The plan carries the version of the stored intent, which is that of the target.
      rintro a among version ⟨rfl,resize,listed⟩
      obtain ⟨intent,stored,version⟩ := reservePlan_version verdict
      obtain ⟨execution,stage⟩ := own resize a among listed
      by_cases zero : w.highest a.allocationId = 0
      · omega
      · obtain ⟨current,stored',bound⟩ := upheld.stored a among zero
        rw [execution,stage,stored] at stored'
        cases stored'
        rw [version]
        exact bound
    · intro p r found unfinalized id version imaged
      rw [show (perform w.store (.reserve plan,now)).reservations = _ from accepted.reservations] at found
      by_cases here : p = plan.planId
      · rw [here,AList.lookup_insert] at found
        cases found
        -- The before-image is the Store of the moment.
        obtain ⟨_,before,image,a,among,name,version⟩ := imaged
        rw [accepted.made.before] at image
        cases image
        rw [← name,← version]
        exact upheld.held a among
      · rw [AList.lookup_insert_ne here] at found
        exact upheld.imaged p r found unfinalized id version imaged

theorem finalize_upheld {succeeded : Bool} {results : List (Option ActionResult)} (upheld : Upheld w) :
    Upheld (step w (.finalize plan succeeded results,now)) := by
  cases verdict : finalizePlanResults w.store plan succeeded results now with
  | error err =>
    have same : perform w.store (.finalize plan succeeded results,now) = w.store := by simp only [perform,verdict]
    unfold step raised
    rw [same]
    exact upheld_of_same upheld rfl rfl upheld.imaged
  | ok next =>
    have reached : perform w.store (.finalize plan succeeded results,now) = next := by simp only [perform,verdict]
    have agree := finalizePlanResults_agree verdict
    unfold step raised
    rw [reached]
    obtain ⟨reservation,found,same,⟨finalized,rfl | rfl⟩ | ⟨unfinalized,working,settled,done⟩⟩ :=
      finalizePlanResults_cases verdict
    · exact upheld_of_same upheld rfl rfl upheld.imaged
    · refine upheld_of_same upheld rfl rfl ?_
      intro p r found' unfinalized
      by_cases here : p = plan.planId
      · rw [here,Store.setReservation,AList.lookup_insert] at found'
        cases found'
        rw [finalized] at unfinalized
        cases unfinalized
      · rw [Store.setReservation,AList.lookup_insert_ne here] at found'
        exact upheld.imaged p r found' unfinalized
    · have descends := settlement_descends same settled
      refine upheld_of_descends upheld agree.intents (List.append_nil _).symm (done.allocations ▸ descends) ?_ ?_ ?_ ?_
      · intro a member
        cases member
      · rw [done.allocations]
        exact descends.names.nodup upheld.names
      · intro a among version imaged
        exact upheld.imaged plan.planId reservation found unfinalized _ _ imaged
      · obtain ⟨retained,closed⟩ := done.reservations
        intro p r found' open'
        rw [closed] at found'
        by_cases here : p = plan.planId
        · rw [here,AList.lookup_insert] at found'
          cases found'
          cases open'
        · rw [AList.lookup_insert_ne here] at found'
          exact upheld.imaged p r found' open'

theorem step_upheld (w : Watched F) (op : Op F × Int) (upheld : Upheld w) (steady : Steady w op) : Upheld (step w op) := by
  obtain ⟨op,now⟩ := op
  cases op with
  | publish intent => exact publish_upheld upheld steady
  | reserve plan => exact reserve_upheld upheld steady
  | finalize plan succeeded results => exact finalize_upheld upheld

/-- Along every steady run, no pending or active allocation is behind a version of its execution and stage that was
    accepted while it was live. -/
theorem versions_along {s : Store F} (names : (s.snapshot.allocations.map Allocation.allocationId).Nodup)
    {ops : List (Op F × Int)} (steady : Guarded step Steady (watch s) ops) :
    ∀ a ∈ (run step (watch s) ops).store.snapshot.allocations, a.state = .pending ∨ a.state = .active →
      (run step (watch s) ops).highest a.allocationId ≤ a.intentVersion.toNat := by
  intro a member _
  exact (guarded_keeps step_upheld (watch_upheld names) steady).held a member

/-- A version of the intent of an execution, for one unit. -/
def demanded (executionID : String) (version : UInt64) : SchedulingIntent Int :=
  { Restart.issued version 100 with
    executionId := executionID
    idempotencyKey := Restart.intentIdempotencyKey Int executionID "s" version }

/-- The unit of the first version, placed on the device. -/
def placedUnit (executionID bindingID : String) : Binding Int :=
  { (default : Binding Int) with
    bindingId := bindingID
    pendingUnitId := pendingUnitID (demanded executionID 1) 0
    deviceIds := ["x"]
    resources := some ⟨1,0,0,0,0⟩
    sandboxId := bindingID
    generation := 1
    runtimeUnitId := "u" }

def admitted : PlacementPlan Int := Intents.admissionOf "p" 2 (placedUnit "e" "b")

/-- A unit of another execution takes the place of the first. -/
def preempting (revision : UInt64) : PlacementPlan Int :=
  { (default : PlacementPlan Int) with
    planId := "q"
    executionId := "f"
    stageId := "s"
    intentVersion := 1
    snapshotRevision := revision
    purpose := .preemption
    bindings := [placedUnit "f" "c"]
    affectedAllocationIds := [allocationID Int "b"]
    actions := [
      { (default : Action Int) with
        actionId := "m"
        actionType := .release
        targetId := allocationID Int "b"
        sandboxId := "b"
        expectedGeneration := 1
        binding := some (placedUnit "e" "b")
        rollback := some { (default : Rollback Int) with
          actionType := .bind
          targetId := "b"
          restoreBinding := some (placedUnit "e" "b") } },
      { (default : Action Int) with
        actionId := "n"
        actionType := .bind
        targetId := (placedUnit "f" "c").pendingUnitId
        sandboxId := "c"
        expectedGeneration := 1
        binding := some (placedUnit "f" "c") }] }

/-- One unit is placed, and another execution asks for one. -/
def crowded : List (Op Int × Int) :=
  [(.publish (demanded "e" 1),0),(.reserve admitted,0),(.finalize admitted true [],0),(.publish (demanded "f" 1),0)]

/-- Nothing of the preemption was done. -/
def skippedBoth : List (Option ActionResult) :=
  [some { (default : ActionResult) with actionId := "m", status := .skipped },
    some { (default : ActionResult) with actionId := "n", status := .skipped }]

omit [Platform F] [DecidableEq F] in
theorem finalized_of_all {reservations : Map String (PlanReservation F)}
    (all : reservations.pairs.all (fun entry => entry.2.finalized) = true) :
    ∀ id reservation, reservations.lookup id = some reservation → reservation.finalized = true := by
  intro id reservation found
  exact List.all_eq_true.mp all (id,reservation) (Map.mem_pairs_iff.mpr found)

theorem steady_quiet (quiet : (w.store.snapshot.allocations.all (fun a => decide (a.state ≠ .releasing)) &&
      w.store.reservations.pairs.all (fun entry => entry.2.finalized)) = true) : Steady w (.publish intent,now) := by
  rw [Bool.and_eq_true] at quiet
  intro _ a member _
  refine ⟨of_decide_eq_true (List.all_eq_true.mp quiet.1 a member),?_⟩
  intro p r found unfinalized
  rw [finalized_of_all quiet.2 p r found] at unfinalized
  cases unfinalized

/-- The first unit is given a new version before it is preempted, and the preemption is rolled back. -/
def renewed : List (Op Int × Int) := crowded ++
  [(.publish (demanded "e" 2),0),(.reserve (preempting 6),0),(.finalize (preempting 6) false skippedBoth,0)]

theorem renewed_steady : Guarded step Steady (watch Intents.oneDevice) renewed := by
  refine ⟨steady_quiet (by decide),⟨by decide,?_⟩,trivial,steady_quiet (by decide),steady_quiet (by decide),⟨by decide,?_⟩,
    trivial,trivial⟩
  all_goals
    rintro ⟨action,single,_⟩
    cases single

/-- A version that was published in time is the version of the allocation, which had been taken away and is back. -/
theorem versions_along_renewed :
    (run step (watch Intents.oneDevice) (renewed.take 6)).store.snapshot.allocations.any (fun a => decide (a.state = .releasing)) ∧
    ∃ a ∈ (run step (watch Intents.oneDevice) renewed).store.snapshot.allocations,
      a.state = .active ∧ (run step (watch Intents.oneDevice) renewed).highest a.allocationId = 2 ∧
      2 ≤ a.intentVersion.toNat := by
  have placed : (run step (watch Intents.oneDevice) renewed).store.snapshot.allocations.any (fun a =>
      decide (a.state = .active) &&
        decide ((run step (watch Intents.oneDevice) renewed).highest a.allocationId = 2)) = true := by decide
  obtain ⟨a,member,facts⟩ := List.any_eq_true.mp placed
  simp only [Bool.and_eq_true,decide_eq_true_eq] at facts
  refine ⟨by decide,a,member,facts.1,facts.2,?_⟩
  rw [← facts.2]
  exact versions_along (by decide) renewed_steady a member (Or.inr facts.1)

/-- The first unit is given a new version while it is preempted, and the preemption is rolled back. -/
def passedOver : List (Op Int × Int) := crowded ++
  [(.reserve (preempting 5),0),(.publish (demanded "e" 2),0),(.finalize (preempting 5) false skippedBoth,0)]

/-- A version that was accepted while the allocation was being released is lost on it: the allocation is active again
    with the version before. -/
theorem victim_falls_behind : ∃ a ∈ (run step (watch Intents.oneDevice) passedOver).store.snapshot.allocations,
    a.executionId = "e" ∧ a.stageId = "s" ∧ a.state = .active ∧ a.intentVersion = 1 ∧
    (run step (watch Intents.oneDevice) passedOver).highest a.allocationId = 2 := by
  have placed : (run step (watch Intents.oneDevice) passedOver).store.snapshot.allocations.any (fun a =>
      decide (a.executionId = "e") && decide (a.stageId = "s") && decide (a.state = .active) &&
        decide (a.intentVersion = 1) &&
        decide ((run step (watch Intents.oneDevice) passedOver).highest a.allocationId = 2)) = true := by decide
  obtain ⟨a,member,facts⟩ := List.any_eq_true.mp placed
  simp only [Bool.and_eq_true,decide_eq_true_eq] at facts
  obtain ⟨⟨⟨⟨execution,stage⟩,state⟩,version⟩,highest⟩ := facts
  exact ⟨a,member,execution,stage,state,version,highest⟩

end TgsRl.Versions
