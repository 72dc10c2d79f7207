import TgsRl.Drafts
import TgsRl.Transactions

/-!
Transactions that claim a reservation. `beginTransaction` and `reserveTransaction` take every error
that wraps `ErrPlanAlreadyReserved` for a repeated reservation of the same plan, but it also stands
for a name reserved with other content, for a finalized plan and for a locked target.
-/
namespace TgsRl.Backing
open Resources Messages State Loops Mutations Preemption Reservations Transactions Drafts

variable {F : Type}

def Avoids {α : Type} (kind : Sentinel) (result : Except Err α) : Prop :=
  ∀ err, result = .error err → err.sentinel ≠ kind

variable {α : Type} {kind : Sentinel} {err : Err} {s : Store F} {plan : PlacementPlan F} {now : Int}

theorem avoids_ok (a : α) : Avoids kind (.ok a) := by
  intro err failed
  cases failed

theorem avoids_wrap {other : Sentinel} (differs : other ≠ kind) (detail : String) :
    Avoids kind (.error (.wrap other detail) : Except Err α) := by
  intro err failed
  cases failed
  exact differs

theorem avoids_of {other : Sentinel} (differs : other ≠ kind) : Avoids kind (.error (.of other) : Except Err α) := by
  intro err failed
  cases failed
  exact differs

theorem avoids_rethrow {α β : Type} {first : Except Err α} (avoids : Avoids kind first) (failed : first = .error err) :
    Avoids kind (.error err : Except Err β) := by
  intro err' same
  cases same
  exact avoids err failed

theorem avoids_foldlM {σ α : Type} {step : σ → α → Except Err σ} {items : List α} {start : σ}
    (each : ∀ s, ∀ a ∈ items, Avoids kind (step s a)) : Avoids kind (items.foldlM step start) := by
  intro err failed
  obtain ⟨s,a,member,here⟩ := foldlM_error failed
  exact each s a member err here

theorem avoids_checkEach {α : Type} {check : α → Except Err Unit} {items : List α} (each : ∀ a ∈ items, Avoids kind (check a)) :
    Avoids kind (checkEach check items) := by
  intro err failed
  obtain ⟨a,member,here⟩ := checkEach_error failed
  exact each a member err here

theorem affectedAllocationsByID_avoids (allocations : List (Allocation F)) (ids : List String) :
    Avoids .planAlreadyReserved (affectedAllocationsByID allocations ids) := by
  unfold affectedAllocationsByID
  split
  · exact avoids_wrap (by decide) _
  apply avoids_foldlM
  intro items id _
  split
  · exact avoids_wrap (by decide) _
  split
  · exact avoids_ok _
  · exact avoids_wrap (by decide) _

theorem singleAffectedAllocation_avoids (action : Action F) (affected : Map String (Allocation F)) :
    Avoids .planAlreadyReserved (singleAffectedAllocation action affected) := by
  have named : Avoids .planAlreadyReserved (namedAffectedAllocation action affected) := by
    unfold namedAffectedAllocation
    split
    · exact avoids_wrap (by decide) _
    · exact avoids_ok _
  unfold singleAffectedAllocation
  split
  · split
    · exact avoids_ok _
    · exact named
  · exact named

theorem activeTarget_avoids (action : Action F) (affected : Map String (Allocation F)) :
    Avoids .planAlreadyReserved (activeTarget action affected) := by
  unfold activeTarget
  split
  · rename_i failed
    exact avoids_rethrow (singleAffectedAllocation_avoids action affected) failed
  · split
    · exact avoids_wrap (by decide) _
    · exact avoids_ok _

variable [Platform F]

theorem checkFits_avoids (working : ClusterSnapshot F) (resources : ResourceVector F) (d : String) :
    Avoids .planAlreadyReserved (checkFits working resources d) := by
  unfold checkFits
  split
  · exact avoids_wrap (by decide) _
  split
  · exact avoids_wrap (by decide) _
  · exact avoids_ok _

theorem checkReadyFits_avoids (working : ClusterSnapshot F) (resources : ResourceVector F) (d : String) :
    Avoids .planAlreadyReserved (checkReadyFits working resources d) := by
  unfold checkReadyFits
  split
  · exact avoids_wrap (by decide) _
  split
  · exact avoids_wrap (by decide) _
  split
  · exact avoids_wrap (by decide) _
  · exact avoids_ok _

theorem addReplacement_avoids (working : ClusterSnapshot F) (plan : PlacementPlan F) (action : Action F)
    (a : Allocation F) (binding : Binding F) (reservation : PlanReservation F) (now : Int) (sameDevice : Bool) :
    Avoids .planAlreadyReserved (addReplacement working plan action a binding reservation now sameDevice) := by
  unfold addReplacement
  dsimp only
  split
  · exact avoids_wrap (by decide) _
  · exact avoids_ok _

variable [DecidableEq F]

theorem reserveResizeAction_avoids (working : ClusterSnapshot F) (plan : PlacementPlan F) (action : Action F)
    (affected : Map String (Allocation F)) (reservation : PlanReservation F) :
    Avoids .planAlreadyReserved (reserveResizeAction working plan action affected reservation) := by
  unfold reserveResizeAction
  split
  · rename_i failed
    exact avoids_rethrow (activeTarget_avoids action affected) failed
  · split
    · exact avoids_wrap (by decide) _
    · split
      · exact avoids_wrap (by decide) _
      · split
        · exact avoids_wrap (by decide) _
        · split
          · exact avoids_ok _
          · dsimp only
            split
            · rename_i failed
              exact avoids_rethrow (avoids_checkEach (fun d _ => checkFits_avoids working _ d)) failed
            · exact avoids_ok _

theorem reserveReplacementAction_avoids (working : ClusterSnapshot F) (plan : PlacementPlan F) (action : Action F)
    (affected : Map String (Allocation F)) (reservation : PlanReservation F) (now : Int) (sameDevice : Bool) :
    Avoids .planAlreadyReserved
      (reserveReplacementAction working plan action affected reservation now sameDevice) := by
  unfold reserveReplacementAction
  dsimp only
  split
  · rename_i failed
    exact avoids_rethrow (activeTarget_avoids action affected) failed
  · split
    · exact avoids_wrap (by decide) _
    · split
      · exact avoids_wrap (by decide) _
      · split
        · exact avoids_wrap (by decide) _
        · split
          · exact avoids_wrap (by decide) _
          · split
            · split
              · exact avoids_wrap (by decide) _
              · exact addReplacement_avoids _ _ _ _ _ _ _ _
            · split
              · rename_i failed
                exact avoids_rethrow (avoids_checkEach (fun d _ => checkReadyFits_avoids working _ d)) failed
              · exact addReplacement_avoids _ _ _ _ _ _ _ _

theorem applyMutationReservation_avoids (working : ClusterSnapshot F) (plan : PlacementPlan F) (action : Action F)
    (affected : Map String (Allocation F)) (reservation : PlanReservation F) (now : Int) :
    Avoids .planAlreadyReserved (applyMutationReservation working plan action affected reservation now) := by
  have lifecycle : Avoids .planAlreadyReserved (reserveLifecycleOnlyAction working action affected reservation) := by
    unfold reserveLifecycleOnlyAction
    split
    · rename_i failed
      exact avoids_rethrow (activeTarget_avoids action affected) failed
    · exact avoids_ok _
  have release : Avoids .planAlreadyReserved (reserveReleaseAction working plan action affected reservation) := by
    unfold reserveReleaseAction
    split
    · rename_i failed
      exact avoids_rethrow (activeTarget_avoids action affected) failed
    · split
      · exact avoids_wrap (by decide) _
      · exact avoids_ok _
  unfold applyMutationReservation
  split
  case h_1 => exact release
  case h_8 => exact reserveResizeAction_avoids _ _ _ _ _
  case h_9 => exact reserveReplacementAction_avoids _ _ _ _ _ _ _
  case h_10 => exact reserveReplacementAction_avoids _ _ _ _ _ _ _
  case h_11 => exact avoids_wrap (by decide) _
  case h_12 => exact avoids_wrap (by decide) _
  all_goals exact lifecycle

omit [Platform F] [DecidableEq F] in
theorem lifecycleStep_avoids (affected : Map String (Allocation F)) (mutations : Map String (List ActionType))
    (action : Action F) : Avoids .planAlreadyReserved (lifecycleStep affected mutations action) := by
  unfold lifecycleStep
  split
  · exact avoids_wrap (by decide) _
  split
  · rename_i failed
    exact avoids_rethrow (singleAffectedAllocation_avoids action affected) failed
  · dsimp only
    split
    · exact avoids_ok _
    · exact avoids_wrap (by decide) _

omit [Platform F] in
theorem preemptionPlanParts_avoids (other : kind ≠ .invalidIntent) (plan : PlacementPlan F) :
    Avoids kind (preemptionPlanParts plan) := by
  have sorting : ∀ sorted (action : Action F), Avoids kind (sortPreemptionAction sorted action) := by
    intro sorted action
    unfold sortPreemptionAction
    split
    · exact avoids_wrap other.symm _
    split
    · exact avoids_ok _
    · exact avoids_wrap other.symm _
    · exact avoids_ok _
    · exact avoids_wrap other.symm _
  unfold preemptionPlanParts
  dsimp only
  split
  · split
    · exact avoids_wrap other.symm _
    · split
      · split
        · rename_i failed
          exact avoids_rethrow (avoids_foldlM (fun sorted action _ => sorting sorted action)) failed
        · split
          · exact avoids_wrap other.symm _
          · split
            · exact avoids_wrap other.symm _
            · exact avoids_ok _
        · exact avoids_wrap other.symm _
      · exact avoids_wrap other.symm _
  · exact avoids_wrap other.symm _

theorem reservePreemptionReplacement_avoids (working : ClusterSnapshot F) (plan : PlacementPlan F)
    (parts : PreemptionParts F) (affected : Map String (Allocation F)) (reservation : PlanReservation F) (now : Int) :
    Avoids .planAlreadyReserved (reservePreemptionReplacement working plan parts affected reservation now) := by
  have victim : ∀ state (action : Action F),
      Avoids .planAlreadyReserved (releaseVictim affected parts.target state action) := by
    intro state action
    unfold releaseVictim
    split
    · rename_i failed
      exact avoids_rethrow (activeTarget_avoids action affected) failed
    · split
      · rename_i failed
        unfold validatePreemptionReleaseIdentity at failed
        split at failed
        · cases failed
        · cases failed
          exact avoids_wrap (by decide) _
      · split
        · exact avoids_wrap (by decide) _
        · split
          · exact avoids_wrap (by decide) _
          · exact avoids_ok _
  unfold reservePreemptionReplacement
  split
  · rename_i failed
    exact avoids_rethrow (avoids_foldlM (fun state action _ => victim state action)) failed
  · unfold placeReplacement
    split
    · rename_i failed
      unfold consumeReplacementPendingUnit at failed
      dsimp only at failed
      split at failed
      · cases failed
        exact avoids_wrap (by decide) _
      · split at failed
        · cases failed
          exact avoids_wrap (by decide) _
        · cases failed
    · dsimp only
      split
      · rename_i failed
        exact avoids_rethrow (checkReadyFits_avoids _ _ _) failed
      · split
        · exact avoids_wrap (by decide) _
        · exact avoids_ok _

theorem admitBinding_avoids (plan : PlacementPlan F) (now : Int) (state : AdmissionState F) (binding : Binding F) :
    Avoids .planAlreadyReserved (admitBinding plan now state binding) := by
  unfold admitBinding
  dsimp only
  split
  · exact avoids_wrap (by decide) _
  split
  · split
    · rename_i failed
      unfold admissionUnit at failed
      dsimp only at failed
      split at failed
      · cases failed
        exact avoids_wrap (by decide) _
      · split at failed
        · cases failed
          exact avoids_wrap (by decide) _
        · split at failed
          · cases failed
            exact avoids_wrap (by decide) _
          · split at failed
            · cases failed
              exact avoids_wrap (by decide) _
            · cases failed
    · split
      · rename_i failed
        unfold admissionDevice at failed
        dsimp only at failed
        split at failed
        · cases failed
          exact avoids_wrap (by decide) _
        · split at failed
          · cases failed
            exact avoids_wrap (by decide) _
          · split at failed
            · cases failed
              exact avoids_wrap (by decide) _
            · cases failed
      · split
        · exact avoids_wrap (by decide) _
        · exact avoids_ok _
  · exact avoids_wrap (by decide) _

/-- The plan has the actions and bindings its purpose asks for. -/
def WellShaped (plan : PlacementPlan F) : Prop :=
  if plan.purpose = .preemption then ∃ parts, preemptionPlanParts plan = .ok parts
  else plan.actions ≠ [] ∧ ∀ action, plan.actions = [action] → action.actionId ≠ ""

/-- The reservation of another plan, not finalized yet, holds one of the plan's targets. -/
def Locked (s : Store F) (plan : PlacementPlan F) : Prop :=
  ∃ id ∈ plan.affectedAllocationIds, (lockHolder s.reservations plan.planId id).isSome

/-- A mutation plan that is current and complete, but locked. -/
structure LockConflict (s : Store F) (plan : PlacementPlan F) (now : Int) : Prop where
  current : validatePlan s plan now = .ok ()
  mutation : isMutationPurpose (effectivePlanPurpose plan) = true
  shaped : WellShaped plan
  reservable : ∃ affected, affectedAllocationsByID s.snapshot.allocations plan.affectedAllocationIds = .ok affected
  locked : Locked s plan

omit [Platform F] [DecidableEq F] in
theorem ensureMutationTargetsUnlocked_error_iff :
    (∃ err, ensureMutationTargetsUnlocked s.reservations plan.planId plan.affectedAllocationIds = .error err ∧
      err.sentinel = .planAlreadyReserved) ↔ Locked s plan := by
  constructor
  · rintro ⟨err,failed,_⟩
    obtain ⟨id,member,here⟩ := checkEach_error failed
    refine ⟨id,member,?_⟩
    split at here
    · cases here
    · rename_i holder held
      simp [held]
  · rintro ⟨id,member,held⟩
    have fails : ∃ err, ensureMutationTargetsUnlocked s.reservations plan.planId plan.affectedAllocationIds =
        .error err := by
      refine checkEach_error_iff.mpr ⟨id,member,?_⟩
      obtain ⟨holder,found⟩ := Option.isSome_iff_exists.mp held
      simp [found]
    obtain ⟨err,failed⟩ := fails
    refine ⟨err,failed,?_⟩
    obtain ⟨id,_,here⟩ := checkEach_error failed
    split at here
    · cases here
    · cases here
      rfl

omit [Platform F] [DecidableEq F] in
theorem ensureMutationTargetsUnlocked_locked
    (failed : ensureMutationTargetsUnlocked s.reservations plan.planId plan.affectedAllocationIds = .error err) :
    Locked s plan := by
  obtain ⟨id,member,here⟩ := checkEach_error failed
  refine ⟨id,member,?_⟩
  split at here
  · cases here
  · rename_i holder held
    simp [held]

omit [Platform F] [DecidableEq F] in
/-- A reservation that reads its targets and then their locks conflicts at the locks. -/
theorem targets_conflict {rest : Map String (Allocation F) → Except Err (Store F)}
    (failed : (match affectedAllocationsByID s.snapshot.allocations plan.affectedAllocationIds with
      | .error err => Except.error err
      | .ok affected => match ensureMutationTargetsUnlocked s.reservations plan.planId plan.affectedAllocationIds with
      | .error err => .error err | .ok () => rest affected) = .error err) (kind : err.sentinel = .planAlreadyReserved)
    (avoids : ∀ affected, Avoids .planAlreadyReserved (rest affected)) :
    (∃ affected, affectedAllocationsByID s.snapshot.allocations plan.affectedAllocationIds = .ok affected) ∧
      Locked s plan := by
  split at failed
  · rename_i failure
    cases failed
    exact absurd kind (affectedAllocationsByID_avoids _ _ _ failure)
  · rename_i affected listed
    split at failed
    · rename_i failure
      exact ⟨⟨affected,listed⟩,ensureMutationTargetsUnlocked_locked failure⟩
    · exact absurd kind (avoids affected err failed)

theorem reserveActionPlan_conflict (other : plan.purpose ≠ .preemption) (failed : reserveActionPlan s plan now = .error err)
    (kind : err.sentinel = .planAlreadyReserved) :
    WellShaped plan ∧ (∃ affected, affectedAllocationsByID s.snapshot.allocations plan.affectedAllocationIds =
      .ok affected) ∧ Locked s plan := by
  unfold reserveActionPlan at failed
  split at failed
  · cases failed
    cases kind
  · rename_i first second later several
    refine ⟨?_,targets_conflict failed kind fun affected => ?_⟩
    · rw [WellShaped,if_neg other,several]
      exact ⟨by simp,by simp⟩
    · split
      · rename_i failure
        exact avoids_rethrow (avoids_foldlM fun m a _ => lifecycleStep_avoids affected m a) failure
      · exact avoids_ok _
  · rename_i action single
    split at failed
    · cases failed
      cases kind
    · rename_i named
      refine ⟨?_,targets_conflict failed kind fun affected => ?_⟩
      · rw [WellShaped,if_neg other,single]
        refine ⟨by simp,?_⟩
        intro a same
        cases same
        exact named
      · split
        · exact avoids_of (by decide)
        · split
          · rename_i failure
            exact avoids_rethrow (applyMutationReservation_avoids _ _ _ _ _ _) failure
          · exact avoids_ok _

theorem reservePreemptionPlan_conflict (preempts : plan.purpose = .preemption)
    (failed : reservePreemptionPlan s plan now = .error err) (kind : err.sentinel = .planAlreadyReserved) :
    WellShaped plan ∧ (∃ affected, affectedAllocationsByID s.snapshot.allocations plan.affectedAllocationIds =
      .ok affected) ∧ Locked s plan := by
  unfold reservePreemptionPlan at failed
  split at failed
  · rename_i failure
    cases failed
    exact absurd kind (preemptionPlanParts_avoids (by decide) plan _ failure)
  · rename_i parts shape
    refine ⟨?_,targets_conflict failed kind fun affected => ?_⟩
    · rw [WellShaped,if_pos preempts]
      exact ⟨parts,shape⟩
    · split
      · exact avoids_of (by decide)
      · split
        · rename_i failure
          exact avoids_rethrow (reservePreemptionReplacement_avoids _ _ _ _ _ _) failure
        · exact avoids_ok _

theorem reserveNewPlan_conflict_iff :
    (∃ err, reserveNewPlan s plan now = .error err ∧ err.sentinel = .planAlreadyReserved) ↔
      LockConflict s plan now := by
  constructor
  · rintro ⟨err,failed,kind⟩
    unfold reserveNewPlan at failed
    split at failed
    · rename_i failure
      cases failed
      have avoids : Avoids .planAlreadyReserved (validatePlan s plan now) := by
        unfold validatePlan
        dsimp only
        split
        · exact avoids_wrap (by decide) _
        split
        · exact avoids_wrap (by decide) _
        split
        · exact avoids_wrap (by decide) _
        split
        · exact avoids_wrap (by decide) _
        · exact avoids_ok _
      exact absurd kind (avoids _ failure)
    · rename_i current
      split at failed
      · rename_i mutation
        unfold reserveMutationPlan at failed
        split at failed
        · rename_i preempts
          obtain ⟨shaped,listed,locked⟩ := reservePreemptionPlan_conflict preempts failed kind
          exact ⟨current,mutation,shaped,listed,locked⟩
        · rename_i other
          obtain ⟨shaped,listed,locked⟩ := reserveActionPlan_conflict other failed kind
          exact ⟨current,mutation,shaped,listed,locked⟩
      · unfold reserveAdmissionPlan at failed
        split at failed
        · cases failed
          cases kind
        · split at failed
          · cases failed
            cases kind
          · dsimp only at failed
            split at failed
            · rename_i failure
              cases failed
              exact absurd kind (avoids_foldlM (fun state b _ => admitBinding_avoids plan now state b) _ failure)
            · cases failed
  · rintro ⟨current,mutation,shaped,⟨affected,listed⟩,locked⟩
    obtain ⟨err,failed,kind⟩ := ensureMutationTargetsUnlocked_error_iff.mpr locked
    refine ⟨err,?_,kind⟩
    simp only [reserveNewPlan,current,mutation,if_true,reserveMutationPlan]
    by_cases preempts : plan.purpose = .preemption
    · rw [WellShaped,if_pos preempts] at shaped
      obtain ⟨parts,shape⟩ := shaped
      simp only [preempts,if_true,reservePreemptionPlan,shape,listed,failed]
    · rw [WellShaped,if_neg preempts] at shaped
      simp only [preempts,if_false,reserveActionPlan]
      obtain ⟨nonempty,named⟩ := shaped
      split
      · rename_i none; exact absurd none nonempty
      · simp only [reserveLifecyclePlan,listed,failed]
      · rename_i action single
        simp only [named action single,if_false,listed,failed]

/-- A call of one of the two entry points that reserve a transaction's plan. -/
inductive Entry (F : Type) where
  | begin (plan : PlacementPlan F) (generation : UInt64)
  | reserve (transactionID : String) (expectedGeneration : UInt64)

def enter (s : Store F) (entry : Entry F) (now : Int) : Except Err (Done F) :=
  match entry with
  | .begin plan generation => beginTransaction s plan generation now
  | .reserve transactionID expectedGeneration => reserveTransaction s transactionID expectedGeneration now

/-- The Store has an unfinalized reservation of the record's plan. -/
def Backed (s : Store F) (record : TransactionRecord F) : Prop :=
  ∃ reservation, s.reservations.lookup record.plan.planId = some reservation ∧ reservation.finalized = false ∧
    reservation.plan = record.plan

/-- The plan that the call is the first to reserve for its transaction. -/
def Unheld (s : Store F) (plan : PlacementPlan F) : Entry F → Prop
  | .begin plan' _ => plan' = plan ∧ s.transactions.lookup plan.planId = none
  | .reserve id _ => ∃ record, s.transactions.lookup id = some record ∧ record.reservationHeld = false ∧ record.plan = plan

/-- What the caller relies on: a record that claims a reservation has one and comes with the snapshot, and a plan
    that meets the lock of another is turned away. -/
structure Truthful (s : Store F) (entry : Entry F) (now : Int) : Prop where
  backed : ∀ done, enter s entry now = .ok done → holdsLock done.record = true →
    Backed done.store done.record ∧ done.snapshot.isSome
  rejects : ∀ plan, Unheld s plan entry → s.reservations.lookup plan.planId = none → Locked s plan →
    ∃ err, enter s entry now = .error err

/-- An admission plan that is current and has bindings, each of which finds its pending unit and a device that is ready and
    fits it after the bindings before it. -/
structure Admits (s : Store F) (plan : PlacementPlan F) (now : Int) : Prop where
  current : validatePlan s plan now = .ok ()
  bindings : plan.bindings ≠ []
  revision : s.snapshot.revision ≠ maxUint64
  placed : ∃ admitted, plan.bindings.foldlM (admitBinding plan now) ⟨s.snapshot.devices,pendingByID s.snapshot.pendingUnits,
    s.snapshot.allocations,newReservation plan s.snapshot,[],[]⟩ = .ok admitted

theorem admits_iff (admission : isMutationPurpose (effectivePlanPurpose plan) = false) :
    Admits s plan now ↔ ∃ next, reserveNewPlan s plan now = .ok next := by
  constructor
  · rintro ⟨current,bindings,revision,admitted,placed⟩
    simp only [reserveNewPlan,reserveAdmissionPlan,current,admission,if_neg bindings,if_neg revision,placed]
    exact ⟨_,rfl⟩
  · rintro ⟨next,accepted⟩
    unfold reserveNewPlan reserveAdmissionPlan at accepted
    split at accepted
    · cases accepted
    next current =>
    rw [if_neg (by simp [admission])] at accepted
    split at accepted
    · cases accepted
    next bindings =>
    split at accepted
    · cases accepted
    next revision =>
    dsimp only at accepted
    split at accepted
    · cases accepted
    next admitted placed => exact ⟨current,bindings,revision,admitted,placed⟩

/-- The Store lets the plan be reserved, or turns it away with an error that is not taken for a repetition. -/
def Reservable (s : Store F) (plan : PlacementPlan F) (now : Int) : Prop :=
  match s.reservations.lookup plan.planId with
  | some existing => existing.finalized = false ∧ existing.plan = plan
  | none => ¬ LockConflict s plan now ∧
      (isMutationPurpose (effectivePlanPurpose plan) = false → Locked s plan → ¬ Admits s plan now)

/-- The condition for an entry point: a record that exists already is backed if it holds its reservation, and any
    other plan is reservable. -/
def Sound (s : Store F) (now : Int) : Entry F → Prop
  | .begin plan generation => plan.planId ≠ "" → generation ≠ 0 →
    match s.transactions.lookup plan.planId with
    | some existing => existing.plan = plan → holdsLock existing = true → Backed s existing
    | none => Reservable s plan now
  | .reserve id expectedGeneration => ∀ record, s.transactions.lookup id = some record →
    record.generation = expectedGeneration → isTerminal record = false →
      if record.reservationHeld then Backed s record
      else record.state = .proposed → transactionOverlap s id record.affectedAllocationIDs = none →
        Reservable s record.plan now

omit [Platform F] [DecidableEq F] in
theorem holdsLock_holdReservation {record : TransactionRecord F} (live : record.terminal = false) :
    holdsLock (holdReservation record now) = true := by
  simp [holdsLock,holdReservation,isTerminal,isTerminalTransactionState,live]

omit [Platform F] [DecidableEq F] in
theorem not_locked_of_unlocked (unlocked : Unlocked s plan) : ¬ Locked s plan := by
  rintro ⟨id,member,held⟩
  rw [unlocked id member] at held
  cases held

theorem takeReservation_truthful_iff (s : Store F) (id : String) (record : TransactionRecord F) (now : Int) :
    ((∀ done, takeReservation s id record now = .ok done → Backed done.store done.record ∧ done.snapshot.isSome) ∧
      (s.reservations.lookup record.plan.planId = none → Locked s record.plan →
        ∃ err, takeReservation s id record now = .error err)) ↔ Reservable s record.plan now := by
  unfold Reservable takeReservation reservePlanLocked
  cases found : s.reservations.lookup record.plan.planId with
  | some existing =>
    constructor
    · rintro ⟨backed,_⟩
      by_cases same : existing.plan = record.plan
      · obtain ⟨⟨r,here,unfinalized,plan⟩,_⟩ := backed _ (by simp [same,Err.of]; rfl)
        simp only [Store.setTransaction,holdReservation,found,Option.some.injEq] at here plan
        subst here
        exact ⟨unfinalized,plan⟩
      · obtain ⟨⟨r,here,unfinalized,plan⟩,_⟩ := backed _ (by simp [same,Err.wrap]; rfl)
        simp only [Store.setTransaction,holdReservation,found,Option.some.injEq] at here plan
        subst here
        exact ⟨unfinalized,plan⟩
    · rintro ⟨unfinalized,same⟩
      refine ⟨?_,by simp⟩
      intro done accepted
      simp only [same,if_true,Err.of,Except.ok.injEq] at accepted
      subst accepted
      exact ⟨⟨existing,found,unfinalized,same⟩,rfl⟩
  | none =>
    cases outcome : reserveNewPlan s record.plan now with
    | error err =>
      have conflict_iff : err.sentinel = .planAlreadyReserved ↔ LockConflict s record.plan now := by
        rw [← reserveNewPlan_conflict_iff,outcome]
        simp
      by_cases kind : err.sentinel = .planAlreadyReserved
      · simp only [kind,if_true,conflict_iff.mp kind,not_true,false_and,iff_false]
        rintro ⟨backed,_⟩
        obtain ⟨⟨r,here,_⟩,_⟩ := backed _ rfl
        simp only [Store.setTransaction,holdReservation,found] at here
        cases here
      · have refused (admission : isMutationPurpose (effectivePlanPurpose record.plan) = false) : ¬ Admits s record.plan now := by
          rw [admits_iff admission,outcome]
          simp
        simp only [kind,if_false,mt conflict_iff.mpr kind,not_false_eq_true,true_and]
        simp +contextual [refused]
    | ok next =>
      obtain ⟨ids,reservation,accepted⟩ := reserveNewPlan_accepted outcome
      have free : ¬ LockConflict s record.plan now := by
        rw [← reserveNewPlan_conflict_iff,outcome]
        simp
      have backed : Backed (next.setTransaction id (holdReservation record now)) (holdReservation record now) := by
        refine ⟨reservation,?_,accepted.made.unfinalized,accepted.made.plan⟩
        simp [Store.setTransaction,holdReservation,accepted.reservations]
      constructor
      · rintro ⟨_,rejects⟩
        refine ⟨free,?_⟩
        intro _ locked
        obtain ⟨err,failed⟩ := rejects rfl locked
        cases failed
      · rintro ⟨_,rejects⟩
        refine ⟨?_,?_⟩
        · intro done same
          cases same
          exact ⟨backed,rfl⟩
        · intro _ locked
          cases mutation : isMutationPurpose (effectivePlanPurpose record.plan) with
          | true => exact absurd locked (not_locked_of_unlocked (accepted.unlocked mutation))
          | false => exact absurd ((admits_iff mutation).mpr ⟨next,outcome⟩) (rejects mutation locked)

theorem takeReservation_record {id : String} {record : TransactionRecord F} {done : Done F}
    (accepted : takeReservation s id record now = .ok done) : done.record = holdReservation record now := by
  unfold takeReservation at accepted
  dsimp only at accepted
  split at accepted
  · cases accepted; rfl
  split at accepted
  · cases accepted; rfl
  · cases accepted

variable {entry : Entry F}

theorem truthful_iff_of_takes (id : String) (record : TransactionRecord F)
    (takes : enter s entry now = takeReservation s id record now) (live : record.terminal = false)
    (unheld : ∀ plan, Unheld s plan entry ↔ plan = record.plan) : Truthful s entry now ↔ Reservable s record.plan now := by
  rw [← takeReservation_truthful_iff s id record now]
  constructor
  · intro truthful
    refine ⟨?_,?_⟩
    · intro done accepted
      refine truthful.backed done (takes.trans accepted) ?_
      rw [takeReservation_record accepted]
      exact holdsLock_holdReservation live
    · intro absent locked
      rw [← takes]
      exact truthful.rejects _ ((unheld _).mpr rfl) absent locked
  · rintro ⟨backed,rejects⟩
    refine ⟨?_,?_⟩
    · intro done accepted _
      exact backed done (takes.symm.trans accepted)
    · intro plan first absent locked
      rw [(unheld plan).mp first] at absent locked
      rw [takes]
      exact rejects absent locked

theorem truthful_iff_of_returns (record : TransactionRecord F) (returns : enter s entry now = .ok ⟨s,record,some s.snapshot⟩)
    (unheld : ∀ plan, ¬ Unheld s plan entry) : Truthful s entry now ↔ (holdsLock record = true → Backed s record) := by
  constructor
  · intro truthful held
    exact (truthful.backed _ returns held).1
  · intro backed
    refine ⟨?_,fun plan first => absurd first (unheld plan)⟩
    intro done accepted held
    rw [returns] at accepted
    cases accepted
    exact ⟨backed held,rfl⟩

theorem truthful_of_fails (err : Err) (fails : enter s entry now = .error err) : Truthful s entry now := by
  refine ⟨?_,fun _ _ _ _ => ⟨err,fails⟩⟩
  intro done accepted
  rw [fails] at accepted
  cases accepted

omit [DecidableEq F] in
theorem empty_not_affected (plan : PlacementPlan F) : "" ∉ affectedAllocationIDsForPlan plan := by
  simp [affectedAllocationIDsForPlan,normalizeAllocationIDs,sortedSetValues,sortedStrings]

omit [DecidableEq F] in
theorem proposeTransaction_cases (plan : PlacementPlan F) (generation : UInt64) (now : Int) :
    (∃ err, proposeTransaction plan generation now = .error err) ∧ (plan.planId = "" ∨ generation = 0) ∨
      proposeTransaction plan generation now = .ok (newTransactionRecord plan generation now) ∧ plan.planId ≠ "" ∧
        generation ≠ 0 := by
  have affected := empty_not_affected plan
  by_cases named : plan.planId = ""
  · simp [proposeTransaction,named]
  · by_cases counted : generation = 0
    · simp [proposeTransaction,named,validateTransactionRecord,newTransactionRecord,counted]
    · simp [proposeTransaction,named,validateTransactionRecord,newTransactionRecord,counted,affected]

theorem begin_truthful_iff {generation : UInt64} :
    Truthful s (.begin plan generation) now ↔ Sound s now (.begin plan generation) := by
  rcases proposeTransaction_cases plan generation now with ⟨⟨err,refused⟩,incomplete⟩ | ⟨proposed,named,counted⟩
  · have fails : enter s (.begin plan generation) now = .error err := by simp [enter,beginTransaction,refused]
    refine iff_of_true (truthful_of_fails err fails) ?_
    intro named counted
    exact absurd incomplete (by simp [named,counted])
  · simp only [Sound,named,counted,ne_eq,not_false_eq_true,true_imp_iff]
    cases found : s.transactions.lookup plan.planId with
    | some existing =>
      have unheld : ∀ plan', ¬ Unheld s plan' (.begin plan generation) := by
        rintro plan' ⟨same,absent⟩
        rw [← same,found] at absent
        cases absent
      by_cases same : existing.plan = plan
      · simp only [same,true_imp_iff]
        exact truthful_iff_of_returns existing (by simp [enter,beginTransaction,proposed,newTransactionRecord,found,same]) unheld
      · simp only [same,false_imp_iff,iff_true]
        refine truthful_of_fails (alreadyExists plan.planId) ?_
        simp [enter,beginTransaction,proposed,newTransactionRecord,found,same]
    | none =>
      refine truthful_iff_of_takes plan.planId (newTransactionRecord plan generation now) ?_ rfl ?_
      · simp [enter,beginTransaction,proposed,newTransactionRecord,found]
      · intro plan'
        constructor
        · rintro ⟨same,_⟩
          exact same.symm
        · intro same
          subst same
          exact ⟨rfl,found⟩

theorem reserve_truthful_iff {id : String} {expected : UInt64} :
    Truthful s (.reserve id expected) now ↔ Sound s now (.reserve id expected) := by
  unfold Sound
  cases found : s.transactions.lookup id with
  | none =>
    refine iff_of_true (truthful_of_fails (.wrap .transactionNotFound id) ?_) (by simp [found])
    simp [enter,reserveTransaction,found]
  | some record =>
    simp only [found,Option.some.injEq,forall_eq']
    by_cases current : record.generation = expected
    · have valid : validateTransactionGeneration record.generation expected = .ok () := by
        simp [validateTransactionGeneration,current]
      cases ended : isTerminal record with
      | true =>
        refine iff_of_true (truthful_of_fails (.wrap .transactionImmutable id) ?_) (by simp)
        simp [enter,reserveTransaction,found,valid,ended]
      | false =>
        simp only [current,true_imp_iff]
        cases held : record.reservationHeld with
        | true =>
          rw [if_pos rfl]
          have locks : holdsLock record = true := by simp [holdsLock,held,ended]
          rw [truthful_iff_of_returns record
            (by simp [enter,reserveTransaction,found,valid,ended,held])]
          · simp [locks]
          · rintro plan ⟨record',found',unheld,_⟩
            rw [found] at found'
            cases found'
            rw [held] at unheld
            cases unheld
        | false =>
          rw [if_neg (by simp)]
          by_cases proposed : record.state = .proposed
          · cases overlap : transactionOverlap s id record.affectedAllocationIDs with
            | some holder =>
              refine iff_of_true (truthful_of_fails (lockedBy id holder) ?_) (by simp)
              simp [enter,reserveTransaction,found,valid,ended,held,proposed,checkOverlap,overlap]
            | none =>
              simp only [proposed,true_imp_iff]
              refine truthful_iff_of_takes id record ?_ ?_ ?_
              · simp [enter,reserveTransaction,found,valid,ended,held,proposed,checkOverlap,overlap]
              · have := ended
                simp only [isTerminal,Bool.or_eq_false_iff] at this
                exact this.1
              · intro plan
                constructor
                · rintro ⟨record',found',_,same⟩
                  rw [found] at found'
                  cases found'
                  exact same.symm
                · intro same
                  exact ⟨record,found,held,same.symm⟩
          · simp only [proposed,false_imp_iff,iff_true]
            refine truthful_of_fails (.wrap .transactionConflict
              ("transaction " ++ quote id ++ " cannot reserve from " ++ record.state.name)) ?_
            simp [enter,reserveTransaction,found,valid,ended,held,proposed]
    · refine iff_of_true (truthful_of_fails (.wrap .transactionConflict ("expected generation " ++
        toString expected ++ ", current generation " ++ toString record.generation)) ?_) (by simp [current])
      simp [enter,reserveTransaction,found,validateTransactionGeneration,current]

/-- An entry point tells the truth about the reservation exactly when its plan meets no lock of another plan, no
    reservation of other content and no finalized one. -/
theorem enter_truthful_iff (s : Store F) (entry : Entry F) (now : Int) : Truthful s entry now ↔ Sound s now entry := by
  cases entry with
  | begin plan generation => exact begin_truthful_iff
  | reserve id expected => exact reserve_truthful_iff

/-- A Store with one active allocation and one intent. -/
def meetingStore : Store Int :=
  let snapshot : ClusterSnapshot Int :=
    { (default : ClusterSnapshot Int) with
      revision := 1
      allocations := [{ (default : Allocation Int) with allocationId := "a", state := .active }] }
  { newStore snapshot with
    intents := AList.insert ⟨"e","s"⟩
      { (default : SchedulingIntent Int) with version := 1, validUntil := some ⟨100,0⟩ } ∅ }

def releasingPlan (planID : String) (revision : UInt64) : PlacementPlan Int :=
  { (default : PlacementPlan Int) with
    planId := planID
    executionId := "e"
    stageId := "s"
    intentVersion := 1
    snapshotRevision := revision
    purpose := .rebalance
    actions := [{ (default : Action Int) with actionId := "r", actionType := .release, targetId := "a" }]
    affectedAllocationIds := ["a"] }

def lockedStore : Store Int :=
  match enter meetingStore (.begin (releasingPlan "p" 1) 1) 0 with
  | .error _ => meetingStore
  | .ok done => done.store

/-- The second plan is accepted: its record claims a reservation that does not exist. -/
theorem begin_claims_missing_reservation :
    (∃ done, enter lockedStore (.begin (releasingPlan "q" 2) 1) 0 = .ok done ∧ holdsLock done.record = true ∧
      done.store.reservations.lookup "q" = none ∧ done.snapshot = none) ∧
    Locked lockedStore (releasingPlan "q" 2) ∧ ¬ Truthful lockedStore (.begin (releasingPlan "q" 2) 1) 0 := by
  have entered : (enter lockedStore (.begin (releasingPlan "q" 2) 1) 0).toOption.any (fun done =>
      holdsLock done.record && (done.store.reservations.lookup "q").isNone && done.snapshot.isNone) = true := by decide
  obtain ⟨done,accepted,facts⟩ := ok_of_any entered
  simp only [Bool.and_eq_true,Option.isNone_iff_eq_none] at facts
  obtain ⟨⟨held,absent⟩,bare⟩ := facts
  refine ⟨⟨done,accepted,held,absent,bare⟩,⟨"a",by decide,by decide⟩,?_⟩
  intro truthful
  have given := (truthful.backed done accepted held).2
  rw [bare] at given
  cases given

end TgsRl.Backing
