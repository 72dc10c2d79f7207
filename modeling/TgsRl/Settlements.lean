import TgsRl.Drafts

/-!
Finalization, taken apart once: `settlement` is the snapshot that the finalization of an unfinalized
reservation works out, and `FinalizePlanResults` installs it, closes the reservation and touches
nothing else.
-/
namespace TgsRl.Settlements
open Resources Messages State Mutations Preemption Reservations

variable {F : Type} [Platform F] [DecidableEq F]

/-- What a preemption plan leaves. -/
def settlePreemption (snapshot : ClusterSnapshot F) (plan : PlacementPlan F) (reservation : PlanReservation F)
    (succeeded : Bool) (results : List (Option ActionResult)) : Except Err (ClusterSnapshot F) :=
  match preemptionPlanParts plan with
  | .error err => .error err
  | .ok parts =>
    if succeeded then commitPreemptionReplacement snapshot parts
    else if preemptionResultsConfirmRestoration plan results then abortPreemptionReplacement snapshot parts reservation
    else .ok (markAllocationsFailed snapshot (sortedStrings reservation.allocationIDs))

/-- What a plan of one of the other mutations leaves. -/
def settleMutation (snapshot : ClusterSnapshot F) (plan : PlacementPlan F) (reservation : PlanReservation F)
    (succeeded : Bool) (results : List (Option ActionResult)) : Except Err (ClusterSnapshot F) :=
  match plan.actions with
  | [] => .error (.wrap .planNotReserved "mutation reservation is incomplete")
  | action :: _ =>
    if succeeded then .ok (commitMutation snapshot action.actionType reservation)
    else if mutationResultConfirmsRestoration plan results then
      restoreMutationStateFromBeforeImage snapshot plan reservation
    else .ok (markAllocationsFailed snapshot (sortedStrings (failedMutationRetainedIDs plan reservation results).1))

/-- The snapshot that the outcome of a reserved plan leads to. -/
def settlement (snapshot : ClusterSnapshot F) (plan : PlacementPlan F) (reservation : PlanReservation F)
    (succeeded : Bool) (results : List (Option ActionResult)) : Except Err (ClusterSnapshot F) :=
  if effectivePlanPurpose plan = .preemption then settlePreemption snapshot plan reservation succeeded results
  else if isMutationPurpose (effectivePlanPurpose plan) then settleMutation snapshot plan reservation succeeded results
  else .ok (settleAdmission snapshot reservation (retainedAllocations plan succeeded results).1
    (retainedAllocations plan succeeded results).2 succeeded)

structure Settled (s next : Store F) (working : ClusterSnapshot F) (plan : PlacementPlan F)
    (reservation : PlanReservation F) (succeeded : Bool) : Prop where
  devices : next.snapshot.devices = working.devices
  allocations : next.snapshot.allocations = working.allocations
  revision : next.snapshot.revision = s.snapshot.revision ∨ next.snapshot.revision = s.snapshot.revision + 1 ∧
    s.snapshot.revision ≠ maxUint64
  reservations : ∃ retained, next.reservations =
    s.reservations.insert plan.planId (closeReservation reservation succeeded retained)
  transactions : next.transactions = s.transactions

variable {s next : Store F} {plan : PlacementPlan F} {reservation : PlanReservation F} {succeeded : Bool} {now : Int}
  {retained : List String} {results : List (Option ActionResult)}

omit [Platform F] in
theorem settled_of_commitChanged {working : ClusterSnapshot F}
    (room : ¬ (s.snapshot.revision = maxUint64 ∧ working ≠ s.snapshot)) :
    Settled s ((s.commitChanged working now).setReservation plan.planId (closeReservation reservation succeeded retained))
      working plan reservation succeeded := by
  refine ⟨?_,?_,?_,⟨retained,?_⟩,?_⟩
  · simp [Store.setReservation]
  · simp [Store.setReservation]
  · by_cases same : working = s.snapshot
    · simp [Store.setReservation,Store.commitChanged,same]
    · right
      simp only [not_and_or,not_not,same,or_false] at room
      simp [Store.setReservation,Store.commitChanged,same,Store.commitSnapshot,room]
  · simp [Store.setReservation]
  · simp [Store.setReservation]

omit [Platform F] in
theorem commit_settles {s : Store F} {plan : PlacementPlan F} {reservation : PlanReservation F} {succeeded : Bool}
    {now : Int} {retained : List String} {finished : Except Err (ClusterSnapshot F)} :
    let result : Except Err (Store F) := match (match finished with
      | .error err => .error err
      | .ok working =>
        if s.snapshot.revision = maxUint64 ∧ working ≠ s.snapshot then .error (.of .revisionExhausted)
        else .ok (s.commitChanged working now,retained) : Except Err (Store F × List String)) with
      | .error err => .error err
      | .ok (next,retainedIDs) =>
        .ok (next.setReservation plan.planId (closeReservation reservation succeeded retainedIDs))
    match finished with
    | .error err => result = .error err
    | .ok working => s.snapshot.revision = maxUint64 ∧ result = .error (.of .revisionExhausted) ∨
        ∃ next, result = .ok next ∧ Settled s next working plan reservation succeeded := by
  cases finished with
  | error err => rfl
  | ok working =>
    dsimp only
    by_cases full : s.snapshot.revision = maxUint64 ∧ working ≠ s.snapshot
    · left
      simp [full]
    · right
      rw [if_neg full]
      exact ⟨_,rfl,settled_of_commitChanged full⟩

/-- `FinalizePlanResults` on a reservation not finalized yet: the error of the settlement, an exhausted revision, or
    the settled Store. -/
theorem finalizePlanResults_settles (succeeded : Bool) (results : List (Option ActionResult)) (now : Int)
    (found : s.reservations.lookup plan.planId = some reservation) (same : reservation.plan = plan)
    (unfinalized : reservation.finalized = false) :
    match settlement s.snapshot plan reservation succeeded results with
    | .error err => finalizePlanResults s plan succeeded results now = .error err
    | .ok working =>
      s.snapshot.revision = maxUint64 ∧
          finalizePlanResults s plan succeeded results now = .error (.of .revisionExhausted) ∨
        ∃ next, finalizePlanResults s plan succeeded results now = .ok next ∧
          Settled s next working plan reservation succeeded := by
  unfold settlement finalizePlanResults
  simp only [found,same,ne_eq,not_true_eq_false,if_false]
  by_cases preempts : effectivePlanPurpose plan = .preemption
  · simp only [preempts,if_true,settlePreemption,finalizePreemptionPlanResults]
    cases shape : preemptionPlanParts plan with
    | error err => simp
    | ok parts =>
      simp only [unfinalized,Bool.false_eq_true,if_false]
      have same_outcome : (if succeeded = true then commitPreemptionReplacement s.snapshot parts
          else if (preemptionOutcome plan reservation succeeded results).restore = true then
            abortPreemptionReplacement s.snapshot parts reservation
          else .ok (markAllocationsFailed s.snapshot (preemptionOutcome plan reservation succeeded results).retainedIDs)) =
        if succeeded = true then commitPreemptionReplacement s.snapshot parts
        else if preemptionResultsConfirmRestoration plan results = true then
          abortPreemptionReplacement s.snapshot parts reservation
        else .ok (markAllocationsFailed s.snapshot (sortedStrings reservation.allocationIDs)) := by
        cases succeeded with
        | true => simp
        | false =>
          cases confirmed : preemptionResultsConfirmRestoration plan results <;> simp [preemptionOutcome,confirmed]
      rw [same_outcome]
      exact commit_settles
  · simp only [preempts,if_false]
    cases mutates : isMutationPurpose (effectivePlanPurpose plan) with
    | true =>
      simp only [if_true,unfinalized,Bool.false_eq_true,if_false,settleMutation,finalizeMutationPlanResults]
      cases listed : plan.actions with
      | nil => simp
      | cons action later =>
        dsimp only
        have same_outcome : (if succeeded = true then
              .ok (commitMutation s.snapshot action.actionType reservation)
            else if (mutationOutcome plan reservation succeeded results).restore = true then
              restoreMutationStateFromBeforeImage s.snapshot plan reservation
            else .ok (markAllocationsFailed s.snapshot (mutationOutcome plan reservation succeeded results).retainedIDs)) =
          if succeeded = true then .ok (commitMutation s.snapshot action.actionType reservation)
          else if mutationResultConfirmsRestoration plan results = true then
            restoreMutationStateFromBeforeImage s.snapshot plan reservation
          else .ok (markAllocationsFailed s.snapshot
            (sortedStrings (failedMutationRetainedIDs plan reservation results).1)) := by
          cases succeeded with
          | true => simp
          | false =>
            cases confirmed : mutationResultConfirmsRestoration plan results <;> simp [mutationOutcome,confirmed]
        rw [same_outcome]
        exact commit_settles
    | false =>
      simp only [Bool.false_eq_true,if_false,finalizeAdmissionPlanResults,unfinalized]
      by_cases full : s.snapshot.revision = maxUint64
      · left
        simp [full]
      · right
        rw [if_neg full]
        exact ⟨_,rfl,rfl,rfl,Or.inr ⟨rfl,full⟩,⟨_,rfl⟩,rfl⟩

omit [Platform F] [DecidableEq F] in
theorem closeReservation_again (finalized : reservation.finalized = true) (outcome : reservation.succeeded = succeeded)
    (names : reservation.retainedAllocationIDs = retained) : closeReservation reservation succeeded retained = reservation := by
  cases reservation
  simp only at finalized outcome names
  simp [closeReservation,finalized,outcome,names]

theorem finalizePlanResults_again (found : s.reservations.lookup plan.planId = some reservation)
    (same : reservation.plan = plan) (finalized : reservation.finalized = true)
    (accepted : finalizePlanResults s plan succeeded results now = .ok next) :
    next = s ∨ next = s.setReservation plan.planId reservation := by
  unfold finalizePlanResults at accepted
  simp only [found,same,ne_eq,not_true_eq_false,if_false] at accepted
  split at accepted
  · unfold finalizePreemptionPlanResults at accepted
    cases shape : preemptionPlanParts plan with
    | error err => simp [shape] at accepted
    | ok parts =>
      simp only [shape,finalized,if_true] at accepted
      split at accepted
      · cases accepted
      rename_i next' retainedIDs returned
      split at returned
      · cases returned
      rename_i agrees
      simp only [ne_eq,not_or,not_not] at agrees
      cases returned
      cases accepted
      rw [closeReservation_again finalized agrees.1 agrees.2]
      exact Or.inr rfl
  · split at accepted
    · split at accepted
      · cases accepted
      · cases accepted; exact Or.inl rfl
    · simp only [finalizeAdmissionPlanResults,finalized,if_true] at accepted
      split at accepted
      · cases accepted
      · cases accepted; exact Or.inl rfl

theorem finalizePlanResults_cases (accepted : finalizePlanResults s plan succeeded results now = .ok next) :
    ∃ reservation, s.reservations.lookup plan.planId = some reservation ∧ reservation.plan = plan ∧
      (reservation.finalized = true ∧ (next = s ∨ next = s.setReservation plan.planId reservation) ∨
        reservation.finalized = false ∧ ∃ working, settlement s.snapshot plan reservation succeeded results = .ok working ∧
          Settled s next working plan reservation succeeded) := by
  cases found : s.reservations.lookup plan.planId with
  | none => simp [finalizePlanResults,found] at accepted
  | some reservation =>
    by_cases same : reservation.plan = plan
    · refine ⟨reservation,rfl,same,?_⟩
      cases finalized : reservation.finalized with
      | true => exact Or.inl ⟨rfl,finalizePlanResults_again found same finalized accepted⟩
      | false =>
        refine Or.inr ⟨rfl,?_⟩
        have settles := finalizePlanResults_settles succeeded results now found same finalized
        split at settles
        · rw [settles] at accepted
          cases accepted
        · rename_i working settled
          rcases settles with ⟨_,failed⟩ | ⟨next',finished,done⟩
          · rw [failed] at accepted
            cases accepted
          · rw [finished] at accepted
            cases accepted
            exact ⟨working,settled,done⟩
    · simp [finalizePlanResults,found,same] at accepted

theorem finalizePlanResults_transactions (accepted : finalizePlanResults s plan succeeded results now = .ok next) :
    next.transactions = s.transactions := by
  obtain ⟨_,_,_,⟨_,same | closed⟩ | ⟨_,_,_,settled⟩⟩ := finalizePlanResults_cases accepted
  · rw [same]
  · rw [closed]; rfl
  · exact settled.transactions

end TgsRl.Settlements
