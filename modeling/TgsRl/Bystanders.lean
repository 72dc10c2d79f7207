import TgsRl.Exclusion

/-!
What plans leave alone: the stored intents, the idempotency keys of past publications and what
providers have reported.
-/
namespace TgsRl.Bystanders
open Resources Messages State Mutations Preemption Reservations Transactions Exclusion

variable {F : Type}

/-- The two Stores agree on intents, on the keys of past publications and on what providers have reported. -/
structure Agree (s next : Store F) : Prop where
  intents : next.intents = s.intents
  keys : next.idempotencyKeys = s.idempotencyKeys
  projection : next.providerProjection = s.providerProjection

theorem Agree.refl (s : Store F) : Agree s s := ⟨rfl,rfl,rfl⟩

variable {s next : Store F} {plan : PlacementPlan F} {now : Int} {succeeded : Bool} {results : List (Option ActionResult)}

theorem agree_setReservation (agree : Agree s next) (planID : String) (reservation : PlanReservation F) :
    Agree s (next.setReservation planID reservation) :=
  ⟨agree.intents,agree.keys,agree.projection⟩

theorem agree_setTransaction (agree : Agree s next) (transactionID : String) (record : TransactionRecord F) :
    Agree s (next.setTransaction transactionID record) :=
  ⟨agree.intents,agree.keys,agree.projection⟩

theorem agree_commitSnapshot (s : Store F) (working : ClusterSnapshot F) (now : Int) :
    Agree s (s.commitSnapshot working now) := ⟨rfl,rfl,rfl⟩

theorem agree_commitChanged [DecidableEq F] (s : Store F) (working : ClusterSnapshot F) (now : Int) :
    Agree s (s.commitChanged working now) := by
  rw [Store.commitChanged]
  split
  · exact .refl s
  · exact agree_commitSnapshot s working now

variable [Platform F] [DecidableEq F]

theorem reserveActionPlan_agree (accepted : reserveActionPlan s plan now = .ok next) : Agree s next := by
  simp only [reserveActionPlan,reserveLifecyclePlan] at accepted
  split at accepted
  · cases accepted
  · split at accepted
    · cases accepted
    · split at accepted
      · cases accepted
      · split at accepted
        · cases accepted
        · cases accepted
          exact agree_setReservation (.refl s) _ _
  · split at accepted
    · cases accepted
    · split at accepted
      · cases accepted
      · split at accepted
        · cases accepted
        · split at accepted
          · cases accepted
          · split at accepted
            · cases accepted
            · cases accepted
              exact agree_setReservation (agree_commitChanged ..) _ _

theorem reservePreemptionPlan_agree (accepted : reservePreemptionPlan s plan now = .ok next) : Agree s next := by
  simp only [reservePreemptionPlan] at accepted
  split at accepted
  · cases accepted
  split at accepted
  · cases accepted
  split at accepted
  · cases accepted
  split at accepted
  · cases accepted
  split at accepted
  · cases accepted
  · cases accepted
    exact agree_setReservation (agree_commitChanged ..) _ _

theorem reserveNewPlan_agree (accepted : reserveNewPlan s plan now = .ok next) : Agree s next := by
  simp only [reserveNewPlan,reserveMutationPlan,reserveAdmissionPlan] at accepted
  split at accepted
  · cases accepted
  split at accepted
  · split at accepted
    · exact reservePreemptionPlan_agree accepted
    · exact reserveActionPlan_agree accepted
  · split at accepted
    · cases accepted
    · split at accepted
      · cases accepted
      · split at accepted
        · cases accepted
        · cases accepted
          exact agree_setReservation (agree_commitSnapshot ..) _ _

theorem reservePlanLocked_agree (s : Store F) (plan : PlacementPlan F) (now : Int) :
    Agree s (reservePlanLocked s plan now).store := by
  simp only [reservePlanLocked]
  split
  · split
    · exact .refl s
    · exact .refl s
  · split
    · exact .refl s
    · rename_i accepted
      exact reserveNewPlan_agree accepted

theorem reservePlan_agree (s : Store F) (plan : PlacementPlan F) (now : Int) :
    Agree s (reservePlan s plan now).store := by
  rw [reservePlan]
  split
  · exact .refl s
  · exact reservePlanLocked_agree s plan now

theorem finalizeMutationPlanResults_agree {reservation : PlanReservation F} {finished : Store F × List String}
    (accepted : finalizeMutationPlanResults s plan reservation succeeded results now = .ok finished) : Agree s finished.1 := by
  simp only [finalizeMutationPlanResults] at accepted
  split at accepted
  · cases accepted
  split at accepted
  · cases accepted
  split at accepted
  · cases accepted
  · cases accepted
    exact agree_commitChanged ..

theorem finalizePreemptionPlanResults_agree {reservation : PlanReservation F} {finished : Store F × List String}
    (accepted : finalizePreemptionPlanResults s plan reservation succeeded results now = .ok finished) :
    Agree s finished.1 := by
  simp only [finalizePreemptionPlanResults] at accepted
  split at accepted
  · cases accepted
  split at accepted
  · split at accepted
    · cases accepted
    · cases accepted
      exact .refl s
  · split at accepted
    · cases accepted
    · split at accepted
      · cases accepted
      · cases accepted
        exact agree_commitChanged ..

theorem finalizePlanResults_agree (accepted : finalizePlanResults s plan succeeded results now = .ok next) : Agree s next := by
  simp only [finalizePlanResults,finalizeAdmissionPlanResults] at accepted
  split at accepted
  · cases accepted
  split at accepted
  · cases accepted
  split at accepted
  · split at accepted
    · cases accepted
    · rename_i finished
      cases accepted
      exact agree_setReservation (finalizePreemptionPlanResults_agree finished) _ _
  · split at accepted
    · split at accepted
      · split at accepted
        · cases accepted
        · cases accepted
          exact .refl s
      · split at accepted
        · cases accepted
        · rename_i finished
          cases accepted
          exact agree_setReservation (finalizeMutationPlanResults_agree finished) _ _
    · split at accepted
      · split at accepted
        · cases accepted
        · cases accepted
          exact .refl s
      · split at accepted
        · cases accepted
        · cases accepted
          exact agree_setReservation (agree_commitSnapshot ..) _ _

/-- The call is not a publication. -/
def isPlanCall : Call F → Bool
  | .publish _ => false
  | _ => true

theorem perform_bystanders (s : Store F) (call : Call F × Int) (plans : isPlanCall call.1 = true) :
    Agree s (perform s call) := by
  have change := perform_change s call
  generalize perform s call = next at change ⊢
  cases change with
  | same => exact .refl s
  | created | advanced => exact agree_setTransaction (.refl s) _ _
  | begun | reserved => exact agree_setTransaction (reservePlanLocked_agree ..) _ _
  | finalized _ settled written _ =>
    rw [written]
    exact agree_setTransaction (finalizePlanResults_agree settled) _ _
  | published => cases plans

end TgsRl.Bystanders
