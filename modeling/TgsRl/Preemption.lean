import TgsRl.Mutations

/-!
Preemption plans, as in `preemption_reservation.go`: active victims are marked
releasing and one pending unit is placed on the capacity they will return. The
replacement consumes from its device only what the victims there do not cover,
so until the plan is finalized victims and replacement share capacity.
-/
namespace TgsRl.Preemption
open Resources Messages State Mutations

variable {F : Type}

/-- The replacement binding, its bind action and the release actions. -/
structure PreemptionParts (F : Type) where
  replacement : Binding F
  target : String
  resources : ResourceVector F
  bindAction : Action F
  releaseActions : List (Action F)

/-- One action sorted into the bind action or the release actions. -/
def sortPreemptionAction (sorted : Option (Action F) × List (Action F)) (action : Action F) :
    Except Err (Option (Action F) × List (Action F)) :=
  if action.actionId = "" then .error (.wrap .invalidIntent "preemption action is required")
  else match action.actionType,sorted with
    | .release,(bindAction,releaseActions) => .ok (bindAction,releaseActions ++ [action])
    | .bind,(some _,_) => .error (.wrap .invalidIntent "preemption requires exactly one bind action")
    | .bind,(none,releaseActions) => .ok (some action,releaseActions)
    | other,_ => .error (.wrap .invalidIntent ("unsupported preemption action " ++ other.name))

def bindMatches [DecidableEq F] (bindAction : Action F) (replacement : Binding F) : Bool :=
  decide (bindAction.binding = some replacement) && decide (bindAction.targetId = replacement.pendingUnitId) &&
    decide (bindAction.sandboxId = replacement.sandboxId) &&
    decide (bindAction.expectedGeneration = replacement.generation)

def preemptionPlanParts [DecidableEq F] (plan : PlacementPlan F) : Except Err (PreemptionParts F) :=
  let incomplete : Except Err (PreemptionParts F) := .error (.wrap .invalidIntent
    "preemption replacement binding requires one device, pending_unit_id, and resources")
  match plan.bindings with
  | [replacement] =>
    if replacement.bindingId = "" ∨ replacement.pendingUnitId = "" then incomplete
    else match replacement.resources,replacement.deviceIds with
      | some resources,[target] => match plan.actions.foldlM sortPreemptionAction (none,[]) with
        | .error err => .error err
        | .ok (some bindAction,release :: more) =>
          if !bindMatches bindAction replacement then
            .error (.wrap .invalidIntent "preemption bind action must match replacement binding")
          else if replacement.sandboxId = "" ∨ replacement.runtimeUnitId = "" ∨ replacement.generation = 0 then
            .error (.wrap .invalidIntent "preemption replacement binding requires complete runtime identity")
          else .ok ⟨replacement,target,resources,bindAction,release :: more⟩
        | .ok _ => .error (.wrap .invalidIntent "preemption requires release victims and one replacement bind")
      | _,_ => incomplete
  | _ => .error (.wrap .invalidIntent "preemption requires exactly one replacement binding")

/-- The binding a victim runs under. -/
def victimBinding (victim : Allocation F) : Binding F where
  bindingId := victim.bindingId
  pendingUnitId := victim.pendingUnitId
  deviceIds := victim.deviceIds
  resources := victim.resources
  sandboxId := victim.sandboxId
  generation := victim.generation
  runtimeUnitId := victim.runtimeUnitId

/-- The identity is complete and the action and its rollback both carry it. -/
def releaseMatches [DecidableEq F] (action : Action F) (want : Binding F) : Bool :=
  decide (want.bindingId ≠ "") && decide (want.pendingUnitId ≠ "") && decide (want.sandboxId ≠ "") &&
    decide (want.runtimeUnitId ≠ "") && decide (want.generation ≠ 0) && decide (want.deviceIds ≠ []) &&
    want.resources.isSome && decide (action.sandboxId = want.sandboxId) &&
    decide (action.expectedGeneration = want.generation) && decide (action.binding = some want) &&
    match action.rollback with
    | none => false
    | some rollback => decide (rollback.actionType = .bind) && decide (rollback.targetId = want.sandboxId) &&
      decide (rollback.restoreBinding = some want)

def validatePreemptionReleaseIdentity [DecidableEq F] (action : Action F) (victim : Allocation F) :
    Except Err Unit :=
  if releaseMatches action (victimBinding victim) then .ok ()
  else .error (.wrap .invalidIntent ("preemption release " ++ quote action.actionId ++
    " does not match victim allocation " ++ quote victim.allocationId))

/-- The unit the replacement binding names, and the other pending units. -/
def consumeReplacementPendingUnit [DecidableEq F] (pending : List (PendingUnit F)) (plan : PlacementPlan F)
    (binding : Binding F) : Except Err (PendingUnit F × List (PendingUnit F)) :=
  let matching (unit : PendingUnit F) : Bool := decide (unit.pendingUnitId = binding.pendingUnitId) &&
    decide (unit.executionId = plan.executionId) && decide (unit.stageId = plan.stageId) &&
    decide (unit.intentVersion = plan.intentVersion)
  match pending.find? matching with
  | none => .error (.wrap .pendingUnitNotFound (quote binding.pendingUnitId))
  | some unit =>
    if unit.requestedResources ≠ binding.resources then
      .error (.wrap .invalidIntent "replacement binding resources differ from pending request")
    else .ok (unit,pending.eraseP matching)

/-- `addResources`, which skips a missing vector. -/
def addReleased [Platform F] (released : ResourceVector F) (resources : Option (ResourceVector F)) :
    ResourceVector F :=
  match resources with
  | none => released
  | some resources => addResources released resources

/-- What the loop over the release actions carries. -/
structure VictimState (F : Type) where
  working : ClusterSnapshot F
  reservation : PlanReservation F
  releasedOnTarget : ResourceVector F
  releasedVictims : List String

/-- One release action: its victim is marked releasing, and what it holds on the target is counted. -/
def releaseVictim [Platform F] [DecidableEq F] (affected : Map String (Allocation F)) (target : String)
    (state : VictimState F) (action : Action F) : Except Err (VictimState F) :=
  match activeTarget action affected with
  | .error err => .error err
  | .ok victim => match validatePreemptionReleaseIdentity action victim with
    | .error err => .error err
    | .ok () =>
      if victim.allocationId ∈ state.releasedVictims then
        .error (.wrap .invalidIntent ("duplicate preemption victim " ++ quote victim.allocationId))
      else match findAllocation state.working.allocations victim.allocationId with
        | none => .error (allocationMissing victim.allocationId)
        | some _ => .ok {
            working := setAllocation victim.allocationId (fun mutable => { mutable with state := .releasing })
              state.working
            reservation := reserveIDs state.reservation [victim.allocationId]
            releasedOnTarget :=
              if target ∈ victim.deviceIds then addReleased state.releasedOnTarget victim.resources
              else state.releasedOnTarget
            releasedVictims := victim.allocationId :: state.releasedVictims }

def buildPreemptionReplacementAllocation (plan : PlacementPlan F) (action : Action F) (binding : Binding F)
    (unit : PendingUnit F) (allocationID : String) (nowTimestamp : Int) : Allocation F where
  allocationId := allocationID
  executionId := plan.executionId
  stageId := plan.stageId
  intentVersion := plan.intentVersion
  jobId := firstNonEmpty plan.jobId unit.jobId
  pendingUnitId := unit.pendingUnitId
  deviceIds := binding.deviceIds
  resources := binding.resources
  state := .pending
  createdAt := some (Timestamp.new nowTimestamp)
  expiresAt := plan.expiresAt
  runId := firstNonEmpty plan.runId unit.runId
  traceId := firstNonEmpty plan.traceId unit.traceId
  dataKind := firstKnownDataKind plan.dataKind unit.dataKind
  generation := binding.generation
  runtimeUnitId := firstNonEmpty binding.runtimeUnitId unit.runtimeUnitId
  decisionId := plan.decisionId
  planId := plan.planId
  actionId := action.actionId
  priority := some unit.priority
  sandboxId := binding.sandboxId
  bindingId := binding.bindingId

/-- The replacement placed on its device, beyond what the victims there return. -/
def placeReplacement [Platform F] [DecidableEq F] (plan : PlacementPlan F) (parts : PreemptionParts F)
    (victims : VictimState F) (nowTimestamp : Int) : Except Err (Draft F) :=
  match consumeReplacementPendingUnit victims.working.pendingUnits plan parts.replacement with
  | .error err => .error err
  | .ok (pending,remaining) =>
    let working := { victims.working with pendingUnits := sortPendingUnits remaining }
    let extraConsumption := positiveResourceDelta parts.resources victims.releasedOnTarget
    match checkReadyFits working extraConsumption parts.target with
    | .error err => .error err
    | .ok () =>
      let replacementAllocationID := allocationID F parts.replacement.bindingId
      match findAllocation working.allocations replacementAllocationID with
      | some _ => .error (.wrap .invalidIntent ("duplicate binding_id " ++ quote parts.replacement.bindingId))
      | none =>
        let placed := setDevices [parts.target] (consume extraConsumption) working
        let reserved := rememberDeviceAllocatable
          { victims.reservation with pendingUnits := victims.reservation.pendingUnits ++ [pending] }
          parts.replacement.deviceIds
        .ok ({ placed with allocations := placed.allocations ++ [buildPreemptionReplacementAllocation plan
                parts.bindAction parts.replacement pending replacementAllocationID nowTimestamp] },
          reserveIDs reserved [replacementAllocationID])

def reservePreemptionReplacement [Platform F] [DecidableEq F] (working : ClusterSnapshot F) (plan : PlacementPlan F)
    (parts : PreemptionParts F) (affected : Map String (Allocation F)) (reservation : PlanReservation F)
    (nowTimestamp : Int) : Except Err (Draft F) :=
  match parts.releaseActions.foldlM (releaseVictim affected parts.target) ⟨working,reservation,.empty,[]⟩ with
  | .error err => .error err
  | .ok victims => placeReplacement plan parts victims nowTimestamp

def reservePreemptionPlan [Platform F] [DecidableEq F] (s : Store F) (plan : PlacementPlan F) (now : Int) :
    Except Err (Store F) :=
  match preemptionPlanParts plan with
  | .error err => .error err
  | .ok parts => match affectedAllocationsByID s.snapshot.allocations plan.affectedAllocationIds with
    | .error err => .error err
    | .ok affected =>
      match ensureMutationTargetsUnlocked s.reservations plan.planId plan.affectedAllocationIds with
      | .error err => .error err
      | .ok () =>
        if s.snapshot.revision = maxUint64 then .error (.of .revisionExhausted)
        else match reservePreemptionReplacement s.snapshot plan parts affected (newReservation plan s.snapshot) now with
          | .error err => .error err
          | .ok (working,reservation) =>
            .ok ((s.commitChanged working now).setReservation plan.planId reservation)

/-- What a victim holds on a device, returned to it; on the target it is counted instead. -/
def returnOn [Platform F] (target : String) (resources : Option (ResourceVector F))
    (state : ClusterSnapshot F × ResourceVector F) (deviceID : String) : ClusterSnapshot F × ResourceVector F :=
  match findDevice state.1.devices deviceID with
  | none => state
  | some _ =>
    if deviceID = target then (state.1,addReleased state.2 resources)
    else (setDevices [deviceID] (giveBack (orEmpty resources)) state.1,state.2)

def returnVictim [Platform F] (target : String) (victim : Allocation F)
    (state : ClusterSnapshot F × ResourceVector F) : ClusterSnapshot F × ResourceVector F :=
  victim.deviceIds.foldl (returnOn target victim.resources) state

/-- One release action of a successful preemption. -/
def commitVictim [Platform F] (target : String) (state : ClusterSnapshot F × ResourceVector F) (action : Action F) :
    Except Err (ClusterSnapshot F × ResourceVector F) :=
  match findAllocation state.1.allocations action.targetId with
  | none => .error (allocationMissing action.targetId)
  | some victim => .ok (returnVictim target victim state)

def commitPreemptionReplacement [Platform F] (working : ClusterSnapshot F) (parts : PreemptionParts F) :
    Except Err (ClusterSnapshot F) :=
  let replacementID := allocationID F parts.replacement.bindingId
  match findAllocation working.allocations replacementID with
  | none => .error (allocationMissing replacementID)
  | some _ =>
    let activated := setAllocation replacementID (fun mutable => { mutable with state := .active }) working
    match parts.releaseActions.foldlM (commitVictim parts.target) (activated,.empty) with
    | .error err => .error err
    | .ok (returned,releasedOnTarget) =>
      let victimIDs := parts.releaseActions.map Action.targetId
      if parts.target = "" then .ok (removeAllocationsByID returned victimIDs)
      else match findDevice returned.devices parts.target with
        | none => .error (.wrap .insufficientResource ("device " ++ quote parts.target ++ " is unavailable"))
        | some _ =>
          let returnedOnTarget := positiveResourceDelta releasedOnTarget parts.resources
          .ok (removeAllocationsByID (setDevices [parts.target] (giveBack returnedOnTarget) returned) victimIDs)

/-- One victim of an aborted preemption: its state and version before the plan. -/
def restoreVictim [Platform F] (before : Option (ClusterSnapshot F)) (target : String)
    (state : ClusterSnapshot F × ResourceVector F) (action : Action F) :
    Except Err (ClusterSnapshot F × ResourceVector F) :=
  match before.bind (fun before => findAllocation before.allocations action.targetId) with
  | none => .error (allocationMissing action.targetId)
  | some previous => match findAllocation state.1.allocations action.targetId with
    | none => .error (allocationMissing action.targetId)
    | some _ =>
      .ok (setAllocation action.targetId (fun mutable =>
          { mutable with state := previous.state, intentVersion := previous.intentVersion }) state.1,
        if target ∈ previous.deviceIds then addReleased state.2 previous.resources else state.2)

def abortPreemptionReplacement [Platform F] [DecidableEq F] (working : ClusterSnapshot F)
    (parts : PreemptionParts F) (reservation : PlanReservation F) : Except Err (ClusterSnapshot F) :=
  match parts.releaseActions.foldlM (restoreVictim reservation.beforeSnapshot parts.target) (working,.empty) with
  | .error err => .error err
  | .ok (restored,releasedOnTarget) =>
    let extraConsumption := positiveResourceDelta parts.resources releasedOnTarget
    match reverseDeviceResourceDelta restored parts.replacement.deviceIds extraConsumption .empty with
    | .error err => .error err
    | .ok reversed =>
      .ok (restorePendingUnitsFromReservation
        (removeAllocationsByID reversed [allocationID F parts.replacement.bindingId]) reservation.pendingUnits)

/-- Unlike `mutationResultConfirmsRestoration`, repeated results are accepted. -/
def preemptionResultsConfirmRestoration (plan : PlacementPlan F) (results : List (Option ActionResult)) : Bool :=
  !plan.actions.isEmpty && decide (results.length = plan.actions.length) && resultsNamed results &&
    actionsConfirmed plan (resultsByID results)

def preemptionOutcome [Platform F] [DecidableEq F] (plan : PlacementPlan F) (reservation : PlanReservation F)
    (succeeded : Bool) (results : List (Option ActionResult)) : MutationFinalizationOutcome :=
  if succeeded then match preemptionPlanParts plan with
    | .error _ => ⟨false,sortedStrings (successfulMutationRetainedIDs plan reservation)⟩
    | .ok parts => ⟨false,[allocationID F parts.replacement.bindingId]⟩
  else if preemptionResultsConfirmRestoration plan results then ⟨true,[]⟩
  else ⟨false,sortedStrings reservation.allocationIDs⟩

/-- `finalizePreemptionPlanResultsLocked`: the Store and the names retained. -/
def finalizePreemptionPlanResults [Platform F] [DecidableEq F] (s : Store F) (plan : PlacementPlan F)
    (reservation : PlanReservation F) (succeeded : Bool) (results : List (Option ActionResult)) (now : Int) :
    Except Err (Store F × List String) :=
  match preemptionPlanParts plan with
  | .error err => .error err
  | .ok parts =>
    let outcome := preemptionOutcome plan reservation succeeded results
    if reservation.finalized then
      if reservation.succeeded ≠ succeeded ∨ reservation.retainedAllocationIDs ≠ outcome.retainedIDs then
        .error (.wrap .planAlreadyReserved
          ("plan " ++ quote plan.planId ++ " finalized with different outcome"))
      else .ok (s,outcome.retainedIDs)
    else
      let finished : Except Err (ClusterSnapshot F) :=
        if succeeded then commitPreemptionReplacement s.snapshot parts
        else if outcome.restore then abortPreemptionReplacement s.snapshot parts reservation
        else .ok (markAllocationsFailed s.snapshot outcome.retainedIDs)
      match finished with
      | .error err => .error err
      | .ok working =>
        if s.snapshot.revision = maxUint64 ∧ working ≠ s.snapshot then .error (.of .revisionExhausted)
        else .ok (s.commitChanged working now,outcome.retainedIDs)

end TgsRl.Preemption
