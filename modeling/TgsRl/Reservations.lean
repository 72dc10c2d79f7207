import TgsRl.Preemption

/-!
Reservation and finalization of plans, as in `reservation.go`. An admission plan
takes pending units off the queue and capacity off the devices; finalization
keeps the allocations whose provider effect may remain and returns the others.
Plans of the other purposes go to `Mutations` and `Preemption`.
-/
namespace TgsRl.Reservations
open Resources Messages State Mutations Preemption

variable {F : Type}

def isLegacyBindOnlyPlan (plan : PlacementPlan F) : Bool :=
  !plan.actions.isEmpty && decide (plan.rollbackPolicy = .unknown) && plan.capabilityRequirements.isEmpty &&
    plan.affectedAllocationIds.isEmpty &&
    plan.actions.all (fun action => decide (action.actionType = .bind) && action.rollback.isNone)

def effectivePlanPurpose (plan : PlacementPlan F) : PlanPurpose :=
  if plan.purpose = .unknown ∧ isLegacyBindOnlyPlan plan = true then .admission else plan.purpose

def isMutationPurpose : PlanPurpose → Bool
  | .rebalance | .preemption | .recovery | .reconciliation => true
  | .unknown | .admission => false

def validatePlan (s : Store F) (plan : PlacementPlan F) (now : Int) : Except Err Unit :=
  let name := plan.executionId ++ "/" ++ plan.stageId
  if plan.snapshotRevision ≠ s.snapshot.revision then
    .error (.wrap .planRevisionConflict ("plan has " ++ toString plan.snapshotRevision ++ ", current revision is " ++
      toString s.snapshot.revision))
  else match s.intents.lookup ⟨plan.executionId,plan.stageId⟩ with
    | none => .error (.wrap .intentNotFound name)
    | some intent =>
      if asTime intent.validUntil ≤ now then
        .error (.wrap .intentExpired (name ++ " version " ++ toString intent.version))
      else if plan.intentVersion ≠ intent.version then
        .error (.wrap .planIntentConflict ("plan has " ++ toString plan.intentVersion ++
          ", current intent version is " ++ toString intent.version))
      else .ok ()

/-- The first action of the plan with the binding. -/
def actionIDForBinding (plan : PlacementPlan F) (bindingID : String) : String :=
  if bindingID = "" then ""
  else match plan.actions.find? (fun action =>
      decide ((action.binding.map Binding.bindingId).getD "" = bindingID)) with
    | none => ""
    | some action => action.actionId

/-- What the loop over the bindings of an admission plan carries. -/
structure AdmissionState (F : Type) where
  devices : List (Device F)
  pending : Map String (PendingUnit F)
  allocations : List (Allocation F)
  reservation : PlanReservation F
  seenUnits : List String
  seenAllocations : List String

def buildAdmissionAllocation [Platform F] (plan : PlacementPlan F) (binding : Binding F) (unit : PendingUnit F)
    (now : Int) : Allocation F where
  allocationId := allocationID F binding.bindingId
  executionId := plan.executionId
  stageId := plan.stageId
  intentVersion := plan.intentVersion
  jobId := unit.jobId
  pendingUnitId := unit.pendingUnitId
  deviceIds := binding.deviceIds
  resources := binding.resources
  state := .pending
  createdAt := some (Timestamp.new now)
  expiresAt := plan.expiresAt
  runId := firstNonEmpty plan.runId unit.runId
  traceId := firstNonEmpty plan.traceId unit.traceId
  dataKind := firstKnownDataKind plan.dataKind unit.dataKind
  generation := binding.generation
  runtimeUnitId := firstNonEmpty binding.runtimeUnitId unit.runtimeUnitId
  decisionId := plan.decisionId
  planId := plan.planId
  actionId := actionIDForBinding plan binding.bindingId
  priority := some unit.priority
  sandboxId := binding.sandboxId
  bindingId := binding.bindingId

/-- The pending unit a binding takes, which must be of the plan's intent and ask for the binding's resources. -/
def admissionUnit [DecidableEq F] (plan : PlacementPlan F) (state : AdmissionState F) (binding : Binding F) :
    Except Err (PendingUnit F) :=
  if binding.pendingUnitId ∈ state.seenUnits then
    .error (.wrap .invalidIntent ("pending unit " ++ quote binding.pendingUnitId ++ " is bound more than once"))
  else
    let missing : Except Err (PendingUnit F) := .error (.wrap .pendingUnitNotFound (quote binding.pendingUnitId))
    match state.pending.lookup binding.pendingUnitId with
    | none => missing
    | some unit =>
      if unit.executionId ≠ plan.executionId ∨ unit.stageId ≠ plan.stageId ∨
          unit.intentVersion ≠ plan.intentVersion then missing
      else if unit.requestedResources ≠ binding.resources then
        .error (.wrap .invalidIntent "binding resources differ from pending request")
      else .ok unit

/-- The device is ready and fits the resources. The map of devices holds the last device of a name. -/
def admissionDevice [Platform F] (state : AdmissionState F) (resources : ResourceVector F) (deviceID : String) :
    Except Err Unit :=
  let unavailable : Except Err Unit :=
    .error (.wrap .insufficientResource ("device " ++ quote deviceID ++ " is unavailable"))
  match findDevice state.devices.reverse deviceID with
  | none => unavailable
  | some device =>
    if device.health ≠ .ready then unavailable
    else if !resourcesFit resources device.allocatable then
      .error (.wrap .insufficientResource ("device " ++ quote device.deviceId))
    else .ok ()

def admitBinding [Platform F] [DecidableEq F] (plan : PlacementPlan F) (now : Int) (state : AdmissionState F)
    (binding : Binding F) : Except Err (AdmissionState F) :=
  let incomplete : Except Err (AdmissionState F) :=
    .error (.wrap .invalidIntent "each binding requires IDs, resources, and one logical device")
  if binding.bindingId = "" ∨ binding.pendingUnitId = "" then incomplete
  else match binding.resources,binding.deviceIds with
    | some resources,[deviceID] => match admissionUnit plan state binding with
      | .error err => .error err
      | .ok unit => match admissionDevice state resources deviceID with
        | .error err => .error err
        | .ok () =>
          let id := allocationID F binding.bindingId
          if id ∈ state.seenAllocations then
            .error (.wrap .invalidIntent ("duplicate binding_id " ++ quote binding.bindingId))
          else .ok {
            devices := (Keyed.modify Device.deviceId deviceID (consume resources) state.devices.reverse).reverse
            pending := state.pending.erase binding.pendingUnitId
            allocations := state.allocations ++ [buildAdmissionAllocation plan binding unit now]
            reservation := { state.reservation with
              pendingUnits := state.reservation.pendingUnits ++ [unit]
              allocationIDs := state.reservation.allocationIDs ++ [id] }
            seenUnits := binding.pendingUnitId :: state.seenUnits
            seenAllocations := id :: state.seenAllocations }
    | _,_ => incomplete

/-- The pending units by name; the last unit of a name counts. -/
def pendingByID (units : List (PendingUnit F)) : Map String (PendingUnit F) :=
  units.foldl (fun pending unit => pending.insert unit.pendingUnitId unit) ∅

def reserveAdmissionPlan [Platform F] [DecidableEq F] (s : Store F) (plan : PlacementPlan F) (now : Int) :
    Except Err (Store F) :=
  if plan.bindings = [] then .error (.wrap .invalidIntent "admission plans require bindings")
  else if s.snapshot.revision = maxUint64 then .error (.of .revisionExhausted)
  else
    let start : AdmissionState F :=
      ⟨s.snapshot.devices,pendingByID s.snapshot.pendingUnits,s.snapshot.allocations,
        newReservation plan s.snapshot,[],[]⟩
    match plan.bindings.foldlM (admitBinding plan now) start with
    | .error err => .error err
    | .ok admitted =>
      let working := { s.snapshot with
        devices := admitted.devices
        allocations := admitted.allocations
        pendingUnits := sortPendingUnits admitted.pending.values }
      .ok ((s.commitSnapshot working now).setReservation plan.planId admitted.reservation)

def reserveMutationPlan [Platform F] [DecidableEq F] (s : Store F) (plan : PlacementPlan F) (now : Int) :
    Except Err (Store F) :=
  if plan.purpose = .preemption then reservePreemptionPlan s plan now else reserveActionPlan s plan now

/-- The reservation of a plan whose name is not reserved yet. -/
def reserveNewPlan [Platform F] [DecidableEq F] (s : Store F) (plan : PlacementPlan F) (now : Int) :
    Except Err (Store F) :=
  match validatePlan s plan now with
  | .error err => .error err
  | .ok () =>
    if isMutationPurpose (effectivePlanPurpose plan) then reserveMutationPlan s plan now
    else reserveAdmissionPlan s plan now

/-- What `reservePlanLocked` returns: a repeated plan gets the snapshot together with an error. -/
structure Reserved (F : Type) where
  store : Store F
  snapshot : Option (ClusterSnapshot F)
  err : Option Err

def reservePlanLocked [Platform F] [DecidableEq F] (s : Store F) (plan : PlacementPlan F) (now : Int) : Reserved F :=
  match s.reservations.lookup plan.planId with
  | some existing =>
    if existing.plan = plan then ⟨s,some s.snapshot,some (.of .planAlreadyReserved)⟩
    else ⟨s,none,some (.wrap .planAlreadyReserved ("plan_id " ++ quote plan.planId ++ " has different content"))⟩
  | none => match reserveNewPlan s plan now with
    | .error err => ⟨s,none,some err⟩
    | .ok next => ⟨next,some next.snapshot,none⟩

def reservePlan [Platform F] [DecidableEq F] (s : Store F) (plan : PlacementPlan F) (now : Int) : Reserved F :=
  if plan.planId = "" then ⟨s,none,some (.wrap .invalidIntent "plan_id is required")⟩
  else reservePlanLocked s plan now

def bindingAllocationIDs [Platform F] (plan : PlacementPlan F) : List String :=
  plan.bindings.map (fun binding => allocationID F binding.bindingId)

/-- The actions that carry a named binding, with the name. -/
def boundActions (plan : PlacementPlan F) : List (Action F × String) :=
  plan.actions.filterMap (fun action => match action.binding with
    | none => none
    | some binding => if binding.bindingId = "" then none else some (action,binding.bindingId))

/-- The result does not exclude that its action still has an effect. -/
def mutationMayRemain (result : ActionResult) : Bool :=
  rollbackIncomplete result || (decide (result.status = .succeeded) && !result.rollbackAttempted)

def namedResults (results : List (Option ActionResult)) : List ActionResult :=
  results.filterMap (fun result => result.filter (fun result => decide (result.actionId ≠ "")))

/-- Results are missing, unnamed, repeated or foreign, or a binding has no action. -/
def malformedEvidence (plan : PlacementPlan F) (results : List (Option ActionResult)) : Bool :=
  let named := namedResults results
  let byAction := resultsByID (named.map some)
  decide (named.length ≠ results.length) || decide (¬ (named.map ActionResult.actionId).Nodup) ||
    named.any (fun result => !plan.actions.any (fun action => decide (action.actionId = result.actionId))) ||
    (boundActions plan).any (fun (action,_) => (byAction.lookup action.actionId).isNone) ||
    plan.bindings.any (fun binding => !((boundActions plan).map Prod.snd).contains binding.bindingId)

/-- The allocations of the actions whose result meets the test. -/
def allocationsWhere [Platform F] (plan : PlacementPlan F) (results : List (Option ActionResult))
    (test : ActionResult → Bool) : List String :=
  (boundActions plan).filterMap (fun (action,bindingID) =>
    match (resultsByID ((namedResults results).map some)).lookup action.actionId with
    | none => none
    | some result => if test result then some (allocationID F bindingID) else none)

/-- `retainedAllocations`: the names retained and, among them, the degraded ones. -/
def retainedAllocations [Platform F] (plan : PlacementPlan F) (succeeded : Bool)
    (results : List (Option ActionResult)) : List String × List String :=
  if succeeded ∨ results = [] then (bindingAllocationIDs plan,[])
  else
    let retained := allocationsWhere plan results mutationMayRemain
    (if malformedEvidence plan results then retained ++ bindingAllocationIDs plan else retained,
      allocationsWhere plan results rollbackIncomplete)

/-- The snapshot after an admission plan: what is not retained returns to its devices and to the queue. -/
def settleAdmission [Platform F] (snapshot : ClusterSnapshot F) (reservation : PlanReservation F)
    (retained degraded : List String) (succeeded : Bool) : ClusterSnapshot F :=
  let reserved (allocation : Allocation F) : Bool := reservation.allocationIDs.contains allocation.allocationId
  let released := releaseWhere (fun allocation => reserved allocation && !retained.contains allocation.allocationId)
    snapshot
  let settled := { released with allocations := released.allocations.map (fun allocation =>
    if !reserved allocation then allocation
    else if degraded.contains allocation.allocationId then { allocation with state := .failed }
    else { allocation with state := .active }) }
  if succeeded then settled
  else
    let retainedPending := (reservation.plan.bindings.filter (fun binding =>
      retained.contains (allocationID F binding.bindingId))).map Binding.pendingUnitId
    { settled with pendingUnits := sortPendingUnits (settled.pendingUnits ++
        reservation.pendingUnits.filter (fun unit => !retainedPending.contains unit.pendingUnitId)) }

def closeReservation (reservation : PlanReservation F) (succeeded : Bool) (retainedIDs : List String) :
    PlanReservation F :=
  { reservation with finalized := true, succeeded, retainedAllocationIDs := retainedIDs }

/-- The error of a finalization that contradicts an earlier one. -/
def finalizedDifferently (plan : PlacementPlan F) : Err :=
  .wrap .planAlreadyReserved ("plan " ++ quote plan.planId ++ " finalized with different outcome")

def finalizeAdmissionPlanResults [Platform F] (s : Store F) (plan : PlacementPlan F)
    (reservation : PlanReservation F) (succeeded : Bool) (results : List (Option ActionResult)) (now : Int) :
    Except Err (Store F) :=
  let (retained,degraded) := retainedAllocations plan succeeded results
  let retainedIDs := sortedSetValues retained
  if reservation.finalized then
    if reservation.succeeded ≠ succeeded ∨ reservation.retainedAllocationIDs ≠ retainedIDs then
      .error (finalizedDifferently plan)
    else .ok s
  else if s.snapshot.revision = maxUint64 then .error (.of .revisionExhausted)
  else .ok ((s.commitSnapshot (settleAdmission s.snapshot reservation retained degraded succeeded) now).setReservation
    plan.planId (closeReservation reservation succeeded retainedIDs))

def finalizePlanResults [Platform F] [DecidableEq F] (s : Store F) (plan : PlacementPlan F) (succeeded : Bool)
    (results : List (Option ActionResult)) (now : Int) : Except Err (Store F) :=
  let notReserved : Except Err (Store F) := .error (.wrap .planNotReserved (quote plan.planId))
  match s.reservations.lookup plan.planId with
  | none => notReserved
  | some reservation =>
    if reservation.plan ≠ plan then notReserved
    else if effectivePlanPurpose plan = .preemption then
      match finalizePreemptionPlanResults s plan reservation succeeded results now with
      | .error err => .error err
      | .ok (next,retainedIDs) =>
        .ok (next.setReservation plan.planId (closeReservation reservation succeeded retainedIDs))
    else if isMutationPurpose (effectivePlanPurpose plan) then
      if reservation.finalized then
        if reservation.succeeded ≠ succeeded ∨
            reservation.retainedAllocationIDs ≠ (mutationOutcome plan reservation succeeded results).retainedIDs then
          .error (finalizedDifferently plan)
        else .ok s
      else match finalizeMutationPlanResults s plan reservation succeeded results now with
        | .error err => .error err
        | .ok (next,retainedIDs) =>
          .ok (next.setReservation plan.planId (closeReservation reservation succeeded retainedIDs))
    else finalizeAdmissionPlanResults s plan reservation succeeded results now

end TgsRl.Reservations
