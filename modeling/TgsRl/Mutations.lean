import TgsRl.Loops
import TgsRl.State

/-!
Reservation and finalization of mutation plans, as in `mutation_reservation.go`:
lifecycle actions, release, resize, rebind and recreate. A reservation works on
a private copy of the snapshot and on the reservation under construction; the
Store commits both only when every check has passed.
-/
namespace TgsRl.Mutations
open Resources Messages State Loops

variable {F : Type}

/-- What a reservation builds: the working snapshot and the reservation. -/
abbrev Draft (F : Type) := ClusterSnapshot F × PlanReservation F

def reservable (state : AllocationState) : Bool :=
  decide (state = .active) || decide (state = .pending) || decide (state = .releasing)

def affectedAllocationsByID (allocations : List (Allocation F)) (ids : List String) :
    Except Err (Map String (Allocation F)) :=
  if ids = [] then .error (.wrap .invalidIntent "affected_allocation_ids are required")
  else ids.foldlM (fun items id => match findAllocation allocations id with
    | none => .error (.wrap .pendingUnitNotFound ("affected allocation " ++ quote id))
    | some allocation =>
      if reservable allocation.state then .ok (items.insert id allocation)
      else .error (.wrap .invalidIntent ("allocation " ++ quote id ++ " is not reservable"))) ∅

/-- The plan other than `planID` whose unfinalized reservation holds the allocation. -/
def lockHolder (reservations : Map String (PlanReservation F)) (planID allocationID : String) : Option String :=
  (reservations.pairs.find? (fun (existingPlanID,reservation) => decide (existingPlanID ≠ planID) &&
    !reservation.finalized && reservation.allocationIDs.contains allocationID)).map Prod.fst

def ensureMutationTargetsUnlocked (reservations : Map String (PlanReservation F)) (planID : String)
    (affected : List String) : Except Err Unit :=
  checkEach (fun allocationID => match lockHolder reservations planID allocationID with
    | none => .ok ()
    | some holder => .error (.wrap .planAlreadyReserved
        ("target " ++ quote allocationID ++ " already reserved by " ++ holder))) affected

/-- The affected allocation with the action's target name. -/
def namedAffectedAllocation (action : Action F) (affected : Map String (Allocation F)) :
    Except Err (Allocation F) :=
  match affected.lookup action.targetId with
  | none => .error (.wrap .pendingUnitNotFound ("target allocation " ++ quote action.targetId))
  | some allocation => .ok allocation

def singleAffectedAllocation (action : Action F) (affected : Map String (Allocation F)) :
    Except Err (Allocation F) :=
  match affected.values with
  | [only] => if action.targetId = "" then .ok only else namedAffectedAllocation action affected
  | _ => namedAffectedAllocation action affected

/-- The single target of an action, which must be active. -/
def activeTarget (action : Action F) (affected : Map String (Allocation F)) : Except Err (Allocation F) :=
  match singleAffectedAllocation action affected with
  | .error err => .error err
  | .ok allocation =>
    if allocation.state ≠ .active then
      .error (.wrap .invalidIntent ("allocation " ++ quote allocation.allocationId ++ " is not active"))
    else .ok allocation

def rememberDeviceAllocatable (reservation : PlanReservation F) (deviceIDs : List String) : PlanReservation F :=
  match reservation.beforeSnapshot with
  | none => reservation
  | some before =>
    { reservation with deviceAllocatable := deviceIDs.foldl (fun remembered deviceID =>
        if deviceID ∈ remembered then remembered
        else match findDevice before.devices deviceID with
          | none => remembered
          | some device => remembered.insert deviceID device.allocatable) reservation.deviceAllocatable }

/-- Names appended to the allocations of a reservation. -/
def reserveIDs (reservation : PlanReservation F) (ids : List String) : PlanReservation F :=
  { reservation with allocationIDs := reservation.allocationIDs ++ ids }

def reserveReleaseAction (working : ClusterSnapshot F) (plan : PlacementPlan F) (action : Action F)
    (affected : Map String (Allocation F)) (reservation : PlanReservation F) : Except Err (Draft F) :=
  match activeTarget action affected with
  | .error err => .error err
  | .ok allocation => match findAllocation working.allocations allocation.allocationId with
    | none => .error (allocationMissing allocation.allocationId)
    | some _ =>
      let reserved := reserveIDs reservation [allocation.allocationId]
      .ok (setAllocation allocation.allocationId (fun mutable => { mutable with state := .releasing }) working,
        if plan.purpose = .reconciliation then
          { reserved with
            retainedAllocationIDs := reserved.retainedAllocationIDs ++ [allocation.allocationId] }
        else reserved)

def reserveLifecycleOnlyAction (working : ClusterSnapshot F) (action : Action F)
    (affected : Map String (Allocation F)) (reservation : PlanReservation F) : Except Err (Draft F) :=
  match activeTarget action affected with
  | .error err => .error err
  | .ok allocation => .ok (working,reserveIDs reservation [allocation.allocationId])

/-- The device exists and has the resources to spare. -/
def checkFits [Platform F] (working : ClusterSnapshot F) (resources : ResourceVector F) (deviceID : String) :
    Except Err Unit :=
  match findDevice working.devices deviceID with
  | none => .error (.wrap .insufficientResource ("device " ++ quote deviceID ++ " is unavailable"))
  | some device =>
    if !resourcesFit resources device.allocatable then
      .error (.wrap .insufficientResource ("device " ++ quote deviceID))
    else .ok ()

/-- The same for a device that must also be ready. -/
def checkReadyFits [Platform F] (working : ClusterSnapshot F) (resources : ResourceVector F) (deviceID : String) :
    Except Err Unit :=
  match findDevice working.devices deviceID with
  | none => .error (.wrap .insufficientResource ("device " ++ quote deviceID ++ " is unavailable"))
  | some device =>
    if device.health ≠ .ready then
      .error (.wrap .insufficientResource ("device " ++ quote deviceID ++ " is unavailable"))
    else if !resourcesFit resources device.allocatable then
      .error (.wrap .insufficientResource ("device " ++ quote deviceID))
    else .ok ()

def reserveResizeAction [Platform F] [DecidableEq F] (working : ClusterSnapshot F) (plan : PlacementPlan F)
    (action : Action F) (affected : Map String (Allocation F)) (reservation : PlanReservation F) :
    Except Err (Draft F) :=
  match activeTarget action affected with
  | .error err => .error err
  | .ok allocation => match action.binding.bind Binding.resources with
    | none => .error (.wrap .invalidIntent "resize action requires binding resources")
    | some target => match allocation.resources with
      | none => .error (.wrap .invalidIntent ("allocation " ++ quote allocation.allocationId ++ " has no resources"))
      | some current => match findAllocation working.allocations allocation.allocationId with
        | none => .error (allocationMissing allocation.allocationId)
        | some mutable =>
          if target = current then .ok (working,reserveIDs reservation [allocation.allocationId])
          else
            let consumed := positiveResourceDelta target current
            let returned := positiveResourceDelta current target
            match checkEach (checkFits working consumed) mutable.deviceIds with
            | .error err => .error err
            | .ok () =>
              .ok (setAllocation allocation.allocationId
                  (fun mutable => { mutable with resources := some target, intentVersion := plan.intentVersion })
                  (setDevices mutable.deviceIds (fun device => giveBack returned (consume consumed device)) working),
                reserveIDs (rememberDeviceAllocatable reservation allocation.deviceIds) [allocation.allocationId])

def buildReplacementAllocation (plan : PlacementPlan F) (action : Action F) (source : Allocation F)
    (binding : Binding F) (allocationID : String) (nowTimestamp : Int) (recreate : Bool) : Allocation F where
  allocationId := allocationID
  executionId := source.executionId
  stageId := source.stageId
  intentVersion := plan.intentVersion
  jobId := source.jobId
  pendingUnitId := source.pendingUnitId
  deviceIds := binding.deviceIds
  resources := binding.resources
  state := .pending
  createdAt := some (Timestamp.new nowTimestamp)
  expiresAt := plan.expiresAt
  runId := source.runId
  traceId := source.traceId
  dataKind := source.dataKind
  generation := binding.generation
  runtimeUnitId := if recreate then binding.runtimeUnitId else source.runtimeUnitId
  decisionId := plan.decisionId
  planId := plan.planId
  actionId := action.actionId
  priority := source.priority
  sandboxId := binding.sandboxId
  bindingId := binding.bindingId

/-- The replacement put beside its source, once the devices have been settled. -/
def addReplacement [Platform F] (working : ClusterSnapshot F) (plan : PlacementPlan F) (action : Action F)
    (allocation : Allocation F) (binding : Binding F) (reservation : PlanReservation F) (nowTimestamp : Int)
    (sameDevice : Bool) : Except Err (Draft F) :=
  let newAllocationID := allocationID F binding.bindingId
  match findAllocation working.allocations newAllocationID with
  | some _ => .error (.wrap .invalidIntent ("duplicate binding_id " ++ quote binding.bindingId))
  | none =>
    .ok ({ working with allocations := working.allocations ++
            [buildReplacementAllocation plan action allocation binding newAllocationID nowTimestamp sameDevice] },
      reserveIDs reservation [allocation.allocationId,newAllocationID])

def reserveReplacementAction [Platform F] [DecidableEq F] (working : ClusterSnapshot F) (plan : PlacementPlan F)
    (action : Action F) (affected : Map String (Allocation F)) (reservation : PlanReservation F) (nowTimestamp : Int)
    (sameDevice : Bool) : Except Err (Draft F) :=
  let incomplete : Except Err (Draft F) :=
    .error (.wrap .invalidIntent (action.actionType.name ++ " action requires binding target devices/resources"))
  match activeTarget action affected with
  | .error err => .error err
  | .ok allocation => match action.binding with
    | none => incomplete
    | some binding => match binding.resources with
      | none => incomplete
      | some resources =>
        if binding.deviceIds = [] then incomplete
        else if binding.resources ≠ allocation.resources then
          .error (.wrap .invalidIntent
            (action.actionType.name ++ " must reserve full existing allocation resources"))
        else
          let remembered := rememberDeviceAllocatable
            (rememberDeviceAllocatable reservation allocation.deviceIds) binding.deviceIds
          if sameDevice then
            if binding.deviceIds ≠ allocation.deviceIds then
              .error (.wrap .invalidIntent "recreate must target the existing device set")
            else addReplacement working plan action allocation binding remembered nowTimestamp true
          else match checkEach (checkReadyFits working resources) binding.deviceIds with
            | .error err => .error err
            | .ok () => addReplacement (setDevices binding.deviceIds (consume resources) working) plan action
                allocation binding remembered nowTimestamp false

def reserveRebindAction [Platform F] [DecidableEq F] (working : ClusterSnapshot F) (plan : PlacementPlan F)
    (action : Action F) (affected : Map String (Allocation F)) (reservation : PlanReservation F)
    (nowTimestamp : Int) : Except Err (Draft F) :=
  reserveReplacementAction working plan action affected reservation nowTimestamp false

def reserveRecreateAction [Platform F] [DecidableEq F] (working : ClusterSnapshot F) (plan : PlacementPlan F)
    (action : Action F) (affected : Map String (Allocation F)) (reservation : PlanReservation F)
    (nowTimestamp : Int) : Except Err (Draft F) :=
  reserveReplacementAction working plan action affected reservation nowTimestamp true

/-- The actions that change no allocation of the snapshot. -/
def mergeableLifecycleAction : ActionType → Bool
  | .setShare | .setPriority | .pause | .resume | .sleep | .offload => true
  | _ => false

def applyMutationReservation [Platform F] [DecidableEq F] (working : ClusterSnapshot F) (plan : PlacementPlan F)
    (action : Action F) (affected : Map String (Allocation F)) (reservation : PlanReservation F)
    (nowTimestamp : Int) : Except Err (Draft F) :=
  match action.actionType with
  | .release => reserveReleaseAction working plan action affected reservation
  | .pause | .resume | .sleep | .offload | .setShare | .setPriority =>
    reserveLifecycleOnlyAction working action affected reservation
  | .resize => reserveResizeAction working plan action affected reservation
  | .rebind => reserveRebindAction working plan action affected reservation nowTimestamp
  | .recreate => reserveRecreateAction working plan action affected reservation nowTimestamp
  | .unknown | .bind =>
    .error (.wrap .invalidIntent ("unsupported mutation action " ++ action.actionType.name))

def compatibleLifecycleMutations (left right : ActionType) : Bool :=
  decide (left = .setShare ∧ right = .setPriority) || decide (left = .setPriority ∧ right = .setShare)

/-- One action of a lifecycle plan: the mutations seen so far on each allocation, with this one added. -/
def lifecycleStep (affected : Map String (Allocation F)) (mutationsByAllocation : Map String (List ActionType))
    (action : Action F) : Except Err (Map String (List ActionType)) :=
  if !mergeableLifecycleAction action.actionType then
    .error (.wrap .invalidIntent ("multi-action mutation contains exclusive action " ++ action.actionType.name))
  else match singleAffectedAllocation action affected with
    | .error err => .error err
    | .ok allocation =>
      let existing := (mutationsByAllocation.lookup allocation.allocationId).getD []
      if existing.all (fun earlier => compatibleLifecycleMutations earlier action.actionType) then
        .ok (mutationsByAllocation.insert allocation.allocationId (existing ++ [action.actionType]))
      else .error (.wrap .invalidIntent
        ("conflicting mutation for allocation " ++ quote allocation.allocationId))

def newReservation (plan : PlacementPlan F) (before : ClusterSnapshot F) : PlanReservation F where
  plan := plan
  beforeSnapshot := some before
  deviceAllocatable := ∅
  pendingUnits := []
  allocationIDs := []
  finalized := false
  succeeded := false
  retainedAllocationIDs := []

/-- A lifecycle plan of several actions reserves its targets and changes nothing else. -/
def reserveLifecyclePlan (s : Store F) (plan : PlacementPlan F) : Except Err (Store F) :=
  match affectedAllocationsByID s.snapshot.allocations plan.affectedAllocationIds with
  | .error err => .error err
  | .ok affected => match ensureMutationTargetsUnlocked s.reservations plan.planId plan.affectedAllocationIds with
    | .error err => .error err
    | .ok () => match plan.actions.foldlM (lifecycleStep affected) ∅ with
      | .error err => .error err
      | .ok mutationsByAllocation =>
        .ok (s.setReservation plan.planId (reserveIDs (newReservation plan s.snapshot)
          (sortedStrings (mutationsByAllocation.pairs.map Prod.fst))))

/-- `reserveMutationPlanLocked` for every purpose but preemption. -/
def reserveActionPlan [Platform F] [DecidableEq F] (s : Store F) (plan : PlacementPlan F) (now : Int) :
    Except Err (Store F) :=
  match plan.actions with
  | [] => .error (.wrap .invalidIntent "mutation plans require at least one action")
  | _ :: _ :: _ => reserveLifecyclePlan s plan
  | [action] =>
    if action.actionId = "" then .error (.wrap .invalidIntent "mutation action is required")
    else match affectedAllocationsByID s.snapshot.allocations plan.affectedAllocationIds with
      | .error err => .error err
      | .ok affected =>
        match ensureMutationTargetsUnlocked s.reservations plan.planId plan.affectedAllocationIds with
        | .error err => .error err
        | .ok () =>
          if s.snapshot.revision = maxUint64 then .error (.of .revisionExhausted)
          else match applyMutationReservation s.snapshot plan action affected (newReservation plan s.snapshot) now with
            | .error err => .error err
            | .ok (working,reservation) =>
              .ok ((s.commitChanged working now).setReservation plan.planId reservation)

/-- `reverseDeviceResourceDelta`: what prepare consumed comes back, what it returned is taken again. -/
def reverseDeviceResourceDelta [Platform F] (working : ClusterSnapshot F) (deviceIDs : List String)
    (preparedConsumption preparedReturn : ResourceVector F) : Except Err (ClusterSnapshot F) :=
  match checkEach (fun deviceID => match findDevice working.devices deviceID with
    | none => .error (.wrap .insufficientResource ("rollback device " ++ quote deviceID ++ " is unavailable"))
    | some device =>
      if !resourcesFit preparedReturn device.allocatable then
        .error (.wrap .insufficientResource ("rollback delta on device " ++ quote deviceID))
      else .ok ()) deviceIDs with
  | .error err => .error err
  | .ok () =>
    .ok (setDevices deviceIDs (fun device => giveBack preparedConsumption (consume preparedReturn device)) working)

def restorePendingUnitsFromReservation (working : ClusterSnapshot F) (units : List (PendingUnit F)) :
    ClusterSnapshot F :=
  if units = [] then working
  else
    let existing := working.pendingUnits.map PendingUnit.pendingUnitId
    { working with pendingUnits := sortPendingUnits (working.pendingUnits ++
        units.filter (fun unit => !existing.contains unit.pendingUnitId)) }

def rollbackTarget (action : Action F) (reservation : PlanReservation F) : String :=
  match reservation.allocationIDs with
  | first :: _ => if action.targetId = "" then first else action.targetId
  | [] => action.targetId

/-- The rollback of a single action on the allocations and devices of the snapshot. -/
def restoreAction [Platform F] (working before : ClusterSnapshot F) (action : Action F)
    (reservation : PlanReservation F) : Except Err (ClusterSnapshot F) :=
  let targetID := rollbackTarget action reservation
  -- The before-image is indexed by name, so the last allocation of a name stands for it.
  let previous := findAllocation before.allocations.reverse targetID
  let current := findAllocation working.allocations targetID
  match action.actionType with
  | .release => match previous,current with
    | some previous,some _ => .ok (setAllocation targetID (fun mutable => { mutable with state := previous.state }) working)
    | _,_ => .error (.wrap .planNotReserved ("release target " ++ quote targetID ++ " is unavailable for rollback"))
  | .resize => match previous,current with
    | some previous,some _ =>
      let target := orEmpty (action.binding.bind Binding.resources)
      match reverseDeviceResourceDelta working previous.deviceIds
          (positiveResourceDelta target (orEmpty previous.resources))
          (positiveResourceDelta (orEmpty previous.resources) target) with
      | .error err => .error err
      | .ok reversed => .ok (setAllocation targetID (fun mutable =>
          { mutable with resources := previous.resources, intentVersion := previous.intentVersion }) reversed)
    | _,_ => .error (.wrap .planNotReserved ("resize target " ++ quote targetID ++ " is unavailable for rollback"))
  | .rebind =>
    match reverseDeviceResourceDelta working ((action.binding.map Binding.deviceIds).getD [])
        (orEmpty (action.binding.bind Binding.resources)) .empty with
    | .error err => .error err
    | .ok reversed => .ok (removeAllocationsByID reversed reservation.allocationIDs.tail)
  | .recreate => .ok (removeAllocationsByID working reservation.allocationIDs.tail)
  | .pause | .resume | .sleep | .offload | .setShare | .setPriority => .ok working
  | .unknown | .bind =>
    .error (.wrap .invalidIntent ("unsupported mutation rollback " ++ action.actionType.name))

def restoreMutationStateFromBeforeImage [Platform F] [DecidableEq F] (working : ClusterSnapshot F)
    (plan : PlacementPlan F) (reservation : PlanReservation F) : Except Err (ClusterSnapshot F) :=
  match plan.actions with
  | [] => .error (.wrap .planNotReserved "mutation reservation is incomplete")
  | first :: later => match reservation.beforeSnapshot with
    | none => .error (.wrap .planNotReserved "mutation reservation has no before-image")
    | some before =>
      if later = [] then match restoreAction working before first reservation with
        | .error err => .error err
        | .ok restored => .ok (restorePendingUnitsFromReservation restored reservation.pendingUnits)
      else match plan.actions.find? (fun action => !mergeableLifecycleAction action.actionType) with
        | some action => .error (.wrap .invalidIntent
            ("multi-action mutation contains exclusive action " ++ action.actionType.name))
        | none => .ok working

/-- The names `successfulMutationRetainedIDs` keeps. The source reads the first action, which every
    accepted mutation plan has. -/
def successfulMutationRetainedIDs (plan : PlacementPlan F) (reservation : PlanReservation F) : List String :=
  match plan.actions.head?.map Action.actionType with
  | some .release => []
  | some .rebind | some .recreate => match reservation.allocationIDs with
    | [_,replacement] => [replacement]
    | ids => ids
  | _ => reservation.allocationIDs

/-- The action was sent back but its rollback is not confirmed. -/
def rollbackIncomplete (result : ActionResult) : Bool :=
  result.rollbackAttempted && decide (result.rollbackStatus ≠ .rolledBack)

def failedMutationRetainedIDs (plan : PlacementPlan F) (reservation : PlanReservation F)
    (results : List (Option ActionResult)) : List String × Bool :=
  match plan.actions with
  | [] => ([],false)
  | action :: _ => match results with
    | [some result] =>
      if result.actionId ≠ action.actionId then (reservation.allocationIDs,true)
      else if !(rollbackIncomplete result || (!result.rollbackAttempted && decide (result.status ≠ .failed) &&
          decide (result.status ≠ .skipped) && decide (result.status ≠ .rolledBack))) then ([],false)
      else if rollbackIncomplete result then (reservation.allocationIDs,true)
      else match action.actionType,reservation.allocationIDs with
        | .rebind,[_,replacement] | .recreate,[_,replacement] => ([replacement],false)
        | _,ids => (ids,false)
    | _ => (reservation.allocationIDs,true)

/-- The result says that its action left nothing behind. -/
def resultConfirmsRestoration (result : ActionResult) : Bool :=
  if result.rollbackAttempted then decide (result.rollbackStatus = .rolledBack)
  else decide (result.status = .failed) || decide (result.status = .skipped) || decide (result.status = .rolledBack)

/-- The results by the action they name; the last result of an action counts. -/
def resultsByID (results : List (Option ActionResult)) : Map String ActionResult :=
  results.foldl (fun byID result => match result with
    | none => byID
    | some result => byID.insert result.actionId result) ∅

def resultsNamed (results : List (Option ActionResult)) : Bool :=
  results.all (fun result => match result with
    | none => false
    | some result => decide (result.actionId ≠ ""))

/-- Every action of the plan has a result that confirms its restoration. -/
def actionsConfirmed (plan : PlacementPlan F) (byID : Map String ActionResult) : Bool :=
  plan.actions.all (fun action => match byID.lookup action.actionId with
    | none => false
    | some result => resultConfirmsRestoration result)

def mutationResultConfirmsRestoration (plan : PlacementPlan F) (results : List (Option ActionResult)) : Bool :=
  !plan.actions.isEmpty && decide (results.length = plan.actions.length) && resultsNamed results &&
    decide ((results.map (fun result => result.map ActionResult.actionId)).Nodup) &&
    actionsConfirmed plan (resultsByID results)

structure MutationFinalizationOutcome where
  restore : Bool
  retainedIDs : List String
  deriving DecidableEq, Repr

def mutationOutcome (plan : PlacementPlan F) (reservation : PlanReservation F) (succeeded : Bool)
    (results : List (Option ActionResult)) : MutationFinalizationOutcome :=
  if succeeded then ⟨false,sortedStrings (successfulMutationRetainedIDs plan reservation)⟩
  else if mutationResultConfirmsRestoration plan results then ⟨true,[]⟩
  else ⟨false,sortedStrings (failedMutationRetainedIDs plan reservation results).1⟩

/-- The first allocation of each name gets the state. -/
def setStates (state : AllocationState) (allocationIDs : List String) (working : ClusterSnapshot F) :
    ClusterSnapshot F :=
  { working with
    allocations := Keyed.modifyAll Allocation.allocationId allocationIDs (fun allocation => { allocation with state })
      working.allocations }

def markAllocationsFailed (working : ClusterSnapshot F) (allocationIDs : List String) : ClusterSnapshot F :=
  setStates .failed allocationIDs working

/-- The resources of the allocation of each name, where it still exists, returned to its devices. -/
def returnAllocationsByID [Platform F] (working : ClusterSnapshot F) (allocationIDs : List String) :
    ClusterSnapshot F :=
  allocationIDs.foldl (fun working allocationID => match findAllocation working.allocations allocationID with
    | none => working
    | some allocation => returnAllocation allocation working) working

/-- The snapshot after a single action succeeded. -/
def commitMutation [Platform F] (working : ClusterSnapshot F) (actionType : ActionType)
    (reservation : PlanReservation F) : ClusterSnapshot F :=
  match actionType,reservation.allocationIDs with
  | .release,ids => removeAllocationsByID (returnAllocationsByID working ids) ids
  | .rebind,sourceID :: targetID :: _ =>
    setStates .active [targetID] (removeAllocationsByID (returnAllocationsByID working [sourceID]) [sourceID])
  | .rebind,_ => working
  | .recreate,sourceID :: targetID :: _ => setStates .active [targetID] (removeAllocationsByID working [sourceID])
  | .recreate,_ => working
  | _,ids => setStates .active ids working

/-- `finalizeMutationPlanResultsLocked`: the Store and the names retained. -/
def finalizeMutationPlanResults [Platform F] [DecidableEq F] (s : Store F) (plan : PlacementPlan F)
    (reservation : PlanReservation F) (succeeded : Bool) (results : List (Option ActionResult)) (now : Int) :
    Except Err (Store F × List String) :=
  match plan.actions with
  | [] => .error (.wrap .planNotReserved "mutation reservation is incomplete")
  | action :: _ =>
    let outcome := mutationOutcome plan reservation succeeded results
    let finished : Except Err (ClusterSnapshot F) :=
      if succeeded then .ok (commitMutation s.snapshot action.actionType reservation)
      else if outcome.restore then restoreMutationStateFromBeforeImage s.snapshot plan reservation
      else .ok (markAllocationsFailed s.snapshot outcome.retainedIDs)
    match finished with
    | .error err => .error err
    | .ok working =>
      if s.snapshot.revision = maxUint64 ∧ working ≠ s.snapshot then .error (.of .revisionExhausted)
      else .ok (s.commitChanged working now,outcome.retainedIDs)

end TgsRl.Mutations
