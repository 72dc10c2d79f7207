import TgsRl.State

/-!
Publication of scheduling intents, as in `intent.go`. `preparePublishIntent` validates an intent
against the current Store and stages a full copy of the durable state, which
`PreparedIntentPublication.commit` later puts in place; `publishIntent` does both at once, and
`retireExpiredIntent` takes an expired intent out again.
-/
namespace TgsRl.Intents
open Resources Messages State

variable {F : Type}

def addTimestampAndDuration (timestamp : Timestamp) (seconds nanos : Int) : Timestamp :=
  if timestamp.nanos + nanos ≥ 1000000000 then
    ⟨timestamp.seconds + seconds + 1,timestamp.nanos + nanos - 1000000000⟩
  else ⟨timestamp.seconds + seconds,timestamp.nanos + nanos⟩

/-- The times of an intent: `valid_until` is `submitted_at` plus `ttl`. -/
def validateIntentTimes (intent : SchedulingIntent F) : Except Err Unit :=
  match intent.submittedAt with
  | none => .error (.wrap .invalidIntent "submitted_at is required")
  | some submittedAt =>
    if !submittedAt.valid then .error (.wrap .invalidIntent "invalid submitted_at")
    else match intent.ttl with
      | none => .error (.wrap .invalidIntent "ttl is required")
      | some ttl =>
        if !ttl.valid then .error (.wrap .invalidIntent "invalid ttl")
        else if ttl.asDuration ≤ 0 then .error (.wrap .invalidIntent "ttl must be positive")
        else match intent.validUntil with
          | none => .error (.wrap .invalidIntent "valid_until is required")
          | some validUntil =>
            if !validUntil.valid then .error (.wrap .invalidIntent "invalid valid_until")
            else if !(addTimestampAndDuration submittedAt ttl.seconds ttl.nanos).valid then
              .error (.wrap .invalidIntent "submitted_at + ttl is invalid")
            else if validUntil ≠ addTimestampAndDuration submittedAt ttl.seconds ttl.nanos then
              .error (.wrap .invalidIntent "valid_until must equal submitted_at + ttl")
            else .ok ()

def validateIntentStructure [Platform F] [DecidableEq F] (intent : SchedulingIntent F) : Except Err Unit :=
  if intent.executionId = "" then .error (.wrap .invalidIntent "execution_id is required")
  else if intent.stageId = "" then .error (.wrap .invalidIntent "stage_id is required")
  else if intent.version = 0 then .error (.wrap .invalidIntent "version must be greater than zero")
  else if intent.idempotencyKey = "" then .error (.wrap .invalidIntent "idempotency_key is required")
  else if intent.jobId = "" then .error (.wrap .invalidIntent "job_id is required")
  else if intent.policyVersion = "" then .error (.wrap .invalidIntent "policy_version is required")
  else if intent.unitCount = 0 then .error (.wrap .invalidIntent "unit_count must be greater than zero")
  else match intent.resourcesPerUnit with
    | none => .error (.wrap .invalidIntent "resources_per_unit is required")
    | some resources =>
      if resources = .empty then .error (.wrap .invalidIntent "resources_per_unit must contain positive demand")
      else if !Platform.finite resources.acceleratorUnits || Platform.negative resources.acceleratorUnits then
        .error (.wrap .invalidIntent "accelerator_units must be finite and non-negative")
      else validateIntentTimes intent

/-- The allocation is live work of the intent's execution and stage. -/
def liveFor (intent : SchedulingIntent F) (allocation : Allocation F) : Bool :=
  decide (allocation.executionId = intent.executionId) && decide (allocation.stageId = intent.stageId) &&
    (decide (allocation.state = .pending) || decide (allocation.state = .active))

def liveAllocationCount (allocations : List (Allocation F)) (intent : SchedulingIntent F) : UInt32 :=
  UInt32.ofNat (allocations.countP (liveFor intent))

def pendingUnitID [Platform F] (intent : SchedulingIntent F) (index : Nat) : String :=
  stableID F "pending" [intent.executionId,intent.stageId,toString intent.version,toString index]

def newPendingUnit [Platform F] (intent : SchedulingIntent F) (queuedAt : Int) (index : Nat) : PendingUnit F where
  pendingUnitId := pendingUnitID intent index
  executionId := intent.executionId
  stageId := intent.stageId
  intentVersion := intent.version
  jobId := intent.jobId
  requestedResources := intent.resourcesPerUnit
  requiredCapabilities := intent.requiredCapabilities
  priority := intent.priority
  queuedAt := some (Timestamp.new queuedAt)
  attempt := 0
  runId := intent.runId
  traceId := intent.traceId
  dataKind := intent.dataKind
  runtimeUnitId := (intent.labels.lookup "runtime_unit_id").getD ""

def replacePendingUnits [Platform F] (existing : List (PendingUnit F)) (intent : SchedulingIntent F) (count : UInt32)
    (queuedAt : Int) : List (PendingUnit F) :=
  sortPendingUnits
    (existing.filter (fun unit => !(decide (unit.executionId = intent.executionId) &&
        decide (unit.stageId = intent.stageId))) ++
      (List.range count.toNat).map (newPendingUnit intent queuedAt))

def intentResponse (intent : SchedulingIntent F) (status : IntentPublishStatus) (detail : String) :
    PublishIntentResponse :=
  ⟨intent.executionId,intent.stageId,intent.version,status,detail⟩

/-- A publication that stages nothing: its response and its error. -/
abbrev Unpublished := PublishIntentResponse × Option Err

def rejected (intent : SchedulingIntent F) (err : Err) : Unpublished :=
  (intentResponse intent .rejected err.message,some err)

/-- A staged publication: the response and the state `Commit` installs. -/
structure PreparedIntentPublication (F : Type) where
  response : PublishIntentResponse
  staged : Store F

/-- The snapshot an accepted intent leads to. -/
def publishedSnapshot [Platform F] (snapshot : ClusterSnapshot F) (incoming : SchedulingIntent F) (now : Int) :
    ClusterSnapshot F :=
  -- Live allocations of the same execution and stage follow the intent's version.
  let allocations := snapshot.allocations.map (fun allocation =>
    if liveFor incoming allocation then { allocation with intentVersion := incoming.version } else allocation)
  let liveCount := liveAllocationCount allocations incoming
  let pendingCount := if liveCount < incoming.unitCount then incoming.unitCount - liveCount else 0
  { snapshot with
    allocations
    pendingUnits := replacePendingUnits snapshot.pendingUnits incoming pendingCount now
    revision := snapshot.revision + 1
    snapshotId := snapshotID (snapshot.revision + 1)
    observedAt := some (Timestamp.new now) }

/-- The checks an intent meets against the intents already accepted. -/
def checkPublication [DecidableEq F] (s : Store F) (incoming : SchedulingIntent F) : Except Unpublished Unit :=
  let previous := s.idempotencyKeys.lookup incoming.idempotencyKey
  let reused : Err :=
    .wrap .idempotencyConflict (quote incoming.idempotencyKey ++ " was reused with different content")
  let checkKey : Except Unpublished Unit := match previous with
    | none => .ok ()
    | some identity => .error (rejected incoming (.wrap .idempotencyConflict
        (quote incoming.idempotencyKey ++ " belongs to " ++ identity.key.executionID ++ "/" ++ identity.key.stageID ++
          " version " ++ toString identity.version ++ " with different content")))
  match s.intents.lookup ⟨incoming.executionId,incoming.stageId⟩ with
  | none => checkKey
  | some current =>
    if incoming.version < current.version then
      match previous with
      | some identity =>
        if incoming ≠ identity.intent then .error (rejected incoming reused)
        else .error (rejected incoming (.wrap .staleIntent ("version " ++ toString incoming.version ++
          " is older than current version " ++ toString current.version)))
      | none => .error (rejected incoming (.wrap .staleIntent ("version " ++ toString incoming.version ++
          " is older than current version " ++ toString current.version)))
    else if incoming.version = current.version then
      if incoming = current then
        .error (intentResponse incoming .deduplicated "identical intent already accepted",none)
      else match previous with
        | some _ => .error (rejected incoming reused)
        | none => .error (rejected incoming
            (.wrap .intentConflict ("version " ++ toString incoming.version ++ " is immutable")))
    else checkKey

def preparePublishIntent [Platform F] [DecidableEq F] (s : Store F) (incoming : SchedulingIntent F) (now : Int) :
    Except Unpublished (PreparedIntentPublication F) :=
  match validateIntentStructure incoming with
  | .error err => .error (rejected incoming err)
  | .ok () => match checkPublication s incoming with
    | .error unpublished => .error unpublished
    | .ok () =>
      if asTime incoming.validUntil ≤ now then
        .error (rejected incoming (.wrap .intentExpired
          ("valid_until " ++ Platform.formatTime F (asTime incoming.validUntil) ++ " is not in the future")))
      else if s.snapshot.revision = maxUint64 then .error (rejected incoming (.of .revisionExhausted))
      else
        let key : IntentKey := ⟨incoming.executionId,incoming.stageId⟩
        .ok { response := intentResponse incoming .accepted "intent accepted"
              staged := { s with
                intents := s.intents.insert key incoming
                idempotencyKeys := s.idempotencyKeys.insert incoming.idempotencyKey ⟨key,incoming.version,incoming⟩
                snapshot := publishedSnapshot s.snapshot incoming now } }

/-- `Commit`: the staged state replaces whatever the Store holds by now. -/
def PreparedIntentPublication.commit (p : PreparedIntentPublication F) (s : Store F) : Store F :=
  s.restoreDurableState p.staged

def publishIntent [Platform F] [DecidableEq F] (s : Store F) (intent : SchedulingIntent F) (now : Int) :
    Store F × PublishIntentResponse × Option Err :=
  match preparePublishIntent s intent now with
  | .ok prepared => (prepared.commit s,prepared.response,none)
  | .error (response,err) => (s,response,err)

/-- An expired intent and its pending units go once no live allocation of its execution and stage remains; its
    idempotency key stays reserved. -/
def retireExpiredIntent (s : Store F) (executionID stageID : String) (version : UInt64) (now : Int) : Store F × Bool :=
  match s.intents.lookup ⟨executionID,stageID⟩ with
  | none => (s,false)
  | some intent =>
    if intent.version ≠ version ∨ intent.validUntil = none ∨ now < asTime intent.validUntil then (s,false)
    else if s.snapshot.allocations.any (fun allocation => decide (allocation.executionId = executionID) &&
        decide (allocation.stageId = stageID) &&
        (decide (allocation.state = .pending) || decide (allocation.state = .active))) then (s,false)
    else
      let working := { s.snapshot with pendingUnits := s.snapshot.pendingUnits.filter (fun unit =>
        !(decide (unit.executionId = executionID) && decide (unit.stageId = stageID))) }
      (({ s with intents := s.intents.erase ⟨executionID,stageID⟩ }).commitSnapshot working now,true)

variable [Platform F] [DecidableEq F]

/-- A staged publication carries every reservation, transaction record and device of the Store
    it was prepared in, at the next revision. -/
theorem preparePublishIntent_staged {s : Store F} {incoming : SchedulingIntent F} {now : Int}
    {prepared : PreparedIntentPublication F} (accepted : preparePublishIntent s incoming now = .ok prepared) :
    prepared.staged.reservations = s.reservations ∧ prepared.staged.transactions = s.transactions ∧
      prepared.staged.snapshot = publishedSnapshot s.snapshot incoming now ∧
      s.snapshot.revision ≠ maxUint64 := by
  unfold preparePublishIntent at accepted
  split at accepted
  · cases accepted
  split at accepted
  · cases accepted
  split at accepted
  · cases accepted
  split at accepted
  · cases accepted
  · cases accepted
    exact ⟨rfl,rfl,rfl,by assumption⟩

def cpu (amount : UInt64) : ResourceVector Int := ⟨amount,0,0,0,0⟩

def tenUnits (deviceID : String) (spare : UInt64) : Device Int :=
  { (default : Device Int) with
    deviceId := deviceID
    health := .ready
    capacity := cpu 10
    allocatable := cpu spare }

def twoUnits : SchedulingIntent Int :=
  { (default : SchedulingIntent Int) with
    executionId := "e"
    stageId := "s"
    version := 1
    validUntil := some ⟨100,0⟩
    ttl := some ⟨100,0⟩
    idempotencyKey := "i"
    submittedAt := some ⟨0,0⟩
    jobId := "j"
    resourcesPerUnit := some (cpu 5)
    unitCount := 2
    policyVersion := "v" }

def oneDevice : Store Int :=
  newStore { (default : ClusterSnapshot Int) with revision := 1, devices := [tenUnits "x" 10] }

def bindingOf (bindingID unitID sandboxID : String) : Binding Int :=
  { (default : Binding Int) with
    bindingId := bindingID
    pendingUnitId := unitID
    deviceIds := ["x"]
    resources := some (cpu 5)
    sandboxId := sandboxID
    generation := 1 }

def admissionOf (planID : String) (revision : UInt64) (binding : Binding Int) : PlacementPlan Int :=
  { (default : PlacementPlan Int) with
    planId := planID
    executionId := "e"
    stageId := "s"
    intentVersion := 1
    snapshotRevision := revision
    purpose := .admission
    bindings := [binding] }

end TgsRl.Intents
