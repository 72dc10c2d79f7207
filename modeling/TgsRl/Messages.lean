import TgsRl.Resources

/-!
The protocol messages the scheduler state is made of, with the fields that `scheduler-go/state`,
`planexecutor` and `service` read or write. Fields that only `proto.Equal` reads stand together as
`rest`. Repeated message fields hold no nil entries, map fields are lists in the order of their
keys, and a device reports both of its resource vectors. The default value of a message has no field
set. Times are nanoseconds since the Unix epoch.
-/
namespace TgsRl.Messages
open Resources

structure Timestamp where
  seconds : Int
  nanos : Int
  deriving DecidableEq, Repr, Inhabited

structure Duration where
  seconds : Int
  nanos : Int
  deriving DecidableEq, Repr, Inhabited

def Timestamp.asTime (t : Timestamp) : Int := t.seconds * 1000000000 + t.nanos
def Duration.asDuration (d : Duration) : Int := d.seconds * 1000000000 + d.nanos

def Timestamp.new (t : Int) : Timestamp := ⟨t / 1000000000,t % 1000000000⟩

/-- `CheckValid`: from year 1 to year 9999, with nanoseconds in range. -/
def Timestamp.valid (t : Timestamp) : Bool :=
  decide (-62135596800 ≤ t.seconds) && decide (t.seconds ≤ 253402300799) &&
    decide (0 ≤ t.nanos) && decide (t.nanos < 1000000000)

/-- `CheckValid`: at most ten thousand years, with nanoseconds of the same sign. -/
def Duration.valid (d : Duration) : Bool :=
  decide (-315576000000 ≤ d.seconds) && decide (d.seconds ≤ 315576000000) &&
    decide (-1000000000 < d.nanos) && decide (d.nanos < 1000000000) &&
    !(decide (0 < d.seconds) && decide (d.nanos < 0)) && !(decide (d.seconds < 0) && decide (0 < d.nanos))

/-- The zero `time.Time`, the first instant of year 1. -/
def zeroTime : Int := -62135596800 * 1000000000

/-- What `AsTime` of a possibly missing timestamp reads. -/
def asTime (t : Option Timestamp) : Int := (t.map Timestamp.asTime).getD 0

inductive ActionType where
  | unknown | setShare | setPriority | pause | resume | sleep | offload | rebind | recreate | bind | release | resize
  deriving DecidableEq, Repr, Inhabited

def ActionType.name : ActionType → String
  | .unknown => "ACTION_TYPE_UNKNOWN"
  | .setShare => "ACTION_TYPE_SET_SHARE"
  | .setPriority => "ACTION_TYPE_SET_PRIORITY"
  | .pause => "ACTION_TYPE_PAUSE"
  | .resume => "ACTION_TYPE_RESUME"
  | .sleep => "ACTION_TYPE_SLEEP"
  | .offload => "ACTION_TYPE_OFFLOAD"
  | .rebind => "ACTION_TYPE_REBIND"
  | .recreate => "ACTION_TYPE_RECREATE"
  | .bind => "ACTION_TYPE_BIND"
  | .release => "ACTION_TYPE_RELEASE"
  | .resize => "ACTION_TYPE_RESIZE"

inductive ActionResultStatus where
  | unknown | succeeded | failed | skipped | rolledBack
  deriving DecidableEq, Repr, Inhabited

inductive PlanPurpose where
  | unknown | admission | rebalance | preemption | recovery | reconciliation
  deriving DecidableEq, Repr, Inhabited

inductive RollbackPolicy where
  | unknown | notRequired | requiredCompensation
  deriving DecidableEq, Repr, Inhabited

inductive DeviceHealth where
  | unknown | ready | degraded | draining | unavailable
  deriving DecidableEq, Repr, Inhabited

inductive AllocationState where
  | unknown | pending | active | releasing | released | failed
  deriving DecidableEq, Repr, Inhabited

inductive DataKind where
  | unknown | synthetic | replay | live
  deriving DecidableEq, Repr, Inhabited

inductive RuntimeState where
  | unknown | requested | bound | running | paused | sleeping | failed | terminated
  | validating | compiling | preparing | starting | pausing | resuming | checkpointing | stopping | terminating
  deriving DecidableEq, Repr, Inhabited

inductive IntentPublishStatus where
  | unknown | accepted | deduplicated | rejected
  deriving DecidableEq, Repr, Inhabited

structure CapabilitySet where
  names : List String
  attributes : List (String × String)
  algorithms : List String
  rolloutModes : List String
  supportedActions : List String
  rest : String
  deriving DecidableEq, Repr, Inhabited

structure Device (F : Type) where
  deviceId : String
  health : DeviceHealth
  capacity : ResourceVector F
  allocatable : ResourceVector F
  capabilities : Option CapabilitySet
  rest : String
  deriving DecidableEq, Repr, Inhabited

structure Allocation (F : Type) where
  allocationId : String
  executionId : String
  stageId : String
  intentVersion : UInt64
  jobId : String
  pendingUnitId : String
  deviceIds : List String
  resources : Option (ResourceVector F)
  state : AllocationState
  createdAt : Option Timestamp
  expiresAt : Option Timestamp
  runId : String
  traceId : String
  dataKind : DataKind
  generation : UInt64
  runtimeUnitId : String
  decisionId : String
  planId : String
  actionId : String
  priority : Option Int
  sandboxId : String
  bindingId : String
  deriving DecidableEq, Repr, Inhabited

structure PendingUnit (F : Type) where
  pendingUnitId : String
  executionId : String
  stageId : String
  intentVersion : UInt64
  jobId : String
  requestedResources : Option (ResourceVector F)
  requiredCapabilities : Option CapabilitySet
  priority : Int
  queuedAt : Option Timestamp
  attempt : UInt32
  runId : String
  traceId : String
  dataKind : DataKind
  runtimeUnitId : String
  deriving DecidableEq, Repr, Inhabited

structure ClusterSnapshot (F : Type) where
  snapshotId : String
  revision : UInt64
  observedAt : Option Timestamp
  devices : List (Device F)
  allocations : List (Allocation F)
  pendingUnits : List (PendingUnit F)
  rest : String
  deriving DecidableEq, Repr, Inhabited

structure Binding (F : Type) where
  bindingId : String
  pendingUnitId : String
  deviceIds : List String
  resources : Option (ResourceVector F)
  sandboxId : String
  generation : UInt64
  runtimeUnitId : String
  deriving DecidableEq, Repr, Inhabited

structure Rollback (F : Type) where
  actionType : ActionType
  targetId : String
  restoreBinding : Option (Binding F)
  reason : String
  deriving DecidableEq, Repr, Inhabited

structure Action (F : Type) where
  actionId : String
  actionType : ActionType
  targetId : String
  binding : Option (Binding F)
  rollback : Option (Rollback F)
  sandboxId : String
  expectedGeneration : UInt64
  idempotencyKey : String
  rest : String
  deriving DecidableEq, Repr, Inhabited

structure PlacementPlan (F : Type) where
  planId : String
  executionId : String
  stageId : String
  intentVersion : UInt64
  snapshotRevision : UInt64
  bindings : List (Binding F)
  actions : List (Action F)
  expiresAt : Option Timestamp
  decisionId : String
  runId : String
  traceId : String
  dataKind : DataKind
  jobId : String
  purpose : PlanPurpose
  rollbackPolicy : RollbackPolicy
  capabilityRequirements : List String
  affectedAllocationIds : List String
  rest : String
  deriving DecidableEq, Repr, Inhabited

structure ActionResult where
  actionId : String
  status : ActionResultStatus
  errorCode : String
  errorMessage : String
  observedRevision : UInt64
  rollbackAttempted : Bool
  rollbackStatus : ActionResultStatus
  planId : String
  idempotencyKey : String
  deriving DecidableEq, Repr, Inhabited

structure SemanticEnvelope where
  attributes : List (String × String)
  rest : String
  deriving DecidableEq, Repr, Inhabited

structure SchedulingIntent (F : Type) where
  executionId : String
  stageId : String
  version : UInt64
  validUntil : Option Timestamp
  ttl : Option Duration
  idempotencyKey : String
  submittedAt : Option Timestamp
  jobId : String
  resourcesPerUnit : Option (ResourceVector F)
  unitCount : UInt32
  requiredCapabilities : Option CapabilitySet
  priority : Int
  labels : List (String × String)
  policyVersion : String
  runId : String
  traceId : String
  dataKind : DataKind
  semanticContext : Option SemanticEnvelope
  rest : String
  deriving DecidableEq, Repr, Inhabited

structure PublishIntentResponse where
  executionId : String
  stageId : String
  version : UInt64
  status : IntentPublishStatus
  detail : String
  deriving DecidableEq, Repr, Inhabited

structure Sandbox (F : Type) where
  sandboxId : String
  runId : String
  jobId : String
  traceId : String
  state : RuntimeState
  generation : UInt64
  binding : Option (Binding F)
  share : F
  priority : Int
  safePoint : Bool
  offloaded : Bool
  observedAt : Option Timestamp
  dataKind : DataKind
  semanticContext : Option SemanticEnvelope
  stateChangedAt : Option Timestamp
  lastConfirmedAt : Option Timestamp
  rest : String
  deriving DecidableEq, Repr, Inhabited

structure SandboxEvent (F : Type) where
  eventId : String
  sandboxId : String
  runId : String
  jobId : String
  traceId : String
  generation : UInt64
  state : RuntimeState
  binding : Option (Binding F)
  safePoint : Option Bool
  occurredAt : Option Timestamp
  dataKind : DataKind
  semanticContext : Option SemanticEnvelope
  providerRevision : UInt64
  idempotencyKey : String
  share : Option F
  priority : Option Int
  offloaded : Option Bool
  deriving DecidableEq, Repr, Inhabited

/-- What a `ResourceEvent` of each type carries; the carried message can be missing. -/
inductive ResourceEventBody (F : Type) where
  | unknown
  | snapshotPublished (snapshot : Option (ClusterSnapshot F))
  | deviceChanged (device : Option (Device F))
  | allocationChanged (allocation : Option (Allocation F))
  | pendingUnitChanged (unit : Option (PendingUnit F))
  | capabilityRefreshed (capabilities : Option CapabilitySet)
  deriving DecidableEq, Repr, Inhabited

structure ResourceEvent (F : Type) where
  eventId : String
  providerRevision : UInt64
  provider : String
  body : ResourceEventBody F
  deriving DecidableEq, Repr, Inhabited

def runRetirementAttribute : String := "tgsrl.io/run-retirement"

/-- The envelope marks the retirement of the whole run. -/
def envelopeRetiresRun (envelope : Option SemanticEnvelope) : Bool :=
  match envelope with
  | none => false
  | some e => decide (e.attributes.lookup runRetirementAttribute = some "true")

/-- The envelope says whether the whole run retires. -/
def hasRunRetirementDisposition (envelope : Option SemanticEnvelope) : Bool :=
  match envelope with
  | none => false
  | some e => (e.attributes.lookup runRetirementAttribute).isSome

variable {F : Type}

def retiresRun (event : SandboxEvent F) : Bool := envelopeRetiresRun event.semanticContext

/-- The name the store gives to the allocation of a binding. -/
def allocationID (F : Type) [Platform F] (bindingId : String) : String := stableID F "allocation" [bindingId]

theorem allocationID_ne_empty (F : Type) [Platform F] (bindingId : String) : allocationID F bindingId ≠ "" := by
  simp [allocationID,stableID]

end TgsRl.Messages
