import Mathlib.Data.List.MinMax
import Mathlib.Data.Prod.Lex
import Mathlib.Data.String.Basic
import Mathlib.Order.WithBot
import TgsRl.Loops
import TgsRl.Validation

/-!
The candidate engine of the `candidates` package. It keeps a ledger for each device, charged with
the pending and active allocations, and places the units one after the other on the best feasible
device. A heap holds the feasible devices with their last results: only the chosen device is
evaluated again, and all of them when a unit asks for something else than the unit before.

The heap stands for the devices in it: `heap.Pop` takes the least. Left out are the evidence
collected on the way, the components of a score and injected factories.
-/
namespace TgsRl.Candidates
open Resources Messages State Validation

structure DeviceResources (F : Type) where
  capacity : ResourceVector F
  allocatable : ResourceVector F
  used : ResourceVector F
  overcommitted : Bool
  deriving DecidableEq

inductive RejectionReason where
  | validityRule | insufficientResources | capabilityMismatch
  deriving DecidableEq, Repr

inductive PairEvaluation (S : Type) where
  | feasible (score : S)
  | rejected (reason : RejectionReason) (detail : String)
  deriving DecidableEq, Repr

def PairEvaluation.isFeasible {S : Type} : PairEvaluation S → Bool
  | .feasible _ => true
  | .rejected _ _ => false

/-- A device and what is left of it. -/
structure Ledger (F : Type) where
  device : Device F
  resources : DeviceResources F
  deriving DecidableEq

def Ledger.name {F : Type} (ledger : Ledger F) : String := ledger.device.deviceId

/-- `deviceState`: a ledger with the result of its last evaluation. -/
structure DeviceState (F S : Type) extends Ledger F where
  evaluation : PairEvaluation S
  deriving DecidableEq

/-- The message `CapabilityEvidence`; of its attributes only their number is read. -/
structure CapabilityEvidence where
  evidenceId : String
  source : String
  revision : UInt64
  observedAt : Option Timestamp
  collector : String
  detail : String
  attributes : Nat
  deriving DecidableEq, Repr, Inhabited

/-- What the engine reads and computes beyond the fields the Store reads: the remaining fields of a capability set, the
    full share of one, and the score of a device. -/
structure Engine (F S : Type) where
  readings : Readings F
  source : CapabilitySet → String
  revision : CapabilitySet → UInt64
  measuredAt : CapabilitySet → Option Timestamp
  evidence : CapabilitySet → List CapabilityEvidence
  limits : CapabilitySet → List (String × F)
  one : F
  scorePair : SchedulingIntent F → Device F → DeviceResources F → Option (ResourceVector F) → S

variable {F S : Type} [Platform F]

def saturatingUintAdd (left right : UInt64) : UInt64 := if maxUint64 - left < right then maxUint64 else left + right

/-- `addResources` of the package, which saturates where the Store's wraps around. -/
def saturatingAddResources (target value : ResourceVector F) : ResourceVector F where
  cpuMillis := saturatingUintAdd target.cpuMillis value.cpuMillis
  memoryBytes := saturatingUintAdd target.memoryBytes value.memoryBytes
  acceleratorUnits := Platform.add target.acceleratorUnits value.acceleratorUnits
  ephemeralStorageBytes := saturatingUintAdd target.ephemeralStorageBytes value.ephemeralStorageBytes
  networkBandwidthBps := saturatingUintAdd target.networkBandwidthBps value.networkBandwidthBps

def uintSumFits (left right limit : UInt64) : Bool := decide (left ≤ limit) && decide (right ≤ limit - left)

def floatSumFits (r : Readings F) (left right limit : F) : Bool :=
  [left,right,limit].all (fun value => Platform.finite value && !Platform.negative value) &&
    r.atMost left limit && r.atMost right (Platform.sub limit left)

def sumFits (r : Readings F) (used request capacity : ResourceVector F) : Bool :=
  uintSumFits used.cpuMillis request.cpuMillis capacity.cpuMillis &&
    uintSumFits used.memoryBytes request.memoryBytes capacity.memoryBytes &&
    floatSumFits r used.acceleratorUnits request.acceleratorUnits capacity.acceleratorUnits &&
    uintSumFits used.ephemeralStorageBytes request.ephemeralStorageBytes capacity.ephemeralStorageBytes &&
    uintSumFits used.networkBandwidthBps request.networkBandwidthBps capacity.networkBandwidthBps

def acceleratorShareFits (e : Engine F S) (used request : F) : Bool := floatSumFits e.readings used request e.one

/-- `ResourceLessOrEqual` of a request that may be missing. -/
def requestFits (r : Readings F) (request : Option (ResourceVector F)) (available : ResourceVector F) : Bool :=
  match request with
  | none => Platform.finite available.acceleratorUnits && !Platform.negative available.acceleratorUnits
  | some request => resourceLessOrEqual r request available

def charge (e : Engine F S) (held : Option (ResourceVector F)) (ledger : Ledger F) : Ledger F :=
  let resources := ledger.resources
  let exceeds := !sumFits e.readings resources.used (orEmpty held) resources.capacity ||
    !acceleratorShareFits e resources.used.acceleratorUnits (orEmpty held).acceleratorUnits
  { ledger with resources := { resources with
      overcommitted := resources.overcommitted || exceeds
      used := match held with
        | none => resources.used
        | some held => saturatingAddResources resources.used held } }

def reclaim (held : Option (ResourceVector F)) (ledger : Ledger F) : Ledger F :=
  match held with
  | none => ledger
  | some held => { ledger with resources := { ledger.resources with
      allocatable := addResourcesCapped ledger.resources.allocatable held ledger.resources.capacity } }

def onDevice (deviceID : String) (f : Ledger F → Ledger F) (ledgers : List (Ledger F)) : List (Ledger F) :=
  Keyed.modify Ledger.name deviceID f ledgers

/-- One allocation of the loop in `buildDeviceStates`. -/
def accountAllocation (e : Engine F S) (reclaimed : List String) (ledgers : List (Ledger F)) (allocation : Allocation F) :
    List (Ledger F) :=
  if allocation.state ≠ .pending ∧ allocation.state ≠ .active then ledgers
  else if allocation.allocationId ∈ reclaimed then
    match allocation.deviceIds with
    | [] => ledgers
    | deviceID :: _ => onDevice deviceID (reclaim allocation.resources) ledgers
  else allocation.deviceIds.foldl (fun ledgers deviceID => onDevice deviceID (charge e allocation.resources) ledgers) ledgers

def freshLedger (device : Device F) : Ledger F := ⟨device,⟨device.capacity,device.allocatable,.empty,false⟩⟩

def byAllocationID (allocations : List (Allocation F)) : List (Allocation F) :=
  allocations.insertionSort (fun left right => left.allocationId ≤ right.allocationId)

def buildDeviceStates (e : Engine F S) (snapshot : ClusterSnapshot F) (devices : List (Device F)) (reclaimed : List String) :
    List (Ledger F) :=
  (byAllocationID snapshot.allocations).foldl (accountAllocation e reclaimed) (devices.map freshLedger)

/-- `consume`: the request is taken off the ledger. -/
def consume (request : Option (ResourceVector F)) (ledger : Ledger F) : Ledger F :=
  match request with
  | none => ledger
  | some request =>
    let resources := ledger.resources
    { ledger with resources := { resources with
        allocatable := { subtractResources resources.allocatable request with
          acceleratorUnits := Platform.max Platform.zero
            (Platform.sub resources.allocatable.acceleratorUnits request.acceleratorUnits) }
        used := saturatingAddResources resources.used request } }

def normalizeAction (value : String) : String :=
  String.ofList ((trimSpace value).toList.map (fun c => if c.toLower = '-' then '_' else c.toLower))

def containsNormalized (values : List String) (expected : String) : Bool :=
  values.any (fun value => decide (normalizeAction value = normalizeAction expected))

def missingStrings (available required : List String) (normalize : String → String) : List String :=
  sortedStrings (required.filter (fun value => decide (normalize value ∉ available.map normalize)))

def complain (complaint : String) (missing : List String) : Option String :=
  if missing = [] then none else some (complaint ++ ",".intercalate missing)

def evidenceFault (e : Engine F S) (available : CapabilitySet) (index : Nat) (evidence : CapabilityEvidence) : Option String :=
  let name := "capability evidence " ++ toString index
  let measured := asTime (e.measuredAt available)
  if evidence = default then some (name ++ " is nil")
  else if trimSpace evidence.evidenceId = "" ∨ trimSpace evidence.source = "" ∨ evidence.revision = 0 ∨
      evidence.observedAt = none ∨ trimSpace evidence.collector = "" then
    some (name ++ " lacks evidence_id, source, revision, observed_at, or collector")
  else if evidence.observedAt.any (fun observed => !observed.valid) then some (name ++ " observed_at is invalid")
  else if evidence.source ≠ e.source available then some (name ++ " source does not match CapabilitySet source")
  else if evidence.revision < e.revision available then some (name ++ " revision is older than CapabilitySet revision")
  else if asTime evidence.observedAt < measured then some (name ++ " observed_at is older than CapabilitySet measured_at")
  else none

def capabilityEvidenceMismatch (e : Engine F S) (available : CapabilitySet) : Option String :=
  (e.evidence available).zipIdx.findSome? (fun (evidence,index) => evidenceFault e available index evidence)

def invalidLimit (value : F) : Bool := !Platform.finite value || Platform.negative value

/-- The part of `capabilityMismatch` that compares with what is required. -/
def requirementMismatch (e : Engine F S) (available required : CapabilitySet) : Option String :=
  if e.source required ≠ "" ∧ e.source available ≠ e.source required then some "capability source mismatch"
  else if e.revision available < e.revision required then some "capability revision is older than required"
  else if (e.measuredAt required).any (fun measured => !measured.valid) then
    some "required CapabilitySet measured_at is invalid"
  else if (e.measuredAt required).any (fun measured => decide (asTime (e.measuredAt available) < measured.asTime)) then
    some "capability measurement is older than required"
  else
    let wrongAttribute := required.attributes.find? (fun (key,value) => decide (available.attributes.lookup key ≠ some value))
    let lowLimit := (e.limits required).find? (fun (key,value) => match (e.limits available).lookup key with
      | none => true
      | some offered => invalidLimit value || invalidLimit offered || !e.readings.atMost value offered)
    complain "missing capability names: " (missingStrings available.names required.names id) <|>
      complain "missing declared algorithm capabilities: " (missingStrings available.algorithms required.algorithms id) <|>
      complain "missing declared rollout capabilities: " (missingStrings available.rolloutModes required.rolloutModes id) <|>
      complain "missing supported actions: "
        (missingStrings available.supportedActions required.supportedActions normalizeAction) <|>
      wrongAttribute.map (fun (key,_) => "capability attribute mismatch: " ++ key) <|>
      lowLimit.map (fun (key,_) => "capability limit below requirement: " ++ key)

def capabilityMismatch (e : Engine F S) (available required : Option CapabilitySet) : Option String :=
  match available with
  | none => some "device has no measured CapabilitySet"
  | some available =>
    if trimSpace (e.source available) = "" ∨ e.revision available = 0 ∨ e.measuredAt available = none then
      some "device CapabilitySet lacks source, revision, or measured_at evidence"
    else if (e.measuredAt available).any (fun measured => !measured.valid) then
      some "device CapabilitySet measured_at is invalid"
    else match capabilityEvidenceMismatch e available with
      | some detail => some detail
      | none =>
        if !containsNormalized available.supportedActions "bind" then some "device does not advertise the bind action"
        else match required with
          | none => none
          | some required => requirementMismatch e available required

/-- `DecisionMetadata`, as far as the engine reads it. -/
structure DecisionMetadata where
  requiresSafePoint : Bool
  safePoint : Bool
  deriving DecidableEq, Repr

/-- What a unit asks for: resources and capabilities. -/
abbrev Needs (F : Type) := Option (ResourceVector F) × Option CapabilitySet

def evaluatePair (e : Engine F S) (intent : SchedulingIntent F) (decision : DecisionMetadata) (needs : Needs F)
    (ledger : Ledger F) : PairEvaluation S :=
  let (request,required) := needs
  let resources := ledger.resources
  if ledger.device.health ≠ .ready then .rejected .validityRule "device is not READY"
  else if decision.requiresSafePoint && !decision.safePoint then
    .rejected .validityRule "execution contract requires a safe point not present in the evaluated context"
  else if resources.overcommitted then
    .rejected .insufficientResources "existing pending or active allocations exceed device capacity or aggregate share"
  else match capabilityMismatch e ledger.device.capabilities required with
    | some detail => .rejected .capabilityMismatch detail
    | none =>
      if !requestFits e.readings request resources.allocatable then
        .rejected .insufficientResources "request exceeds allocatable resources"
      else if !acceleratorShareFits e resources.used.acceleratorUnits (orEmpty request).acceleratorUnits then
        .rejected .insufficientResources "aggregate pending and active accelerator share plus request exceeds 1"
      else if !sumFits e.readings resources.used (orEmpty request) resources.capacity then
        .rejected .insufficientResources "pending and active allocations plus request exceed device capacity"
      else .feasible (e.scorePair intent ledger.device resources request)

/-- `Unit`: a unit to place, with the pending unit it stands for if there is one. -/
structure PlacementUnit (F : Type) where
  id : String
  pending : Option (PendingUnit F)

structure LedgerAdjustment where
  reclaimAllocationIDs : List String
  includeDeviceIDs : List String
  excludeDeviceIDs : List String

/-- The message `PlacementCandidate`, whose plan is one binding. -/
structure PlacementCandidate (F S : Type) where
  candidateId : String
  binding : Binding F
  score : Option S
  deriving DecidableEq

/-- `SelectFunc` on the snapshot and intent of its request: one of the candidates, or none and why. -/
abbrev SelectFunc (F S : Type) := String → List (PlacementCandidate F S) → Int → Option (PlacementCandidate F S) × String

structure Request (F S : Type) where
  snapshot : ClusterSnapshot F
  intent : SchedulingIntent F
  decision : DecisionMetadata
  adjustment : LedgerAdjustment
  units : List (PlacementUnit F)
  select : Option (SelectFunc F S)
  topK : Int

/-- `Option` of the source: a unit with the candidate and the device chosen for it. -/
structure Selected (F S : Type) where
  candidate : PlacementCandidate F S
  unitID : String
  deviceID : String
  deriving DecidableEq

structure Result (F S : Type) where
  selected : List (Selected F S) := []
  failureUnit : String := ""
  fallback : String := ""
  totalCandidateCount : UInt64 := 0
  totalRejectionCount : UInt64 := 0
  deriving DecidableEq

/-- The pending unit that decides the place in the order. -/
def PlacementUnit.standIn {F : Type} (unit : PlacementUnit F) : PendingUnit F :=
  unit.pending.getD { (default : PendingUnit F) with pendingUnitId := unit.id }

/-- The order of `StableUnitOrder`: priority first, then queue time with unqueued units last, then name. -/
def unitBefore (left right : PendingUnit F) : Bool :=
  if left.priority ≠ right.priority then decide (left.priority > right.priority)
  else match left.queuedAt,right.queuedAt with
    | none,some _ => false
    | some _,none => true
    | none,none => decide (left.pendingUnitId < right.pendingUnitId)
    | some leftQueued,some rightQueued =>
      if leftQueued.asTime ≠ rightQueued.asTime then decide (leftQueued.asTime < rightQueued.asTime)
      else decide (left.pendingUnitId < right.pendingUnitId)

/-- The checks of one unit, after the names seen before it. -/
def checkUnit (index : Nat) (seen : List String) (unit : PlacementUnit F) : Except String Unit :=
  let pendingID := (unit.pending.map PendingUnit.pendingUnitId).getD unit.id
  if unit.id = "" then .error ("candidates: unit " ++ toString index ++ " has an empty ID")
  else if unit.id ∈ seen then .error ("candidates: duplicate unit ID " ++ quote unit.id)
  else if pendingID ≠ unit.id then
    .error ("candidates: unit ID " ++ quote unit.id ++ " does not match pending unit ID " ++ quote pendingID)
  else .ok ()

/-- A unit without a name takes that of its pending unit. -/
def PlacementUnit.named (unit : PlacementUnit F) : PlacementUnit F :=
  if unit.id = "" then { unit with id := (unit.pending.map PendingUnit.pendingUnitId).getD "" } else unit

/-- A loop over items with the names seen so far. -/
def checkNames {α : Type} (name : α → String) (check : Nat → List String → α → Except String Unit) :
    Nat → List String → List α → Except String Unit
  | _, _, [] => .ok ()
  | index, seen, a :: rest => match check index seen a with
    | .error err => .error err
    | .ok () => checkNames name check (index + 1) (name a :: seen) rest

def normalizeUnits (input : List (PlacementUnit F)) : Except String (List (PlacementUnit F)) :=
  let units := input.map PlacementUnit.named
  match checkNames PlacementUnit.id checkUnit 0 [] units with
  | .error err => .error err
  | .ok () => .ok (units.insertionSort (fun left right => unitBefore right.standIn left.standIn = false))

def checkDevice (index : Nat) (seen : List String) (device : Device F) : Except String Unit :=
  if device.deviceId = "" then .error ("candidates: device " ++ toString index ++ " has an empty ID")
  else if device.deviceId ∈ seen then .error ("candidates: duplicate device ID " ++ quote device.deviceId)
  else .ok ()

def normalizeDevices (input : List (Device F)) : Except String (List (Device F)) :=
  match checkNames Device.deviceId checkDevice 0 [] input with
  | .error err => .error err
  | .ok () => .ok (input.insertionSort (fun left right => left.deviceId ≤ right.deviceId))

def invalidLedgerAdjustment {α : Type} (detail : String) : Except String α :=
  .error ("candidates: invalid ledger adjustment: " ++ detail)

def stateName : AllocationState → String
  | .unknown => "ALLOCATION_STATE_UNKNOWN"
  | .pending => "ALLOCATION_STATE_PENDING"
  | .active => "ALLOCATION_STATE_ACTIVE"
  | .releasing => "ALLOCATION_STATE_RELEASING"
  | .released => "ALLOCATION_STATE_RELEASED"
  | .failed => "ALLOCATION_STATE_FAILED"

/-- A reclaimed allocation is there once, pending or active, on one known device. -/
def checkReclaimed (known : List String) (allocations : List (Allocation F)) (allocationID : String) : Except String Unit :=
  match allocations.filter (fun allocation => decide (allocation.allocationId = allocationID)) with
  | [] => invalidLedgerAdjustment ("reclaimed allocation " ++ quote allocationID ++ " does not exist in the snapshot")
  | [allocation] =>
    if allocation.state ≠ .pending ∧ allocation.state ≠ .active then
      invalidLedgerAdjustment ("reclaimed allocation " ++ quote allocationID ++ " must be PENDING or ACTIVE, got " ++
        stateName allocation.state)
    else match allocation.deviceIds with
      | [deviceID] =>
        if deviceID ∈ known then .ok ()
        else invalidLedgerAdjustment ("reclaimed allocation " ++ quote allocationID ++ " references unknown device " ++
          quote deviceID)
      | deviceIDs => invalidLedgerAdjustment ("reclaimed allocation " ++ quote allocationID ++
          " must reference exactly one device, got " ++ toString deviceIDs.length)
  | _ => invalidLedgerAdjustment ("reclaimed allocation ID " ++ quote allocationID ++ " is not unique in the snapshot")

/-- `normalizeLedgerAdjustment`: the identifiers as sorted sets. -/
def normalizeLedgerAdjustment (input : LedgerAdjustment) (devices : List (Device F)) (allocations : List (Allocation F)) :
    Except String LedgerAdjustment :=
  if input.reclaimAllocationIDs = [] ∧ input.includeDeviceIDs = [] ∧ input.excludeDeviceIDs = [] then .ok ⟨[],[],[]⟩
  else
    let reclaimIDs := sortedSetValues input.reclaimAllocationIDs
    let includeIDs := sortedSetValues input.includeDeviceIDs
    let excludeIDs := sortedSetValues input.excludeDeviceIDs
    let known := devices.map Device.deviceId
    let unknown (kind deviceID : String) : Except String LedgerAdjustment :=
      invalidLedgerAdjustment (kind ++ " device " ++ quote deviceID ++ " does not exist in the snapshot")
    match includeIDs.find? (fun deviceID => decide (deviceID ∈ excludeIDs)) with
    | some deviceID =>
      invalidLedgerAdjustment ("device " ++ quote deviceID ++ " appears in both include and exclude filters")
    | none => match includeIDs.find? (fun deviceID => decide (deviceID ∉ known)) with
      | some deviceID => unknown "included" deviceID
      | none => match excludeIDs.find? (fun deviceID => decide (deviceID ∉ known)) with
        | some deviceID => unknown "excluded" deviceID
        | none => match Loops.checkEach (checkReclaimed known allocations) reclaimIDs with
          | .error err => .error err
          | .ok () => .ok ⟨reclaimIDs,includeIDs,excludeIDs⟩

def filterDevices (devices : List (Device F)) (adjustment : LedgerAdjustment) : List (Device F) :=
  devices.filter (fun device =>
    (decide (adjustment.includeDeviceIDs = []) || decide (device.deviceId ∈ adjustment.includeDeviceIDs)) &&
      decide (device.deviceId ∉ adjustment.excludeDeviceIDs))

/-- `requirementsFor`: the requests of the pending unit, or those of the intent. -/
def requirementsFor (unit : PlacementUnit F) (intent : SchedulingIntent F) : Needs F :=
  ((unit.pending.bind PendingUnit.requestedResources) <|> intent.resourcesPerUnit,
    (unit.pending.bind PendingUnit.requiredCapabilities) <|> intent.requiredCapabilities)

def candidateID (snapshot : ClusterSnapshot F) (intent : SchedulingIntent F) (unitID deviceID : String) : String :=
  stableID F "candidate" [unitID,deviceID,toString snapshot.revision,toString intent.version]

def PairEvaluation.score {S : Type} : PairEvaluation S → Option S
  | .feasible score => some score
  | .rejected _ _ => none

/-- `materializeCandidate` with the default factories. -/
def materializeCandidate (request : Request F S) (unit : PlacementUnit F) (state : DeviceState F S) :
    PlacementCandidate F S where
  candidateId := candidateID request.snapshot request.intent unit.id state.name
  binding := {
    bindingId := ""
    pendingUnitId := unit.id
    deviceIds := [state.name]
    resources := some (orEmpty (requirementsFor unit request.intent).1)
    sandboxId := ""
    generation := 0
    runtimeUnitId := (unit.pending.map PendingUnit.runtimeUnitId).getD "" }
  score := state.evaluation.score

def fallbackNoCandidate : String := "NO_CANDIDATE"
def fallbackInvalidSelection : String := "INVALID_SELECTION"

def saturatingCountAdd (current : UInt64) (increment : Int) : UInt64 :=
  if increment ≤ 0 then current else saturatingUintAdd current (UInt64.ofNat increment.toNat)

/-- The two totals after a unit for which so many of the devices are feasible. -/
def Result.counted (result : Result F S) (feasible devices : Int) : Result F S :=
  { result with
    totalCandidateCount := saturatingCountAdd result.totalCandidateCount feasible
    totalRejectionCount := saturatingCountAdd result.totalRejectionCount (devices - feasible) }

def Result.select (result : Result F S) (request : Request F S) (unit : PlacementUnit F) (state : DeviceState F S) :
    Result F S :=
  { result with selected := result.selected ++ [⟨materializeCandidate request unit state,unit.id,state.name⟩] }

def Result.stop (result : Result F S) (unit : PlacementUnit F) (fallback : String) : Result F S :=
  { result with failureUnit := unit.id, fallback := fallback }

section Walks
variable [LinearOrder S] [DecidableEq F]

/-- The order of the heap: the higher score first, then the smaller name. -/
def DeviceState.rank (state : DeviceState F S) : Lex ((WithBot S)ᵒᵈ × String) :=
  toLex (OrderDual.toDual state.evaluation.score,state.name)

def least (frontier : List (DeviceState F S)) : Option (DeviceState F S) := frontier.argmin DeviceState.rank

/-- `heap.Pop` so many times: the devices taken, and the heap after. -/
def popMany : Nat → List (DeviceState F S) → List (DeviceState F S) × List (DeviceState F S)
  | 0,frontier => ([],frontier)
  | count + 1,frontier => match least frontier with
    | none => ([],frontier)
    | some state =>
      let (taken,rest) := popMany count (frontier.erase state)
      (state :: taken,rest)

/-- The variables of the loop of `Evaluate`: the devices, the heap once it is built, what it was built for and how many
    devices are feasible. -/
structure Walk (F S : Type) where
  states : List (DeviceState F S)
  frontier : Option (List (DeviceState F S))
  evaluated : Needs F
  feasibleCount : Int

def assess (e : Engine F S) (request : Request F S) (needs : Needs F) (ledger : Ledger F) : DeviceState F S :=
  { ledger with evaluation := evaluatePair e request.intent request.decision needs ledger }

def DeviceState.isFeasible (state : DeviceState F S) : Bool := state.evaluation.isFeasible

def rebuildFrontier (e : Engine F S) (request : Request F S) (needs : Needs F) (w : Walk F S) : Walk F S :=
  let states := w.states.map (fun state => assess e request needs state.toLedger)
  let frontier := states.filter DeviceState.isFeasible
  ⟨states,some frontier,needs,frontier.length⟩

/-- The heap is built at the first unit, and again when the requirements change. -/
def refresh (e : Engine F S) (request : Request F S) (needs : Needs F) (w : Walk F S) : Walk F S :=
  if w.frontier = none ∨ w.evaluated ≠ needs then rebuildFrontier e request needs w else w

/-- The device for a unit with the heap after the choice, or the reason why there is none. -/
def choose (request : Request F S) (unit : PlacementUnit F) (frontier : List (DeviceState F S)) :
    Except String (DeviceState F S × List (DeviceState F S)) :=
  match request.select with
  | none => match least frontier with
    | none => .error fallbackNoCandidate
    | some state => .ok (state,frontier.erase state)
  | some select =>
    let (shortlist,rest) := popMany (min request.topK.toNat frontier.length) frontier
    if shortlist = [] then .error fallbackNoCandidate
    else match select unit.id (shortlist.map (materializeCandidate request unit)) request.topK with
      | (none,fallback) => .error (if fallback = "" then fallbackNoCandidate else fallback)
      | (some candidate,_) =>
        match shortlist.find? (fun state => decide (materializeCandidate request unit state = candidate)) with
        | none => .error fallbackInvalidSelection
        -- the devices that were not chosen go back to the heap
        | some state => .ok (state,rest ++ shortlist.erase state)

/-- The chosen device is charged and evaluated again; it goes back to the heap if it is still feasible. -/
def settle (e : Engine F S) (request : Request F S) (w : Walk F S) (state : DeviceState F S)
    (rest : List (DeviceState F S)) : Walk F S :=
  let charged := assess e request w.evaluated (consume w.evaluated.1 state.toLedger)
  { w with
    states := Keyed.modify (fun state => state.name) state.name (fun _ => charged) w.states
    frontier := some (if charged.isFeasible then rest ++ [charged] else rest)
    feasibleCount := if charged.isFeasible then w.feasibleCount else w.feasibleCount - 1 }

/-- The loop of `Evaluate`. -/
def placeUnits (e : Engine F S) (request : Request F S) : List (PlacementUnit F) → Walk F S → Result F S → Result F S
  | [],_,result => result
  | unit :: units,w,result =>
    let w := refresh e request (requirementsFor unit request.intent) w
    let result := result.counted w.feasibleCount w.states.length
    match choose request unit (w.frontier.getD []) with
    | .error fallback => result.stop unit fallback
    | .ok (state,rest) => placeUnits e request units (settle e request w state rest) (result.select request unit state)

/-- The checks of `Evaluate` before its loop: the request with its shortlist bounded below, the units and the ledgers. -/
def prepare (e : Engine F S) (request : Request F S) :
    Except String (Request F S × List (PlacementUnit F) × List (Ledger F)) := do
  let units ← normalizeUnits request.units
  let devices ← normalizeDevices request.snapshot.devices
  let adjustment ← normalizeLedgerAdjustment request.adjustment devices request.snapshot.allocations
  let ledgers := buildDeviceStates e request.snapshot (filterDevices devices adjustment) adjustment.reclaimAllocationIDs
  .ok ({ request with topK := if request.topK ≤ 0 then 1 else request.topK },units,ledgers)

def unevaluated (ledger : Ledger F) : DeviceState F S := { ledger with evaluation := .rejected .validityRule "" }

def evaluate (e : Engine F S) (request : Request F S) : Except String (Result F S) := do
  let (request,units,ledgers) ← prepare e request
  .ok (placeUnits e request units ⟨ledgers.map unevaluated,none,(none,none),0⟩ {})

/-- Every device is evaluated for every unit, and the best one is chosen. -/
def naivePlace (e : Engine F S) (request : Request F S) :
    List (PlacementUnit F) → List (Ledger F) → Result F S → Result F S
  | [],_,result => result
  | unit :: units,ledgers,result =>
    let needs := requirementsFor unit request.intent
    let feasible := (ledgers.map (assess e request needs)).filter DeviceState.isFeasible
    let result := result.counted feasible.length ledgers.length
    match least feasible with
    | none => result.stop unit fallbackNoCandidate
    | some state =>
      naivePlace e request units (onDevice state.name (consume needs.1) ledgers) (result.select request unit state)

def naiveEvaluate (e : Engine F S) (request : Request F S) : Except String (Result F S) := do
  let (request,units,ledgers) ← prepare e request
  .ok (naivePlace e request units ledgers {})

def takeFirst : SelectFunc F S := fun _ candidates _ => (candidates.head?,"")

variable {frontier : List (DeviceState F S)} {request : Request F S}

omit [Platform F] [DecidableEq F] in
theorem least_mem {state : DeviceState F S} (first : least frontier = some state) : state ∈ frontier := List.argmin_mem first

omit [Platform F] [DecidableEq F] in
/-- The names tell the devices apart, so the least of them is the same however they are listed. -/
theorem least_perm {left right : List (DeviceState F S)} (perm : left.Perm right)
    (names : (left.map fun state => state.name).Nodup) : least left = least right := by
  cases first : least left with
  | none =>
    have empty : left = [] := List.argmin_eq_none.mp first
    rw [empty] at perm
    rw [least,List.argmin_eq_none.mpr perm.symm.eq_nil]
  | some a => cases second : least right with
    | none =>
      have empty : right = [] := List.argmin_eq_none.mp second
      rw [empty] at perm
      cases perm.eq_nil ▸ least_mem first
    | some b =>
      have among : b ∈ left := perm.mem_iff.mpr (least_mem second)
      have least : a.rank = b.rank :=
        le_antisymm (List.le_of_mem_argmin among first)
          (List.le_of_mem_argmin (perm.mem_iff.mp (least_mem first)) second)
      have same : a.name = b.name := congrArg (fun rank => (ofLex rank).2) least
      rw [List.inj_on_of_nodup_map names (least_mem first) among same]

omit [Platform F] in
theorem popMany_perm (count : Nat) (frontier : List (DeviceState F S)) :
    ((popMany count frontier).1 ++ (popMany count frontier).2).Perm frontier := by
  induction count generalizing frontier with
  | zero => exact List.Perm.refl _
  | succ count ih =>
    rw [popMany]
    cases first : least frontier with
    | none => exact List.Perm.refl _
    | some state => exact ((ih _).cons state).trans (List.perm_cons_erase (least_mem first)).symm

/-- The policies that take the best device: none at all, or the first of a shortlist that may have one. -/
def TakesBest (request : Request F S) : Prop :=
  request.select = none ∨ request.select = some takeFirst ∧ 0 < request.topK

theorem choose_none (best : TakesBest request) (unit : PlacementUnit F) (empty : least frontier = none) :
    choose request unit frontier = .error fallbackNoCandidate := by
  rcases best with none | ⟨first,_⟩
  · simp [choose,none,empty]
  · have bare : frontier = [] := List.argmin_eq_none.mp empty
    simp [choose,first,bare,popMany]

theorem choose_some (best : TakesBest request) (unit : PlacementUnit F) {state : DeviceState F S}
    (least : least frontier = some state) :
    ∃ rest, choose request unit frontier = .ok (state,rest) ∧ rest.Perm (frontier.erase state) := by
  rcases best with none | ⟨first,positive⟩
  · exact ⟨_,by simp [choose,none,least],List.Perm.refl _⟩
  · have filled : 0 < frontier.length := List.length_pos_of_mem (least_mem least)
    obtain ⟨count,several⟩ : ∃ count, min request.topK.toNat frontier.length = count + 1 :=
      ⟨min request.topK.toNat frontier.length - 1,by omega⟩
    refine ⟨(popMany count (frontier.erase state)).2 ++ (popMany count (frontier.erase state)).1,?_,?_⟩
    · simp [choose,first,several,popMany,least,takeFirst]
    · exact List.perm_append_comm.trans (popMany_perm count _)

/-- Between two units: the devices carry what an evaluation would say now, and the heap holds the feasible ones. -/
structure Cached (e : Engine F S) (request : Request F S) (w : Walk F S) (frontier : List (DeviceState F S)) : Prop where
  built : w.frontier = some frontier
  current : ∀ state ∈ w.states, assess e request w.evaluated state.toLedger = state
  heap : frontier.Perm (w.states.filter DeviceState.isFeasible)
  count : w.feasibleCount = frontier.length

section Steps
variable {e : Engine F S} {w : Walk F S}

omit [LinearOrder S] [DecidableEq F] in
theorem rebuildFrontier_cached (needs : Needs F) :
    Cached e request (rebuildFrontier e request needs w) ((rebuildFrontier e request needs w).states.filter DeviceState.isFeasible) := by
  refine ⟨rfl,?_,List.Perm.refl _,rfl⟩
  intro state member
  obtain ⟨old,_,rfl⟩ := List.mem_map.mp member
  rfl

omit [LinearOrder S] in
theorem refresh_cached (needs : Needs F) (so : w.frontier = none ∨ ∃ frontier, Cached e request w frontier) :
    (∃ frontier, Cached e request (refresh e request needs w) frontier) ∧ (refresh e request needs w).evaluated = needs ∧
      (refresh e request needs w).states.map DeviceState.toLedger = w.states.map DeviceState.toLedger := by
  by_cases stale : w.frontier = none ∨ w.evaluated ≠ needs
  · rw [refresh,if_pos stale]
    refine ⟨⟨_,rebuildFrontier_cached needs⟩,rfl,?_⟩
    simp [rebuildFrontier,assess,Function.comp_def]
  · rw [refresh,if_neg stale]
    push Not at stale
    exact ⟨so.resolve_left stale.1,stale.2,rfl⟩

omit [LinearOrder S] [DecidableEq F] in
theorem Cached.states_eq (cached : Cached e request w frontier) :
    (w.states.map DeviceState.toLedger).map (assess e request w.evaluated) = w.states := by
  rw [List.map_map]
  exact (List.map_congr_left cached.current).trans (List.map_id' _)

omit [DecidableEq F] in
theorem consume_name (asked : Option (ResourceVector F)) (ledger : Ledger F) : (consume asked ledger).name = ledger.name := by
  cases asked <;> rfl

/-- Charging the chosen device changes what is kept about it, and nothing about the others. -/
theorem settle_cached (cached : Cached e request w frontier) (names : (w.states.map fun state => state.name).Nodup)
    {state : DeviceState F S} {rest : List (DeviceState F S)} (among : state ∈ frontier)
    (others : rest.Perm (frontier.erase state)) :
    (∃ frontier, Cached e request (settle e request w state rest) frontier) ∧
      (settle e request w state rest).states.map DeviceState.toLedger =
        onDevice state.name (consume w.evaluated.1) (w.states.map DeviceState.toLedger) := by
  obtain ⟨member,feasible⟩ := List.mem_filter.mp (cached.heap.mem_iff.mp among)
  obtain ⟨before,after,split⟩ := List.append_of_mem member
  have fresh : state.name ∉ before.map fun state => state.name := by
    rw [split,List.map_append,List.map_cons] at names
    exact fun earlier => List.disjoint_of_nodup_append names earlier List.mem_cons_self
  have fresh' : state.toLedger.name ∉ (before.map DeviceState.toLedger).map Ledger.name := by
    rw [List.map_map]
    exact fresh
  have left : rest.Perm (before.filter DeviceState.isFeasible ++ after.filter DeviceState.isFeasible) := by
    refine others.trans ?_
    have heap := cached.heap
    rw [split,List.filter_append,List.filter_cons_of_pos feasible] at heap
    simpa using (heap.trans List.perm_middle).erase state
  have shorter : rest.length + 1 = frontier.length := by
    rw [others.length_eq,List.length_erase_of_mem among]
    have := List.length_pos_of_mem among
    omega
  let charged := assess e request w.evaluated (consume w.evaluated.1 state.toLedger)
  have states : (settle e request w state rest).states = before ++ charged :: after := by
    rw [settle]
    simp only [split]
    exact Keyed.modify_append_cons fresh
  refine ⟨?_,?_⟩
  · refine ⟨if charged.isFeasible then rest ++ [charged] else rest,rfl,?_,?_,?_⟩
    · intro kept
      rw [states,List.mem_append,List.mem_cons]
      rintro (earlier | rfl | later)
      · exact cached.current kept (by simp [split,earlier])
      · rfl
      · exact cached.current kept (by simp [split,later])
    · rw [states,List.filter_append]
      by_cases still : charged.isFeasible
      · rw [if_pos still,List.filter_cons_of_pos still]
        exact ((List.perm_append_singleton charged rest).trans (left.cons charged)).trans List.perm_middle.symm
      · rw [if_neg still,List.filter_cons_of_neg still]
        exact left
    · have counted := cached.count
      show (if charged.isFeasible then w.feasibleCount else w.feasibleCount - 1) = _
      by_cases still : charged.isFeasible
      · rw [if_pos still,if_pos still,List.length_append,List.length_singleton]
        omega
      · rw [if_neg still,if_neg still]
        omega
  · rw [states,split,List.map_append,List.map_append,List.map_cons,List.map_cons]
    exact (Keyed.modify_append_cons (f := consume w.evaluated.1) fresh').symm

theorem placeUnits_eq_naivePlace (best : TakesBest request) (units : List (PlacementUnit F)) (result : Result F S)
    (names : ((w.states.map DeviceState.toLedger).map Ledger.name).Nodup)
    (so : w.frontier = none ∨ ∃ frontier, Cached e request w frontier) :
    placeUnits e request units w result = naivePlace e request units (w.states.map DeviceState.toLedger) result := by
  induction units generalizing w result with
  | nil => rfl
  | cons unit units ih =>
    obtain ⟨⟨frontier,cached⟩,current,kept⟩ := refresh_cached (requirementsFor unit request.intent) so
    rw [placeUnits,naivePlace]
    generalize refresh e request (requirementsFor unit request.intent) w = next at *
    rw [← kept] at names ⊢
    have surface := cached.states_eq
    rw [current] at surface
    have named : (next.states.map fun state => state.name).Nodup := by
      rw [List.map_map] at names
      exact names
    have distinct : (frontier.map fun state => state.name).Nodup :=
      (cached.heap.map _).nodup_iff.mpr (named.sublist (List.filter_sublist.map _))
    simp only [surface,cached.count,cached.heap.length_eq,cached.built,Option.getD_some,List.length_map,
      ← least_perm cached.heap distinct]
    cases first : least frontier with
    | none => rw [choose_none best unit first]
    | some state =>
      obtain ⟨rest,chosen,others⟩ := choose_some best unit first
      obtain ⟨after,ledgers⟩ := settle_cached cached named (least_mem first) others
      rw [chosen]
      simp only
      rw [ih _ (by
        rw [ledgers,onDevice,Keyed.modify_keys (consume_name _)]
        exact names) (Or.inr after),ledgers,current]

end Steps

theorem checkNames_nodup {α : Type} {name : α → String} {check : Nat → List String → α → Except String Unit}
    (new : ∀ index seen a, check index seen a = .ok () → name a ∉ seen) {index : Nat} {seen : List String} {items : List α}
    (passed : checkNames name check index seen items = .ok ()) :
    (items.map name).Nodup ∧ ∀ a ∈ items, name a ∉ seen := by
  induction items generalizing index seen with
  | nil => simp
  | cons a rest ih =>
    rw [checkNames] at passed
    cases here : check index seen a with
    | error err =>
      rw [here] at passed
      cases passed
    | ok done =>
      rw [here] at passed
      obtain ⟨distinct,others⟩ := ih passed
      refine ⟨List.nodup_cons.mpr ⟨?_,distinct⟩,?_⟩
      · intro again
        obtain ⟨b,member,same⟩ := List.mem_map.mp again
        exact others b member (by simp [same])
      · intro b member
        rcases List.mem_cons.mp member with rfl | later
        · exact new index seen b here
        · exact fun earlier => others b later (List.mem_cons_of_mem _ earlier)

omit [Platform F] [DecidableEq F] in
theorem normalizeDevices_nodup {input devices : List (Device F)} (normalized : normalizeDevices input = .ok devices) :
    (devices.map Device.deviceId).Nodup := by
  rw [normalizeDevices] at normalized
  cases checked : checkNames Device.deviceId checkDevice 0 [] input with
  | error err =>
    rw [checked] at normalized
    cases normalized
  | ok done =>
    rw [checked] at normalized
    cases normalized
    refine ((List.perm_insertionSort _ input).map _).nodup_iff.mpr (checkNames_nodup ?_ checked).1
    intro index seen device passed
    rw [checkDevice] at passed
    split_ifs at passed with empty repeated
    exact repeated

omit [LinearOrder S] [DecidableEq F] in
theorem accountAllocation_names (e : Engine F S) (reclaimed : List String) (ledgers : List (Ledger F))
    (allocation : Allocation F) :
    (accountAllocation e reclaimed ledgers allocation).map Ledger.name = ledgers.map Ledger.name := by
  have back (ledger : Ledger F) : (reclaim allocation.resources ledger).name = ledger.name := by
    cases held : allocation.resources <;> rfl
  have off (ids : List String) : (ids.foldl (fun ledgers id => onDevice id (charge e allocation.resources) ledgers)
      ledgers).map Ledger.name = ledgers.map Ledger.name := by
    induction ids generalizing ledgers with
    | nil => rfl
    | cons id ids ih =>
      rw [List.foldl_cons,ih]
      exact Keyed.modify_keys fun _ => rfl
  rw [accountAllocation]
  split_ifs with idle taken
  · rfl
  · cases allocation.deviceIds with
    | nil => rfl
    | cons id ids => exact Keyed.modify_keys back
  · exact off _

omit [LinearOrder S] [DecidableEq F] in
theorem buildDeviceStates_names (e : Engine F S) (snapshot : ClusterSnapshot F) (devices : List (Device F))
    (reclaimed : List String) :
    (buildDeviceStates e snapshot devices reclaimed).map Ledger.name = devices.map Device.deviceId := by
  have fold (allocations : List (Allocation F)) (ledgers : List (Ledger F)) :
      (allocations.foldl (accountAllocation e reclaimed) ledgers).map Ledger.name = ledgers.map Ledger.name := by
    induction allocations generalizing ledgers with
    | nil => rfl
    | cons allocation rest ih => rw [List.foldl_cons,ih,accountAllocation_names]
  rw [buildDeviceStates,fold,List.map_map]
  rfl

omit [LinearOrder S] [DecidableEq F] in
theorem prepare_ok {e : Engine F S} {prepared : Request F S} {units : List (PlacementUnit F)} {ledgers : List (Ledger F)}
    (so : prepare e request = .ok (prepared,units,ledgers)) :
    (ledgers.map Ledger.name).Nodup ∧ 0 < prepared.topK ∧ prepared.select = request.select := by
  obtain ⟨ordered,_,so⟩ := Loops.bind_eq_ok so
  obtain ⟨devices,normalized,so⟩ := Loops.bind_eq_ok so
  obtain ⟨adjustment,_,so⟩ := Loops.bind_eq_ok so
  cases so
  refine ⟨?_,?_,rfl⟩
  · rw [buildDeviceStates_names]
    exact (normalizeDevices_nodup normalized).sublist (List.filter_sublist.map _)
  · show 0 < if request.topK ≤ 0 then 1 else request.topK
    split_ifs with few
    · exact Int.one_pos
    · exact not_le.mp few

omit [LinearOrder S] [DecidableEq F] in
theorem prepare_select (e : Engine F S) (request : Request F S) (select : Option (SelectFunc F S)) :
    prepare e { request with select := select } =
      (prepare e request).map (fun (prepared,rest) => ({ prepared with select := select },rest)) := by
  simp only [prepare]
  cases normalizeUnits request.units with
  | error err => rfl
  | ok units => cases normalizeDevices request.snapshot.devices with
    | error err => rfl
    | ok devices =>
      show (normalizeLedgerAdjustment request.adjustment devices request.snapshot.allocations >>= _) =
        Except.map _ (normalizeLedgerAdjustment request.adjustment devices request.snapshot.allocations >>= _)
      cases normalizeLedgerAdjustment request.adjustment devices request.snapshot.allocations <;> rfl

omit [DecidableEq F] in
theorem naivePlace_select (e : Engine F S) (request : Request F S) (select : Option (SelectFunc F S))
    (units : List (PlacementUnit F)) (ledgers : List (Ledger F)) (result : Result F S) :
    naivePlace e { request with select := select } units ledgers result = naivePlace e request units ledgers result := by
  induction units generalizing ledgers result with
  | nil => rfl
  | cons unit units ih =>
    rw [naivePlace,naivePlace]
    simp only [ih]
    rfl

theorem evaluate_select (e : Engine F S) (request : Request F S) {select : Option (SelectFunc F S)}
    (best : select = none ∨ select = some takeFirst) :
    evaluate e { request with select := select } = naiveEvaluate e request := by
  rw [evaluate,naiveEvaluate,prepare_select]
  cases prepared : prepare e request with
  | error err => rfl
  | ok triple =>
    obtain ⟨later,units,ledgers⟩ := triple
    obtain ⟨names,positive,_⟩ := prepare_ok prepared
    have takes : TakesBest { later with select := select } := best.imp_right fun first => ⟨first,positive⟩
    have ledgers_eq : (ledgers.map (unevaluated (S := S))).map DeviceState.toLedger = ledgers := by
      rw [List.map_map]
      exact List.map_id' ledgers
    have placed := placeUnits_eq_naivePlace (e := e) (w := ⟨ledgers.map unevaluated,none,(none,none),0⟩) takes units {}
      (by rw [ledgers_eq]; exact names) (Or.inl rfl)
    rw [ledgers_eq,naivePlace_select] at placed
    exact congrArg Except.ok placed

/-- With the heap the engine selects what greedy placement selects that evaluates every device for every unit, stops
    where it stops and counts what it counts; so it does with a policy that takes the first of its shortlist. -/
theorem evaluate_eq_naive (e : Engine F S) (request : Request F S) :
    evaluate e { request with select := none } = naiveEvaluate e request ∧
      evaluate e { request with select := some takeFirst } = naiveEvaluate e request :=
  ⟨evaluate_select e request (Or.inl rfl),evaluate_select e request (Or.inr rfl)⟩

end Walks

end TgsRl.Candidates
