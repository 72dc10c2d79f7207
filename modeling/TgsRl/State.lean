import Mathlib.Data.List.AList
import Mathlib.Data.List.Sort
import TgsRl.Keyed
import TgsRl.Messages

/-!
The state the scheduler's `Store` owns: the cluster snapshot, intents, plan reservations,
transaction records and the provider projection, with the errors its operations return. A Go map is
an association list with distinct keys. An operation is a total function of this state and of one
clock reading, and leaves the state unchanged if it fails, unless its definition says otherwise.
Generation counters are natural numbers.
-/
namespace TgsRl.State
open Resources Messages

/-- A Go map. -/
abbrev Map (K V : Type) := AList (fun _ : K => V)

/-- The map without the entries that fail the test. -/
def Map.filter {K V : Type} (m : Map K V) (keep : K → V → Bool) : Map K V :=
  ⟨m.entries.filter (fun e => keep e.1 e.2),m.nodupKeys.sublist List.filter_sublist⟩

def Map.pairs {K V : Type} (m : Map K V) : List (K × V) := m.entries.map (fun e => (e.1,e.2))

def Map.values {K V : Type} (m : Map K V) : List V := m.entries.map (fun e => e.2)

def Map.mapValues {K V W : Type} (m : Map K V) (f : K → V → W) : Map K W :=
  ⟨m.entries.map (.map id f),m.nodupKeys.map₂ f m.entries⟩

section MapLemmas
variable {K V : Type} [DecidableEq K] {m : Map K V} {k : K} {v : V}

theorem Map.mem_entries_iff : (⟨k,v⟩ : Sigma fun _ : K => V) ∈ m.entries ↔ m.lookup k = some v :=
  (AList.mem_lookup_iff (s := m)).symm

theorem Map.mem_pairs_iff : (k,v) ∈ m.pairs ↔ m.lookup k = some v := by
  rw [← Map.mem_entries_iff]
  constructor
  · intro member
    obtain ⟨e,held,same⟩ := List.mem_map.mp member
    obtain ⟨rfl,rfl⟩ := Prod.mk.inj same
    exact held
  · intro held
    exact List.mem_map.mpr ⟨_,held,rfl⟩

theorem Map.mem_values_iff : v ∈ m.values ↔ ∃ k, m.lookup k = some v := by
  simp [Map.values,← Map.mem_entries_iff]

theorem Map.lookup_mapValues {W : Type} (f : K → V → W) : (m.mapValues f).lookup k = (m.lookup k).map (f k) :=
  List.dlookup_map₂ k

theorem Map.lookup_filter (keep : K → V → Bool) :
    (m.filter keep).lookup k = (m.lookup k).filter (keep k) := by
  apply Option.ext
  intro v
  rw [← Map.mem_entries_iff,Option.filter_eq_some_iff,← Map.mem_entries_iff]
  simp [Map.filter]

end MapLemmas

/-- The errors the state package declares; `plain` is an error without one. -/
inductive Sentinel where
  | plain | revisionConflict | revisionExhausted | invalidIntent | intentExpired | staleIntent | intentConflict
  | idempotencyConflict | intentNotFound | planRevisionConflict | planIntentConflict | planAlreadyReserved
  | planNotReserved | pendingUnitNotFound | insufficientResource | transactionNotFound | transactionConflict
  | transactionImmutable | transactionLocked
  deriving DecidableEq, Repr

def Sentinel.text : Sentinel → String
  | .plain => ""
  | .revisionConflict => "state: snapshot revision conflict"
  | .revisionExhausted => "state: snapshot revision exhausted"
  | .invalidIntent => "state: invalid scheduling intent"
  | .intentExpired => "state: scheduling intent expired"
  | .staleIntent => "state: stale scheduling intent"
  | .intentConflict => "state: scheduling intent version conflict"
  | .idempotencyConflict => "state: idempotency key already used"
  | .intentNotFound => "state: valid scheduling intent not found"
  | .planRevisionConflict => "state: plan snapshot revision conflict"
  | .planIntentConflict => "state: plan intent version conflict"
  | .planAlreadyReserved => "state: plan already reserved"
  | .planNotReserved => "state: plan is not reserved"
  | .pendingUnitNotFound => "state: pending unit not found"
  | .insufficientResource => "state: insufficient allocatable resources"
  | .transactionNotFound => "state: transaction not found"
  | .transactionConflict => "state: transaction conflict"
  | .transactionImmutable => "state: transaction is immutable"
  | .transactionLocked => "state: transaction lock conflict"

/-- An error: the declared error it wraps and its whole message. -/
structure Err where
  sentinel : Sentinel
  message : String
  deriving DecidableEq, Repr

def Err.of (s : Sentinel) : Err := ⟨s,s.text⟩

/-- `fmt.Errorf("%w: ...")`. -/
def Err.wrap (s : Sentinel) (detail : String) : Err := ⟨s,s.text ++ ": " ++ detail⟩

def Err.new (message : String) : Err := ⟨.plain,message⟩

/-- The verb `%q`, for names without characters that need an escape. -/
def quote (s : String) : String := "\"" ++ s ++ "\""

theorem error_of_any {α : Type} {result : Except Err α} {kind : Sentinel}
    (fails : (match result with | .error err => decide (err.sentinel = kind) | .ok _ => false) = true) :
    ∃ err, result = .error err ∧ err.sentinel = kind := by
  cases result with
  | error err => exact ⟨err,rfl,by simpa using fails⟩
  | ok value => cases fails

structure IntentKey where
  executionID : String
  stageID : String
  deriving DecidableEq, Repr

/-- `intentIdentity` of `store.go`. -/
structure IntentIdentity (F : Type) where
  key : IntentKey
  version : UInt64
  intent : SchedulingIntent F
  deriving DecidableEq, Repr

/-- `planReservation` of `store.go`. -/
structure PlanReservation (F : Type) where
  plan : PlacementPlan F
  beforeSnapshot : Option (ClusterSnapshot F)
  deviceAllocatable : Map String (ResourceVector F)
  pendingUnits : List (PendingUnit F)
  allocationIDs : List String
  finalized : Bool
  succeeded : Bool
  retainedAllocationIDs : List String

/-- `other` is any other text, the empty one among them. -/
inductive TransactionState where
  | unknown | proposed | reserved | prepared | applying | committed | prepareFailed | applyFailed | compensating
  | aborted | degraded | other (text : String)
  deriving DecidableEq, Repr, Inhabited

def TransactionState.name : TransactionState → String
  | .unknown => "unknown"
  | .proposed => "proposed"
  | .reserved => "reserved"
  | .prepared => "prepared"
  | .applying => "applying"
  | .committed => "committed"
  | .prepareFailed => "prepare_failed"
  | .applyFailed => "apply_failed"
  | .compensating => "compensating"
  | .aborted => "aborted"
  | .degraded => "degraded"
  | .other text => text

inductive EffectStatus where
  | unknown | pending | succeeded | failed | rolledBack | degraded
  deriving DecidableEq, Repr

/-- `unset` is the empty class of a new record. -/
inductive FailureClass where
  | unset | unknown | provider | compensation | infrastructure
  deriving DecidableEq, Repr, Inhabited

structure TransactionStep where
  stepIndex : Int
  actionID : String
  idempotencyKey : String
  status : EffectStatus
  revision : UInt64
  errorCode : String
  errorMessage : String
  compensationAttempted : Bool
  compensated : Bool
  deriving DecidableEq, Repr

structure Receipt where
  phase : String
  observedRevision : UInt64
  steps : List TransactionStep
  errorCode : String
  errorMessage : String
  preparedAt : Option Timestamp
  updatedAt : Option Timestamp
  deriving DecidableEq, Repr

structure TransactionRecord (F : Type) where
  transactionID : String
  planID : String
  plan : PlacementPlan F
  generation : UInt64
  providerGeneration : UInt64
  state : TransactionState
  reservationHeld : Bool
  terminal : Bool
  failureClass : FailureClass
  failureReason : String
  affectedAllocationIDs : List String
  providerReceipt : Option Receipt
  createdAt : Option Timestamp
  updatedAt : Option Timestamp
  finalizedAt : Option Timestamp
  finalizedSucceeded : Bool
  retainedAllocationIDs : List String
  deriving DecidableEq, Repr, Inhabited

structure ProviderResourceCursor where
  revision : UInt64
  eventID : String
  deriving DecidableEq, Repr

structure ProviderSandboxCursor where
  generation : UInt64
  providerRevision : UInt64
  eventID : String
  idempotencyKey : String
  occurredAt : Int
  seenEventIDs : List String
  seenIdempotency : List String
  deriving DecidableEq, Repr

structure ProviderProjectionState (F : Type) where
  resourceCursors : Map String ProviderResourceCursor
  sandboxes : Map String (Sandbox F)
  sandboxCursors : Map String ProviderSandboxCursor

/-- The durable state of a `Store`; the clock is an argument of each operation. -/
structure Store (F : Type) where
  snapshot : ClusterSnapshot F
  intents : Map IntentKey (SchedulingIntent F)
  providerProjection : ProviderProjectionState F
  idempotencyKeys : Map String (IntentIdentity F)
  reservations : Map String (PlanReservation F)
  transactions : Map String (TransactionRecord F)

/-- `NewStore` from an initial snapshot. -/
def newStore {F : Type} (initial : ClusterSnapshot F) : Store F where
  snapshot := initial
  intents := ∅
  providerProjection := ⟨∅,∅,∅⟩
  idempotencyKeys := ∅
  reservations := ∅
  transactions := ∅

variable {F : Type}

def maxUint64 : UInt64 := 18446744073709551615

def snapshotID (revision : UInt64) : String := "snapshot-" ++ toString revision

def findDevice (devices : List (Device F)) (deviceID : String) : Option (Device F) :=
  Keyed.find Device.deviceId deviceID devices

/-- The allocation `findAllocationMutable` and `findAllocationInSnapshot` point to. -/
def findAllocation (allocations : List (Allocation F)) (allocationID : String) : Option (Allocation F) :=
  Keyed.find Allocation.allocationId allocationID allocations

/-- The error of `findAllocationMutable` and `findAllocationInSnapshot`. -/
def allocationMissing (allocationID : String) : Err :=
  .wrap .pendingUnitNotFound ("allocation " ++ quote allocationID)

/-- A write through the pointer `findAllocationMutable` returns. -/
def setAllocation (allocationID : String) (f : Allocation F → Allocation F) (working : ClusterSnapshot F) :
    ClusterSnapshot F :=
  { working with allocations := Keyed.modify Allocation.allocationId allocationID f working.allocations }

/-- `removeAllocationsByID` on the allocations of a snapshot. -/
def removeAllocationsByID (working : ClusterSnapshot F) (ids : List String) : ClusterSnapshot F :=
  { working with allocations := Keyed.remove Allocation.allocationId ids working.allocations }

/-- A write to the device of each given name, in order. -/
def setDevices (deviceIDs : List String) (f : Device F → Device F) (working : ClusterSnapshot F) : ClusterSnapshot F :=
  { working with devices := Keyed.modifyAll Device.deviceId deviceIDs f working.devices }

/-- `subtractResources` on a device. -/
def consume (resources : ResourceVector F) [Platform F] (device : Device F) : Device F :=
  { device with allocatable := subtractResources device.allocatable resources }

/-- `addResourcesCapped` on a device. -/
def giveBack (resources : ResourceVector F) [Platform F] (device : Device F) : Device F :=
  { device with allocatable := addResourcesCapped device.allocatable resources device.capacity }

/-- The resources of an allocation returned to the devices it names. -/
def returnAllocation [Platform F] (allocation : Allocation F) (working : ClusterSnapshot F) : ClusterSnapshot F :=
  setDevices allocation.deviceIds (giveBack (orEmpty allocation.resources)) working

/-- The allocations that meet the test leave the snapshot and their resources return to their devices. -/
def releaseWhere [Platform F] (drop : Allocation F → Bool) (working : ClusterSnapshot F) : ClusterSnapshot F :=
  let returned := (working.allocations.filter drop).foldl (fun working allocation => returnAllocation allocation working)
    working
  { returned with allocations := working.allocations.filter (fun allocation => !drop allocation) }

def firstNonEmpty (left right : String) : String := if left ≠ "" then left else right

def firstKnownDataKind (left right : DataKind) : DataKind := if left ≠ .unknown then left else right

def sortedStrings (items : List String) : List String := items.insertionSort (· ≤ ·)

/-- The sorted values of the set of the given strings. -/
def sortedSetValues (items : List String) : List String := sortedStrings items.dedup

/-- The order of `sortPendingUnits`: priority first, then age, then name. -/
def pendingBefore (left right : PendingUnit F) : Prop :=
  left.priority > right.priority ∨ left.priority = right.priority ∧
    (asTime left.queuedAt < asTime right.queuedAt ∨ asTime left.queuedAt = asTime right.queuedAt ∧
      left.pendingUnitId ≤ right.pendingUnitId)

instance (left right : PendingUnit F) : Decidable (pendingBefore left right) :=
  inferInstanceAs (Decidable (_ ∨ _ ∧ (_ ∨ _ ∧ _)))

def sortPendingUnits (pending : List (PendingUnit F)) : List (PendingUnit F) := pending.insertionSort pendingBefore

/-- `commitSnapshotLocked`: the next revision, its name and the time of the commit. -/
def Store.commitSnapshot (s : Store F) (working : ClusterSnapshot F) (now : Int) : Store F :=
  { s with snapshot := { working with
      revision := s.snapshot.revision + 1
      snapshotId := snapshotID (s.snapshot.revision + 1)
      observedAt := some (Timestamp.new now) } }

/-- A commit unless the working snapshot equals the current one. -/
def Store.commitChanged [DecidableEq F] (s : Store F) (working : ClusterSnapshot F) (now : Int) : Store F :=
  if working = s.snapshot then s else s.commitSnapshot working now

/-- `restoreDurableStateLocked`: every durable field is replaced. -/
def Store.restoreDurableState (s durable : Store F) : Store F :=
  { s with
    snapshot := durable.snapshot
    intents := durable.intents
    providerProjection := durable.providerProjection
    idempotencyKeys := durable.idempotencyKeys
    reservations := durable.reservations
    transactions := durable.transactions }

def Store.setReservation (s : Store F) (planID : String) (reservation : PlanReservation F) : Store F :=
  { s with reservations := s.reservations.insert planID reservation }

def Store.setTransaction (s : Store F) (transactionID : String) (record : TransactionRecord F) : Store F :=
  { s with transactions := s.transactions.insert transactionID record }

section Commits
variable (s : Store F) (working : ClusterSnapshot F) (now : Int)

@[simp] theorem commitSnapshot_devices : (s.commitSnapshot working now).snapshot.devices = working.devices := rfl
@[simp] theorem commitSnapshot_allocations :
    (s.commitSnapshot working now).snapshot.allocations = working.allocations := rfl
@[simp] theorem commitSnapshot_reservations : (s.commitSnapshot working now).reservations = s.reservations := rfl
@[simp] theorem commitSnapshot_transactions : (s.commitSnapshot working now).transactions = s.transactions := rfl

variable [DecidableEq F]

@[simp] theorem commitChanged_devices : (s.commitChanged working now).snapshot.devices = working.devices := by
  unfold Store.commitChanged
  split
  · rename_i same; rw [same]
  · rfl

@[simp] theorem commitChanged_allocations :
    (s.commitChanged working now).snapshot.allocations = working.allocations := by
  unfold Store.commitChanged
  split
  · rename_i same; rw [same]
  · rfl

@[simp] theorem commitChanged_reservations : (s.commitChanged working now).reservations = s.reservations := by
  unfold Store.commitChanged; split <;> rfl

@[simp] theorem commitChanged_transactions : (s.commitChanged working now).transactions = s.transactions := by
  unfold Store.commitChanged; split <;> rfl

end Commits

end TgsRl.State
