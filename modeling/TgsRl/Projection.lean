import TgsRl.Intents

/-!
What providers report, projected into the Store, as in `provider_projection.go`. Snapshots and
resource events replace devices while the Store keeps its own allocations and pending units; an
authoritative list replaces the projected sandboxes; sandbox events and reconciliation remove the
allocations whose sandboxes have ended and return their resources.
-/
namespace TgsRl.Projection
open Resources Messages State Intents

variable {F : Type}

/-- `acceptResourceCursorLocked`: the projection with the event's cursor, unless the event is stale or repeated. -/
def acceptResourceCursor (projected : ProviderProjectionState F) (provider : String) (revision : UInt64)
    (eventID : String) : Option (ProviderProjectionState F) :=
  let accepted : ProviderProjectionState F :=
    { projected with resourceCursors := projected.resourceCursors.insert provider ⟨revision,eventID⟩ }
  match projected.resourceCursors.lookup provider with
  | none => some accepted
  | some current =>
    if revision < current.revision then none
    else if revision = current.revision ∧ eventID ≠ "" ∧ eventID = current.eventID then none
    else some accepted

/-- The provider's snapshot with the Store's own allocations and pending units. -/
def adoptSnapshot (current reported : ClusterSnapshot F) : ClusterSnapshot F :=
  { reported with allocations := current.allocations, pendingUnits := current.pendingUnits }

def bootstrapProviderSnapshot [DecidableEq F] (s : Store F) (provider : String) (snapshot : ClusterSnapshot F)
    (now : Int) : Store F × Bool :=
  match acceptResourceCursor s.providerProjection provider snapshot.revision "bootstrap-snapshot" with
  | none => (s,false)
  | some projected =>
    let accepted := { s with providerProjection := projected }
    let working := adoptSnapshot s.snapshot snapshot
    (accepted.commitChanged working now,decide (working ≠ s.snapshot))

/-- The first item of the key replaced, or the item added at the end. -/
def upsert {α : Type} (key : α → String) (item : α) (items : List α) : List α :=
  if key item ∈ items.map key then Keyed.modify key (key item) (fun _ => item) items else items ++ [item]

/-- The snapshot a resource event leads to; `none` for an event of no known type. -/
def projectResourceEvent (snapshot : ClusterSnapshot F) : ResourceEventBody F →
    Except Err (Option (ClusterSnapshot F))
  | .unknown => .ok none
  | .snapshotPublished none => .error (.new "state: snapshot event missing snapshot")
  | .snapshotPublished (some reported) => .ok (some (adoptSnapshot snapshot reported))
  | .deviceChanged none => .error (.new "state: device event missing device")
  | .deviceChanged (some device) =>
    .ok (some { snapshot with devices := upsert Device.deviceId device snapshot.devices })
  | .allocationChanged none => .error (.new "state: allocation event missing allocation")
  | .allocationChanged (some allocation) =>
    .ok (some { snapshot with allocations := upsert Allocation.allocationId allocation snapshot.allocations })
  | .pendingUnitChanged none => .error (.new "state: pending unit event missing pending unit")
  | .pendingUnitChanged (some unit) =>
    .ok (some { snapshot with pendingUnits := upsert PendingUnit.pendingUnitId unit snapshot.pendingUnits })
  | .capabilityRefreshed none => .error (.new "state: capability event missing capabilities")
  | .capabilityRefreshed (some capabilities) =>
    .ok (some { snapshot with devices := snapshot.devices.map (fun device =>
      { device with capabilities := some capabilities }) })

/-- An accepted event moves the provider's cursor even when it then fails or changes nothing. -/
def applyProviderResourceEvent [DecidableEq F] (s : Store F) (event : ResourceEvent F) (now : Int) :
    Store F × Bool × Option Err :=
  match acceptResourceCursor s.providerProjection event.provider event.providerRevision event.eventId with
  | none => (s,false,none)
  | some projected =>
    let accepted := { s with providerProjection := projected }
    match projectResourceEvent s.snapshot event.body with
    | .error err => (accepted,false,some err)
    | .ok none => (accepted,false,none)
    | .ok (some working) => (accepted.commitChanged working now,decide (working ≠ s.snapshot),none)

def timestampTime (timestamp : Option Timestamp) : Int :=
  match timestamp with
  | none => zeroTime
  | some t => if t.valid then t.asTime else zeroTime

/-- The rank of a lifecycle state, for the states that have one. -/
def runtimeRank : RuntimeState → Option Nat
  | .requested => some 1
  | .bound => some 2
  | .running => some 3
  | .paused => some 4
  | .sleeping => some 5
  | .failed => some 6
  | .terminated => some 7
  | _ => none

def runtimeStateRegresses (current next : RuntimeState) : Bool :=
  if current = next then false
  else if (current = .paused ∨ current = .sleeping) ∧ next = .running then false
  else match runtimeRank current,runtimeRank next with
    | none,_ => false
    | some _,none => true
    | some currentRank,some nextRank => decide (nextRank < currentRank)

def duplicateSandboxEvent (current : ProviderSandboxCursor) (event : SandboxEvent F) : Bool :=
  if event.eventId ≠ "" then
    decide (event.eventId = current.eventID) || current.seenEventIDs.contains event.eventId
  else if event.idempotencyKey = "" then false
  else decide (event.idempotencyKey = current.idempotencyKey) || current.seenIdempotency.contains event.idempotencyKey

/-- The name added to the set, unless it is empty or there already. -/
def rememberName (name : String) (seen : List String) : List String :=
  if name = "" ∨ name ∈ seen then seen else seen ++ [name]

def rememberSandboxCursorIdentity (cursor : ProviderSandboxCursor) : ProviderSandboxCursor :=
  { cursor with
    seenEventIDs := rememberName cursor.eventID cursor.seenEventIDs
    seenIdempotency := rememberName cursor.idempotencyKey cursor.seenIdempotency }

def acceptSameGenerationSandboxEvent (current : ProviderSandboxCursor) (sandbox : Option (Sandbox F))
    (event : SandboxEvent F) : Bool :=
  let byTime : Bool :=
    if timestampTime event.occurredAt = zeroTime ∨ timestampTime event.occurredAt ≤ current.occurredAt then false
    else match sandbox with
      | none => true
      | some sandbox => !runtimeStateRegresses sandbox.state event.state
  if event.providerRevision > 0 then
    if current.providerRevision = 0 then true
    else if event.providerRevision < current.providerRevision then false
    else if event.providerRevision > current.providerRevision then true
    else byTime
  else byTime

/-- The cursor after an accepted event. -/
def nextSandboxCursor (current : Option ProviderSandboxCursor) (event : SandboxEvent F) : ProviderSandboxCursor :=
  let same := current.filter (fun current => decide (event.generation = current.generation))
  rememberSandboxCursorIdentity
    { generation := event.generation
      providerRevision := match same with
        | some current => if event.providerRevision = 0 then current.providerRevision else event.providerRevision
        | none => event.providerRevision
      eventID := event.eventId
      idempotencyKey := event.idempotencyKey
      occurredAt := timestampTime event.occurredAt
      seenEventIDs := (same.map ProviderSandboxCursor.seenEventIDs).getD []
      seenIdempotency := (same.map ProviderSandboxCursor.seenIdempotency).getD [] }

def acceptSandboxCursor (projected : ProviderProjectionState F) (sandbox : Option (Sandbox F))
    (event : SandboxEvent F) : Option (ProviderProjectionState F) :=
  let current := projected.sandboxCursors.lookup event.sandboxId
  let accepted : ProviderProjectionState F := { projected with
    sandboxCursors := projected.sandboxCursors.insert event.sandboxId (nextSandboxCursor current event) }
  match current with
  | none => some accepted
  | some current =>
    if event.generation < current.generation then none
    else if duplicateSandboxEvent current event then none
    else if event.generation = current.generation ∧
        acceptSameGenerationSandboxEvent current sandbox event = false then none
    else some accepted

def terminalRuntimeState (state : RuntimeState) : Bool := decide (state = .terminated) || decide (state = .failed)

def allocationMatchesTerminalEvent (allocation : Allocation F) (event : SandboxEvent F) : Bool :=
  if allocation.generation ≠ event.generation then false
  else if allocation.sandboxId ≠ "" ∨ event.sandboxId ≠ "" then
    decide (allocation.sandboxId ≠ "") && decide (allocation.sandboxId = event.sandboxId)
  else match event.binding with
    | none => false
    | some binding => decide (allocation.bindingId ≠ "") && decide (allocation.bindingId = binding.bindingId)

def sandboxMatchesAllocation (allocation : Allocation F) (sandbox : Option (Sandbox F)) : Bool :=
  match sandbox with
  | none => false
  | some sandbox =>
    if allocation.generation ≠ sandbox.generation then false
    else if allocation.sandboxId ≠ "" then decide (allocation.sandboxId = sandbox.sandboxId)
    else match sandbox.binding with
      | none => false
      | some binding => decide (allocation.bindingId ≠ "") && decide (allocation.bindingId = binding.bindingId)

def sandboxTerminal (sandbox : Option (Sandbox F)) : Bool :=
  match sandbox with
  | none => false
  | some sandbox => terminalRuntimeState sandbox.state

def allRunAllocationsTerminal (allocations : List (Allocation F)) (observed : Map String (Sandbox F))
    (current : SandboxEvent F) : Bool :=
  let ofRun := allocations.filter (fun allocation => decide (allocation.runId = current.runId))
  !ofRun.isEmpty && ofRun.all (fun allocation => allocationMatchesTerminalEvent allocation current ||
    (sandboxMatchesAllocation allocation (observed.lookup allocation.sandboxId) &&
      sandboxTerminal (observed.lookup allocation.sandboxId)))

/-- The event ends its whole run: it is terminal, names an allocation of the run, and every other
    allocation of the run has ended too. -/
def eventRetiresRun (observed : Map String (Sandbox F)) (working : ClusterSnapshot F) (event : SandboxEvent F) : Bool :=
  terminalRuntimeState event.state && decide (event.runId ≠ "") && decide (event.sandboxId ≠ "") &&
    decide (event.generation ≠ 0) &&
    working.allocations.any (fun allocation =>
      decide (allocation.runId = event.runId) && allocationMatchesTerminalEvent allocation event) &&
    (!hasRunRetirementDisposition event.semanticContext || retiresRun event) &&
    allRunAllocationsTerminal working.allocations observed event

/-- The snapshot without the allocations and pending units of a run. -/
def retireRun [Platform F] (runID : String) (working : ClusterSnapshot F) : ClusterSnapshot F :=
  let released := releaseWhere (fun allocation => decide (allocation.runId = runID)) working
  { released with pendingUnits := released.pendingUnits.filter (fun unit => decide (unit.runId ≠ runID)) }

/-- The sandbox an event describes. -/
def sandboxOfEvent [Platform F] (event : SandboxEvent F) : Sandbox F where
  sandboxId := event.sandboxId
  runId := event.runId
  jobId := event.jobId
  traceId := event.traceId
  state := event.state
  generation := event.generation
  binding := event.binding
  share := event.share.getD Platform.zero
  priority := event.priority.getD 0
  safePoint := event.safePoint.getD false
  offloaded := event.offloaded.getD false
  observedAt := event.occurredAt
  dataKind := event.dataKind
  semanticContext := event.semanticContext
  stateChangedAt := none
  lastConfirmedAt := none
  rest := ""

/-- A known sandbox with what an event says about it. -/
def mergeSandboxEvent (current : Sandbox F) (event : SandboxEvent F) : Sandbox F :=
  { current with
    runId := if event.runId ≠ "" then event.runId else current.runId
    jobId := if event.jobId ≠ "" then event.jobId else current.jobId
    traceId := if event.traceId ≠ "" then event.traceId else current.traceId
    state := event.state
    generation := event.generation
    binding := event.binding.orElse (fun _ => current.binding)
    safePoint := event.safePoint.getD current.safePoint
    share := event.share.getD current.share
    priority := event.priority.getD current.priority
    offloaded := event.offloaded.getD current.offloaded
    observedAt := event.occurredAt
    dataKind := event.dataKind
    semanticContext := match event.semanticContext with
      | some envelope => some envelope
      | none => if event.generation ≠ current.generation then none else current.semanticContext }

def effectiveSandboxStateChangedAt (sandbox : Sandbox F) : Option Timestamp :=
  sandbox.stateChangedAt.orElse (fun _ => sandbox.observedAt)

def stampSandboxConfirmation (current : Option (Sandbox F)) (next : Sandbox F) (confirmedAt : Int) : Sandbox F :=
  let fresh := some (Timestamp.new confirmedAt)
  { next with
    lastConfirmedAt := fresh
    stateChangedAt := match current with
      | none => fresh
      | some current =>
        if current.generation ≠ next.generation ∨ current.state ≠ next.state then fresh
        else effectiveSandboxStateChangedAt current }

def applyProviderSandboxEvent [Platform F] [DecidableEq F] (s : Store F) (event : SandboxEvent F) (now : Int) :
    Store F × Bool × Option Err :=
  if event.sandboxId = "" then (s,false,some (.new "state: sandbox event missing sandbox_id"))
  else if (event.occurredAt.map Timestamp.valid).getD true = false then
    (s,false,some (.new "state: sandbox event has invalid occurred_at"))
  else
    let current := s.providerProjection.sandboxes.lookup event.sandboxId
    match acceptSandboxCursor s.providerProjection current event with
    | none => (s,false,none)
    | some projected =>
      let accepted := { s with providerProjection := projected }
      let merged := match current with
        | none => sandboxOfEvent event
        | some current => mergeSandboxEvent current event
      let next := stampSandboxConfirmation current merged now
      let observed : Store F := { accepted with
        providerProjection := { projected with sandboxes := projected.sandboxes.insert event.sandboxId next } }
      if eventRetiresRun s.providerProjection.sandboxes s.snapshot event then
        let retired := { observed with
          intents := s.intents.filter (fun _ intent => decide (intent.runId ≠ event.runId)) }
        (retired.commitSnapshot (retireRun event.runId s.snapshot) now,true,none)
      else if current = some next then (accepted,false,none)
      else (observed.commitSnapshot s.snapshot now,true,none)

def setAttribute (attributes : List (String × String)) (key value : String) : List (String × String) :=
  attributes.filter (fun entry => decide (entry.1 < key)) ++ [(key,value)] ++
    attributes.filter (fun entry => decide (key < entry.1))

def mergeDurableSandboxDisposition (current : Option (Sandbox F)) (incoming : Sandbox F) : Sandbox F :=
  match current with
  | none => incoming
  | some current =>
    if current.generation ≠ incoming.generation ∨ current.runId = "" ∨ current.runId ≠ incoming.runId ∨
        terminalRuntimeState current.state = false ∨ terminalRuntimeState incoming.state = false ∨
        hasRunRetirementDisposition incoming.semanticContext = true ∨
        hasRunRetirementDisposition current.semanticContext = false then incoming
    else
      let envelope := incoming.semanticContext.getD ⟨[],""⟩
      let disposition := ((current.semanticContext.map SemanticEnvelope.attributes).getD []).lookup
        runRetirementAttribute
      { incoming with semanticContext := some { envelope with
          attributes := setAttribute envelope.attributes runRetirementAttribute (disposition.getD "") } }

def acceptSandboxBootstrap (current : ProviderSandboxCursor) (sandbox : Option (Sandbox F)) (incoming : Sandbox F) :
    Bool :=
  if incoming.generation < current.generation then false
  else if incoming.generation > current.generation then true
  else if timestampTime incoming.observedAt = zeroTime ∨ timestampTime incoming.observedAt ≤ current.occurredAt then false
  else match sandbox with
    | none => true
    | some sandbox => !runtimeStateRegresses sandbox.state incoming.state

/-- The cursor a listed sandbox is compared with; a projected sandbox without one stands for its own. -/
def bootstrapCursor (projected : ProviderProjectionState F) (sandboxID : String) : Option ProviderSandboxCursor :=
  match projected.sandboxCursors.lookup sandboxID with
  | some cursor => some cursor
  | none => (projected.sandboxes.lookup sandboxID).map (fun current =>
      ⟨current.generation,0,"","",timestampTime current.observedAt,[],[]⟩)

/-- The list's word about a sandbox is taken. -/
def bootstrapTakes (projected : ProviderProjectionState F) (sandbox : Sandbox F) : Bool :=
  match bootstrapCursor projected sandbox.sandboxId with
  | none => true
  | some cursor => acceptSandboxBootstrap cursor (projected.sandboxes.lookup sandbox.sandboxId) sandbox

/-- The cursor after a listed sandbox is taken; a new sandbox or generation starts without a provider revision. -/
def bootstrappedCursor (cursor : Option ProviderSandboxCursor) (sandbox : Sandbox F) : ProviderSandboxCursor :=
  let fresh : ProviderSandboxCursor := ⟨sandbox.generation,0,"bootstrap-sandbox","",0,[],[]⟩
  let kept := match cursor with
    | none => fresh
    | some cursor => if sandbox.generation > cursor.generation then fresh else cursor
  rememberSandboxCursorIdentity { kept with occurredAt := timestampTime sandbox.observedAt }

/-- The index that is being built from an authoritative list. -/
structure SandboxIndex (F : Type) where
  sandboxes : Map String (Sandbox F)
  cursors : Map String ProviderSandboxCursor

/-- One iteration of the loop of `ReplaceProjectedSandboxes`. -/
def indexSandbox (projected : ProviderProjectionState F) (confirmedAt : Int) (next : SandboxIndex F)
    (sandbox : Sandbox F) : Except Err (SandboxIndex F) :=
  if sandbox.sandboxId = "" then .error (.new "state: sandbox bootstrap requires sandbox_id")
  else if (sandbox.observedAt.map Timestamp.valid).getD true = false then
    .error (.new "state: sandbox bootstrap has invalid observed_at")
  else
    let current := projected.sandboxes.lookup sandbox.sandboxId
    if bootstrapTakes projected sandbox = false then
      match current with
      | none => .ok next
      | some current => .ok { next with sandboxes := next.sandboxes.insert sandbox.sandboxId current }
    else
      let stamped := stampSandboxConfirmation current (mergeDurableSandboxDisposition current sandbox) confirmedAt
      .ok ⟨next.sandboxes.insert sandbox.sandboxId stamped,next.cursors.insert sandbox.sandboxId
        (bootstrappedCursor (bootstrapCursor projected sandbox.sandboxId) sandbox)⟩

def equalProjectedSandboxes [DecidableEq F] (left right : Map String (Sandbox F)) : Bool :=
  decide (left.entries.length = right.entries.length) &&
    left.entries.all (fun entry => decide (right.lookup entry.1 = some entry.2))

/-- The cursors of sandboxes that are not listed stay; the clock is read at most once. -/
def replaceProjectedSandboxes [DecidableEq F] (s : Store F) (sandboxes : List (Sandbox F)) (now : Int) :
    Except Err (Store F × Bool) := do
  let next ← sandboxes.foldlM (indexSandbox s.providerProjection now) ⟨∅,s.providerProjection.sandboxCursors⟩
  if equalProjectedSandboxes s.providerProjection.sandboxes next.sandboxes then
    .ok ({ s with providerProjection := { s.providerProjection with sandboxCursors := next.cursors } },false)
  else
    .ok ({ s with providerProjection := { s.providerProjection with
      sandboxes := next.sandboxes, sandboxCursors := next.cursors } },true)

def allocationExpired (allocation : Allocation F) (now : Int) : Bool :=
  match allocation.expiresAt with
  | none => false
  | some expiresAt => expiresAt.valid && decide (expiresAt.asTime ≤ now)

/-- The event `allRunAllocationsTerminal` is asked with when no event has happened. -/
def runProbe (runID : String) : SandboxEvent F :=
  ⟨"","",runID,"","",0,.unknown,none,none,none,.unknown,none,0,"",none,none,none⟩

/-- The sandboxes as known to the Store and as listed now. -/
structure Inventory (F : Type) where
  live : Map String (Sandbox F)
  observed : Map String (Sandbox F)

def takeInventory (known : Map String (Sandbox F)) (sandboxes : List (Sandbox F)) : Inventory F :=
  sandboxes.foldl (fun inventory sandbox =>
    if sandbox.sandboxId = "" then inventory
    else ⟨inventory.live.insert sandbox.sandboxId sandbox,inventory.observed.insert sandbox.sandboxId
      (mergeDurableSandboxDisposition (inventory.observed.lookup sandbox.sandboxId) sandbox)⟩) ⟨∅,known⟩

/-- The runs some ended sandbox asks to retire. -/
def retirementRequestedRuns (inventory : Inventory F) : List String :=
  (inventory.observed.values.filter (fun sandbox => terminalRuntimeState sandbox.state &&
    decide (sandbox.runId ≠ "") && envelopeRetiresRun sandbox.semanticContext)).map Sandbox.runId

/-- The runs some ended sandbox says are not retired. -/
def nonRetiredRuns (inventory : Inventory F) : List String :=
  (inventory.observed.values.filter (fun sandbox => terminalRuntimeState sandbox.state &&
    decide (sandbox.runId ≠ "") && !envelopeRetiresRun sandbox.semanticContext &&
    hasRunRetirementDisposition sandbox.semanticContext)).map Sandbox.runId

def retiredRuns (allocations : List (Allocation F)) (inventory : Inventory F) : List String :=
  ((allocations.map Allocation.runId).filter (fun runID => decide (runID ≠ ""))).filter (fun runID =>
    allRunAllocationsTerminal allocations inventory.observed (runProbe runID) &&
      ((retirementRequestedRuns inventory).contains runID || !(nonRetiredRuns inventory).contains runID))

/-- The provider no longer holds the allocation: its sandbox has ended, or it is gone and the allocation expired. -/
def providerReleased (inventory : Inventory F) (now : Int) (allocation : Allocation F) : Bool :=
  let sandbox := inventory.live.lookup allocation.sandboxId
  sandboxMatchesAllocation allocation sandbox && sandboxTerminal sandbox ||
    sandbox.isNone && allocationExpired allocation now

/-- The allocation leaves the ledger in a reconciliation. -/
def reconcileDrops (inventory : Inventory F) (retired : List String) (now : Int) (allocation : Allocation F) : Bool :=
  -- A run whose retirement is requested but not complete keeps every allocation.
  if (retirementRequestedRuns inventory).contains allocation.runId && !retired.contains allocation.runId then false
  else retired.contains allocation.runId || providerReleased inventory now allocation

def allocationHasExplicitReleaseDisposition (allocation : Allocation F) (observed : Map String (Sandbox F)) : Bool :=
  match observed.lookup allocation.sandboxId with
  | none => false
  | some sandbox => sandboxMatchesAllocation allocation (some sandbox) && terminalRuntimeState sandbox.state &&
    hasRunRetirementDisposition sandbox.semanticContext && !envelopeRetiresRun sandbox.semanticContext

/-- A pending unit in place of an allocation the provider has released. -/
def requeuedUnit (intent : SchedulingIntent F) (allocation : Allocation F) (now : Int) : PendingUnit F where
  pendingUnitId := allocation.pendingUnitId
  executionId := allocation.executionId
  stageId := allocation.stageId
  intentVersion := allocation.intentVersion
  jobId := allocation.jobId
  requestedResources := allocation.resources
  requiredCapabilities := intent.requiredCapabilities
  priority := allocation.priority.getD intent.priority
  queuedAt := some (Timestamp.new now)
  attempt := 0
  runId := allocation.runId
  traceId := allocation.traceId
  dataKind := allocation.dataKind
  runtimeUnitId := allocation.runtimeUnitId

def requeueAllocation (intents : Map IntentKey (SchedulingIntent F)) (now : Int) (snapshot : ClusterSnapshot F)
    (allocation : Allocation F) : ClusterSnapshot F :=
  match intents.lookup ⟨allocation.executionId,allocation.stageId⟩ with
  | none => snapshot
  | some intent =>
    if intent.version ≠ allocation.intentVersion ∨ asTime intent.validUntil ≤ now then snapshot
    else if snapshot.pendingUnits.any (fun unit => decide (unit.pendingUnitId = allocation.pendingUnitId)) then snapshot
    else
      let current := liveAllocationCount snapshot.allocations intent +
        UInt32.ofNat (snapshot.pendingUnits.countP (fun unit => decide (unit.executionId = intent.executionId) &&
          decide (unit.stageId = intent.stageId) && decide (unit.intentVersion = intent.version)))
      if current ≥ intent.unitCount then snapshot
      else { snapshot with
        pendingUnits := sortPendingUnits (snapshot.pendingUnits ++ [requeuedUnit intent allocation now]) }

def reconcileProviderSandboxes [Platform F] (s : Store F) (sandboxes : List (Sandbox F)) (now : Int) :
    Store F × Bool :=
  let inventory := takeInventory s.providerProjection.sandboxes sandboxes
  let retired := retiredRuns s.snapshot.allocations inventory
  let drops := reconcileDrops inventory retired now
  let released := releaseWhere drops s.snapshot
  let retryCandidates := s.snapshot.allocations.filter (fun allocation => drops allocation &&
    !retired.contains allocation.runId && !allocationHasExplicitReleaseDisposition allocation inventory.observed)
  let requeued := retryCandidates.foldl (requeueAllocation s.intents now) released
  let working := { requeued with
    pendingUnits := requeued.pendingUnits.filter (fun unit => !retired.contains unit.runId) }
  let changed := s.snapshot.allocations.any drops ||
    s.intents.values.any (fun intent => retired.contains intent.runId) ||
    requeued.pendingUnits.any (fun unit => retired.contains unit.runId)
  if changed then
    (({ s with intents := s.intents.filter (fun _ intent => !retired.contains intent.runId) }).commitSnapshot working now,
      true)
  else (s,false)

inductive Observation (F : Type) where
  | event (event : SandboxEvent F)
  | reconcile (sandboxes : List (Sandbox F))

/-- One observation at the time the clock shows. -/
def observe [Platform F] [DecidableEq F] (s : Store F) (observation : Observation F × Int) : Store F :=
  match observation with
  | (.event event,now) => (applyProviderSandboxEvent s event now).1
  | (.reconcile sandboxes,now) => (reconcileProviderSandboxes s sandboxes now).1

theorem requeue_loop [Platform F] (intents : Map IntentKey (SchedulingIntent F)) (now : Int) (candidates : List (Allocation F))
    (snapshot : ClusterSnapshot F) :
    (candidates.foldl (requeueAllocation intents now) snapshot).devices = snapshot.devices ∧
      (candidates.foldl (requeueAllocation intents now) snapshot).allocations = snapshot.allocations := by
  induction candidates generalizing snapshot with
  | nil => exact ⟨rfl,rfl⟩
  | cons a rest ih =>
    have step : (requeueAllocation intents now snapshot a).devices = snapshot.devices ∧
        (requeueAllocation intents now snapshot a).allocations = snapshot.allocations := by
      unfold requeueAllocation
      split
      · exact ⟨rfl,rfl⟩
      split
      · exact ⟨rfl,rfl⟩
      split
      · exact ⟨rfl,rfl⟩
      dsimp only
      split
      · exact ⟨rfl,rfl⟩
      · exact ⟨rfl,rfl⟩
    obtain ⟨devices,allocations⟩ := ih (requeueAllocation intents now snapshot a)
    exact ⟨devices.trans step.1,allocations.trans step.2⟩

end TgsRl.Projection
