import TgsRl.Bootstrap
import TgsRl.Durable
import TgsRl.Validation

/-!
A Store that outlives its provider. The providers in the tree count revisions from one in every
process, while the Store's cursors are restored from disk: a provider that starts again from one is
behind whatever the old process has saved (`new_process_fenced`).
-/
namespace TgsRl.Incarnations
open Resources Messages State Loops Projection Delivery Bootstrap Durable

variable {F : Type}

/-- `SandboxState` of the provider package; `unset` is its zero value. -/
inductive SandboxState where
  | unset | requested | bound | running | paused | sleeping | failed | terminated
  deriving DecidableEq, Repr, Inhabited

def SandboxState.rank : SandboxState → Nat
  | .unset => 0
  | .requested => 1
  | .bound => 2
  | .running => 3
  | .paused => 4
  | .sleeping => 5
  | .failed => 6
  | .terminated => 7

def eventWouldRegress (current next : SandboxState) : Bool :=
  if (current = .paused ∨ current = .sleeping) ∧ next = .running then false
  else decide (next.rank < current.rank)

def sandboxStateFromRuntime : RuntimeState → Option SandboxState
  | .requested => some .requested
  | .bound => some .bound
  | .running => some .running
  | .paused => some .paused
  | .sleeping => some .sleeping
  | .failed => some .failed
  | .terminated => some .terminated
  | _ => none

def runtimeStateFromProvider : SandboxState → RuntimeState
  | .unset => .unknown
  | .requested => .requested
  | .bound => .bound
  | .running => .running
  | .paused => .paused
  | .sleeping => .sleeping
  | .failed => .failed
  | .terminated => .terminated

structure ProviderSandbox (F : Type) where
  sandboxID : String
  state : SandboxState
  generation : UInt64
  binding : Option (Binding F)
  share : F
  priority : Int
  safePoint : Bool
  offloaded : Bool
  semanticContext : Option SemanticEnvelope
  stateChangedAt : Int
  updatedAt : Int
  deriving DecidableEq, Repr

/-- The zero value, which stands for a sandbox the provider does not know. -/
def ProviderSandbox.zero [Platform F] : ProviderSandbox F :=
  ⟨"",.unset,0,none,Platform.zero,0,false,false,none,zeroTime,zeroTime⟩

/-- What the mock and the NVIDIA provider keep for snapshots and observations; `kind` names the snapshots and
    `annotations` is the rest of them. -/
structure Provider (F : Type) where
  kind : String
  providerID : String
  annotations : String
  revision : UInt64
  devices : List (Device F)
  sandboxes : Map String (ProviderSandbox F)
  events : Map String (SandboxEvent F)

def newProvider (kind providerID annotations : String) (devices : List (Device F))
    (sandboxes : Map String (ProviderSandbox F)) : Provider F :=
  ⟨kind,providerID,annotations,1,devices,sandboxes,∅⟩

/-- The text is empty once its surrounding blanks are trimmed. -/
def blank (text : String) : Bool := decide (Validation.trimSpace text = "")

def invalidArgument (detail : String) : String := "provider: invalid argument: " ++ detail

def lateEventFenced (message : String) : String := "provider: LATE_EVENT_FENCED: " ++ message

variable [Platform F] [DecidableEq F]

/-- The sandbox after an observation that the provider accepts. -/
def observedSandbox (current : ProviderSandbox F) (state : SandboxState) (event : SandboxEvent F) (confirmedAt : Int) :
    ProviderSandbox F :=
  let known := decide (current.sandboxID ≠ "")
  let lifecycleChanged := !known || decide (current.state ≠ state) || decide (current.generation ≠ event.generation)
  { sandboxID := event.sandboxId
    state
    generation := event.generation
    binding := event.binding.orElse (fun _ => current.binding)
    share := event.share.getD current.share
    priority := event.priority.getD current.priority
    safePoint := event.safePoint.getD (if lifecycleChanged then false else current.safePoint)
    offloaded := event.offloaded.getD current.offloaded
    semanticContext := event.semanticContext.orElse (fun _ => current.semanticContext)
    stateChangedAt := if lifecycleChanged then
        match event.occurredAt with
        | some occurredAt => if occurredAt.valid then occurredAt.asTime else confirmedAt
        | none => confirmedAt
      else current.stateChangedAt
    updatedAt := confirmedAt }

def projectSandboxObservation (current : ProviderSandbox F) (event : SandboxEvent F) (confirmedAt : Int) :
    Except String (ProviderSandbox F) :=
  match sandboxStateFromRuntime event.state with
  | none => .error (invalidArgument "sandbox event is invalid")
  | some state =>
    if blank event.eventId || blank event.sandboxId || decide (event.generation = 0) then
      .error (invalidArgument "sandbox event is invalid")
    else if current.sandboxID ≠ "" ∧ event.generation < current.generation then
      .error (lateEventFenced "event generation is older than current sandbox generation")
    else if current.sandboxID ≠ "" ∧ event.generation = current.generation ∧
        event.binding.isSome ∧ current.binding.isSome ∧ event.binding ≠ current.binding then
      .error (lateEventFenced "same-generation event cannot replace binding")
    else if current.sandboxID ≠ "" ∧ event.generation = current.generation ∧
        eventWouldRegress current.state state = true then
      .error (lateEventFenced "same-generation event would regress sandbox state")
    else .ok (observedSandbox current state event confirmedAt)

/-- The canonical event: the revision of the provider and no missing value. -/
def normalizeSandboxObservation (event : SandboxEvent F) (projected : ProviderSandbox F) (revision : UInt64) :
    SandboxEvent F :=
  { event with
    providerRevision := revision
    idempotencyKey := if event.idempotencyKey = "" then event.eventId else event.idempotencyKey
    share := some (event.share.getD projected.share)
    priority := some (event.priority.getD projected.priority)
    offloaded := some (event.offloaded.getD projected.offloaded) }

/-- `ObserveSandbox`, the same in both providers: a repeated event is answered as before. -/
def observeSandbox (p : Provider F) (event : SandboxEvent F) (now : Int) :
    Except String (Provider F × SandboxEvent F) :=
  let known := (p.sandboxes.lookup event.sandboxId).getD ProviderSandbox.zero
  match p.events.lookup event.eventId with
  | some previous =>
    if previous = normalizeSandboxObservation event known previous.providerRevision then .ok (p,previous)
    else .error ("provider: idempotency conflict: event_id " ++ quote event.eventId ++
      " was reused with different content")
  | none => match projectSandboxObservation known event now with
    | .error err => .error err
    | .ok updated =>
      let accepted := normalizeSandboxObservation event updated (p.revision + 1)
      .ok ({ p with
        revision := p.revision + 1
        sandboxes := p.sandboxes.insert event.sandboxId updated
        events := p.events.insert event.eventId accepted },accepted)

/-- `snapshotLocked` of both providers. -/
def snapshotOf (p : Provider F) (now : Int) : ClusterSnapshot F where
  snapshotId := p.kind ++ "-snapshot-" ++ toString p.revision
  revision := p.revision
  observedAt := some (Timestamp.new now)
  devices := p.devices
  allocations := []
  pendingUnits := []
  rest := p.annotations

def timestampOf (time : Int) : Option Timestamp := if time = zeroTime then none else some (Timestamp.new time)

def sandboxToProto (sandbox : ProviderSandbox F) : Sandbox F where
  sandboxId := sandbox.sandboxID
  runId := ""
  jobId := ""
  traceId := ""
  state := runtimeStateFromProvider sandbox.state
  generation := sandbox.generation
  binding := sandbox.binding
  share := sandbox.share
  priority := sandbox.priority
  safePoint := sandbox.safePoint
  offloaded := sandbox.offloaded
  observedAt := timestampOf sandbox.updatedAt
  dataKind := .unknown
  semanticContext := sandbox.semanticContext
  stateChangedAt := timestampOf sandbox.stateChangedAt
  lastConfirmedAt := none
  rest := ""

/-- `ListSandboxes`, as the service passes it on. -/
def listSandboxes (p : Provider F) : List (Sandbox F) :=
  (sortedPairs (· ≤ ·) p.sandboxes).map (fun entry => sandboxToProto entry.2)

def bootstrapID (p : Provider F) : String := if p.providerID ≠ "" then p.providerID else "provider"

/-- `bootstrapLiveProviderProjection`: the snapshot, the reconciliation and the authoritative list, in this order. -/
def bootstrapLive (s : Store F) (p : Provider F) (now : Int) : Except Err (Store F) :=
  let bootstrapped := (bootstrapProviderSnapshot s (bootstrapID p) (snapshotOf p now) now).1
  let reconciled := (reconcileProviderSandboxes bootstrapped (listSandboxes p) now).1
  match replaceProjectedSandboxes reconciled (listSandboxes p) now with
  | .error err => .error ⟨err.sentinel,"service: bootstrap sandbox projection: " ++ err.message⟩
  | .ok (next,_) => .ok next

/-- The snapshot of a provider is not behind the resource cursor, and not the one that was bootstrapped last. -/
def Ahead (cursors : Map String ProviderResourceCursor) (p : Provider F) : Prop :=
  ∀ saved, cursors.lookup (bootstrapID p) = some saved →
    saved.revision < p.revision ∨ saved.revision = p.revision ∧ saved.eventID ≠ "bootstrap-snapshot"

section Devices
variable {s : Store F} {p : Provider F} {now : Int}

omit [DecidableEq F] in
theorem foldl_returnAllocation_fixed {allocations : List (Allocation F)} {working : ClusterSnapshot F}
    (fixed : ∀ device ∈ working.devices, ∀ allocation ∈ allocations,
      giveBack (orEmpty allocation.resources) device = device) :
    (allocations.foldl (fun working allocation => returnAllocation allocation working) working).devices =
      working.devices := by
  induction allocations generalizing working with
  | nil => rfl
  | cons a rest ih =>
    have here : (returnAllocation a working).devices = working.devices :=
      Keyed.modifyAll_fixed (fun device member => fixed device member a (by simp)) _
    rw [List.foldl_cons,ih,here]
    rw [here]
    intro device member allocation later
    exact fixed device member allocation (by simp [later])

omit [DecidableEq F] in
/-- The devices after a reconciliation: what the released allocations held is back. -/
theorem reconcile_devices (s : Store F) (sandboxes : List (Sandbox F)) (now : Int) :
    (reconcileProviderSandboxes s sandboxes now).1.snapshot.devices =
      (releaseWhere (reconcileDrops (takeInventory s.providerProjection.sandboxes sandboxes)
        (retiredRuns s.snapshot.allocations (takeInventory s.providerProjection.sandboxes sandboxes)) now)
        s.snapshot).devices := by
  simp only [reconcileProviderSandboxes]
  split
  · exact (requeue_loop _ _ _ _).1
  rename_i unchanged
  simp only [Bool.or_eq_true,not_or,Bool.not_eq_true,List.any_eq_false] at unchanged
  have none : s.snapshot.allocations.filter (reconcileDrops (takeInventory s.providerProjection.sandboxes sandboxes)
      (retiredRuns s.snapshot.allocations (takeInventory s.providerProjection.sandboxes sandboxes)) now) = [] := by
    rw [List.filter_eq_nil_iff]
    intro allocation member
    simpa using unchanged.1.1 allocation member
  rw [releaseWhere,none]
  rfl

/-- What a device keeps when the resources of any allocation are given back to it. -/
def Whole (s : Store F) (p : Provider F) : Prop :=
  ∀ device ∈ p.devices, ∀ allocation ∈ s.snapshot.allocations, giveBack (orEmpty allocation.resources) device = device

instance (s : Store F) (p : Provider F) : Decidable (Whole s p) := by
  unfold Whole
  infer_instance

omit [Platform F] [DecidableEq F] in
theorem acceptResourceCursor_ahead_iff {projected : ProviderProjectionState F} {p : Provider F} :
    (acceptResourceCursor projected (bootstrapID p) p.revision "bootstrap-snapshot").isSome ↔
      Ahead projected.resourceCursors p := by
  simp only [acceptResourceCursor,Ahead]
  cases projected.resourceCursors.lookup (bootstrapID p) with
  | none => simp
  | some saved =>
    by_cases behind : p.revision < saved.revision
    · have notAhead : ¬ saved.revision < p.revision := UInt64.lt_asymm behind
      have differs : saved.revision ≠ p.revision := (UInt64.ne_of_lt behind).symm
      simp [behind,notAhead,differs]
    · by_cases level : p.revision = saved.revision
      · by_cases same : saved.eventID = "bootstrap-snapshot"
        · simp [level,same]
        · simp [level,same,Ne.symm same]
      · have ahead : saved.revision < p.revision :=
          UInt64.lt_of_le_of_ne (UInt64.not_lt.mp behind) (Ne.symm level)
        simp [behind,level,ahead]

theorem bootstrapLive_devices {after : Store F} (whole : Whole s p) (live : bootstrapLive s p now = .ok after) :
    (Ahead s.providerProjection.resourceCursors p → after.snapshot.devices = p.devices) ∧
      (¬ Ahead s.providerProjection.resourceCursors p → after.snapshot.devices =
        (reconcileProviderSandboxes s (listSandboxes p) now).1.snapshot.devices) := by
  have kept : after.snapshot = (reconcileProviderSandboxes (bootstrapProviderSnapshot s (bootstrapID p)
      (snapshotOf p now) now).1 (listSandboxes p) now).1.snapshot := by
    simp only [bootstrapLive] at live
    split at live
    · cases live
    rename_i next changed replaced
    cases live
    simp only [replaceProjectedSandboxes,bind,Except.bind] at replaced
    split at replaced
    · cases replaced
    split at replaced
    · cases replaced
      rfl
    · cases replaced
      rfl
  rw [kept]
  constructor
  · intro ahead
    obtain ⟨projected,accepted⟩ := Option.isSome_iff_exists.mp (acceptResourceCursor_ahead_iff.mpr ahead)
    have adopted : (bootstrapProviderSnapshot s (bootstrapID p) (snapshotOf p now) now).1.snapshot.devices = p.devices ∧
        (bootstrapProviderSnapshot s (bootstrapID p) (snapshotOf p now) now).1.snapshot.allocations =
          s.snapshot.allocations := by
      simp only [bootstrapProviderSnapshot]
      rw [show (snapshotOf p now).revision = p.revision from rfl,accepted]
      simp only [commitChanged_devices,commitChanged_allocations]
      exact ⟨rfl,rfl⟩
    rw [reconcile_devices,releaseWhere]
    refine (foldl_returnAllocation_fixed ?_).trans adopted.1
    intro device member allocation dropped
    rw [adopted.1] at member
    have held := (List.mem_filter.mp dropped).1
    rw [adopted.2] at held
    exact whole device member allocation held
  · intro behind
    have refused : acceptResourceCursor s.providerProjection (bootstrapID p) p.revision "bootstrap-snapshot" = none := by
      rw [← Option.not_isSome_iff_eq_none,acceptResourceCursor_ahead_iff]
      exact behind
    simp only [bootstrapProviderSnapshot]
    rw [show (snapshotOf p now).revision = p.revision from rfl,refused]

end Devices

variable {cursor : ProviderSandboxCursor} {event : SandboxEvent F} {s : Store F}

omit [Platform F] [DecidableEq F] in
/-- An event of the cursor's generation, later than anything seen and no regression, passes exactly when the cursor
    has not seen it and is not ahead of it. -/
theorem passes_current {sandbox : Option (Sandbox F)} (current : event.generation = cursor.generation)
    (later : cursor.occurredAt < timestampTime event.occurredAt) (timed : timestampTime event.occurredAt ≠ zeroTime)
    (onward : ∀ known, sandbox = some known → runtimeStateRegresses known.state event.state = false) :
    passes cursor sandbox event = true ↔ duplicateSandboxEvent cursor event = false ∧
      (event.providerRevision = 0 ∨ cursor.providerRevision ≤ event.providerRevision) := by
  have late : ¬ timestampTime event.occurredAt ≤ cursor.occurredAt := by omega
  have verdict : acceptSameGenerationSandboxEvent cursor sandbox event = true ↔
      event.providerRevision = 0 ∨ cursor.providerRevision ≤ event.providerRevision := by
    by_cases none : event.providerRevision = 0
    · cases sandbox with
      | none => simp [acceptSameGenerationSandboxEvent,none,timed,late]
      | some known => simp [acceptSameGenerationSandboxEvent,none,timed,late,onward known rfl]
    · have positive : 0 < event.providerRevision := UInt64.pos_iff_ne_zero.mpr none
      by_cases fresh : cursor.providerRevision = 0
      · simp [acceptSameGenerationSandboxEvent,positive,fresh]
      · by_cases smaller : event.providerRevision < cursor.providerRevision
        · simp [acceptSameGenerationSandboxEvent,positive,fresh,none,smaller]
        · have enough := UInt64.not_lt.mp smaller
          cases sandbox with
          | none => simp [acceptSameGenerationSandboxEvent,positive,fresh,none,smaller,enough,timed,late]
          | some known =>
            simp [acceptSameGenerationSandboxEvent,positive,fresh,none,smaller,enough,timed,late,onward known rfl]
  cases seen : duplicateSandboxEvent cursor event with
  | true => simp [passes,seen]
  | false => simp [passes,seen,current,verdict]

omit [Platform F] in
theorem bootstrapProviderSnapshot_sandboxes (s : Store F) (provider : String) (snapshot : ClusterSnapshot F) (now : Int) :
    (bootstrapProviderSnapshot s provider snapshot now).1.providerProjection.sandboxCursors =
      s.providerProjection.sandboxCursors := by
  simp only [bootstrapProviderSnapshot]
  split
  · rfl
  rename_i projected accepted
  have kept : projected.sandboxCursors = s.providerProjection.sandboxCursors := by
    simp only [acceptResourceCursor] at accepted
    split at accepted
    · cases accepted
      rfl
    · split at accepted
      · cases accepted
      · split at accepted
        · cases accepted
        · cases accepted
          rfl
  rw [Store.commitChanged]
  split
  · exact kept
  · exact kept

omit [DecidableEq F] in
theorem reconcile_projection (s : Store F) (sandboxes : List (Sandbox F)) (now : Int) :
    (reconcileProviderSandboxes s sandboxes now).1.providerProjection = s.providerProjection := by
  simp only [reconcileProviderSandboxes]
  split
  · rfl
  · rfl

theorem bootstrapLive_revision {after : Store F} {p : Provider F} {now : Int} (live : bootstrapLive s p now = .ok after)
    {sandboxID : String} {saved : ProviderSandboxCursor} (before : cursorOf s sandboxID = some saved)
    (found : cursorOf after sandboxID = some cursor) (same : cursor.generation = saved.generation) :
    cursor.providerRevision = saved.providerRevision := by
  simp only [bootstrapLive] at live
  split at live
  · cases live
  rename_i next changed replaced
  cases live
  have held : cursorOf (reconcileProviderSandboxes (bootstrapProviderSnapshot s (bootstrapID p) (snapshotOf p now)
      now).1 (listSandboxes p) now).1 sandboxID = some saved := by
    rw [cursorOf,reconcile_projection,bootstrapProviderSnapshot_sandboxes]
    exact before
  rcases replaceProjectedSandboxes_cursor replaced sandboxID with kept | ⟨sandbox,_,_,moved⟩
  · rw [kept,held] at found
    cases found
    rfl
  · rw [moved] at found
    have known : bootstrapCursor (reconcileProviderSandboxes (bootstrapProviderSnapshot s (bootstrapID p)
        (snapshotOf p now) now).1 (listSandboxes p) now).1.providerProjection sandboxID = some saved := by
      rw [bootstrapCursor]
      rw [cursorOf] at held
      rw [held]
    rw [known] at found
    cases found
    -- A list that raised the generation would have changed it.
    by_cases newer : sandbox.generation > saved.generation
    · simp only [bootstrappedCursor,rememberSandboxCursorIdentity,newer,if_true] at same
      rw [same] at newer
      exact absurd newer (UInt64.lt_irrefl _)
    · simp [bootstrappedCursor,rememberSandboxCursorIdentity,newer]

/-- An observation of the sandbox's current generation, later than anything seen and no regression. -/
structure Timely (s : Store F) (cursor : ProviderSandboxCursor) (event : SandboxEvent F) : Prop where
  named : event.sandboxId ≠ ""
  current : event.generation = cursor.generation
  timed : timestampTime event.occurredAt ≠ zeroTime
  later : cursor.occurredAt < timestampTime event.occurredAt
  newer : ∀ sandbox, sandboxOf s event.sandboxId = some sandbox →
    timestampTime sandbox.observedAt < timestampTime event.occurredAt
  onward : ∀ sandbox, sandboxOf s event.sandboxId = some sandbox → runtimeStateRegresses sandbox.state event.state = false

omit [Platform F] [DecidableEq F] in
theorem timely_iff :
    Timely s cursor event ↔ event.sandboxId ≠ "" ∧ event.generation = cursor.generation ∧
      timestampTime event.occurredAt ≠ zeroTime ∧ cursor.occurredAt < timestampTime event.occurredAt ∧
      (sandboxOf s event.sandboxId).all (fun sandbox =>
        decide (timestampTime sandbox.observedAt < timestampTime event.occurredAt) &&
          !runtimeStateRegresses sandbox.state event.state) = true := by
  simp only [Option.all_eq_true,Bool.and_eq_true,decide_eq_true_eq,Bool.not_eq_true']
  constructor
  · rintro ⟨named,current,timed,later,newer,onward⟩
    exact ⟨named,current,timed,later,fun sandbox found => ⟨newer sandbox found,onward sandbox found⟩⟩
  · rintro ⟨named,current,timed,later,both⟩
    exact ⟨named,current,timed,later,fun sandbox found => (both sandbox found).1,fun sandbox found => (both sandbox found).2⟩

instance (s : Store F) (cursor : ProviderSandboxCursor) (event : SandboxEvent F) : Decidable (Timely s cursor event) :=
  decidable_of_iff _ timely_iff.symm

omit [Platform F] [DecidableEq F] in
theorem wellFormed_of_timely (timely : Timely s cursor event) : WellFormed event := by
  refine ⟨timely.named,?_⟩
  have timed := timely.timed
  cases occurred : event.occurredAt with
  | none => rfl
  | some time =>
    cases valid : time.valid with
    | true => simp [valid]
    | false => simp [occurred,timestampTime,valid] at timed

omit [DecidableEq F] in
theorem sandboxAfter_observedAt (s : Store F) (event : SandboxEvent F) (now : Int) :
    (sandboxAfter s event now).observedAt = event.occurredAt := by
  rw [sandboxAfter]
  cases sandboxOf s event.sandboxId <;> rfl

theorem deliver_timely_iff (found : cursorOf s event.sandboxId = some cursor) (timely : Timely s cursor event) (now : Int) :
    sandboxOf (deliver s (event,now)) event.sandboxId ≠ sandboxOf s event.sandboxId ↔
      duplicateSandboxEvent cursor event = false ∧
        (event.providerRevision = 0 ∨ cursor.providerRevision ≤ event.providerRevision) := by
  rw [← passes_current timely.current timely.later timely.timed timely.onward]
  have verdict := accepts_of_cursor found
  cases accepted : accepts s event with
  | false =>
    rw [show deliver s (event,now) = s from deliver_refused accepted,← verdict,accepted]
    simp
  | true =>
    rw [← verdict,accepted]
    refine iff_of_true ?_ rfl
    have formed : WellFormed ((event,now) : Delivered F).1 := wellFormed_of_timely timely
    have moved := (deliver_accepted formed accepted event.sandboxId).1
    rw [if_pos rfl] at moved
    rw [moved]
    intro same
    have newer := timely.newer _ same.symm
    rw [sandboxAfter_observedAt] at newer
    exact absurd newer (Int.lt_irrefl _)

theorem observeSandbox_revision {q next : Provider F} {accepted : SandboxEvent F} {time : Int}
    (observed : observeSandbox q event time = .ok (next,accepted)) (unseen : q.events.lookup event.eventId = none) :
    accepted.providerRevision = q.revision + 1 := by
  simp only [observeSandbox,unseen] at observed
  split at observed
  · cases observed
  · cases observed
    rfl

/-- When a new provider reaches a restored Store. Its devices do if its snapshot is ahead of the saved cursor (or the
    old devices happen to be the same once the reconciliation has released what it releases); a timely observation
    that it accepts does, whatever was delivered since, if the cursor has not seen it and is not ahead of it. A new
    observation has the provider's next revision, and the cursor starts with the saved one unless the bootstrap
    changed its generation. -/
theorem live_bootstrap_iff {durable : DurableState F} {s after : Store F} {p : Provider F} {now : Int}
    (back : restore durable = .ok s) (whole : Whole s p) (live : bootstrapLive s p now = .ok after) :
    (after.snapshot.devices = p.devices ↔ Ahead durable.resourceCursors p ∨
      (reconcileProviderSandboxes s (listSandboxes p) now).1.snapshot.devices = p.devices) ∧
    ∀ (earlier : List (Delivered F)) (q next : Provider F) (event accepted : SandboxEvent F) (time applied : Int)
        (cursor : ProviderSandboxCursor),
      observeSandbox q event time = .ok (next,accepted) →
      cursorOf (run deliver after earlier) accepted.sandboxId = some cursor →
      Timely (run deliver after earlier) cursor accepted →
      (sandboxOf (deliver (run deliver after earlier) (accepted,applied)) accepted.sandboxId ≠
          sandboxOf (run deliver after earlier) accepted.sandboxId ↔
        duplicateSandboxEvent cursor accepted = false ∧
          (accepted.providerRevision = 0 ∨ cursor.providerRevision ≤ accepted.providerRevision)) ∧
      (q.events.lookup event.eventId = none → accepted.providerRevision = q.revision + 1) ∧
      ∀ record, earlier = [] → durable.sandboxCursors.lookup accepted.sandboxId = some record →
        cursor.generation = record.generation → cursor.providerRevision = record.providerRevision := by
  refine ⟨?_,?_⟩
  · obtain ⟨reached,missed⟩ := bootstrapLive_devices whole live
    rw [restore_resourceCursors back] at reached missed
    by_cases ahead : Ahead durable.resourceCursors p
    · exact iff_of_true (reached ahead) (Or.inl ahead)
    · rw [missed ahead]
      exact (or_iff_right ahead).symm
  · intro earlier q next event accepted time applied cursor observed found timely
    refine ⟨deliver_timely_iff found timely applied,observeSandbox_revision observed,?_⟩
    rintro record rfl saved same
    exact bootstrapLive_revision live (restore_cursor back saved) found same

def gpu (size : UInt64) : Device Int :=
  { (default : Device Int) with deviceId := "d", capacity := ⟨size,0,0,0,0⟩, allocatable := ⟨size,0,0,0,0⟩ }

/-- What the old process saved at its fifth revision: a snapshot without devices and with one allocation, and its sandbox
    "x", running. -/
def savedState : DurableState Int :=
  let held : Allocation Int := { (default : Allocation Int) with
    allocationId := "a", sandboxId := "x", state := .active, resources := some ⟨1,0,0,0,0⟩ }
  let bootstrapped := (bootstrapProviderSnapshot (newStore { (default : ClusterSnapshot Int) with allocations := [held] }) "mock"
    { (default : ClusterSnapshot Int) with revision := 5 } 0).1
  exportDurableState (deliver bootstrapped (reportedAt "a" .running 5 50,0))

/-- The sandbox "x" as the runtime shows it to the new process. -/
def runningX : ProviderSandbox Int := { (ProviderSandbox.zero : ProviderSandbox Int) with
  sandboxID := "x", state := .running, generation := 1, updatedAt := 60 }

def reborn : Provider Int := newProvider "mock" "mock" "" [gpu 8] ((∅ : Map String (ProviderSandbox Int)).insert "x" runningX)

/-- The sandbox has ended, after everything that was seen. -/
def endedX : SandboxEvent Int := reportedAt "z" .terminated 0 70

/-- The Store after the restart and the live bootstrap, as far as the test cares. -/
theorem live_of_any {p : Provider Int} {test : Store Int → Store Int → Bool}
    (passes : (restore savedState).toOption.any (fun s => (bootstrapLive s p 65).toOption.any (test s)) = true) :
    ∃ s after, restore savedState = .ok s ∧ bootstrapLive s p 65 = .ok after ∧ test s after = true := by
  obtain ⟨s,back,rest⟩ := ok_of_any passes
  obtain ⟨after,live,holds⟩ := ok_of_any rest
  exact ⟨s,after,back,live,holds⟩

/-- A provider that has come further than the old one reaches the Store, which has an allocation. -/
theorem live_bootstrap_iff_ahead : ∃ s after next accepted, restore savedState = .ok s ∧ s.snapshot.allocations ≠ [] ∧
    bootstrapLive s { reborn with revision := 7 } 65 = .ok after ∧ after.snapshot.devices = [gpu 8] ∧
    observeSandbox { reborn with revision := 7 } endedX 75 = .ok (next,accepted) ∧
    sandboxOf (deliver after (accepted,80)) "x" ≠ sandboxOf after "x" := by
  have finishes : (restore savedState).toOption.any (fun s =>
      (bootstrapLive s { reborn with revision := 7 } 65).toOption.any (fun after =>
        decide (s.snapshot.allocations ≠ []) && decide (Whole s { reborn with revision := 7 }) && (cursorOf after "x").any (fun cursor =>
          (observeSandbox { reborn with revision := 7 } endedX 75).toOption.any (fun observed =>
            decide (observed.2.sandboxId = "x") && decide (Timely after cursor observed.2) &&
              !duplicateSandboxEvent cursor observed.2 &&
              decide (cursor.providerRevision ≤ observed.2.providerRevision))))) = true := by decide
  obtain ⟨s,after,back,live,facts⟩ := live_of_any finishes
  simp only [Bool.and_eq_true,decide_eq_true_eq] at facts
  obtain ⟨⟨filled,whole⟩,facts⟩ := facts
  obtain ⟨cursor,found,observes⟩ := (Option.any_eq_true _ _).mp facts
  obtain ⟨⟨next,accepted⟩,observed,facts⟩ := ok_of_any observes
  simp only [Bool.and_eq_true,decide_eq_true_eq,Bool.not_eq_true'] at facts
  obtain ⟨⟨⟨named,timely⟩,unseen⟩,level⟩ := facts
  have ahead : Ahead savedState.resourceCursors { reborn with revision := 7 } := by
    intro saved found
    have revision : savedState.resourceCursors.lookup "mock" = some ⟨5,"bootstrap-snapshot"⟩ := by decide
    cases revision.symm.trans found
    exact Or.inl (by decide)
  obtain ⟨devices,observations⟩ := live_bootstrap_iff back whole live
  have changes := (observations [] _ next endedX accepted 75 80 cursor observed (named ▸ found) timely).1.mpr
    ⟨unseen,Or.inr level⟩
  rw [named] at changes
  exact ⟨s,after,next,accepted,back,filled,live,devices.mpr (Or.inl ahead),observed,changes⟩

/-- A provider that starts again from one is fenced: its devices do not arrive, and the end of a sandbox is dropped. -/
theorem new_process_fenced : reborn.revision = 1 ∧ ∃ s after next accepted cursor, restore savedState = .ok s ∧
    bootstrapLive s reborn 65 = .ok after ∧ after.snapshot.devices = [] ∧ reborn.devices = [gpu 8] ∧
    observeSandbox reborn endedX 75 = .ok (next,accepted) ∧ accepted.state = .terminated ∧
    cursorOf after "x" = some cursor ∧ Timely after cursor accepted ∧
    (sandboxOf (deliver after (accepted,80)) "x").map Sandbox.state = some .running := by
  have finishes : (restore savedState).toOption.any (fun s => (bootstrapLive s reborn 65).toOption.any (fun after =>
      decide (after.snapshot.devices = []) && (cursorOf after "x").any (fun cursor =>
        (observeSandbox reborn endedX 75).toOption.any (fun observed => decide (observed.2.state = .terminated) &&
          decide (Timely after cursor observed.2) &&
          decide ((sandboxOf (deliver after (observed.2,80)) "x").map Sandbox.state = some .running))))) = true := by decide
  obtain ⟨s,after,back,live,facts⟩ := live_of_any finishes
  obtain ⟨devices,facts⟩ := Bool.and_eq_true_iff.mp facts
  obtain ⟨cursor,found,observes⟩ := (Option.any_eq_true _ _).mp facts
  obtain ⟨⟨next,accepted⟩,observed,facts⟩ := ok_of_any observes
  simp only [Bool.and_eq_true,decide_eq_true_eq] at facts
  obtain ⟨⟨ended,timely⟩,shown⟩ := facts
  exact ⟨rfl,s,after,next,accepted,cursor,back,live,of_decide_eq_true devices,rfl,observed,ended,found,timely,shown⟩

end TgsRl.Incarnations
