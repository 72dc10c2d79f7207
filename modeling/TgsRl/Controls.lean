import TgsRl.Durable
import TgsRl.ObservationManager
import TgsRl.Outcomes

/-!
The control requests of the Kubernetes backend of `operator-go`. A request is prepared at the
versions its target Jobs have, recorded as pending in the ledger, carried out target by target under
those versions, and recorded as accepted; the ledger is written to a file after every change. A call
takes the answers of the API server and of the file as an input, with the changes other writers make
to the Jobs between its own. What it can do to the backend is said once, as a sequence of `Move`s
(`control_moves`).
-/
namespace TgsRl.Controls
open Jobs (JobCommandType)
open State Loops Durable Outcomes

/-- Jobs are named after the key and the generation of their bundle. -/
structure JobName where
  bundleKey : String
  generation : Nat
  deriving DecidableEq, Repr

structure Job where
  version : Nat
  suspend : Bool
  paused : Bool
  deleted : Bool
  deleting : Bool
  succeeded : Nat
  deriving DecidableEq, Repr

/-- Every update takes the next version. -/
structure Server where
  jobs : Map JobName Job
  clock : Nat
  bounded : ∀ name job, jobs.lookup name = some job → 0 < job.version ∧ job.version ≤ clock

def Server.put (s : Server) (name : JobName) (job : Job) : Server where
  jobs := s.jobs.insert name { job with version := s.clock + 1 }
  clock := s.clock + 1
  bounded := by
    intro other held found
    by_cases same : other = name
    · subst same
      rw [AList.lookup_insert] at found
      cases found
      exact ⟨Nat.succ_pos _,le_rfl⟩
    · rw [AList.lookup_insert_ne same] at found
      exact ⟨(s.bounded other held found).1,Nat.le_succ_of_le (s.bounded other held found).2⟩

def Server.remove (s : Server) (name : JobName) : Server where
  jobs := s.jobs.erase name
  clock := s.clock
  bounded := by
    intro other held found
    by_cases same : other = name
    · rw [same,AList.lookup_erase] at found
      cases found
    · exact s.bounded other held (AList.lookup_erase_ne same ▸ found)

inductive Touch where
  | put (name : JobName) (job : Job) | remove (name : JobName)
  deriving DecidableEq, Repr

def Server.touch (s : Server) : Touch → Server
  | .put name job => s.put name job
  | .remove name => s.remove name

def Server.touches (s : Server) (changes : List Touch) : Server := changes.foldl Server.touch s

structure JobControlReadback where
  paused : Bool
  deleted : Bool
  deleting : Bool
  succeeded : Nat
  deriving DecidableEq, Repr

def readbackFromObject (job : Job) : JobControlReadback :=
  ⟨job.suspend || job.paused,job.deleted,job.deleting,job.succeeded⟩

def isDeleteControl (action : JobCommandType) : Bool := decide (action = .stop ∨ action = .terminate)

/-- Whether the action was accepted. -/
def observedStateForReadback (action : JobCommandType) (readback : JobControlReadback) : Except String Bool :=
  match action with
  | .pause => if readback.paused then .ok true else .error "backend did not observe paused job"
  | .resume => if readback.paused || readback.deleted then .error "backend did not observe resumed job" else .ok true
  | _ =>
    if readback.deleting && !readback.deleted then .ok false
    else if !readback.deleted && !readback.deleting && readback.succeeded == 0 then
      .error "backend did not accept job deletion"
    else .ok true

def controlReadbackMatches (action : JobCommandType) (readback : JobControlReadback) : Bool :=
  match observedStateForReadback action readback with
  | .ok accepted => accepted || (isDeleteControl action && readback.deleting)
  | .error _ => false

structure ControlTarget where
  runtimeUnitId : String
  sandboxId : String
  expectedGeneration : Nat
  deriving DecidableEq, Repr

/-- The source joins the two IDs with a NUL, so that IDs with one in them may collide there. -/
def ControlTarget.name (target : ControlTarget) : String × String := (target.runtimeUnitId,target.sandboxId)

structure ControlRequest where
  action : JobCommandType
  jobId : String
  runId : String
  traceId : String
  targets : List ControlTarget
  requestId : String
  idempotencyKey : String
  reason : String
  globalTargetLookup : Bool
  deriving DecidableEq, Repr

structure ControlResult where
  accepted : Bool
  idempotent : Bool
  backendRevision : Nat
  detail : String
  deriving DecidableEq, Repr

inductive ControlProgressState where
  | pending | inFlight | ambiguous | completed
  deriving DecidableEq, Repr

/-- `expectedVersion` is 0 where the source has an empty one. -/
structure JobControlMutation where
  object : JobName
  action : JobCommandType
  expectedVersion : Nat
  deriving DecidableEq, Repr

structure ControlTargetProgress where
  bundleKey : String
  mutation : JobControlMutation
  state : ControlProgressState
  deriving DecidableEq, Repr

structure ControlRecord where
  digest : String
  pending : Bool
  request : ControlRequest
  bundleKeys : List String
  targetProgress : List ControlTargetProgress
  result : ControlResult
  deriving DecidableEq, Repr

structure ControlLedger where
  revision : Nat
  records : Map String ControlRecord

structure ControlMetadata where
  requestId : String
  idempotencyKey : String
  action : JobCommandType
  backendRevision : Nat
  committed : Bool
  retireRun : Bool
  deriving DecidableEq, Repr

structure RuntimeTarget where
  runtimeUnitId : String
  sandboxId : String
  generation : Nat
  deriving DecidableEq, Repr

def RuntimeTarget.name (target : RuntimeTarget) : String × String := (target.runtimeUnitId,target.sandboxId)

/-- A bundle is compiled from one binding, whose generation it has. -/
structure Bundle where
  generation : Nat
  sourceJobId : String
  sourceRunId : String
  runtimeTargets : List RuntimeTarget
  fenced : ∀ target ∈ runtimeTargets, target.generation = generation
  deriving DecidableEq, Repr

/-- The marker of a bundle, with what its control annotations say. -/
structure Marker where
  bundle : Bundle
  metadata : Option ControlMetadata
  deriving DecidableEq, Repr

structure BundleControlMatch where
  key : String
  bundle : Bundle
  targets : List ControlTarget
  deriving DecidableEq, Repr

def BundleControlMatch.job (found : BundleControlMatch) : JobName := ⟨found.key,found.bundle.generation⟩

/-- A request that has been prepared: what the ledger was to hold of it, and the bundles it was found in. -/
structure Preparation where
  record : ControlRecord
  found : List BundleControlMatch
  deriving DecidableEq, Repr

def Preparation.key (prepared : Preparation) : String := prepared.record.request.idempotencyKey

def Preparation.revision (prepared : Preparation) : Nat := prepared.record.result.backendRevision

structure Effect where
  key : String
  mutation : JobControlMutation
  deriving DecidableEq, Repr

/-- The backend with its ledger file; `prepared` and `effects` are the history, which no function reads. -/
structure Backend where
  server : Server
  markers : Map String Marker
  revision : Nat
  controls : Map String ControlRecord
  file : ControlLedger
  prepared : List Preparation
  effects : List Effect

inductive Failure where
  | invalid (detail : String) | deadlineExceeded | cancelled | idempotencyConflict | runtimeNotFound
  | generationConflict
  | ambiguous (bundleKey : String) | failed (detail : String)
  deriving DecidableEq, Repr

abbrev Act := EStateM Failure Backend

def Backend.merged (b : Backend) : ControlLedger := ⟨max b.revision b.file.revision,b.controls ∪ b.file.records⟩

def Backend.persisted (b : Backend) : Backend := { b with file := b.merged }

def Backend.store (b : Backend) (key : String) (record : ControlRecord) : Backend :=
  { b with controls := b.controls.insert key record }

def persistControlState (write : Write) : Act Unit := fun b =>
  let stored := write.stores b b.persisted
  if write.ok then .ok () stored else .error (.failed "persist") stored

/-- A process that starts reads the file. -/
def Backend.restart (b : Backend) : Backend := { b with revision := b.file.revision, controls := b.file.records }

def metadataForControl (request : ControlRequest) (revision : Nat) (committed : Bool) : ControlMetadata where
  requestId := request.requestId
  idempotencyKey := request.idempotencyKey
  action := request.action
  backendRevision := revision
  committed := committed
  retireRun := !request.globalTargetLookup && isDeleteControl request.action

def sameControlIdentity (left right : ControlMetadata) : Bool :=
  decide (left.requestId = right.requestId ∧ left.idempotencyKey = right.idempotencyKey ∧ left.action = right.action ∧
    left.retireRun = right.retireRun)

def shouldKeepExistingControlMetadata (existing incoming : ControlMetadata) : Bool :=
  if incoming.backendRevision < existing.backendRevision then existing.committed || !incoming.committed
  else if existing.backendRevision < incoming.backendRevision then false
  else if sameControlIdentity existing incoming then existing.committed && !incoming.committed
  else if existing.committed ≠ incoming.committed then existing.committed && !incoming.committed
  else !incoming.committed

def encodeControlMetadata (marker : Marker) (metadata : ControlMetadata) : Marker :=
  if marker.metadata.any (shouldKeepExistingControlMetadata · metadata) then marker
  else { marker with metadata := some metadata }

/-- How the reads and writes of some markers go; the writes that roll back an earlier one may fail as well. -/
structure Marking where
  read : Bool
  write : String → Write
  rollback : String → Write

def rollbackMarkers (originals : Map String Marker) (a : Marking) (b : Backend) (key : String) : Backend :=
  match originals.lookup key with
  | some original => { b with markers := (a.rollback key).stores b.markers (b.markers.insert key original) }
  | none => b

def upsertMarkers (metadata : ControlMetadata) (originals : Map String Marker) (a : Marking) :
    List String → List String → Act Unit
  | _, [] => pure ()
  | done, key :: rest => fun b =>
    match originals.lookup key with
    | none => .error .runtimeNotFound b
    | some original =>
      let updated := { b with
        markers := (a.write key).stores b.markers (b.markers.insert key (encodeControlMetadata original metadata)) }
      if (a.write key).ok then upsertMarkers metadata originals a (key :: done) rest updated
      else .error (.failed "upsert") (done.foldl (rollbackMarkers originals a) updated)

def setBundleControlMetadata (keys : List String) (metadata : ControlMetadata) (a : Marking) : Act Unit := fun b =>
  if a.read = false ∧ keys ≠ [] then .error (.failed "get") b
  else if keys.any (· ∉ b.markers) then .error .runtimeNotFound b
  else upsertMarkers metadata b.markers a [] keys b

def ControlRecord.committed (record : ControlRecord) : Bool := !record.pending && record.result.accepted

def ControlRecord.metadata (record : ControlRecord) : ControlMetadata :=
  metadataForControl record.request record.result.backendRevision true

def selectControl (key : String) (selected : Option ControlMetadata) (record : ControlRecord) :
    Option ControlMetadata :=
  if record.committed = false ∨ key ∉ record.bundleKeys ∨
      record.result.backendRevision ≤ (selected.map ControlMetadata.backendRevision).getD 0 then selected
  else some record.metadata

/-- What the records say of a bundle: the accepted request with the highest revision that touched it. -/
def controlMetadataFromLedger (controls : Map String ControlRecord) (key : String) : Option ControlMetadata :=
  (controls.pairs.map Prod.snd).foldl (selectControl key) none

def shouldPreferLedgerControlMetadata (object : Option ControlMetadata) (ledger : ControlMetadata) : Bool :=
  match object with
  | none => true
  | some object =>
    if object.committed = false then true
    else if object.backendRevision ≠ ledger.backendRevision then
      decide (object.backendRevision < ledger.backendRevision)
    else !sameControlIdentity object ledger || ledger.committed

def controlMetadataForBundle (b : Backend) (key : String) : Option ControlMetadata :=
  match b.markers.lookup key with
  | none => none
  | some marker =>
    match controlMetadataFromLedger b.controls key with
    | some ledger => if shouldPreferLedgerControlMetadata marker.metadata ledger then some ledger else marker.metadata
    | none => marker.metadata

def repairReplayedControlMetadata (record : ControlRecord) (a : Marking) : Act Unit := fun b =>
  if record.result.accepted = false then .ok () b
  else
    -- a later accepted request owns the other bundles
    let owned := record.bundleKeys.filter fun key =>
      decide (controlMetadataFromLedger b.controls key = some record.metadata)
    let repairs := owned.filter fun key => (b.markers.lookup key).any fun marker =>
      !marker.metadata.any fun metadata =>
        decide (record.result.backendRevision < metadata.backendRevision ∨ metadata = record.metadata)
    if a.read = false ∧ owned ≠ [] then .error (.failed "get") b
    else setBundleControlMetadata repairs record.metadata a b

def restoreBundle (a : Marking) (key : String) : Act Unit := fun b =>
  match controlMetadataFromLedger b.controls key with
  | none => .ok () b
  | some metadata =>
    if a.read = false then .error (.failed "get") b
    else if key ∉ b.markers then .ok () b
    else setBundleControlMetadata [key] metadata a b

def restoreBundles (a : Marking) : List String → Act Unit
  | [] => pure ()
  | key :: rest => do
    restoreBundle a key
    restoreBundles a rest

/-- The bundles of accepted requests get back the annotations they should have. -/
def restoreControlMetadata (a : Marking) : Act Unit := fun b =>
  restoreBundles a ((b.controls.pairs.flatMap fun entry => entry.2.bundleKeys).dedup.insertionSort (· ≤ ·)) b

def validateTargets : List (String × String) → List ControlTarget → Except Failure Unit
  | _, [] => .ok ()
  | seen, target :: rest =>
    if target.runtimeUnitId = "" ∨ target.sandboxId = "" ∨ target.expectedGeneration = 0 then
      .error (.invalid "runtime_unit_id, sandbox_id, and expected_generation are required for every target")
    else if target.name ∈ seen then
      .error (.invalid ("duplicate runtime target \"" ++ target.runtimeUnitId ++ "\"/\"" ++ target.sandboxId ++ "\""))
    else validateTargets (target.name :: seen) rest

def validateControlRequest (request : ControlRequest) : Except Failure Unit :=
  if request.globalTargetLookup = false ∧ (request.runId = "" ∨ request.jobId = "") then
    .error (.invalid "job_id and run_id are required")
  else if request.idempotencyKey = "" then .error (.invalid "idempotency_key is required")
  else if request.action ∉ [JobCommandType.pause,.resume,.stop,.terminate] then
    .error (.invalid ("unsupported backend lifecycle action JOB_COMMAND_TYPE_" ++ request.action.text))
  else if request.targets = [] then .error (.invalid "at least one runtime target is required")
  else validateTargets [] request.targets

def controlDigest (request : ControlRequest) : String :=
  let targets := request.targets.map fun target =>
    target.runtimeUnitId ++ "/" ++ target.sandboxId ++ "/" ++ toString target.expectedGeneration
  "\x00".intercalate (["JOB_COMMAND_TYPE_" ++ request.action.text,request.jobId,request.runId,request.traceId,
    request.reason,    "global=" ++ toString request.globalTargetLookup] ++ targets.insertionSort (· ≤ ·))

def locate (located : List RuntimeTarget) (requested : ControlTarget) : Except Failure Unit :=
  match located.find? (fun target => target.name = requested.name) with
  | none => .error .runtimeNotFound
  | some target => if target.generation ≠ requested.expectedGeneration then .error .generationConflict else .ok ()

def BundleControlMatch.of (targets : List ControlTarget) (entry : String × Marker) : Option BundleControlMatch :=
  let named := targets.filter fun target => decide (target.name ∈ entry.2.bundle.runtimeTargets.map RuntimeTarget.name)
  if named = [] then none else some ⟨entry.1,entry.2.bundle,named⟩

def findBundlesForControl (markers : Map String Marker) (request : ControlRequest) :
    Except Failure (List BundleControlMatch) :=
  let bundles := (sortedPairs (· ≤ ·) markers).filter fun entry => decide (request.globalTargetLookup ∨
    entry.2.bundle.sourceRunId = request.runId ∧ entry.2.bundle.sourceJobId = request.jobId)
  let located := bundles.flatMap fun entry => entry.2.bundle.runtimeTargets
  if bundles = [] then .error .runtimeNotFound
  else if ¬ (located.map RuntimeTarget.name).Nodup then .error (.invalid "runtime target appears in multiple bundles")
  else
    match checkEach (locate located) request.targets with
    | .error failure => .error failure
    | .ok () => .ok (bundles.filterMap (BundleControlMatch.of request.targets))

/-- A read of a Job: what others change before it, and whether it succeeds. -/
structure Read where
  before : List Touch
  ok : Bool

def Backend.touches (b : Backend) (changes : List Touch) : Backend := { b with server := b.server.touches changes }

def readJob (name : JobName) (read : Read) : Act (Option Job) := fun b =>
  let b := b.touches read.before
  if read.ok then .ok (b.server.jobs.lookup name) b else .error (.failed "get") b

def prepareTarget (action : JobCommandType) (read : Read) (found : BundleControlMatch) :
    Act ControlTargetProgress := do
  match ← readJob found.job read with
  | some job => pure ⟨found.key,⟨found.job,action,job.version⟩,.pending⟩
  | none => if isDeleteControl action then pure ⟨found.key,⟨found.job,action,0⟩,.completed⟩ else throw .runtimeNotFound

def prepareControlProgress (action : JobCommandType) (reads : String → Read) :
    List BundleControlMatch → Act (List ControlTargetProgress)
  | [] => pure []
  | found :: rest => do
    let progress ← prepareTarget action (reads found.key) found
    let later ← prepareControlProgress action reads rest
    pure (progress :: later)

def pendingResult (revision : Nat) : ControlResult := ⟨false,false,revision,""⟩

def newRecord (request : ControlRequest) (found : List BundleControlMatch) (progress : List ControlTargetProgress)
    (revision : Nat) : ControlRecord where
  digest := controlDigest request
  pending := true
  request := request
  bundleKeys := found.map BundleControlMatch.key
  targetProgress := progress
  result := pendingResult revision

def Backend.prepare (b : Backend) (record : ControlRecord) (found : List BundleControlMatch) : Backend :=
  { b with
    revision := b.revision + 1
    controls := b.controls.insert record.request.idempotencyKey record
    prepared := b.prepared ++ [⟨record,found⟩] }

/-- The new record goes to the ledger; a persist that fails takes back the record and the revision. -/
def recordControl (request : ControlRequest) (found : List BundleControlMatch) (progress : List ControlTargetProgress)
    (write : Write) : Act ControlRecord := fun b =>
  let record := newRecord request found progress (b.revision + 1)
  match persistControlState write (b.prepare record found) with
  | .ok () stored => .ok record stored
  | .error _ stored => .error (.failed "persist pending backend control") { stored with
      revision := stored.revision - 1
      controls := b.controls.erase request.idempotencyKey
      prepared := write.stores b.prepared stored.prepared }

/-- How a call of `ControlJob` goes: what others change before it and before its read-back, whether it reaches the
server and whether its answers come back. -/
structure Call where
  before : List Touch
  sent : Bool
  meanwhile : List Touch
  answered : Bool

def mutated (action : JobCommandType) (job : Job) : Job :=
  match action with
  | .pause => { job with suspend := true }
  | .resume => { job with suspend := false }
  | _ => { job with deleting := true }

def readMutated (mutation : JobControlMutation) (call : Call) : Act JobControlReadback := fun b =>
  if call.answered = false then .error (.failed "control") b
  else if isDeleteControl mutation.action then .ok ⟨false,false,true,0⟩ b
  else
    match b.server.jobs.lookup mutation.object with
    | none => .error (.failed "kubernetes job disappeared during lifecycle readback") b
    | some job => .ok ⟨job.suspend,false,job.deleting,job.succeeded⟩ b

def controlJob (key : String) (mutation : JobControlMutation) (call : Call) : Act JobControlReadback := fun b =>
  let b := b.touches call.before
  match b.server.jobs.lookup mutation.object with
  | none => .error (.failed "control") b
  | some job =>
    if call.sent ∧ job.version = mutation.expectedVersion then
      let changed : Backend := { b with
        server := b.server.put mutation.object (mutated mutation.action job)
        effects := b.effects ++ [⟨key,mutation⟩] }
      readMutated mutation call (changed.touches call.meanwhile)
    else .error (.failed "control") b

/-- How the execution of a target goes. -/
structure Execution where
  read : Read
  reconciled : Write
  started : Write
  call : Call
  ended : Write

def ControlRecord.mark (record : ControlRecord) (index : Nat) (state : ControlProgressState) : ControlRecord :=
  { record with targetProgress := record.targetProgress.modify index fun progress => { progress with state := state } }

/-- The record with its progress goes to memory and to the file. -/
def saveProgress (key : String) (record : ControlRecord) (write : Write) : Act ControlRecord := fun b =>
  match persistControlState write (b.store key record) with
  | .ok () stored => .ok record stored
  | .error failure stored => .error failure stored

/-- The target is marked ambiguous, whether or not this can be persisted, and the call fails. -/
def leaveAmbiguous (key : String) (record : ControlRecord) (index : Nat) (progress : ControlTargetProgress)
    (write : Write) :
    Act ControlRecord := fun b =>
  match saveProgress key (record.mark index .ambiguous) write b with
  | .ok _ stored | .error _ stored => .error (.ambiguous progress.bundleKey) stored

inductive Reconciled where
  | completed | safeToRetry | unclear
  deriving DecidableEq, Repr

def reconcileControlProgress (progress : ControlTargetProgress) (read : Read) : Act Reconciled := fun b =>
  match readJob progress.mutation.object read b with
  | .error failure b => .error failure b
  | .ok none b => if isDeleteControl progress.mutation.action then .ok .completed b else .error .runtimeNotFound b
  | .ok (some job) b =>
    if controlReadbackMatches progress.mutation.action (readbackFromObject job) then .ok .completed b
    else if job.version = progress.mutation.expectedVersion then .ok .safeToRetry b
    else .ok .unclear b

/-- The Job is changed, and the answer decides how the target is marked. -/
def changeTarget (key : String) (record : ControlRecord) (index : Nat) (progress : ControlTargetProgress)
    (a : Execution) :
    Act ControlRecord := fun b =>
  match controlJob key progress.mutation a.call b with
  | .error _ b => leaveAmbiguous key record index progress a.ended b
  | .ok readback b =>
    match observedStateForReadback progress.mutation.action readback with
    | .error _ => leaveAmbiguous key record index progress a.ended b
    | .ok _ => saveProgress key (record.mark index .completed) a.ended b

def mutateTarget (key : String) (record : ControlRecord) (index : Nat) (progress : ControlTargetProgress)
    (a : Execution) :
    Act ControlRecord := do
  let record ← saveProgress key (record.mark index .inFlight) a.started
  changeTarget key record index progress a

def resolveTarget (key : String) (record : ControlRecord) (index : Nat) (progress : ControlTargetProgress)
    (a : Execution) :
    Act ControlRecord := fun b =>
  match reconcileControlProgress progress a.read b with
  | .error _ b => leaveAmbiguous key record index progress a.reconciled b
  | .ok .completed b => saveProgress key (record.mark index .completed) a.reconciled b
  | .ok .unclear b => leaveAmbiguous key record index progress a.reconciled b
  | .ok .safeToRetry b => mutateTarget key record index progress a b

def executeControlProgress (executions : String → Execution) (key : String) (record : ControlRecord) (index : Nat) :
    Act ControlRecord :=
  match record.targetProgress[index]? with
  | none => pure record
  | some progress =>
    match progress.state with
    | .completed => pure record
    | .inFlight | .ambiguous => resolveTarget key record index progress (executions progress.bundleKey)
    | .pending => mutateTarget key record index progress (executions progress.bundleKey)

def executeTargets (executions : String → Execution) (key : String) : List Nat → ControlRecord → Act ControlRecord
  | [], record => pure record
  | index :: rest, record => do
    let record ← executeControlProgress executions key record index
    executeTargets executions key rest record

/-- How a call goes: the deadline and the context, the reads, the writes of the ledger and those of the markers. -/
structure Answers where
  expired : Bool
  cancelled : Bool
  listed : Bool
  reads : String → Read
  prepared : Write
  noted : Marking
  executions : String → Execution
  committed : Write
  marked : Marking

/-- Everything succeeds and nobody else writes. -/
def smooth : Answers where
  expired := false
  cancelled := false
  listed := true
  reads := fun _ => ⟨[],true⟩
  prepared := .done
  noted := ⟨true,fun _ => .done,fun _ => .done⟩
  executions := fun _ => ⟨⟨[],true⟩,.done,.done,⟨[],true,[],true⟩,.done⟩
  committed := .done
  marked := ⟨true,fun _ => .done,fun _ => .done⟩

def ControlRecord.accept (record : ControlRecord) : ControlRecord :=
  { record with
    pending := false
    result := ⟨true,false,record.result.backendRevision,"backend observed " ++ record.request.action.text.toLower⟩ }

def commitControl (request : ControlRequest) (record : ControlRecord) (a : Answers) : Act ControlResult := fun b =>
  match persistControlState a.committed (b.store request.idempotencyKey record.accept) with
  | .error _ stored => .error (.failed "persist backend control state") (stored.store request.idempotencyKey record)
  | .ok () stored =>
    match setBundleControlMetadata record.bundleKeys
        (metadataForControl request record.result.backendRevision true) a.marked
        stored with
    | .error _ b => .error (.failed "persist committed control metadata") b
    | .ok () b => .ok record.accept.result b

def resumeControl (request : ControlRequest) (record : ControlRecord) (a : Answers) : Act ControlResult := do
  let record ← executeTargets a.executions request.idempotencyKey (List.range record.targetProgress.length) record
  commitControl request record a

def notePending (request : ControlRequest) (record : ControlRecord) (a : Answers) : Act Unit := fun b =>
  match setBundleControlMetadata record.bundleKeys
      (metadataForControl request record.result.backendRevision false) a.noted b with
  | .error _ b => .error (.failed "persist pending control metadata") b
  | .ok () b => .ok () b

def findMatches (request : ControlRequest) (a : Answers) : Act (List BundleControlMatch) := fun b =>
  if a.listed = false then .error (.failed "list bundles") b
  else
    match findBundlesForControl b.markers request with
    | .error failure => .error failure b
    | .ok found => .ok found b

def startControl (request : ControlRequest) (a : Answers) : Act ControlResult := do
  let found ← findMatches request a
  let progress ← prepareControlProgress request.action a.reads found
  let record ← recordControl request found progress a.prepared
  notePending request record a
  resumeControl request record a

def replayControl (record : ControlRecord) (a : Answers) : Act ControlResult := do
  repairReplayedControlMetadata record a.marked
  pure { record.result with idempotent := true }

def control (request : ControlRequest) (a : Answers) : Act ControlResult := fun b =>
  match validateControlRequest request with
  | .error failure => .error failure b
  | .ok () =>
    if a.expired then .error .deadlineExceeded b
    else
      match b.controls.lookup request.idempotencyKey with
      | some record =>
        if record.digest ≠ controlDigest request then .error .idempotencyConflict b
        else if record.pending = false then replayControl record a b
        else if a.cancelled then .error .cancelled b
        else resumeControl request record a b
      | none => if a.cancelled then .error .cancelled b else startControl request a b

/-- `apply` replaces the marker once it has been given a newer generation and every object of it was written;
`changes` are what it, or a failed attempt, does to the Jobs. -/
inductive Step where
  | control (request : ControlRequest) (a : Answers) | restart | touch (change : Touch) | restore (a : Marking)
  | apply (key : String) (bundle : Bundle) (changes : List Touch) (written : Bool) | cleanup (key : String)

def Backend.replaces (b : Backend) (key : String) (bundle : Bundle) : Bool :=
  (b.markers.lookup key).all fun marker => decide (marker.bundle.generation < bundle.generation)

def Backend.applyBundle (b : Backend) (key : String) (bundle : Bundle) : Backend :=
  if b.replaces key bundle then { b with markers := b.markers.insert key ⟨bundle,none⟩ } else b

def Backend.step (b : Backend) : Step → Backend
  | .control request a => after (control request a b)
  | .restart => b.restart
  | .touch change => b.touches [change]
  | .restore a => after (restoreControlMetadata a b)
  | .apply key bundle changes written =>
    if written then (b.touches changes).applyBundle key bundle else b.touches changes
  | .cleanup key => { b with markers := b.markers.erase key }

def Backend.begin (server : Server) : Backend := ⟨server,∅,0,∅,⟨0,∅⟩,[],[]⟩

/-- Versions only grow: a Job that is there later has kept its version or taken a new one. -/
structure Later (s s' : Server) : Prop where
  clock : s.clock ≤ s'.clock
  jobs : ∀ name job, s'.jobs.lookup name = some job → s.jobs.lookup name = some job ∨ s.clock < job.version

structure Seen (s : Server) (name : JobName) (v : Nat) : Prop where
  clock : v ≤ s.clock
  jobs : ∀ job, s.jobs.lookup name = some job → v ≤ job.version

/-- The version `v` of the Job has been there and will not be again. -/
structure Spent (s : Server) (name : JobName) (v : Nat) : Prop where
  clock : v ≤ s.clock
  jobs : ∀ job, s.jobs.lookup name = some job → v < job.version

theorem Later.refl (s : Server) : Later s s := ⟨le_rfl,fun _ _ => .inl⟩

variable {s s' : Server} {name : JobName} {v : Nat}

theorem Later.trans {s'' : Server} (first : Later s s') (second : Later s' s'') : Later s s'' := by
  refine ⟨first.clock.trans second.clock,?_⟩
  intro name job held
  rcases second.jobs name job held with held | newer
  · exact first.jobs name job held
  · exact .inr (first.clock.trans_lt newer)

theorem Later.put (s : Server) (name : JobName) (job : Job) : Later s (s.put name job) := by
  refine ⟨Nat.le_succ _,?_⟩
  intro other held found
  by_cases same : other = name
  · rw [same,Server.put,AList.lookup_insert] at found
    cases found
    exact .inr (Nat.lt_succ_self _)
  · rw [Server.put,AList.lookup_insert_ne same] at found
    exact .inl found

theorem Later.touches (s : Server) (changes : List Touch) : Later s (s.touches changes) := by
  induction changes generalizing s with
  | nil => exact .refl s
  | cons change rest ih =>
    refine Later.trans ?_ (ih (s.touch change))
    cases change with
    | put name job => exact .put s name job
    | remove name =>
      refine ⟨le_rfl,?_⟩
      intro other held found
      by_cases same : other = name
      · rw [same,Server.touch,Server.remove,AList.lookup_erase] at found
        cases found
      · exact .inl (AList.lookup_erase_ne same ▸ found)

theorem Seen.later (seen : Seen s name v) (later : Later s s') : Seen s' name v := by
  refine ⟨seen.clock.trans later.clock,?_⟩
  intro job held
  rcases later.jobs name job held with held | newer
  · exact seen.jobs job held
  · exact seen.clock.trans newer.le

theorem Spent.later (spent : Spent s name v) (later : Later s s') : Spent s' name v := by
  refine ⟨spent.clock.trans later.clock,?_⟩
  intro job held
  rcases later.jobs name job held with held | newer
  · exact spent.jobs job held
  · exact spent.clock.trans_lt newer

theorem Spent.of_le {w : Nat} (spent : Spent s name w) (le : v ≤ w) : Spent s name v :=
  ⟨le.trans spent.clock,fun job held => le.trans_lt (spent.jobs job held)⟩

theorem Seen.spent_of_absent (seen : Seen s name v) (absent : s.jobs.lookup name = none) : Spent s name v :=
  ⟨seen.clock,fun _ held => nomatch absent.symm.trans held⟩

/-- How a target of a new record stands to the servers before and after its preparation. -/
structure Fits (start server : Server) (action : JobCommandType) (found : BundleControlMatch)
    (progress : ControlTargetProgress) : Prop where
  key : progress.bundleKey = found.key
  object : progress.mutation.object = found.job
  action : progress.mutation.action = action
  seen : Seen server found.job progress.mutation.expectedVersion
  state : progress.state = .pending ∧ (∀ v, Seen start found.job v → v ≤ progress.mutation.expectedVersion) ∨
    progress.state = .completed ∧ Spent server found.job start.clock

def ControlProgressState.unsure (state : ControlProgressState) : Bool :=
  decide (state = .inFlight ∨ state = .ambiguous)

/-- Why a target may be marked so: it stays open, its own mutation took effect, its Job is absent, or its Job was
read back as asked for when the target had been left unsure before the call. -/
inductive Reason (start b : Backend) (key : String) (progress : ControlTargetProgress) : ControlProgressState → Prop
  | opened {state : ControlProgressState} (kept : state ≠ .completed) : Reason start b key progress state
  | effect (taken : ⟨key,progress.mutation⟩ ∈ b.effects) : Reason start b key progress .completed
  | absent (gone : b.server.jobs.lookup progress.mutation.object = none) : Reason start b key progress .completed
  | readback {record : ControlRecord} {job : Job} (held : start.controls.lookup key = some record)
      (member : progress ∈ record.targetProgress) (unsure : progress.state.unsure = true)
      (there : b.server.jobs.lookup progress.mutation.object = some job)
      (shown : controlReadbackMatches progress.mutation.action (readbackFromObject job) = true) :
      Reason start b key progress .completed

/-- Annotations change to those of a pending request or of one the ledger has accepted. -/
structure Annotates (b : Backend) (markers : Map String Marker) : Prop where
  marker : ∀ key, (markers.lookup key).map Marker.bundle = (b.markers.lookup key).map Marker.bundle
  metadata : ∀ key marker, markers.lookup key = some marker → b.markers.lookup key = some marker ∨
    ∃ metadata, marker.metadata = some metadata ∧ (metadata.committed = true → ∃ id record,
      b.controls.lookup id = some record ∧ record.committed = true ∧ key ∈ record.bundleKeys ∧
        metadata.backendRevision = record.result.backendRevision)

/-- A call for a key that started at a backend; `late` says whether the first persist of a request may fail after it
has replaced the file. -/
structure Calling where
  key : String
  start : Backend
  late : Prop

/-- One change of the backend in a call. -/
inductive Move (c : Calling) : Backend → Backend → Prop
  | server {b : Backend} {server : Server} (later : Later b.server server) : Move c b { b with server := server }
  | effect {b : Backend} {key : String} {record : ControlRecord} {progress : ControlTargetProgress} {job : Job}
      (changed : Job) (held : b.controls.lookup key = some record) (member : progress ∈ record.targetProgress)
      (there : b.server.jobs.lookup progress.mutation.object = some job)
      (current : job.version = progress.mutation.expectedVersion) :
      Move c b { b with
        server := b.server.put progress.mutation.object changed
        effects := b.effects ++ [⟨key,progress.mutation⟩] }
  | stored {b : Backend} : Move c b b.persisted
  | kept {b : Backend} {key : String} {record : ControlRecord} (held : b.controls.lookup key = some record)
      (pending : record.pending = true) : Move c b (b.store key record)
  | prepared {b : Backend} {request : ControlRequest} {found : List BundleControlMatch}
    {progress : List ControlTargetProgress}
      (named : c.key = request.idempotencyKey) (fresh : b.controls.lookup request.idempotencyKey = none)
      (located : findBundlesForControl b.markers request = .ok found) (first : b = { c.start with server := b.server })
      (fits : List.Forall₂ (Fits c.start.server b.server request.action) found progress) :
      Move c b (b.prepare (newRecord request found progress (b.revision + 1)) found).persisted
  | leaked {b : Backend} {request : ControlRequest} {found : List BundleControlMatch}
    {progress : List ControlTargetProgress}
      (allowed : c.late) (named : c.key = request.idempotencyKey)
        (fresh : b.controls.lookup request.idempotencyKey = none)
      (located : findBundlesForControl b.markers request = .ok found) (first : b = { c.start with server := b.server })
      (fits : List.Forall₂ (Fits c.start.server b.server request.action) found progress) :
      Move c b { b with
        file := (b.prepare (newRecord request found progress (b.revision + 1)) found).merged
        prepared := b.prepared ++ [⟨newRecord request found progress (b.revision + 1),found⟩] }
  | marked {b : Backend} {record : ControlRecord} {index : Nat} {progress : ControlTargetProgress}
      {state : ControlProgressState} (held : b.controls.lookup c.key = some record) (pending : record.pending = true)
      (there : record.targetProgress[index]? = some progress) (reason : Reason c.start b c.key progress state) :
      Move c b (b.store c.key (record.mark index state))
  | accepted {b : Backend} {key : String} {record : ControlRecord} (held : b.controls.lookup key = some record)
      (pending : record.pending = true) (completed : ∀ progress ∈ record.targetProgress, progress.state = .completed) :
      Move c b (b.store key record.accept).persisted
  | unreported {b : Backend} {key : String} {record : ControlRecord} (held : b.controls.lookup key = some record)
      (pending : record.pending = true) (completed : ∀ progress ∈ record.targetProgress, progress.state = .completed) :
      Move c b { b with file := (b.store key record.accept).merged }
  | annotated {b : Backend} {markers : Map String Marker} (annotates : Annotates b markers) :
      Move c b { b with markers := markers }

abbrev Moves (c : Calling) : Backend → Backend → Prop := Relation.ReflTransGen (Move c)

section Moves
variable {c : Calling} {b : Backend}

theorem touches_moves (changes : List Touch) : Moves c b (b.touches changes) :=
  .single (.server (Later.touches b.server changes))

theorem persistControlState_ends (write : Write) (b : Backend) :
    Ends (fun b' => b' = b ∨ b' = b.persisted) (fun _ b' => b' = b.persisted) (persistControlState write b) := by
  cases write with
  | done => exact rfl
  | failed => exact .inl rfl
  | late => exact .inr rfl

theorem saveProgress_ends (key : String) (record : ControlRecord) (write : Write) (b : Backend) :
    Ends (fun b' => b' = b.store key record ∨ b' = (b.store key record).persisted)
      (fun saved b' => saved = record ∧ b' = (b.store key record).persisted) (saveProgress key record write b) := by
  have ends := persistControlState_ends write (b.store key record)
  unfold saveProgress
  cases persisted : persistControlState write (b.store key record) with
  | ok _ stored => rw [persisted] at ends; exact ⟨rfl,ends⟩
  | error failure stored => rw [persisted] at ends; exact ends

theorem Annotates.refl (b : Backend) : Annotates b b.markers := ⟨fun _ => rfl,fun _ _ => .inl⟩

/-- The metadata is that of a pending request, or of one the ledger has accepted for these bundles. -/
def Backed (b : Backend) (keys : List String) (metadata : ControlMetadata) : Prop :=
  metadata.committed = true → ∀ key ∈ keys, ∃ id record, b.controls.lookup id = some record ∧ record.committed = true ∧
    key ∈ record.bundleKeys ∧ metadata.backendRevision = record.result.backendRevision

variable {markers : Map String Marker} {key : String} {originals : Backend} {request : ControlRequest}

theorem Annotates.insert {original marker : Marker} (annotates : Annotates b markers)
    (held : b.markers.lookup key = some original) (bundle : marker.bundle = original.bundle)
    (metadata : marker = original ∨ ∃ metadata, marker.metadata = some metadata ∧ Backed b [key] metadata) :
    Annotates b (markers.insert key marker) := by
  constructor
  · intro other
    by_cases same : other = key
    · rw [same,AList.lookup_insert,held,Option.map_some,Option.map_some,bundle]
    · rw [AList.lookup_insert_ne same]
      exact annotates.marker other
  · intro other found lookup
    by_cases same : other = key
    · rw [same,AList.lookup_insert] at lookup
      cases lookup
      subst same
      rcases metadata with unchanged | ⟨metadata,carried,backed⟩
      · exact .inl (unchanged ▸ held)
      · exact .inr ⟨metadata,carried,fun committed => backed committed other (by simp)⟩
    · rw [AList.lookup_insert_ne same] at lookup
      exact annotates.metadata other found lookup

theorem rollbackMarkers_annotates (a : Marking) (key : String) (annotates : Annotates originals markers) :
    ∃ markers', rollbackMarkers originals.markers a { originals with markers := markers } key =
      { originals with markers := markers' } ∧ Annotates originals markers' := by
  unfold rollbackMarkers
  cases held : originals.markers.lookup key with
  | none => exact ⟨markers,rfl,annotates⟩
  | some original =>
    refine ⟨_,rfl,?_⟩
    unfold Write.stores
    split
    · exact annotates
    · exact annotates.insert held rfl (.inl rfl)

theorem rollback_annotates (a : Marking) (keys : List String) (annotates : Annotates originals markers) :
    ∃ markers', keys.foldl (rollbackMarkers originals.markers a) { originals with markers := markers } =
      { originals with markers := markers' } ∧ Annotates originals markers' := by
  induction keys generalizing markers with
  | nil => exact ⟨markers,rfl,annotates⟩
  | cons key rest ih =>
    obtain ⟨markers',rolled,kept⟩ := rollbackMarkers_annotates a key annotates
    rw [List.foldl_cons,rolled]
    exact ih kept

theorem upsertMarkers_annotates (metadata : ControlMetadata) (a : Marking) (done keys : List String)
    (backed : Backed originals keys metadata) (annotates : Annotates originals markers) :
    Ends (fun b' => ∃ markers', b' = { originals with markers := markers' } ∧ Annotates originals markers')
      (fun _ b' => ∃ markers', b' = { originals with markers := markers' } ∧ Annotates originals markers')
      (upsertMarkers metadata originals.markers a done keys { originals with markers := markers }) := by
  induction keys generalizing done markers with
  | nil => exact ⟨markers,rfl,annotates⟩
  | cons key rest ih =>
    unfold upsertMarkers
    cases held : originals.markers.lookup key with
    | none => exact ⟨markers,rfl,annotates⟩
    | some original =>
      have written : Annotates originals
          ((a.write key).stores markers (markers.insert key (encodeControlMetadata original metadata))) := by
        unfold Write.stores encodeControlMetadata
        split
        · exact annotates
        split
        · exact annotates.insert held rfl (.inl rfl)
        refine annotates.insert held rfl (.inr ⟨metadata,rfl,?_⟩)
        intro committed other member
        exact backed committed other (by rw [List.mem_singleton.mp member]; simp)
      dsimp only
      split
      · exact ih (key :: done) (fun committed other member => backed committed other (by simp [member])) written
      · exact rollback_annotates a done written

theorem setBundleControlMetadata_annotates (keys : List String) (metadata : ControlMetadata) (a : Marking)
    (backed : Backed b keys metadata) :
    Ends (fun b' => ∃ markers, b' = { b with markers := markers } ∧ Annotates b markers)
      (fun _ b' => ∃ markers, b' = { b with markers := markers } ∧ Annotates b markers)
      (setBundleControlMetadata keys metadata a b) := by
  unfold setBundleControlMetadata
  split
  · exact ⟨b.markers,rfl,.refl b⟩
  split
  · exact ⟨b.markers,rfl,.refl b⟩
  · exact upsertMarkers_annotates metadata a [] keys backed (.refl b)

theorem setBundleControlMetadata_moves (keys : List String) (metadata : ControlMetadata) (a : Marking)
    (backed : Backed b keys metadata) :
    Ends (fun b' => Move c b b' ∧ b'.controls = b.controls) (fun _ b' => Move c b b' ∧ b'.controls = b.controls)
      (setBundleControlMetadata keys metadata a b) := by
  refine (setBundleControlMetadata_annotates keys metadata a backed).mono ?_ ?_
  · rintro _ ⟨markers,rfl,annotates⟩
    exact ⟨.annotated annotates,rfl⟩
  · rintro _ _ ⟨markers,rfl,annotates⟩
    exact ⟨.annotated annotates,rfl⟩

theorem controlMetadataFromLedger_mem {controls : Map String ControlRecord} {metadata : ControlMetadata}
    (selected : controlMetadataFromLedger controls key = some metadata) :
    ∃ id record, controls.lookup id = some record ∧
      record.committed = true ∧ key ∈ record.bundleKeys ∧ metadata = record.metadata := by
  have general : ∀ (records : List ControlRecord) (chosen : Option ControlMetadata) (metadata : ControlMetadata),
      records.foldl (selectControl key) chosen = some metadata → chosen = some metadata ∨
        ∃ record ∈ records, record.committed = true ∧ key ∈ record.bundleKeys ∧ metadata = record.metadata := by
    intro records
    induction records with
    | nil => exact fun _ _ => .inl
    | cons record rest ih =>
      intro chosen metadata picked
      rcases ih _ metadata picked with here | ⟨later,member,facts⟩
      · unfold selectControl at here
        split at here
        · exact .inl here
        next better =>
          push Not at better
          cases here
          exact .inr ⟨record,by simp,by simpa using better.1,better.2.1,rfl⟩
      · exact .inr ⟨later,by simp [member],facts⟩
  rcases general _ none metadata selected with here | ⟨record,member,facts⟩
  · cases here
  · obtain ⟨⟨id,_⟩,listed,rfl⟩ := List.mem_map.mp member
    exact ⟨id,_,Map.mem_pairs_iff.mp listed,facts⟩

theorem replayControl_moves {record : ControlRecord} (held : b.controls.lookup key = some record) (a : Answers)
    (replayed : record.pending = false) : Ends (Moves c b) (fun _ => Moves c b) (replayControl record a b) := by
  refine Ends.bind (Q := fun _ => Moves c b) ?_ (fun _ _ moved => moved)
  unfold repairReplayedControlMetadata
  split
  · exact .refl
  next accepted =>
    dsimp only
    split
    · exact .refl
    refine (setBundleControlMetadata_moves _ _ a.marked ?_).mono (fun _ moved => .single moved.1)
      (fun _ _ moved => .single moved.1)
    intro _ other member
    have committed : record.committed = true := by
      simpa [ControlRecord.committed,replayed] using accepted
    exact ⟨key,record,held,committed,List.mem_of_mem_filter (List.mem_of_mem_filter member),rfl⟩

theorem Annotates.trans {first second : Map String Marker} (annotates : Annotates b first)
    (later : Annotates { b with markers := first } second) : Annotates b second := by
  refine ⟨fun key => (later.marker key).trans (annotates.marker key),?_⟩
  intro key marker there
  rcases later.metadata key marker there with unchanged | new
  · exact annotates.metadata key marker unchanged
  · exact .inr new

theorem restoreBundles_annotates (a : Marking) (keys : List String) (annotates : Annotates b markers) :
    Ends (fun b' => ∃ markers, b' = { b with markers := markers } ∧ Annotates b markers)
      (fun _ b' => ∃ markers, b' = { b with markers := markers } ∧ Annotates b markers)
      (restoreBundles a keys { b with markers := markers }) := by
  have same : ∃ markers', { b with markers := markers } = { b with markers := markers' } ∧ Annotates b markers' :=
    ⟨markers,rfl,annotates⟩
  induction keys generalizing markers with
  | nil => exact same
  | cons key rest ih =>
    refine Ends.bind (Q := fun _ b' => ∃ markers, b' = { b with markers := markers } ∧ Annotates b markers) ?_ ?_
    · unfold restoreBundle
      cases selected : controlMetadataFromLedger b.controls key with
      | none => exact same
      | some metadata =>
        dsimp only
        split
        · exact same
        split
        · exact same
        refine (setBundleControlMetadata_annotates [key] metadata a ?_).mono ?_ ?_
        · intro _ other member
          obtain ⟨id,record,held,committed,touched,made⟩ := controlMetadataFromLedger_mem selected
          rw [List.mem_singleton.mp member]
          exact ⟨id,record,held,committed,touched,made ▸ rfl⟩
        · rintro _ ⟨markers',rfl,later⟩
          exact ⟨markers',rfl,annotates.trans later⟩
        · rintro _ _ ⟨markers',rfl,later⟩
          exact ⟨markers',rfl,annotates.trans later⟩
    · rintro _ _ ⟨markers',rfl,later⟩
      exact ih later ⟨markers',rfl,later⟩

variable {record : ControlRecord} {index : Nat} {progress : ControlTargetProgress}

theorem mark_getElem? (record : ControlRecord) (index : Nat) (state : ControlProgressState) (other : Nat) :
    (record.mark index state).targetProgress[other]? =
      (record.targetProgress[other]?).map fun progress => if index = other then
        { progress with state := state } else progress := by
  simp only [ControlRecord.mark,List.getElem?_modify]
  rfl

theorem mem_mark {state : ControlProgressState} {second : ControlTargetProgress}
    (there : record.targetProgress[index]? = some progress)
    (member : second ∈ (record.mark index state).targetProgress) :
    (∃ other, other ≠ index ∧ record.targetProgress[other]? = some second) ∨ second =
      { progress with state := state } := by
  obtain ⟨other,held⟩ := List.mem_iff_getElem?.mp member
  rw [mark_getElem?] at held
  obtain ⟨before,found,rfl⟩ := Option.map_eq_some_iff.mp held
  split
  next same =>
    subst same
    cases there.symm.trans found
    exact .inr rfl
  next differ => exact .inl ⟨other,Ne.symm differ,found⟩

/-- `next` is the record with target `index` completed. -/
structure Done (record next : ControlRecord) (index : Nat) : Prop where
  same : next = { record with targetProgress := next.targetProgress }
  others : ∀ other, other ≠ index → next.targetProgress[other]? = record.targetProgress[other]?
  completed : ∀ progress, next.targetProgress[index]? = some progress → progress.state = .completed

theorem Done.mark (record : ControlRecord) (index : Nat) : Done record (record.mark index .completed) index := by
  refine ⟨rfl,?_,?_⟩
  · intro other apart
    rw [mark_getElem?]
    cases record.targetProgress[other]? with
    | none => rfl
    | some progress => rw [Option.map_some,if_neg (Ne.symm apart)]
  · intro progress held
    rw [mark_getElem?] at held
    obtain ⟨old,_,rfl⟩ := Option.map_eq_some_iff.mp held
    rw [if_pos rfl]

theorem readMutated_ends (mutation : JobControlMutation) (call : Call) (b : Backend) :
    Ends (· = b) (fun _ => (· = b)) (readMutated mutation call b) := by
  unfold readMutated
  split
  · exact rfl
  split
  · exact rfl
  split
  · exact rfl
  · exact rfl

theorem controlJob_moves (held : b.controls.lookup c.key = some record)
    (member : progress ∈ record.targetProgress) (reply : Call) :
    Ends (fun b' => Moves c b b' ∧ b'.controls = b.controls)
      (fun _ b' => Moves c b b' ∧ b'.controls = b.controls ∧ ⟨c.key,progress.mutation⟩ ∈ b'.effects)
      (controlJob c.key progress.mutation reply b) := by
  have touched : Moves c b (b.touches reply.before) := touches_moves reply.before
  unfold controlJob
  dsimp only
  split
  · exact ⟨touched,rfl⟩
  next job there =>
    split
    next current =>
      have changed := (touched.tail (.effect (mutated progress.mutation.action job) held member there current.2)).trans
        (touches_moves reply.meanwhile)
      refine (readMutated_ends progress.mutation reply _).mono ?_ ?_
      · rintro _ rfl
        exact ⟨changed,rfl⟩
      · rintro _ _ rfl
        exact ⟨changed,rfl,List.mem_append_right _ (List.mem_singleton_self _)⟩
    · exact ⟨touched,rfl⟩

section Target
variable (held : b.controls.lookup c.key = some record) (pending : record.pending = true)
  (there : record.targetProgress[index]? = some progress)
include held pending there

theorem saveMark_moves {state : ControlProgressState} (reason : Reason c.start b c.key progress state)
    (write : Write) :
    Ends (Moves c b) (fun saved b' => saved = record.mark index state ∧ Moves c b b' ∧
      b'.controls.lookup c.key = some saved) (saveProgress c.key (record.mark index state) write b) := by
  have marked : Moves c b (b.store c.key (record.mark index state)) := .single (.marked held pending there reason)
  refine (saveProgress_ends c.key (record.mark index state) write b).mono ?_ ?_
  · rintro _ (rfl | rfl)
    · exact marked
    · exact marked.tail .stored
  · rintro _ _ ⟨rfl,rfl⟩
    exact ⟨rfl,marked.tail .stored,AList.lookup_insert _⟩

theorem leaveAmbiguous_moves (write : Write) :
    Ends (Moves c b) (fun _ _ => False) (leaveAmbiguous c.key record index progress write b) := by
  have unsure : Reason c.start b c.key progress .ambiguous := .opened (by decide)
  have saved := saveMark_moves held pending there unsure write
  unfold leaveAmbiguous
  cases ran : saveProgress c.key (record.mark index .ambiguous) write b with
  | ok _ stored => rw [ran] at saved; exact saved.2.1
  | error _ stored => rw [ran] at saved; exact saved

theorem mutateTarget_moves (a : Execution) :
    Ends (Moves c b) (fun next b' => Moves c b b' ∧ b'.controls.lookup c.key = some next ∧ Done record next index)
      (mutateTarget c.key record index progress a b) := by
  refine Ends.bind (saveMark_moves held pending there (.opened (by decide)) a.started) ?_
  rintro _ b₁ ⟨rfl,started,held₁⟩
  have there₁ : (record.mark index .inFlight).targetProgress[index]? = some { progress with state := .inFlight } := by
    rw [mark_getElem?,there,Option.map_some,if_pos rfl]
  have pending₁ : (record.mark index .inFlight).pending = true := pending
  have controlled := controlJob_moves (c := c) held₁ (List.mem_of_getElem? there₁) a.call
  unfold changeTarget
  dsimp only at controlled
  cases ran : controlJob c.key progress.mutation a.call b₁ with
  | error _ b₂ =>
    rw [ran] at controlled
    exact (leaveAmbiguous_moves (controlled.2 ▸ held₁) pending₁ there₁ a.ended).mono
      (fun _ moved => (started.trans controlled.1).trans moved) (fun _ _ => False.elim)
  | ok readback b₂ =>
    rw [ran] at controlled
    obtain ⟨moved₁,controls,effect⟩ := controlled
    dsimp only
    split
    · exact (leaveAmbiguous_moves (controls ▸ held₁) pending₁ there₁ a.ended).mono
        (fun _ moved => (started.trans moved₁).trans moved) (fun _ _ => False.elim)
    · refine (saveMark_moves (controls ▸ held₁) pending₁ there₁ (.effect effect) a.ended).mono
        (fun _ moved => (started.trans moved₁).trans moved) ?_
      rintro _ b₃ ⟨rfl,moved,held₃⟩
      refine ⟨(started.trans moved₁).trans moved,held₃,rfl,?_,(Done.mark _ index).completed⟩
      intro other apart
      rw [(Done.mark _ index).others other apart,mark_getElem?]
      cases record.targetProgress[other]? with
      | none => rfl
      | some progress => rw [Option.map_some,if_neg (Ne.symm apart)]

/-- The target was already in the record when the call started. -/
def Held (start : Backend) (key : String) (progress : ControlTargetProgress) : Prop :=
  ∃ record, start.controls.lookup key = some record ∧ progress ∈ record.targetProgress

theorem resolveTarget_moves (unsure : progress.state.unsure = true) (before : Held c.start c.key progress)
    (a : Execution) :
    Ends (Moves c b) (fun next b' => Moves c b b' ∧ b'.controls.lookup c.key = some next ∧ Done record next index)
      (resolveTarget c.key record index progress a b) := by
  have touched : Moves c b (b.touches a.read.before) := touches_moves a.read.before
  have ambiguous : Ends (Moves c b) (fun next b' => Moves c b b' ∧ b'.controls.lookup c.key = some next ∧
    Done record next index)
      (leaveAmbiguous c.key record index progress a.reconciled (b.touches a.read.before)) :=
    (leaveAmbiguous_moves (b := b.touches a.read.before) held pending there a.reconciled).mono
      (fun _ => touched.trans) (fun _ _ => False.elim)
  have complete (reason : Reason c.start (b.touches a.read.before) c.key progress .completed) :
      Ends (Moves c b) (fun next b' => Moves c b b' ∧ b'.controls.lookup c.key = some next ∧ Done record next index)
        (saveProgress c.key (record.mark index .completed) a.reconciled (b.touches a.read.before)) := by
    refine (saveMark_moves (b := b.touches a.read.before) held pending there reason a.reconciled).mono
      (fun _ => touched.trans) ?_
    rintro _ b' ⟨rfl,moved,held'⟩
    exact ⟨touched.trans moved,held',Done.mark record index⟩
  unfold resolveTarget reconcileControlProgress readJob
  dsimp only
  cases a.read.ok with
  | false => exact ambiguous
  | true =>
    simp only [if_true]
    cases read : (b.touches a.read.before).server.jobs.lookup progress.mutation.object with
    | none =>
      dsimp only
      cases isDeleteControl progress.mutation.action with
      | false => exact ambiguous
      | true => exact complete (.absent read)
    | some job =>
      dsimp only
      by_cases shown : controlReadbackMatches progress.mutation.action (readbackFromObject job) = true
      · rw [if_pos shown]
        obtain ⟨record₀,held₀,member⟩ := before
        exact complete (.readback held₀ member unsure read shown)
      · rw [if_neg shown]
        by_cases current : job.version = progress.mutation.expectedVersion
        · rw [if_pos current]
          refine (mutateTarget_moves (b := b.touches a.read.before) held pending there a).mono
            (fun _ => touched.trans) ?_
          rintro _ b' ⟨moved,facts⟩
          exact ⟨touched.trans moved,facts⟩
        · rw [if_neg current]
          exact ambiguous

end Target

theorem executeControlProgress_moves (held : b.controls.lookup c.key = some record) (pending : record.pending = true)
    (before : ∀ progress, record.targetProgress[index]? = some progress → progress.state.unsure = true →
      Held c.start c.key progress)
    (executions : String → Execution) :
    Ends (Moves c b) (fun next b' => Moves c b b' ∧ b'.controls.lookup c.key = some next ∧ Done record next index)
      (executeControlProgress executions c.key record index b) := by
  unfold executeControlProgress
  cases there : record.targetProgress[index]? with
  | none => exact ⟨.refl,held,rfl,fun _ _ => rfl,fun _ found => nomatch there.symm.trans found⟩
  | some progress =>
    dsimp only
    cases state : progress.state with
    | completed =>
      refine ⟨.refl,held,rfl,fun _ _ => rfl,?_⟩
      intro other found
      cases there.symm.trans found
      exact state
    | pending => exact mutateTarget_moves held pending there _
    | inFlight =>
      have unsure : progress.state.unsure = true := by rw [state]; rfl
      exact resolveTarget_moves held pending there unsure (before progress there unsure) _
    | ambiguous =>
      have unsure : progress.state.unsure = true := by rw [state]; rfl
      exact resolveTarget_moves held pending there unsure (before progress there unsure) _

/-- What the loop over the targets leaves of a record. -/
structure Carried (record next : ControlRecord) (indices : List Nat) : Prop where
  same : next = { record with targetProgress := next.targetProgress }
  others : ∀ other, other ∉ indices → next.targetProgress[other]? = record.targetProgress[other]?
  completed : ∀ index ∈ indices, ∀ progress, next.targetProgress[index]? = some progress → progress.state = .completed

theorem executeTargets_moves (executions : String → Execution) (indices : List Nat) (distinct : indices.Nodup)
    (held : b.controls.lookup c.key = some record) (pending : record.pending = true)
    (before : ∀ index ∈ indices, ∀ progress, record.targetProgress[index]? = some progress →
    progress.state.unsure = true →
      Held c.start c.key progress) :
    Ends (Moves c b) (fun next b' => Moves c b b' ∧ b'.controls.lookup c.key = some next ∧ Carried record next indices)
      (executeTargets executions c.key indices record b) := by
  induction indices generalizing record b with
  | nil => exact ⟨.refl,held,rfl,fun _ _ => rfl,fun _ member => nomatch member⟩
  | cons index rest ih =>
    obtain ⟨fresh,distinct⟩ := List.nodup_cons.mp distinct
    refine Ends.bind (executeControlProgress_moves held pending (before index (by simp)) executions) ?_
    rintro next b₁ ⟨moved,held₁,done⟩
    have pending₁ : next.pending = true := by rw [done.same]; exact pending
    refine (ih distinct held₁ pending₁ ?_).mono (fun _ later => moved.trans later) ?_
    · intro other member progress there
      have apart : other ≠ index := fun same => fresh (same ▸ member)
      rw [done.others other apart] at there
      exact before other (by simp [member]) progress there
    · rintro last b₂ ⟨later,held₂,carried⟩
      refine ⟨moved.trans later,held₂,?_,?_,?_⟩
      · rw [carried.same,done.same]
      · intro other absent
        rw [carried.others other (fun member => absent (by simp [member])),
          done.others other (fun same => absent (by simp [same]))]
      · intro other member progress there
        rcases List.mem_cons.mp member with rfl | member
        · rw [carried.others other fresh] at there
          exact done.completed progress there
        · exact carried.completed other member progress there

theorem commitControl_moves (held : b.controls.lookup request.idempotencyKey = some record)
    (pending : record.pending = true)
    (completed : ∀ progress ∈ record.targetProgress, progress.state = .completed) (a : Answers) :
    Ends (Moves c b) (fun _ => Moves c b) (commitControl request record a b) := by
  have undo (file : ControlLedger) : ({ b with file := file }.store request.idempotencyKey record.accept).store
      request.idempotencyKey record = { b with file := file }.store request.idempotencyKey record := by
    simp only [Backend.store,AList.insert_insert]
  unfold commitControl
  have ends := persistControlState_ends a.committed (b.store request.idempotencyKey record.accept)
  cases persisted : persistControlState a.committed (b.store request.idempotencyKey record.accept) with
  | error _ stored =>
    rw [persisted] at ends
    rcases ends with rfl | rfl
    · show Moves c b ((b.store request.idempotencyKey record.accept).store request.idempotencyKey record)
      rw [undo b.file]
      exact .single (.kept held pending)
    · have written : Moves c b { b with file := (b.store request.idempotencyKey record.accept).merged } :=
        .single (.unreported held pending completed)
      show Moves c b ((b.store request.idempotencyKey record.accept).persisted.store request.idempotencyKey record)
      have undone := undo (b.store request.idempotencyKey record.accept).merged
      exact undone ▸ written.tail (.kept held pending)
  | ok _ stored =>
    rw [persisted] at ends
    cases ends
    have accepted : Moves c b (b.store request.idempotencyKey record.accept).persisted :=
      .single (.accepted held pending completed)
    have marked := setBundleControlMetadata_moves (c := c) (b :=
      (b.store request.idempotencyKey record.accept).persisted)
      record.bundleKeys (metadataForControl request record.result.backendRevision true) a.marked
      (fun _ other member => ⟨request.idempotencyKey,record.accept,AList.lookup_insert _,rfl,member,rfl⟩)
    dsimp only
    cases ran : setBundleControlMetadata record.bundleKeys
      (metadataForControl request record.result.backendRevision true) a.marked
        (b.store request.idempotencyKey record.accept).persisted with
    | error _ _ => rw [ran] at marked; exact accepted.tail marked.1
    | ok _ _ => rw [ran] at marked; exact accepted.tail marked.1

theorem resumeControl_moves (named : c.key = request.idempotencyKey)
    (held : b.controls.lookup request.idempotencyKey = some record) (pending : record.pending = true)
    (before : ∀ progress ∈ record.targetProgress, progress.state.unsure = true → Held c.start c.key progress)
    (a : Answers) :
    Ends (Moves c b) (fun _ => Moves c b) (resumeControl request record a b) := by
  rw [← named] at held
  refine Ends.bind (named ▸ executeTargets_moves a.executions _ List.nodup_range held pending
    (fun index _ progress there => before progress (List.mem_of_getElem? there))) ?_
  rintro next b₁ ⟨moved,held₁,carried⟩
  refine (commitControl_moves (named ▸ held₁) (carried.same ▸ pending) ?_ a).mono (fun _ => moved.trans)
    (fun _ _ => moved.trans)
  intro progress member
  obtain ⟨index,there⟩ := List.mem_iff_getElem?.mp member
  by_cases inside : index ∈ List.range record.targetProgress.length
  · exact carried.completed index inside progress there
  · rw [carried.others index inside,List.getElem?_eq_none (by simpa using inside)] at there
    cases there

theorem readJob_ends (name : JobName) (read : Read) (b : Backend) :
    Ends (· = b.touches read.before) (fun job b' => b' = b.touches read.before ∧ job = b'.server.jobs.lookup name)
      (readJob name read b) := by
  unfold readJob
  dsimp only
  split
  · exact ⟨rfl,rfl⟩
  · exact rfl

theorem prepareTarget_ends (action : JobCommandType) (read : Read) (found : BundleControlMatch) (b : Backend) :
    Ends (fun b' => ∃ server, b' = { b with server := server } ∧ Later b.server server)
      (fun progress b' => ∃ server, b' = { b with server := server } ∧ Later b.server server ∧
        Fits b.server server action found progress) (prepareTarget action read found b) := by
  have later : Later b.server (b.touches read.before).server := Later.touches b.server read.before
  refine Ends.bind ((readJob_ends found.job read b).mono ?_ (fun _ _ => id)) ?_
  · rintro _ rfl
    exact ⟨_,rfl,later⟩
  · rintro job _ ⟨rfl,read⟩
    cases job with
    | some job =>
      have there := (b.touches _).server.bounded found.job job read.symm
      refine ⟨_,rfl,later,rfl,rfl,rfl,⟨there.2,?_⟩,.inl ⟨rfl,?_⟩⟩
      · intro other held
        cases read.trans held
        exact le_rfl
      · exact fun v seen => (seen.later later).jobs job read.symm
    | none =>
      dsimp only
      split
      · refine ⟨_,rfl,later,rfl,rfl,rfl,⟨Nat.zero_le _,fun _ _ => Nat.zero_le _⟩,.inr ⟨rfl,later.clock,?_⟩⟩
        intro job held
        exact nomatch read.trans held
      · exact ⟨_,rfl,later⟩

theorem Fits.later {first second third fourth : Server} {action : JobCommandType} {found : BundleControlMatch}
    {progress : ControlTargetProgress} (fits : Fits second third action found progress) (before : Later first second)
    (later : Later third fourth) : Fits first fourth action found progress := by
  refine ⟨fits.key,fits.object,fits.action,fits.seen.later later,fits.state.imp ?_ ?_⟩
  · exact fun ⟨pending,newest⟩ => ⟨pending,fun v seen => newest v (seen.later before)⟩
  · exact fun ⟨completed,spent⟩ => ⟨completed,(spent.of_le before.clock).later later⟩

theorem prepareControlProgress_ends (action : JobCommandType) (reads : String → Read) (found : List BundleControlMatch)
    (b : Backend) :
    Ends (fun b' => ∃ server, b' = { b with server := server } ∧ Later b.server server)
      (fun progress b' => ∃ server, b' = { b with server := server } ∧ Later b.server server ∧
        List.Forall₂ (Fits b.server server action) found progress) (prepareControlProgress action reads found b) := by
  induction found generalizing b with
  | nil => exact ⟨b.server,rfl,.refl _,.nil⟩
  | cons head rest ih =>
    refine Ends.bind (prepareTarget_ends action (reads head.key) head b) ?_
    rintro progress _ ⟨server,rfl,later,fits⟩
    refine Ends.bind ((ih { b with server := server }).mono ?_ (fun _ _ => id)) ?_
    · rintro _ ⟨server',rfl,later'⟩
      exact ⟨server',rfl,later.trans later'⟩
    · rintro others _ ⟨server',rfl,later',fit⟩
      exact ⟨server',rfl,later.trans later',.cons (fits.later (.refl _) later')
        (fit.imp fun _ _ other => other.later later (.refl _))⟩

theorem recordControl_moves {found : List BundleControlMatch} {targets : List ControlTargetProgress}
    (named : c.key = request.idempotencyKey) (fresh : b.controls.lookup request.idempotencyKey = none)
    (located : findBundlesForControl b.markers request = .ok found) (first : b = { c.start with server := b.server })
    (fits : List.Forall₂ (Fits c.start.server b.server request.action) found targets) (write : Write)
    (allowed : write = .late → c.late) :
    Ends (Moves c b) (fun next b' => Moves c b b' ∧ b'.controls.lookup request.idempotencyKey = some next ∧
      next = newRecord request found targets (b.revision + 1)) (recordControl request found targets write b) := by
  have undone : b.controls.erase request.idempotencyKey = b.controls := by
    have absent : request.idempotencyKey ∉ b.controls.keys := AList.lookup_eq_none.mp fresh
    exact AList.ext (List.kerase_of_notMem_keys absent)
  unfold recordControl
  dsimp only
  cases write with
  | done => exact ⟨.single (.prepared named fresh located first fits),AList.lookup_insert _,rfl⟩
  | failed =>
    show Moves c b { b with controls := b.controls.erase request.idempotencyKey }
    rw [undone]
  | late =>
    have leaked : Moves c b _ := .single (.leaked (allowed rfl) named fresh located first fits)
    show Moves c b { b with
      controls := b.controls.erase request.idempotencyKey
      file := (b.prepare (newRecord request found targets (b.revision + 1)) found).merged
      prepared := b.prepared ++ [⟨newRecord request found targets (b.revision + 1),found⟩] }
    rw [undone]
    exact leaked

theorem notePending_moves (request : ControlRequest) (record : ControlRecord) (a : Answers) :
    Ends (Moves c b) (fun _ b' => Moves c b b' ∧ b'.controls = b.controls) (notePending request record a b) := by
  have noted := setBundleControlMetadata_moves (c := c) (b := b) record.bundleKeys
    (metadataForControl request record.result.backendRevision false) a.noted (fun committed => nomatch committed)
  unfold notePending
  cases ran : setBundleControlMetadata record.bundleKeys
    (metadataForControl request record.result.backendRevision false) a.noted b with
  | error _ _ => rw [ran] at noted; exact .single noted.1
  | ok _ _ => rw [ran] at noted; exact ⟨.single noted.1,noted.2⟩

theorem startControl_moves {a : Answers} (named : c.key = request.idempotencyKey)
    (fresh : c.start.controls.lookup request.idempotencyKey = none) (allowed : a.prepared = .late → c.late) :
    Ends (Moves c c.start) (fun _ => Moves c c.start) (startControl request a c.start) := by
  refine Ends.bind (Q := fun found b' => b' = c.start ∧
    findBundlesForControl c.start.markers request = .ok found) ?_ ?_
  · unfold findMatches
    split
    · exact .refl
    cases located : findBundlesForControl c.start.markers request with
    | error _ => exact .refl
    | ok found => exact ⟨rfl,rfl⟩
  rintro found _ ⟨rfl,located⟩
  refine Ends.bind ((prepareControlProgress_ends request.action a.reads found c.start).mono ?_ (fun _ _ => id)) ?_
  · rintro _ ⟨server,rfl,later⟩
    exact .single (.server later)
  rintro targets _ ⟨server,rfl,later,fits⟩
  have read : Moves c c.start { c.start with server := server } := .single (.server later)
  refine Ends.bind ((recordControl_moves (b :=
    { c.start with server := server }) named fresh located rfl fits a.prepared allowed).mono
    (fun _ => read.trans) (fun _ _ => id)) ?_
  rintro record b₂ ⟨recorded,held,made⟩
  refine Ends.bind ((notePending_moves (c := c) (b := b₂) request record a).mono
    (fun _ => (read.trans recorded).trans) (fun _ _ => id)) ?_
  rintro _ b₃ ⟨noted,controls⟩
  refine (resumeControl_moves named (controls ▸ held) (made ▸ rfl) ?_ a).mono
    (fun _ => ((read.trans recorded).trans noted).trans) (fun _ _ => ((read.trans recorded).trans noted).trans)
  -- the targets of a new record are pending or completed
  intro progress member unsure
  rw [made] at member
  obtain ⟨_,_,fit⟩ := exists_of_forall₂ fits member
  rcases fit.state with ⟨state,_⟩ | ⟨state,_⟩
  · rw [state] at unsure; cases unsure
  · rw [state] at unsure; cases unsure

theorem control_moves (request : ControlRequest) (a : Answers) (b : Backend) :
    Moves ⟨request.idempotencyKey,b,a.prepared = .late⟩ b (after (control request a b)) := by
  refine Ends.after (P := Moves ⟨request.idempotencyKey,b,a.prepared = .late⟩ b) ?_
  unfold control
  split
  · exact .refl
  split
  · exact .refl
  cases held : b.controls.lookup request.idempotencyKey with
  | none =>
    dsimp only
    split
    · exact .refl
    · exact startControl_moves (c := ⟨_,b,_⟩) rfl held id
  | some record =>
    dsimp only
    split
    · exact .refl
    split
    next replayed => exact replayControl_moves held a replayed
    next pending =>
      split
      · exact .refl
      · exact resumeControl_moves rfl held (by simpa using pending) (fun progress member _ => ⟨record,held,member⟩) a

theorem restoreControlMetadata_annotates (a : Marking) (b : Backend) :
    ∃ markers, after (restoreControlMetadata a b) = { b with markers := markers } ∧ Annotates b markers :=
  Ends.after (P := fun b' => ∃ markers, b' = { b with markers := markers } ∧ Annotates b markers)
    (restoreBundles_annotates a _ (.refl b))

end Moves

end TgsRl.Controls
