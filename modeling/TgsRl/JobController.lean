import TgsRl.Jobs
import TgsRl.Loops

/-!
The transactions of the job controller (package `controller` of `job-controller-go`): each callback
of `Update` reads the store and returns what it puts (`Write`). A call of `AdmitJob` or
`ApplyJobCommand` persists a running operation, calls the runtime without a lock, and finalizes the
plan it holds in another transaction; `World.step` interleaves these with reports, recorded
operations and restarts. Events are left out, and the answers of the runtime are inputs.
-/
namespace TgsRl.JobController
open Messages Jobs State Validation

inductive Code where
  | invalidArgument | notFound | failedPrecondition | alreadyExists | resourceExhausted
  | canceled | deadlineExceeded | unavailable | unknown | internal
  deriving DecidableEq, Repr

structure Status where
  code : Code
  message : String
  deriving DecidableEq, Repr

def invalidTransition (command : String) (runState : JobRunState) : Status :=
  ⟨.failedPrecondition,"cannot " ++ command ++ " run in state JOB_RUN_STATE_" ++ runState.text⟩

def notFound (kind id : String) : Status := ⟨.notFound,kind ++ " " ++ quote id ++ " not found"⟩

structure AdmitRequest where
  jobId : String
  reason : String
  requestId : String
  idempotencyKey : String
  deriving DecidableEq, Repr, Inhabited

structure CommandRequest where
  jobId : String
  runId : String
  command : JobCommandType
  actor : String
  reason : String
  requestId : String
  idempotencyKey : String
  deriving DecidableEq, Repr, Inhabited

def hashAdmitRequest (jobID reason : String) : String := hashStrings ["admit",jobID,reason]

def hashCommandRequest (jobID runID : String) (command : JobCommandType) (actor reason : String) : String :=
  hashStrings ["command",jobID,runID,"JOB_COMMAND_TYPE_" ++ command.text,actor,reason]

inductive Work where
  | admission
  | command (type : JobCommandType)
  deriving DecidableEq, Repr

/-- An `admitPlan`, which has no stable copies, or a `commandPlan`, with the key and the hash of the request. -/
structure Plan where
  work : Work
  job : Job
  run : JobRun
  operation : Operation
  key : String
  requestHash : String
  stableJob : Option Job
  stableRun : Option JobRun
  deriving DecidableEq, Repr

/-- What `prepareRun` found. -/
structure PrepareResult where
  diagnostics : List String
  err : Option String
  deriving DecidableEq, Repr

/-- The answer of a runtime command that failed; an error without a status counts as internal. -/
structure RuntimeError where
  code : Code
  message : String
  deriving DecidableEq, Repr

def isAmbiguousRuntimeCommandError (err : RuntimeError) : Bool :=
  decide (err.code ∈ [.canceled,.deadlineExceeded,.unavailable,.unknown])

/-- One case of the switch over commands that move a run: where it may start and what it sets. -/
structure Transition where
  text : String
  allows : List JobRunState
  runState : JobRunState
  state : JobState

def transitionOf : JobCommandType → Option Transition
  | .start => some ⟨"start",[.admitted,.waiting,.stopped],.starting,.pending⟩
  | .pause => some ⟨"pause",[.running],.pausing,.running⟩
  | .resume => some ⟨"resume",[.paused],.resuming,.paused⟩
  | .stop => some ⟨"stop",[.running,.paused,.admitted],.stopping,.running⟩
  | .terminate => some ⟨"terminate",[.unknown,.validating,.admitted,.preparing,.running,.paused,.waiting,.admitting,
      .starting,.pausing,.resuming,.stopping,.terminating,.retrying],.terminating,.running⟩
  | .retry | .unknown => none

/-- The operation type of `MapCommand`. -/
def mapCommand : JobCommandType → OperationType
  | .start => .start
  | .pause => .pause
  | .resume => .resume
  | .stop => .stop
  | .retry => .retry
  | .terminate => .terminate
  | .unknown => .unknown

def mutate (job : Job) (run : JobRun) (command : JobCommandType) (now : Int) : Except Status (Job × JobRun) :=
  match transitionOf command with
  | some transition =>
    if run.runState ∈ transition.allows then
      .ok ({ job with state := transition.state },{ run with runState := transition.runState, state := transition.state })
    else .error (invalidTransition transition.text run.runState)
  | none =>
    if command = .retry then
      if isTerminalRunState run.runState then
        .ok ({ job with state := .pending },newRun job (run.attempt + 1) .retrying now)
      else .error (invalidTransition "retry" run.runState)
    else .error ⟨.invalidArgument,"unsupported command"⟩

def stableRunForCommand (run : JobRun) (command : JobCommandType) : JobRun :=
  { run with state := match command with
    | .start => if run.runState = .stopped then .cancelled else .pending
    | .pause => .running
    | .resume => .paused
    | .stop => match run.runState with
      | .admitted => .pending
      | .paused => .paused
      | _ => .running
    | _ => stateFromRun run.runState }

def resolveTargetRun (s : Store) (jobID runID : String) : Except Status (Job × Option JobRun) :=
  match s.jobs.lookup jobID with
  | none => .error (notFound "job" jobID)
  | some job =>
    if runID ≠ "" then match s.runs.lookup (jobID,runID) with
      | none => .error (notFound "run" runID)
      | some run => .ok (job,some run)
    else .ok (job,s.getLatestRun jobID)

/-- The run state in which a command of this type has already been carried out. -/
def carriedOut : OperationType → Option JobRunState
  | .start | .resume => some .running
  | .pause => some .paused
  | .stop => some .stopped
  | .terminate => some .terminated
  | _ => none

def semanticIdempotentOperation (s : Store) (job : Job) (run : JobRun) (type : OperationType) : Option Operation :=
  (s.getLatestOperation job.jobId run.runId type).filter (fun _ =>
    if type = .retry then (s.getLatestRun job.jobId).any (fun latest => decide (run.attempt < latest.attempt))
    else decide (carriedOut type = some run.runState))

def recordFor (scope key requestHash operationID jobID runID : String) : Option IdempotencyRecord :=
  if key = "" then none else some ⟨scope,key,requestHash,operationID,jobID,runID⟩

def persistCommandPhase (s : Store) (request : CommandRequest) (now : Int) (sequence : Nat) :
    Except Status (Write × (Plan ⊕ Operation)) :=
  let requestHash := hashCommandRequest request.jobId request.runId request.command request.actor request.reason
  match resolveTargetRun s request.jobId request.runId with
  | .error err => .error err
  | .ok (_,none) => .error ⟨.failedPrecondition,"job " ++ quote request.jobId ++ " has no run to mutate"⟩
  | .ok (job,some run) =>
    match semanticIdempotentOperation s job run (mapCommand request.command) with
    | some existing =>
      .ok ({ record := recordFor "command" request.idempotencyKey requestHash existing.operationId job.jobId run.runId },
        .inr existing)
    | none => match mutate job run request.command now with
      | .error err => .error err
      | .ok (mutatedJob,mutatedRun) =>
        let operation := { newOperation (mapCommand request.command) mutatedJob.jobId mutatedRun.runId request.actor
          request.reason request.requestId request.idempotencyKey now sequence with state := .running, completedAt := none }
        let mutatedRun := { mutatedRun with operations := appendOperation mutatedRun.operations operation }
        .ok ({ job := some mutatedJob, run := some mutatedRun, operation := some operation
               record := recordFor "command" request.idempotencyKey requestHash operation.operationId mutatedJob.jobId
                 mutatedRun.runId },
          .inl { work := .command request.command, job := mutatedJob, run := mutatedRun, operation
                 key := request.idempotencyKey, requestHash, stableJob := some job
                 stableRun := some (stableRunForCommand run request.command) })

def loadCommittedOperation (s : Store) (jobID runID operationID : String) : Except Status (Job × JobRun × Operation) :=
  match s.jobs.lookup jobID,s.runs.lookup (jobID,runID),s.operations.lookup operationID with
  | none,_,_ => .error (notFound "job" jobID)
  | some _,none,_ => .error (notFound "run" runID)
  | some _,some _,none => .error (notFound "operation" operationID)
  | some job,some run,some operation => .ok (job,run,operation)

def finalizeCommandPhase (s : Store) (plan : Plan) (err : Option RuntimeError) (now : Int) :
    Except Status (Write × Operation) :=
  match loadCommittedOperation s plan.job.jobId plan.run.runId plan.operation.operationId with
  | .error err => .error err
  | .ok (job,run,operation) =>
    if operation.state ≠ .running then .ok ({},operation)
    else match err with
      | some err =>
        if isAmbiguousRuntimeCommandError err then .ok ({},operation)
        else
          let operation := { operation with
            state := .failed, errorCode := "RUNTIME_COMMAND_FAILED", errorMessage := err.message, completedAt := some now }
          let job := plan.stableJob.getD job
          let run := plan.stableRun.getD run
          .ok ({ job := some job, run := some { run with operations := appendOperation run.operations operation }
                 operation := some operation },operation)
      | none =>
        let operation := { operation with dispatchAccepted := true }
        .ok ({ job := some job, run := some { run with operations := appendOperation run.operations operation }
               operation := some operation },operation)

/-- `loadCommandRunningPlan`, and `loadAdmitRunningPlan`, whose plan has no stable copies. -/
def loadRunningPlan (s : Store) (work : Work) (key requestHash jobID runID operationID : String) :
    Except Status (Plan ⊕ Operation) :=
  match loadCommittedOperation s jobID runID operationID with
  | .error err => .error err
  | .ok (job,run,operation) =>
    if operation.state ≠ .running then .ok (.inr operation)
    else .ok (.inl { work, job, run, operation, key, requestHash
                     stableJob := match work with
                       | .admission => none
                       | .command _ => some job
                     stableRun := match work with
                       | .admission => none
                       | .command command => some (stableRunForCommand run command) })

def ensureOperation (s : Store) (type : OperationType) (jobID runID requestID idempotencyKey reason : String) (now : Int)
    (sequence : Nat) : Operation × Option Operation :=
  match s.getLatestOperation jobID runID type with
  | some existing => (existing,none)
  | none =>
    let operation := newOperation type jobID runID "" reason requestID idempotencyKey now sequence
    (operation,some operation)

def persistAdmitPhase (s : Store) (request : AdmitRequest) (now : Int) (sequence : Nat) :
    Except Status (Write × (Plan ⊕ Operation)) :=
  let requestHash := hashAdmitRequest request.jobId request.reason
  match s.jobs.lookup request.jobId with
  | none => .error (notFound "job" request.jobId)
  | some job =>
    let begin (run : JobRun) : Write × (Plan ⊕ Operation) :=
      let mutatedJob := { job with state := .pending }
      let operation := { newOperation .admission job.jobId run.runId "" request.reason request.requestId request.idempotencyKey
        now sequence with state := .running, completedAt := none }
      let mutatedRun := { run with operations := appendOperation run.operations operation }
      ({ job := some mutatedJob, run := some mutatedRun, operation := some operation
         record := recordFor "admit" request.idempotencyKey requestHash operation.operationId job.jobId run.runId },
        .inl { work := .admission, job := mutatedJob, run := mutatedRun, operation, key := request.idempotencyKey, requestHash
               stableJob := none, stableRun := none })
    match s.getLatestRun request.jobId with
    | none => .ok (begin (newRun job 1 .admitting now))
    | some latest =>
      if latest.runState = .admitted ∨ latest.runState = .waiting then
        let ensured := ensureOperation s .admission job.jobId latest.runId request.requestId request.idempotencyKey request.reason
          now sequence
        .ok ({ operation := ensured.2
               record := recordFor "admit" request.idempotencyKey requestHash ensured.1.operationId job.jobId latest.runId },
          .inr ensured.1)
      else if isTerminalRunState latest.runState then .error (invalidTransition "admit" latest.runState)
      else .ok (begin { latest with runState := .admitting, state := .pending })

/-- The component status that `failOperation` and `markReconciliationRequired` put into a run. -/
def controllerStatus (component : String) (health : ComponentHealth) (detail : String) (now : Int) : Aggregate :=
  { component, health, detail, revision := 0, observedAt := now, state := .unknown, converged := false, runtimeSource := ""
    annotations := [] }

def failOperation (run : JobRun) (operation : Operation) (code message : String) (now : Int) : JobRun × Operation :=
  let operation := { operation with
    state := .failed, errorCode := code, errorMessage := message, completedAt := some now }
  ({ run with
     componentStatus := upsertAggregatedStatus run.componentStatus (controllerStatus "runtime" .failed message now)
     operations := appendOperation run.operations operation },operation)

/-- `finalizeAdmitPhase` and `finalizeRetryPhase`, which differ in the scope of the key. -/
def finalizePrepare (scope : String) (s : Store) (plan : Plan) (result : PrepareResult) (now : Int) :
    Except Status (Write × Operation) :=
  match loadCommittedOperation s plan.job.jobId plan.run.runId plan.operation.operationId with
  | .error err => .error err
  | .ok (job,run,operation) =>
    if operation.state ≠ .running then .ok ({},operation)
    else match (result.err <|> if result.diagnostics = [] then none else some ("; ".intercalate result.diagnostics)) with
      | some message =>
        let failed := failOperation run operation "RUNTIME_PREPARE_FAILED" message now
        .ok ({ job := some job, run := some failed.1, operation := some failed.2 },failed.2)
      | none =>
        let operation := { operation with state := .succeeded, completedAt := some now }
        .ok ({ job := some { job with state := .pending }
               run := some { run with
                 runState := .waiting, state := .pending, operations := appendOperation run.operations operation }
               operation := some operation
               record := recordFor scope plan.key plan.requestHash operation.operationId job.jobId run.runId },operation)

def finalizeAdmitPhase := finalizePrepare "admit"
def finalizeRetryPhase := finalizePrepare "command"

/-- The newest of some operations by the time of its creation. -/
def newestOperation (operations : List Operation) : Option Operation :=
  latestBy (fun operation latest => decide (latest.createdAt < operation.createdAt)) operations

def completeLatestOperation (run : JobRun) (type : OperationType) (now : Int) : Option Operation :=
  (newestOperation (run.operations.filter (fun operation =>
    decide (operation.type = type) && decide (operation.state = .running)))).map (fun latest =>
      { latest with state := .succeeded, completedAt := some now })

def isLifecycle (type : OperationType) : Bool := decide (type ∈ [.start,.pause,.resume,.stop,.terminate])

def failLatestRunningLifecycleOperation (run : JobRun) (now : Int) (code message : String) : Option Operation :=
  (newestOperation (run.operations.filter (fun operation =>
    decide (operation.state = .running) && isLifecycle operation.type))).map (fun latest =>
      { latest with state := .failed, errorCode := code, errorMessage := message, completedAt := some now })

/-- One case of the switch over run states that wait for an observation. -/
structure Awaited where
  observed : RuntimeState
  runState : JobRunState
  state : JobState
  type : OperationType

def awaitedIn : JobRunState → Option Awaited
  | .starting => some ⟨.running,.running,.running,.start⟩
  | .pausing => some ⟨.paused,.paused,.paused,.pause⟩
  | .resuming => some ⟨.running,.running,.running,.resume⟩
  | .stopping => some ⟨.terminated,.stopped,.cancelled,.stop⟩
  | .terminating => some ⟨.terminated,.terminated,.cancelled,.terminate⟩
  | _ => none

/-- The run with the operation, if there is one, in its list. -/
def withOperation (run : JobRun) (operation : Option Operation) : JobRun :=
  { run with operations := operation.elim run.operations (appendOperation run.operations) }

def advanceRunFromComponent (job : Job) (run : JobRun) (aggregated : Aggregate) (now : Int) :
    Job × JobRun × Option Operation :=
  match authoritativeRuntimeSignal aggregated with
  | none => (job,run,none)
  | some (.failed,_) =>
    let run := { run with runState := .failed, state := .failed, completedAt := some now }
    let message := if trimSpace aggregated.detail = "" then "runtime reported failed" else aggregated.detail
    let failed := failLatestRunningLifecycleOperation run now "RUNTIME_STATE_FAILED" message
    ({ job with state := .failed },withOperation run failed,failed)
  | some (_,false) => (job,run,none)
  | some (observed,true) => match awaitedIn run.runState with
    | none => (job,run,none)
    | some awaited =>
      if observed = awaited.observed then
        let run := { run with
          runState := awaited.runState, state := awaited.state
          startedAt := if awaited.runState = .running then run.startedAt <|> some now else run.startedAt
          completedAt := if isTerminalRunState awaited.runState then some now else run.completedAt }
        let completed := completeLatestOperation run awaited.type now
        ({ job with state := awaited.state },withOperation run completed,completed)
      else (job,run,none)

/-- `ReportComponentStatus` of a status whose missing time is filled in. -/
def reportComponentStatus (s : Store) (incoming : ComponentStatus) : Except Status (Write × Aggregate) :=
  if trimSpace incoming.jobId = "" ∨ trimSpace incoming.runId = "" ∨ trimSpace incoming.component = "" then
    .error ⟨.invalidArgument,"component_status.job_id, run_id, and component are required"⟩
  else match s.jobs.lookup incoming.jobId,s.runs.lookup (incoming.jobId,incoming.runId) with
  | none,_ => .error (notFound "job" incoming.jobId)
  | some _,none => .error (notFound "run" incoming.runId)
  | some job,some run =>
    let aggregated := mergeAggregatedStatus run.componentStatus incoming
    let run := { run with componentStatus := upsertAggregatedStatus run.componentStatus aggregated }
    let advanced := advanceRunFromComponent job run aggregated incoming.observedAt
    .ok ({ job := some advanced.1, run := some advanced.2.1, operation := advanced.2.2 },aggregated)

/-- `CreateJob` of a normalized job, whose state is pending. -/
def createJob (s : Store) (job : Job) (requestID idempotencyKey requestHash : String) (now : Int) (sequence : Nat) :
    Except Status (Write × Operation) :=
  let fresh := newOperation .validate job.jobId "" "" "" requestID idempotencyKey now sequence
  let record (operation : Operation) := recordFor "create-job" idempotencyKey requestHash operation.operationId job.jobId ""
  match s.jobs.lookup job.jobId with
  | none => .ok ({ job := some job, operation := some fresh, record := record fresh },fresh)
  | some existing =>
    if existing ≠ job then
      .error ⟨.alreadyExists,"job " ++ quote job.jobId ++ " already exists with different content"⟩
    else match s.getLatestOperation job.jobId "" .validate with
      | some operation => .ok ({ record := record operation },operation)
      | none => .ok ({ operation := some fresh, record := record fresh },fresh)

/-- `CreateJobRun` of a normalized job, or of the stored one that its request names. -/
def createJobRun (s : Store) (job : Job) (idempotencyKey requestHash : String) (now : Int) : Except Status (Write × JobRun) :=
  let attempt := ((s.getLatestRun job.jobId).map JobRun.attempt).getD 0 + 1
  let run := newRun ((s.jobs.lookup job.jobId).getD job) attempt .validating now
  if attempt = 0 then .error ⟨.resourceExhausted,"run attempt counter is exhausted"⟩
  else .ok ({ job := if (s.jobs.lookup job.jobId).isNone then some job else none
              run := some run
              record := recordFor "create-run" idempotencyKey requestHash "" run.jobId run.runId },run)

/-- `RecordOperation` of an operation whose missing ID, times and state are filled in. -/
def recordOperation (s : Store) (incoming : Operation) : Except Status (Write × Operation) :=
  if (s.jobs.lookup incoming.jobId).isNone then .error (notFound "job" incoming.jobId)
  else match s.operations.lookup incoming.operationId with
    | some existing =>
      if existing ≠ incoming then
        .error ⟨.alreadyExists,"operation " ++ quote incoming.operationId ++ " already exists with different content"⟩
      else .ok ({},existing)
    | none =>
      if incoming.runId = "" then .ok ({ operation := some incoming },incoming)
      else match s.runs.lookup (incoming.jobId,incoming.runId) with
        | none => .error (notFound "run" incoming.runId)
        | some run => .ok ({ run := some { run with operations := appendOperation run.operations incoming }
                             operation := some incoming },incoming)

def markReconciliationRequired (s : Store) (operation : Operation) (detail : String) (now : Int) :
    Except Status (Write × Unit) :=
  let fail (current : Operation) := { current with
    state := .failed, errorCode := "RECONCILIATION_REQUIRED", errorMessage := detail, completedAt := some now }
  if operation.jobId = "" ∨ operation.runId = "" then
    match s.operations.lookup operation.operationId with
    | none => .ok ({},())
    | some current => if current.state ≠ .running then .ok ({},()) else .ok ({ operation := some (fail current) },())
  else match loadCommittedOperation s operation.jobId operation.runId operation.operationId with
    | .error err => .error err
    | .ok (_,run,current) =>
      if current.state ≠ .running then .ok ({},())
      else .ok ({ run := some { run with
                    componentStatus := upsertAggregatedStatus run.componentStatus
                      (controllerStatus "reconciliation" .degraded detail now)
                    operations := appendOperation run.operations (fail current) }
                  operation := some (fail current) },())

/-- A job as `NormalizeJob` leaves it. -/
abbrev Normalized := { job : Job // trimSpace job.jobId ≠ "" ∧ job.state = .pending }

/-- What an operation that is taken up again carries out: `commandForOperation`, and admissions. -/
def workOf : OperationType → Option Work
  | .admission => some .admission
  | .start => some (.command .start)
  | .pause => some (.command .pause)
  | .resume => some (.command .resume)
  | .stop => some (.command .stop)
  | .retry => some (.command .retry)
  | .terminate => some (.command .terminate)
  | .validate | .unknown => none

/-- The store, and the plans that calls in flight hold. -/
structure World where
  store : Store
  plans : List Plan

inductive Step where
  | createJob (job : Normalized) (requestID key hash : String) (now : Int) (sequence : Nat)
  | createJobRun (job : Normalized) (key hash : String) (now : Int)
  | admitJob (request : AdmitRequest) (now : Int) (sequence : Nat)
  | command (request : CommandRequest) (now : Int) (sequence : Nat)
  /-- A later call, or the reconciliation after a restart, takes a running operation up again. -/
  | resume (key hash operationID : String)
  /-- The runtime has answered the call that holds the plan at an index. -/
  | prepared (index : Nat) (result : PrepareResult) (now : Int)
  | dispatched (index : Nat) (err : Option RuntimeError) (now : Int)
  | report (incoming : ComponentStatus)
  | record (operation : Operation)
  | reconciliation (operationID detail : String) (now : Int)
  | restart

def planOf : Plan ⊕ Operation → Option Plan
  | .inl plan => some plan
  | .inr _ => none

/-- What a step puts into the store, and the plan it leaves in flight; an error puts nothing. -/
def transaction (w : World) : Step → Except Status (Write × Option Plan)
  | .createJob job requestID key hash now sequence =>
    (createJob w.store job requestID key hash now sequence).map (fun done => (done.1,none))
  | .createJobRun job key hash now => (createJobRun w.store job key hash now).map (fun done => (done.1,none))
  | .admitJob request now sequence => (persistAdmitPhase w.store request now sequence).map (fun done => (done.1,planOf done.2))
  | .command request now sequence =>
    (persistCommandPhase w.store request now sequence).map (fun done => (done.1,planOf done.2))
  | .resume key hash operationID => match w.store.operations.lookup operationID with
    | none => .ok ({},none)
    | some operation => match workOf operation.type with
      | none => .ok ({},none)
      | some work => (loadRunningPlan w.store work key hash operation.jobId operation.runId operationID).map
          (fun found => ({},planOf found))
  | .prepared index result now => match w.plans[index]? with
    | none => .ok ({},none)
    | some plan => match plan.work with
      | .admission => (finalizeAdmitPhase w.store plan result now).map (fun done => (done.1,none))
      | .command .retry => (finalizeRetryPhase w.store plan result now).map (fun done => (done.1,none))
      | .command _ => .ok ({},none)
  | .dispatched index err now => match w.plans[index]? with
    | none => .ok ({},none)
    | some plan => match plan.work with
      | .admission | .command .retry => .ok ({},none)
      | .command _ => (finalizeCommandPhase w.store plan err now).map (fun done => (done.1,none))
  | .report incoming => (reportComponentStatus w.store incoming).map (fun done => (done.1,none))
  | .record operation => (recordOperation w.store operation).map (fun done => (done.1,none))
  | .reconciliation operationID detail now => match w.store.operations.lookup operationID with
    | none => .ok ({},none)
    | some operation => (markReconciliationRequired w.store operation detail now).map (fun done => (done.1,none))
  | .restart => .ok ({},none)

def remaining (plans : List Plan) : Step → List Plan
  | .prepared index _ _ | .dispatched index _ _ => plans.eraseIdx index
  | .restart => []
  | _ => plans

def World.step (w : World) (a : Step) : World :=
  match transaction w a with
  | .error _ => { w with plans := remaining w.plans a }
  | .ok (write,plan) => { store := w.store.put write, plans := remaining w.plans a ++ plan.toList }

end TgsRl.JobController
