import TgsRl.JobEffects

/-!
The reconciliation of operations that a restart has left running (`reconcile.go`), before the
controller takes any call: a pass over all of them, oldest first. An operation whose idempotency
record is found and that was not dispatched calls the runtime again; any other is failed and marked.
The record is looked for with the hash of a request made up from the operation, so that a request
without a run ID is never recovered (`terminate_marked`).
-/
namespace TgsRl.Reconciliation
open Messages State Jobs Validation JobController JobEffects Loops

/-- The scope and the hash with which `hasRecoveryIdentity` looks for the record of an operation. -/
def recoveryHash (o : Operation) : Option (String × String) :=
  (workOf o.type).map (fun work => match work with
    | .admission => ("admit",hashAdmitRequest o.jobId o.reason)
    | .command command => ("command",hashCommandRequest o.jobId o.runId command o.actor o.reason))

def hasRecoveryIdentity (s : Store) (o : Operation) : Bool :=
  if trimSpace o.idempotencyKey = "" then false
  else match recoveryHash o with
    | none => false
    | some (scope,requestHash) => (s.idempotency.lookup (scope,o.idempotencyKey)).any (fun record =>
        decide (record.operationID = o.operationId ∧ record.jobID = o.jobId ∧ record.runID = o.runId ∧
          record.requestHash = requestHash))

/-- A summary that `GetRuntimeStatus` answers, with the readings of its annotations. -/
structure RuntimeStatus extends Observation where
  stated : Option RuntimeState
  statedConverged : Option Bool

/-- What the runtime and the clock answer while an operation is reconciled. -/
structure Answers where
  status : Except String (Option RuntimeStatus)
  prepared : PrepareResult
  dispatched : Option RuntimeError
  now : Int
  marked : Int

def runtimeObservationFollowsOperation (o : Operation) (status : RuntimeStatus) : Bool :=
  decide (o.createdAt ≤ status.observedAt)

/-- The status that follows the operation, which is `statusKnown` then. -/
def Answers.known (answers : Answers) (o : Operation) : Option RuntimeStatus :=
  answers.status.toOption.join.filter (runtimeObservationFollowsOperation o)

def Answers.statusErr (answers : Answers) : String :=
  match answers.status with
  | .error err => ": " ++ err
  | .ok _ => ""

def reported (o : Operation) (status : RuntimeStatus) : ComponentStatus :=
  { status.toObservation with
    component := "runtime", source := authoritativeRuntimeObservationSource, jobId := o.jobId, runId := o.runId
    stated := status.stated, statedConverged := status.statedConverged }

/-- The store that a part of the pass leaves, the plans with which it has called the runtime, and its errors. -/
structure Reconciled where
  store : Store
  calls : List Plan := []
  errors : List Status := []

def mark (s : Store) (o : Operation) (detail : String) (answers : Answers) : Reconciled :=
  match markReconciliationRequired s o detail answers.marked with
  | .error err => { store := s, errors := [err] }
  | .ok (write,_) => { store := s.put write }

/-- What comes after the runtime's answer to a plan. -/
def finalize (s : Store) (plan : Plan) (answers : Answers) : Except Status (Write × Operation) :=
  match plan.work with
  | .admission => finalizeAdmitPhase s plan answers.prepared answers.now
  | .command .retry => finalizeRetryPhase s plan answers.prepared answers.now
  | .command _ => finalizeCommandPhase s plan answers.dispatched answers.now

/-- `replayOperation`, with `resumeAdmitPhase` and `resumeCommandPhase`. -/
def replayOperation (s : Store) (o : Operation) (answers : Answers) : Reconciled :=
  match workOf o.type,recoveryHash o with
  | some work,some (_,requestHash) =>
    match loadRunningPlan s work o.idempotencyKey requestHash o.jobId o.runId o.operationId with
    | .error err => { store := s, errors := [err] }
    | .ok (.inr _) => { store := s }
    | .ok (.inl plan) => match finalize s plan answers with
      | .error err => { store := s, calls := [plan], errors := [err] }
      | .ok (write,response) =>
        if response.state = .running ∧ (work = .admission ∨ response.dispatchAccepted = false) then
          { mark (s.put write) o ((if work = .admission then "admission" else "runtime") ++
              " retry outcome remains unknown after restart") answers with calls := [plan] }
        else { store := s.put write, calls := [plan] }
  | _,_ => mark s o "operation type cannot be safely replayed" answers

def unknownOutcome : String := "operation outcome is unknown after restart and no matching idempotency record is available"

def operationCompleted (s : Store) (operationID : String) : Bool :=
  (s.operations.lookup operationID).any (fun o => decide (o.state ≠ .running))

/-- The end of `reconcileOperation`, for an operation that the runtime's status has not settled. -/
def recover (s : Store) (o : Operation) (answers : Answers) : Reconciled :=
  if hasRecoveryIdentity s o = false then mark s o (unknownOutcome ++ answers.statusErr) answers
  else if o.dispatchAccepted then
    mark s o ("runtime accepted the operation before restart but current state does not confirm its outcome" ++
      answers.statusErr) answers
  else replayOperation s o answers

def reconcileOperation (s : Store) (o : Operation) (answers : Answers) : Reconciled :=
  if o.runId = "" ∨ o.jobId = "" then mark s o "operation is missing job or run identity" answers
  else if o.type = .admission ∨ o.type = .retry then
    if hasRecoveryIdentity s o = false then mark s o unknownOutcome answers
    else if o.type = .retry ∧ o.dispatchAccepted = true then
      mark s o "retry prepare was accepted before restart but did not reach a durable terminal state" answers
    else replayOperation s o answers
  else match answers.known o with
    | none => recover s o answers
    | some status => match reportComponentStatus s (reported o status) with
      | .error err => { store := s, errors := [err] }
      | .ok (write,_) =>
        if operationCompleted (s.put write) o.operationId then { store := s.put write } else recover (s.put write) o answers

/-- The running operations, the oldest first. -/
def listRunningOperations (s : Store) : List Operation :=
  (s.operations.values.filter (fun o => decide (o.state = .running))).insertionSort (fun left right =>
    left.createdAt < right.createdAt ∨ left.createdAt = right.createdAt ∧ left.operationId ≤ right.operationId)

/-- One turn of the loop, which goes on after an error. -/
def reconcileNext (answers : Operation → Answers) (done : Reconciled) (o : Operation) : Reconciled :=
  let next := reconcileOperation done.store o (answers o)
  { store := next.store, calls := done.calls ++ next.calls
    errors := done.errors ++ next.errors.map (fun err =>
      { err with message := "reconcile operation " ++ o.operationId ++ ": " ++ err.message }) }

def reconcileIncompleteOperations (s : Store) (answers : Operation → Answers) : Reconciled :=
  (listRunningOperations s).foldl (reconcileNext answers) { store := s }

/-- The operation is in the store with its record, and only its own run can have it in its list. -/
structure Waiting (o : Operation) (scope : String) (record : IdempotencyRecord) (s : Store) : Prop where
  job : (s.jobs.lookup o.jobId).isSome = true
  run : (s.runs.lookup (o.jobId,o.runId)).isSome = true
  tabled : s.operations.lookup o.operationId = some o
  recorded : s.idempotency.lookup (scope,o.idempotencyKey) = some record
  keyed : ∀ id x, s.operations.lookup id = some x → x.operationId = id
  placed : ∀ key r, s.runs.lookup key = some r → key = (r.jobId,r.runId) ∧
    ∀ x ∈ r.operations, x.operationId = o.operationId → key = (o.jobId,o.runId)

/-- The write puts neither the operation nor its record, and the operation into no list. -/
structure Aside (o : Operation) (scope : String) (s : Store) (write : Write) : Prop where
  operation : ∀ x ∈ write.operation, x.operationId ≠ o.operationId
  record : ∀ x ∈ write.record, (x.scope,x.key) ≠ (scope,o.idempotencyKey)
  run : ∀ r ∈ write.run, ∃ old, s.runs.lookup (r.jobId,r.runId) = some old ∧
    ∀ x ∈ r.operations, x.operationId = o.operationId → x ∈ old.operations

variable {s : Store} {o p : Operation} {scope detail : String} {record : IdempotencyRecord} {write : Write} {answers : Answers}
  {plan : Plan} {response : Operation}

theorem put_waiting (waiting : Waiting o scope record s) (aside : Aside o scope s write) :
    Waiting o scope record (s.put write) := by
  have there : ∀ {α : Type} (new : Option α) {old : Option α}, old.isSome = true → (new.or old).isSome = true := by
    intro α new old held
    cases new <;> simp [held]
  refine ⟨by rw [put_jobs]; exact there _ waiting.job,by rw [put_runs]; exact there _ waiting.run,?_,?_,?_,?_⟩
  · cases new : write.operation with
    | none => exact (put_no_operation new _).trans waiting.tabled
    | some x => rw [put_operation new,if_neg (aside.operation x new),waiting.tabled]
  · rw [Store.put]
    cases new : write.record with
    | none => exact waiting.recorded
    | some x =>
      show (s.idempotency.insert (x.scope,x.key) x).lookup _ = _
      rw [AList.lookup_insert_ne (Ne.symm (aside.record x new)),waiting.recorded]
  · intro id x found
    rw [put_operations,Option.or_eq_some_iff,Option.filter_eq_some_iff] at found
    rcases found with ⟨_,own⟩ | ⟨_,old⟩
    · exact of_decide_eq_true own
    · exact waiting.keyed id x old
  · intro key r found
    rw [put_runs,Option.or_eq_some_iff,Option.filter_eq_some_iff] at found
    rcases found with ⟨new,own⟩ | ⟨_,old⟩
    · obtain rfl := of_decide_eq_true own
      obtain ⟨before,stored,listed⟩ := aside.run r new
      exact ⟨rfl,fun x member same => (waiting.placed _ before stored).2 x (listed x member same) same⟩
    · exact waiting.placed key r old

theorem empty_aside : Aside o scope s {} := ⟨by rintro x ⟨⟩,by rintro x ⟨⟩,by rintro x ⟨⟩⟩

/-- A stored run takes another operation into its list. -/
theorem listed_aside {r old : JobRun} {x : Operation} (waiting : Waiting o scope record s)
    (operation : write.operation = some x) (run : write.run = some r) {key : String × String}
    (stored : s.runs.lookup key = some old) (same : (r.jobId,r.runId) = (old.jobId,old.runId))
    (listed : r.operations = appendOperation old.operations x) (other : x.operationId ≠ o.operationId)
    (apart : ∀ x ∈ write.record, (x.scope,x.key) ≠ (scope,o.idempotencyKey)) : Aside o scope s write := by
  refine ⟨by simpa [operation] using other,apart,fun r' put => ?_⟩
  cases run.symm.trans put
  refine ⟨old,by rw [same,← (waiting.placed key old stored).1,stored],?_⟩
  intro y member own
  rw [listed] at member
  rcases appendOperation_mem.mp member with rfl | ⟨held,_⟩
  · exact absurd own other
  · exact held

theorem mark_waiting (waiting : Waiting o scope record s) (other : p.operationId ≠ o.operationId) :
    Waiting o scope record (mark s p detail answers).store := by
  unfold mark
  split
  · exact waiting
  next write _ done =>
  refine put_waiting waiting ?_
  unfold markReconciliationRequired at done
  dsimp only at done
  split at done
  · split at done
    · cases done
      exact empty_aside
    · next current held =>
      split at done <;> cases done
      · exact empty_aside
      refine ⟨?_,by rintro x ⟨⟩,by rintro x ⟨⟩⟩
      rintro x ⟨⟩
      exact (waiting.keyed _ current held).trans_ne other
  · split at done
    · cases done
    · next job run current load =>
      obtain ⟨_,found,held⟩ := loaded load
      have id := waiting.keyed _ current held
      split at done <;> cases done
      · exact empty_aside
      exact listed_aside waiting rfl rfl found rfl rfl (id.trans_ne other) (by rintro x ⟨⟩)

/-- The plan of an operation that is taken up again. -/
structure Loaded (s : Store) (p : Operation) (work : Work) (plan : Plan) : Prop where
  work : plan.work = work
  key : plan.key = p.idempotencyKey
  operation : plan.operation.operationId = p.operationId
  stable : ∀ r ∈ plan.stableRun, ∃ key old, s.runs.lookup key = some old ∧ (r.jobId,r.runId) = (old.jobId,old.runId) ∧
    r.operations = old.operations

theorem plan_loaded (waiting : Waiting o scope record s) {work : Work} {hash : String}
    (load : loadRunningPlan s work p.idempotencyKey hash p.jobId p.runId p.operationId = .ok (.inl plan)) :
    Loaded s p work plan := by
  unfold loadRunningPlan at load
  split at load
  · cases load
  next job r current found =>
  obtain ⟨_,stored,held⟩ := loaded found
  split at load
  · cases load
  cases load
  refine ⟨rfl,rfl,waiting.keyed _ current held,?_⟩
  intro stable copied
  cases work with
  | admission => cases copied
  | command command =>
    cases copied
    exact ⟨_,r,stored,rfl,rfl⟩

/-- The record of the other operation names it, so it is not the one of this operation. -/
theorem recovery_apart (waiting : Waiting o scope record s) (names : record.operationID = o.operationId)
    (other : p.operationId ≠ o.operationId) (known : hasRecoveryIdentity s p = true) {scope' : String}
    (kind : (recoveryHash p).map Prod.fst = some scope') : (scope',p.idempotencyKey) ≠ (scope,o.idempotencyKey) := by
  intro same
  unfold hasRecoveryIdentity at known
  obtain ⟨⟨_,hash⟩,hashed,rfl⟩ := Option.map_eq_some_iff.mp kind
  obtain ⟨rfl,key⟩ := Prod.mk.inj same
  rw [hashed,key] at known
  split at known
  · cases known
  · simp only [waiting.recorded,Option.any_some,decide_eq_true_eq] at known
    exact other (known.1.symm.trans names)

theorem finalizePrepare_aside (waiting : Waiting o scope record s) (other : p.operationId ≠ o.operationId) {work : Work}
    (plans : Loaded s p work plan) {scope' : String} (apart : (scope',p.idempotencyKey) ≠ (scope,o.idempotencyKey))
    (done : finalizePrepare scope' s plan answers.prepared answers.now = .ok (write,response)) : Aside o scope s write := by
  unfold finalizePrepare at done
  split at done
  · cases done
  next job r current load =>
  obtain ⟨_,found,held⟩ := loaded load
  have away : current.operationId ≠ o.operationId :=
    ((waiting.keyed _ current held).trans plans.operation).trans_ne other
  split at done
  · cases done
    exact empty_aside
  split at done <;> cases done
  · exact listed_aside waiting rfl rfl found rfl rfl away (by rintro x ⟨⟩)
  · refine listed_aside waiting rfl rfl found rfl rfl away fun x put => ?_
    dsimp only [recordFor] at put
    split at put <;> cases put
    rw [plans.key]
    exact apart

theorem finalizeCommandPhase_aside (waiting : Waiting o scope record s) (other : p.operationId ≠ o.operationId)
    {work : Work} (plans : Loaded s p work plan)
    (done : finalizeCommandPhase s plan answers.dispatched answers.now = .ok (write,response)) : Aside o scope s write := by
  unfold finalizeCommandPhase at done
  split at done
  · cases done
  next job r current load =>
  obtain ⟨_,found,held⟩ := loaded load
  have away : current.operationId ≠ o.operationId :=
    ((waiting.keyed _ current held).trans plans.operation).trans_ne other
  split at done
  · cases done
    exact empty_aside
  split at done
  · split at done <;> cases done
    · exact empty_aside
    · cases copied : plan.stableRun with
      | none => exact listed_aside waiting rfl rfl found rfl rfl away (by rintro x ⟨⟩)
      | some stable =>
        obtain ⟨key,old,stored,same,list⟩ := plans.stable stable copied
        exact listed_aside waiting rfl rfl stored same (congrArg (appendOperation · _) list) away (by rintro x ⟨⟩)
  · cases done
    exact listed_aside waiting rfl rfl found rfl rfl away (by rintro x ⟨⟩)

theorem finalize_aside (waiting : Waiting o scope record s) (names : record.operationID = o.operationId)
    (other : p.operationId ≠ o.operationId) (known : hasRecoveryIdentity s p = true) {work : Work}
    (does : workOf p.type = some work) (plans : Loaded s p work plan)
    (done : finalize s plan answers = .ok (write,response)) : Aside o scope s write := by
  unfold finalize at done
  rw [plans.work] at done
  split at done
  · refine finalizePrepare_aside waiting other plans (recovery_apart waiting names other known ?_) done
    rw [recoveryHash,does]
    rfl
  · refine finalizePrepare_aside waiting other plans (recovery_apart waiting names other known ?_) done
    rw [recoveryHash,does]
    rfl
  · exact finalizeCommandPhase_aside waiting other plans done

theorem replay_waiting (waiting : Waiting o scope record s) (names : record.operationID = o.operationId)
    (other : p.operationId ≠ o.operationId) (known : hasRecoveryIdentity s p = true) :
    Waiting o scope record (replayOperation s p answers).store := by
  unfold replayOperation
  split
  · next work scope' hash does _ =>
    split
    · exact waiting
    · exact waiting
    next plan load =>
    split
    · exact waiting
    next write response done =>
    have kept := put_waiting waiting (finalize_aside waiting names other known does (plan_loaded waiting load) done)
    split
    · exact mark_waiting kept other
    · exact kept
  · exact mark_waiting waiting other

theorem recover_waiting (waiting : Waiting o scope record s) (names : record.operationID = o.operationId)
    (other : p.operationId ≠ o.operationId) : Waiting o scope record (recover s p answers).store := by
  unfold recover
  split
  · exact mark_waiting waiting other
  next known =>
  split
  · exact mark_waiting waiting other
  · exact replay_waiting waiting names other (Bool.not_eq_false _ ▸ known)

/-- The observation in charge of the run, once the status is merged, is neither a failure nor the converged state for which the
    run waits. -/
def Inconclusive (r : JobRun) (incoming : ComponentStatus) : Prop :=
  ∀ signal ∈ authoritativeRuntimeSignal (mergeAggregatedStatus r.componentStatus incoming), signal.1 ≠ .failed ∧
    (signal.2 = true → ∀ awaited ∈ awaitedIn r.runState, signal.1 ≠ awaited.observed)

/-- The status of the run that an operation of the run has the pass report, if any, is inconclusive. -/
def Unsettled (home : String × String) (answers : Operation → Answers) (s : Store) (p : Operation) : Prop :=
  (p.jobId,p.runId) = home → p.type ≠ .admission ∧ p.type ≠ .retry → ∀ status ∈ (answers p).known p, ∀ r ∈ s.runs.lookup home,
    Inconclusive r (reported p status)

instance (r : JobRun) (incoming : ComponentStatus) : Decidable (Inconclusive r incoming) :=
  inferInstanceAs (Decidable (∀ _ ∈ _, _ ∧ (_ → ∀ _ ∈ _, _)))

instance (home : String × String) (answers : Operation → Answers) (s : Store) (p : Operation) :
    Decidable (Unsettled home answers s p) := inferInstanceAs (Decidable (_ → _ ∧ _ → ∀ _ ∈ _, ∀ _ ∈ _, _))

theorem inconclusive_write {incoming : ComponentStatus} {aggregated : Aggregate}
    (done : reportComponentStatus s incoming = .ok (write,aggregated)) :
    ∃ r, s.runs.lookup (incoming.jobId,incoming.runId) = some r ∧ (Inconclusive r incoming → write.operation = none) ∧
      write.record = none ∧ (∀ x ∈ write.operation, ∃ t ∈ r.operations, t.operationId = x.operationId) ∧
      ∃ r', write.run = some r' ∧ (r'.jobId,r'.runId) = (r.jobId,r.runId) ∧
        r'.operations = write.operation.elim r.operations (appendOperation r.operations) := by
  obtain ⟨job,r,_,found,merged,_,rfl,rfl⟩ := report_write done
  refine ⟨r,found,?_⟩
  rw [Inconclusive,← merged]
  rcases advance_cases job { r with componentStatus := upsertAggregatedStatus r.componentStatus aggregated } aggregated
    incoming.observedAt with same | ⟨moved,signal,rfl,failed,own,same⟩ | ⟨awaited,moved,awaits,signal,_,kept,done,own,same⟩
  · rw [same]
    exact ⟨fun _ => rfl,rfl,by rintro x ⟨⟩,_,rfl,rfl,rfl⟩
  · rw [same]
    refine ⟨?_,rfl,?_,_,rfl,rfl,rfl⟩
    · intro inconclusive
      obtain ⟨⟨observed,converged⟩,there,rfl⟩ := Option.map_eq_some_iff.mp signal
      exact absurd rfl (inconclusive _ there).1
    · intro x new
      obtain ⟨t,member,_,alike,_⟩ := own x new
      exact ⟨t,member,alike.operationId⟩
  · rw [same]
    refine ⟨?_,rfl,?_,_,rfl,?_,?_⟩
    · intro inconclusive
      exact absurd rfl ((inconclusive _ signal).2 rfl awaited awaits)
    · intro x new
      obtain ⟨t,member,_,alike,_⟩ := own x new
      exact ⟨t,member,alike.operationId⟩
    · show (moved.jobId,moved.runId) = _
      rw [kept.1,kept.2.1]
    · show done.elim moved.operations (appendOperation moved.operations) = _
      rw [kept.2.2.2.1]

theorem report_waiting (waiting : Waiting o scope record s) {incoming : ComponentStatus} {aggregated : Aggregate}
    (done : reportComponentStatus s incoming = .ok (write,aggregated))
    (unsettled : (incoming.jobId,incoming.runId) = (o.jobId,o.runId) → ∀ r ∈ s.runs.lookup (o.jobId,o.runId),
      Inconclusive r incoming) : Waiting o scope record (s.put write) := by
  obtain ⟨r,found,quiet,record,own,r',written,same,listed⟩ := inconclusive_write done
  have away : ∀ x ∈ write.operation, x.operationId ≠ o.operationId := by
    intro x new id
    obtain ⟨t,member,alike⟩ := own x new
    have home := (waiting.placed _ r found).2 t member (alike.trans id)
    rw [home] at found
    cases (quiet (unsettled home r found)).symm.trans new
  refine put_waiting waiting ?_
  cases new : write.operation with
  | none =>
    rw [new] at listed
    refine ⟨away,by simp [record],fun r'' put => ?_⟩
    cases written.symm.trans put
    refine ⟨r,by rw [same,← (waiting.placed _ r found).1,found],?_⟩
    intro x member _
    rw [listed] at member
    exact member
  | some x =>
    rw [new] at listed
    exact listed_aside waiting new written found same listed (away x new) (by simp [record])

/-- An operation waits for its turn while another is reconciled. -/
theorem waiting_next (waiting : Waiting o scope record s) (names : record.operationID = o.operationId)
    (other : p.operationId ≠ o.operationId) {answers : Operation → Answers} (unsettled : Unsettled (o.jobId,o.runId) answers s p) :
    Waiting o scope record (reconcileOperation s p (answers p)).store := by
  unfold reconcileOperation
  split
  · exact mark_waiting waiting other
  split
  · split
    · exact mark_waiting waiting other
    · next known =>
      split
      · exact mark_waiting waiting other
      · exact replay_waiting waiting names other (Bool.not_eq_false _ ▸ known)
  · next type =>
    split
    · exact recover_waiting waiting names other
    next status known =>
    split
    · exact waiting
    next write _ done =>
    have kept := report_waiting waiting done (fun home => unsettled home (not_or.mp type) status known)
    split
    · exact kept
    · exact recover_waiting kept names other

/-- What an operation needs to be replayed: it runs and was not dispatched, and its record has the hash made up from it. -/
structure Undispatched (o : Operation) (scope : String) (record : IdempotencyRecord) (work : Work) : Prop where
  running : o.state = .running
  fresh : o.dispatchAccepted = false
  does : workOf o.type = some work
  solid : trimSpace o.idempotencyKey ≠ ""
  hashed : recoveryHash o = some (scope,record.requestHash)
  names : record.operationID = o.operationId ∧ record.jobID = o.jobId ∧ record.runID = o.runId

/-- The runtime is called for the operation, with its key. -/
def Calls (o : Operation) (work : Work) (done : Reconciled) : Prop :=
  ∃ again ∈ done.calls, again.operation = o ∧ again.key = o.idempotencyKey ∧ again.work = work

variable {work : Work}

theorem replay_calls (waiting : Waiting o scope record s) (able : Undispatched o scope record work) :
    Calls o work (replayOperation s o answers) := by
  obtain ⟨job,foundJob⟩ := Option.isSome_iff_exists.mp waiting.job
  obtain ⟨r,foundRun⟩ := Option.isSome_iff_exists.mp waiting.run
  obtain ⟨plan,load,own⟩ : ∃ plan, loadRunningPlan s work o.idempotencyKey record.requestHash o.jobId o.runId o.operationId =
      .ok (.inl plan) ∧ plan.operation = o ∧ plan.key = o.idempotencyKey ∧ plan.work = work := by
    simp [loadRunningPlan,loadCommittedOperation,foundJob,foundRun,waiting.tabled,able.running]
  refine ⟨plan,?_,own⟩
  simp only [replayOperation,able.does,able.hashed,load]
  split
  · exact List.mem_singleton_self plan
  · split <;> exact List.mem_singleton_self plan

theorem waiting_identity (waiting : Waiting o scope record s) (able : Undispatched o scope record work) :
    hasRecoveryIdentity s o = true := by
  simp [hasRecoveryIdentity,able.solid,able.hashed,waiting.recorded,able.names]

theorem recover_calls (waiting : Waiting o scope record s) (able : Undispatched o scope record work) :
    Calls o work (recover s o answers) := by
  rw [recover,if_neg (by simp [waiting_identity waiting able]),if_neg (by simp [able.fresh])]
  exact replay_calls waiting able

theorem reconcile_calls (waiting : Waiting o scope record s) (able : Undispatched o scope record work)
    (named : trimSpace o.jobId ≠ "" ∧ trimSpace o.runId ≠ "") {answers : Operation → Answers}
    (unsettled : Unsettled (o.jobId,o.runId) answers s o) : Calls o work (reconcileOperation s o (answers o)) := by
  unfold reconcileOperation
  rw [if_neg (not_or.mpr ⟨ne_of_trimSpace named.2,ne_of_trimSpace named.1⟩)]
  split
  · rw [if_neg (by simp [waiting_identity waiting able]),if_neg (by simp [able.fresh])]
    exact replay_calls waiting able
  · next type =>
    split
    · exact recover_calls waiting able
    next status known =>
    obtain ⟨job,foundJob⟩ := Option.isSome_iff_exists.mp waiting.job
    obtain ⟨r,foundRun⟩ := Option.isSome_iff_exists.mp waiting.run
    split
    · next err failed =>
      -- a report of a run that is there does not fail
      have solid : trimSpace "runtime" ≠ "" := by decide
      simp [reportComponentStatus,reported,foundJob,foundRun,named,solid] at failed
    · next write _ done =>
      have kept := report_waiting waiting done (fun home => unsettled home (not_or.mp type) status known)
      rw [if_neg (by simp [operationCompleted,kept.tabled,able.running])]
      exact recover_calls kept able

def nextStore (answers : Operation → Answers) (s : Store) (p : Operation) : Store := (reconcileOperation s p (answers p)).store

variable {answers : Operation → Answers} {items : List Operation} {done : Reconciled}

theorem pass_store : (items.foldl (reconcileNext answers) done).store = run (nextStore answers) done.store items := by
  induction items generalizing done with
  | nil => rfl
  | cons p items ih => exact ih

theorem pass_calls {plan : Plan} (called : plan ∈ done.calls) : plan ∈ (items.foldl (reconcileNext answers) done).calls := by
  induction items generalizing done with
  | nil => exact called
  | cons p items ih => exact ih (List.mem_append_left _ called)

theorem waiting_run (waiting : Waiting o scope record s) (names : record.operationID = o.operationId)
    (others : ∀ p ∈ items, p.operationId ≠ o.operationId)
    (unsettled : Guarded (nextStore answers) (Unsettled (o.jobId,o.runId) answers) s items) :
    Waiting o scope record (run (nextStore answers) s items) := by
  induction items generalizing s with
  | nil => exact waiting
  | cons p items ih =>
    exact ih (waiting_next waiting names (others p (by simp)) unsettled.1) (fun q member => others q (by simp [member]))
      unsettled.2

theorem mem_listRunning : p ∈ listRunningOperations s ↔ p ∈ s.operations.values ∧ p.state = .running := by
  simp [listRunningOperations]

theorem reconciliation_calls (waiting : Waiting o scope record s) (able : Undispatched o scope record work)
    (named : trimSpace o.jobId ≠ "" ∧ trimSpace o.runId ≠ "")
    (unsettled : Guarded (nextStore answers) (Unsettled (o.jobId,o.runId) answers) s (listRunningOperations s)) :
    Calls o work (reconcileIncompleteOperations s answers) := by
  have member : o ∈ listRunningOperations s :=
    mem_listRunning.mpr ⟨Map.mem_values_iff.mpr ⟨_,waiting.tabled⟩,able.running⟩
  obtain ⟨before,after,split,first⟩ := List.eq_append_cons_of_mem member
  rw [split] at unsettled
  obtain ⟨earlier,here,_⟩ := guarded_append.mp unsettled
  have others : ∀ p ∈ before, p.operationId ≠ o.operationId := by
    intro p there same
    have listed : p ∈ listRunningOperations s := by rw [split]; simp [there]
    obtain ⟨id,held⟩ := Map.mem_values_iff.mp (mem_listRunning.mp listed).1
    rw [← waiting.keyed id p held,same,waiting.tabled] at held
    cases held
    exact first there
  have later := waiting_run waiting able.names.1 others earlier
  obtain ⟨again,called,own⟩ := reconcile_calls later able named here
  refine ⟨again,?_,own⟩
  rw [reconcileIncompleteOperations,split,List.foldl_append,List.foldl_cons]
  refine pass_calls (List.mem_append_right _ ?_)
  rw [pass_store]
  exact called

/-- The requests that can be made up from their operations. -/
def Recoverable : Step → Prop
  | .admitJob request _ _ => trimSpace request.idempotencyKey ≠ "" ∧ trimSpace request.reason = request.reason
  | .command request _ _ => trimSpace request.idempotencyKey ≠ "" ∧ request.command ≠ .retry ∧ request.runId ≠ "" ∧
      trimSpace request.actor = request.actor ∧ trimSpace request.reason = request.reason
  | _ => False

/-- The scope and the key under which a call leaves its record. -/
def place : Step → String × String
  | .admitJob request _ _ => ("admit",request.idempotencyKey)
  | .command request _ _ => ("command",request.idempotencyKey)
  | _ => ("","")

variable {w : World} {call : Step} {plan : Plan}

theorem begun_undispatched (sound : Sound w) (able : Recoverable call)
    (persisted : transaction w call = .ok (write,some plan)) : Shaped w.store plan ∧
    write = beginning (place call).1 plan ∧ plan.operation.idempotencyKey = (place call).2 ∧
    ∃ record, write.record = some record ∧ Undispatched plan.operation (place call).1 record plan.work := by
  rcases plan_cases persisted with ⟨request,now,sequence,rfl,made⟩ | ⟨request,now,sequence,rfl,made⟩ | ⟨_,_,_,_,_,rfl,_⟩
  · have shaped := (admit_shaped sound made).1
    obtain ⟨job,stored,⟨r,_,rfl,same⟩ | ⟨_,_,_,_,_,⟨o,none⟩,_⟩⟩ := persistAdmit_cases made
    · cases same
      refine ⟨shaped,rfl,rfl,_,if_neg (ne_of_trimSpace able.1),rfl,rfl,rfl,able.1,?_,rfl,rfl,rfl⟩
      show some ("admit",hashAdmitRequest job.jobId (trimSpace request.reason)) = _
      rw [able.2,(sound.jobs _ job stored).1]
      rfl
    · cases none
  · have shaped := (command_shaped sound made).1
    obtain ⟨solid,moves,given,actor,reason⟩ := able
    rcases persistCommand_cases made with ⟨_,_,_,o,none⟩ | ⟨job,r,job',r',stored,addressed,_,mutated,rfl,same⟩
    · cases none
    · cases same
      obtain ⟨transition,_,_,rfl,rfl⟩ := (mutate_cases mutated).resolve_right (fun retry => moves retry.1)
      rw [target,if_neg given] at addressed
      have id : request.runId = r.runId := (Prod.mk.inj (sound.runs _ r addressed).1).2
      refine ⟨shaped,rfl,rfl,_,if_neg (ne_of_trimSpace solid),rfl,rfl,shaped.work,solid,?_,rfl,rfl,rfl⟩
      rw [recoveryHash,shaped.work]
      show some ("command",hashCommandRequest job.jobId r.runId request.command (trimSpace request.actor)
        (trimSpace request.reason)) = _
      rw [actor,reason,← id,(sound.jobs _ job stored).1]
      rfl
  · exact able.elim

theorem stays {jobID : String} {key : String × String} {steps : List Step}
    (there : (w.store.jobs.lookup jobID).isSome = true ∧ (w.store.runs.lookup key).isSome = true) :
    ((run World.step w steps).store.jobs.lookup jobID).isSome = true ∧
    ((run World.step w steps).store.runs.lookup key).isSome = true := by
  induction steps generalizing w with
  | nil => exact there
  | cons a steps ih =>
    apply ih
    unfold World.step
    split
    · exact there
    dsimp only
    rw [put_jobs,put_runs,Option.isSome_or,Option.isSome_or,there.1,there.2]
    simp

/-- A started run, whose PAUSE is persisted without a key. -/
def pausing : List Step :=
  [.createJob jobA "" "" "" 0 0,.admitJob ⟨"a","","",""⟩ 1 1,.prepared 0 ⟨[],none⟩ 2,.command (order .start "") 3 2,
    .dispatched 0 none 4,.report (reached .running (runIDOf jobA 1) 1 5),.command (order .pause "") 6 3]

/-- The TERMINATE of the run, with a key. -/
def terminating : Step := .command { order .terminate (runIDOf jobA 1) with idempotencyKey := "k" } 7 4

/-- A repeated report, before the controller crashes. -/
def repeated : List Step := [.report (reached .running (runIDOf jobA 1) 1 5)]

/-- The runtime says of every run that it is running, and takes every command. -/
def stillRunning (_ : Operation) : Answers where
  status := .ok (some { reached .running (runIDOf jobA 1) 2 9 with })
  prepared := ⟨[],none⟩
  dispatched := none
  now := 10
  marked := 11

/-- The TERMINATE of a run that is not admitted yet, without a run ID: the controller takes the latest run. -/
def terminatedUnnamed : List Step :=
  [.createJob jobA "" "" "" 0 0,.createJobRun jobA "" "" 0,.command { order .terminate "" with idempotencyKey := "k" } 1 1,.restart]

end TgsRl.Reconciliation
