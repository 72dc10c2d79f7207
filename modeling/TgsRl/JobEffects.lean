import TgsRl.JobController

/-!
What a step of the job controller can write. The operations of a run are its own and in the
operation table, and a plan in flight belongs to one run (`Sound`); every step keeps this unless IDs
collide: an ID is a part of a hash, and an operation can be recorded under any ID (`Proper`). In a
sound world a transaction that succeeds writes one of six things (`effect_of`).
-/
namespace TgsRl.JobEffects
open Messages Jobs State Validation JobController

structure Same (o o' : Operation) : Prop where
  operationId : o.operationId = o'.operationId
  type : o.type = o'.type
  jobId : o.jobId = o'.jobId
  runId : o.runId = o'.runId

/-- The operation table holds an operation of the same ID, type, job and run. -/
def Tabled (s : Store) (o : Operation) : Prop := ∃ t, s.operations.lookup o.operationId = some t ∧ Same t o

structure Formed (s : Store) (run : JobRun) : Prop where
  named : trimSpace run.jobId ≠ "" ∧ trimSpace run.runId ≠ ""
  listed : ∀ o ∈ run.operations, o.jobId = run.jobId ∧ o.runId = run.runId ∧ Tabled s o
  unique : (run.operations.map Operation.operationId).Nodup

/-- The plan belongs to one run, and so do its stable copies unless it retries another. -/
structure Shaped (s : Store) (plan : Plan) : Prop where
  job : plan.run.jobId = plan.job.jobId
  bound : plan.operation.jobId = plan.job.jobId ∧ plan.operation.runId = plan.run.runId
  work : workOf plan.operation.type = some plan.work
  stable : ∀ command, plan.work = .command command → command ≠ .retry → ∃ job run, plan.stableJob = some job ∧
    plan.stableRun = some run ∧ job.jobId = plan.job.jobId ∧ run.jobId = plan.job.jobId ∧ run.runId = plan.run.runId ∧
    Formed s run

structure Sound (w : World) : Prop where
  jobs : ∀ key job, w.store.jobs.lookup key = some job → job.jobId = key ∧ trimSpace key ≠ ""
  runs : ∀ key run, w.store.runs.lookup key = some run → key = (run.jobId,run.runId) ∧ Formed w.store run
  operations : ∀ key o, w.store.operations.lookup key = some o → o.operationId = key ∧ trimSpace o.jobId ≠ ""
  plans : ∀ plan ∈ w.plans, Shaped w.store plan ∧ Tabled w.store plan.operation

/-- An operation is put under the ID of another one only if this has its type, its job and its run, and a run under
the ID of another one only if this is the same attempt. -/
structure Apart (s : Store) (write : Write) : Prop where
  operation : ∀ o ∈ write.operation, ∀ t ∈ s.operations.lookup o.operationId, Same t o
  run : ∀ r ∈ write.run, ∀ old ∈ s.runs.lookup (r.jobId,r.runId), r.attempt = old.attempt

/-- The IDs that a step writes do not collide with those that are stored. -/
def Proper (w : World) (a : Step) : Prop := ∀ done ∈ (transaction w a).toOption, Apart w.store done.1

instance (o o' : Operation) : Decidable (Same o o') :=
  decidable_of_iff (o.operationId = o'.operationId ∧ o.type = o'.type ∧ o.jobId = o'.jobId ∧ o.runId = o'.runId)
    ⟨fun ⟨id,type,job,run⟩ => ⟨id,type,job,run⟩,fun same => ⟨same.1,same.2,same.3,same.4⟩⟩

instance (s : Store) (write : Write) : Decidable (Apart s write) :=
  decidable_of_iff ((∀ o ∈ write.operation, ∀ t ∈ s.operations.lookup o.operationId, Same t o) ∧
    ∀ r ∈ write.run, ∀ old ∈ s.runs.lookup (r.jobId,r.runId), r.attempt = old.attempt)
    ⟨fun both => ⟨both.1,both.2⟩,fun apart => ⟨apart.1,apart.2⟩⟩

instance (w : World) (a : Step) : Decidable (Proper w a) :=
  inferInstanceAs (Decidable (∀ done ∈ (transaction w a).toOption, Apart w.store done.1))

def begun (type : OperationType) (jobId runId actor reason requestId key : String) (now : Int)
    (sequence : Nat) : Operation :=
  { newOperation type jobId runId actor reason requestId key now sequence with state := .running, completedAt := none }

/-- The run that a request with this run ID addresses. -/
def target (s : Store) (jobID runID : String) : Option JobRun :=
  if runID = "" then s.getLatestRun jobID else s.runs.lookup (jobID,runID)

/-- How the attempt of a new run is counted. -/
inductive Numbered (w : World) (job : Job) : Step → UInt64 → Prop
  | first {a : Step} (creates : ∀ request now sequence, a ≠ .command request now sequence)
      (none : w.store.getLatestRun job.jobId = none) : Numbered w job a 1
  | next {latest : JobRun} {a : Step} (creates : ∀ request now sequence, a ≠ .command request now sequence)
      (some : w.store.getLatestRun job.jobId = some latest) (room : latest.attempt + 1 ≠ 0) :
      Numbered w job a (latest.attempt + 1)
  | retry {request : CommandRequest} {now : Int} {sequence : Nat} {run : JobRun} (type : request.command = .retry)
      (stored : w.store.jobs.lookup request.jobId = some job)
        (addressed : target w.store request.jobId request.runId = some run)
      (terminal : isTerminalRunState run.runState = true)
      (new : semanticIdempotentOperation w.store job run .retry = none) :
      Numbered w job (.command request now sequence) (run.attempt + 1)

inductive Moves (w : World) (run : JobRun) : Step → JobRunState → Prop
  | stays {a : Step} : Moves w run a run.runState
  | admission {request : AdmitRequest} {now : Int} {sequence : Nat}
      (latest : w.store.getLatestRun request.jobId = some run)
      (open_ : run.runState ≠ .admitted ∧ run.runState ≠ .waiting ∧ isTerminalRunState run.runState = false) :
      Moves w run (.admitJob request now sequence) .admitting
  | command {request : CommandRequest} {now : Int} {sequence : Nat} {transition : Transition}
      (moves : transitionOf request.command = some transition) (allowed : run.runState ∈ transition.allows)
      (addressed : target w.store request.jobId request.runId = some run) :
      Moves w run (.command request now sequence) transition.runState
  | prepared {index : Nat} {result : PrepareResult} {now : Int} {plan : Plan} {t : Operation}
      (planned : w.plans[index]? = some plan) (own : plan.job.jobId = run.jobId ∧ plan.run.runId = run.runId)
      (success : result.err = none ∧ result.diagnostics = [])
      (running : w.store.operations.lookup plan.operation.operationId = some t ∧ t.state = .running) :
      Moves w run (.prepared index result now) .waiting
  | failed {incoming : ComponentStatus} (own : incoming.jobId = run.jobId ∧ incoming.runId = run.runId)
      (signal : (authoritativeRuntimeSignal (mergeAggregatedStatus run.componentStatus incoming)).map Prod.fst =
        some .failed) :
      Moves w run (.report incoming) .failed
  | observed {incoming : ComponentStatus} {awaited : Awaited} (awaits : awaitedIn run.runState = some awaited)
      (own : incoming.jobId = run.jobId ∧ incoming.runId = run.runId)
      (signal : authoritativeRuntimeSignal (mergeAggregatedStatus run.componentStatus incoming) =
        some (awaited.observed,true)) :
      Moves w run (.report incoming) awaited.runState

/-- Where an operation that is put into a stored run comes from. -/
inductive Issued (w : World) (run : JobRun) : Step → Operation → Prop
  | made {a : Step} (type : OperationType) (actor reason requestId key : String) (now : Int) (sequence : Nat) :
      Issued w run a (begun type run.jobId run.runId actor reason requestId key now sequence)
  | recorded {o : Operation} (absent : w.store.operations.lookup o.operationId = none)
      (bound : o.jobId = run.jobId ∧ o.runId = run.runId) : Issued w run (.record o) o
  | finished {a : Step} {t o : Operation} (stored : w.store.operations.lookup t.operationId = some t)
      (running : t.state = .running) (same : Same t o) (bound : o.jobId = run.jobId ∧ o.runId = run.runId)
      (outcome : o.state = .succeeded → isLifecycle o.type = false) : Issued w run a o
  | reported {incoming : ComponentStatus} {t o : Operation} (listed : t ∈ run.operations)
    (running : t.state = .running)
      (same : Same t o) (own : incoming.jobId = run.jobId ∧ incoming.runId = run.runId) :
        Issued w run (.report incoming) o

def refused (o : Operation) (err : RuntimeError) (now : Int) : Operation :=
  { o with
    state := .failed, errorCode := "RUNTIME_COMMAND_FAILED", errorMessage := err.message
    completedAt := some now }

/-- Where a component status of a stored run comes from: it has been there, it is the controller's own, or it is
merged from a report. -/
def Seen (old : JobRun) (a : Step) (status : Aggregate) : Prop :=
  status ∈ old.componentStatus ∨ status.annotations = [] ∨
    ∃ incoming, a = .report incoming ∧ status = mergeAggregatedStatus old.componentStatus incoming ∧
      (incoming.jobId,incoming.runId) = (old.jobId,old.runId)

inductive Effect (w : World) (a : Step) (write : Write) : Prop
  | quiet (job : write.job = none) (run : write.run = none) (operation : write.operation = none)
  | unbound {o : Operation} (job : ∀ j ∈ write.job, j.jobId = o.jobId) (run : write.run = none)
      (operation : write.operation = some o) (home : trimSpace o.jobId ≠ "") (alone : o.runId = "")
      (outcome : o.state = .succeeded → isLifecycle o.type = true → a = .record o)
  | ensured {request : AdmitRequest} {now : Int} {sequence : Nat} {latest : JobRun}
    (step : a = .admitJob request now sequence)
      (stored : w.store.getLatestRun request.jobId = some latest)
      (missing : w.store.getLatestOperation latest.jobId latest.runId .admission = none)
      (waits : latest.runState = .admitted ∨ latest.runState = .waiting) (job : write.job = none)
      (run : write.run = none)
      (operation : write.operation = some (newOperation .admission latest.jobId latest.runId "" request.reason
        request.requestId request.idempotencyKey now sequence))
  | fresh {job : Job} {attempt : UInt64} {runState : JobRunState} {now : Int} (home : trimSpace job.jobId ≠ "")
      (numbered : Numbered w job a attempt)
      (run : write.run = some { newRun job attempt runState now with operations := write.operation.toList })
      (made : ∀ o ∈ write.operation, ∃ type actor reason requestId key now sequence,
        o = begun type job.jobId (runIDOf job attempt) actor reason requestId key now sequence)
      (put : ∀ j ∈ write.job, j.jobId = job.jobId)
  | updated {old run : JobRun} (written : write.run = some run)
    (stored : w.store.runs.lookup (run.jobId,run.runId) = some old)
      (attempt : run.attempt = old.attempt)
      (listed : run.operations = write.operation.elim old.operations (appendOperation old.operations))
      (issued : ∀ o ∈ write.operation, Issued w old a o) (moves : Moves w old a run.runState)
      (put : ∀ j ∈ write.job, j.jobId = run.jobId) (seen : ∀ status ∈ run.componentStatus, Seen old a status)
  | rejected {index : Nat} {err : RuntimeError} {now : Int} {plan : Plan} {command : JobCommandType} {job : Job}
      {old run : JobRun} {t o : Operation} (step : a = .dispatched index (some err) now)
      (planned : w.plans[index]? = some plan) (work : plan.work = .command command) (moves : command ≠ .retry)
      (stored : w.store.runs.lookup (run.jobId,run.runId) = some old)
      (stable : plan.stableJob = some job ∧ plan.stableRun = some run)
      (same : job.jobId = run.jobId ∧ plan.job.jobId = run.jobId ∧ plan.run.runId = run.runId)
      (clear : isAmbiguousRuntimeCommandError err = false)
      (running : w.store.operations.lookup plan.operation.operationId = some t ∧ t.state = .running)
      (failed : o = refused t err now)
      (written : write.job = some job ∧ write.run = some { run with operations := appendOperation run.operations o } ∧
        write.operation = some o)

theorem lookup_put {K V : Type} [DecidableEq K] (m : Map K V) (keyOf : V → K) (o : Option V) (key : K) :
    (o.elim m (fun v => m.insert (keyOf v) v)).lookup key =
      (o.filter (fun v => decide (keyOf v = key))).or (m.lookup key) := by
  cases o with
  | none => rfl
  | some v =>
    rw [Option.elim_some,show (some v : Option V).filter (fun v => decide (keyOf v = key)) =
      if keyOf v = key then some v else none by simp [Option.filter_some]]
    by_cases here : keyOf v = key
    · subst here
      rw [AList.lookup_insert,if_pos rfl,Option.some_or]
    · rw [AList.lookup_insert_ne (Ne.symm here),if_neg here,Option.none_or]

section Put
variable (s : Store) (write : Write)

theorem put_jobs (key : String) : (s.put write).jobs.lookup key =
    (write.job.filter (fun job => decide (job.jobId = key))).or (s.jobs.lookup key) := lookup_put ..

theorem put_runs (key : String × String) : (s.put write).runs.lookup key =
    (write.run.filter (fun run => decide ((run.jobId,run.runId) = key))).or (s.runs.lookup key) := lookup_put ..

theorem put_operations (key : String) : (s.put write).operations.lookup key =
    (write.operation.filter (fun o => decide (o.operationId = key))).or (s.operations.lookup key) := lookup_put ..

variable {s write}

theorem put_job {job : Job} (written : write.job = some job) (key : String) :
    (s.put write).jobs.lookup key = if job.jobId = key then some job else s.jobs.lookup key := by
  rw [put_jobs,written,Option.filter_some]
  by_cases here : job.jobId = key <;> simp [here]

theorem put_run {run : JobRun} (written : write.run = some run) (key : String × String) :
    (s.put write).runs.lookup key = if (run.jobId,run.runId) = key then some run else s.runs.lookup key := by
  rw [put_runs,written,Option.filter_some]
  by_cases here : (run.jobId,run.runId) = key <;> simp [here]

theorem put_no_run (none : write.run = none) (key : String × String) :
    (s.put write).runs.lookup key = s.runs.lookup key := by
  rw [put_runs,none]
  rfl

theorem put_operation {o : Operation} (written : write.operation = some o) (id : String) :
    (s.put write).operations.lookup id = if o.operationId = id then some o else s.operations.lookup id := by
  rw [put_operations,written,Option.filter_some]
  by_cases here : o.operationId = id <;> simp [here]

theorem put_no_operation (none : write.operation = none) (id : String) :
    (s.put write).operations.lookup id = s.operations.lookup id := by
  rw [put_operations,none]
  rfl

end Put

/-- One turn of the search for the latest item. -/
def newest {α : Type} (newer : α → α → Bool) (latest : Option α) (item : α) : Option α :=
  match latest with
  | none => some item
  | some best => if newer item best then some item else latest

variable {α : Type} {s : Store} {jobID runID : String} {run : JobRun} {job : Job} {o : Operation} {a : Step}

theorem latestBy_eq (newer : α → α → Bool) (items : List α) :
    latestBy newer items = items.foldl (newest newer) none := rfl

theorem latestBy_mem {α : Type} {newer : α → α → Bool} {items : List α} {best : α}
    (found : latestBy newer items = some best) : best ∈ items := by
  have general : ∀ (rest : List α) (start : Option α), rest.foldl (newest newer) start = some best →
      start = some best ∨ best ∈ rest := by
    intro rest
    induction rest with
    | nil => exact fun start same => .inl same
    | cons item rest ih =>
      intro start same
      rcases ih _ same with here | later
      · cases start with
        | none => cases here; exact .inr (by simp)
        | some first =>
          dsimp only [newest] at here
          split at here
          · cases here; exact .inr (by simp)
          · exact .inl here
      · exact .inr (by simp [later])
  rw [latestBy_eq] at found
  exact (general items none found).resolve_left (by simp)

variable {β : Type} {t o' : Operation} {w : World} {aggregated status : Aggregate}

/-- Nothing in the list is above the latest, where newer items are not below older ones. -/
theorem latestBy_max [LinearOrder β] (rank : α → β) {newer : α → α → Bool} {items : List α}
    (up : ∀ a b, newer a b = true → rank b ≤ rank a) (down : ∀ a b, newer a b = false → rank a ≤ rank b) {item : α}
    (member : item ∈ items) : ∃ best, latestBy newer items = some best ∧ rank item ≤ rank best := by
  have general : ∀ (rest : List α) (start : Option α), ((∃ first, start = some first ∧ rank item ≤ rank first) ∨
    item ∈ rest) →
      ∃ best, rest.foldl (newest newer) start = some best ∧ rank item ≤ rank best := by
    intro rest
    induction rest with
    | nil => exact fun start held => held.resolve_right (by simp)
    | cons next rest ih =>
      intro start held
      apply ih
      rcases held with ⟨first,rfl,below⟩ | inside
      · dsimp only [newest]
        split
        · exact .inl ⟨next,rfl,below.trans (up next first ‹_›)⟩
        · exact .inl ⟨first,rfl,below⟩
      · rcases List.mem_cons.mp inside with rfl | later
        · cases start with
          | none => exact .inl ⟨item,rfl,le_rfl⟩
          | some first =>
            dsimp only [newest]
            split
            · exact .inl ⟨item,rfl,le_rfl⟩
            · exact .inl ⟨first,rfl,down item first (Bool.eq_false_iff.mpr ‹_›)⟩
        · exact .inr later
  rw [latestBy_eq]
  exact general items none (.inr member)

theorem latestBy_some {newer : α → α → Bool} {items : List α} {item : α} (member : item ∈ items) :
    (latestBy newer items).isSome = true := by
  have found : ∃ best, latestBy newer items = some best ∧ 0 ≤ 0 :=
    latestBy_max (fun _ => 0) (fun _ _ _ => le_rfl) (fun _ _ _ => le_rfl) member
  exact Option.isSome_iff_exists.mpr ⟨_,found.choose_spec.1⟩

theorem latestOperation_some {id : String} (held : s.operations.lookup id = some o) :
    s.getLatestOperation o.jobId o.runId o.type ≠ none := by
  have member : o ∈ s.operations.values := Map.mem_values_iff.mpr ⟨id,held⟩
  exact Option.isSome_iff_ne_none.mp (latestBy_some (List.mem_filter.mpr ⟨member,by simp⟩))

theorem latest_stored (latest : s.getLatestRun jobID = some run) :
    ∃ runID, s.runs.lookup (jobID,runID) = some run := by
  obtain ⟨⟨⟨job,runID⟩,found⟩,kept,rfl⟩ := List.mem_map.mp (latestBy_mem latest)
  obtain ⟨member,own⟩ := List.mem_filter.mp kept
  obtain rfl : job = jobID := by simpa using own
  exact ⟨runID,Map.mem_pairs_iff.mp member⟩

theorem latest_max (stored : s.runs.lookup (jobID,runID) = some run) :
    ∃ latest, s.getLatestRun jobID = some latest ∧ run.attempt ≤ latest.attempt := by
  have member : run ∈ (s.runs.pairs.filter (fun entry => decide (entry.1.1 = jobID))).map Prod.snd :=
    List.mem_map.mpr ⟨((jobID,runID),run),List.mem_filter.mpr ⟨Map.mem_pairs_iff.mpr stored,decide_eq_true rfl⟩,rfl⟩
  refine latestBy_max (fun run => run.attempt.toNat) ?_ ?_ member
  · intro a b newer
    rcases Bool.or_eq_true_iff.mp newer with above | tie
    · exact le_of_lt (of_decide_eq_true above)
    · exact le_of_eq (congrArg UInt64.toNat (of_decide_eq_true (Bool.and_eq_true_iff.mp tie).1)).symm
  · intro a b older
    exact not_lt.mp (of_decide_eq_false (Bool.or_eq_false_iff.mp older).1)

theorem Proper.apart {write : Write} {plan : Option Plan} (proper : Proper w a)
    (done : transaction w a = .ok (write,plan)) :
    Apart w.store write := proper (write,plan) (by rw [done]; rfl)

theorem Same.trans {o'' : Operation} (first : Same o o') (second : Same o' o'') : Same o o'' :=
  ⟨first.1.trans second.1,first.2.trans second.2,first.3.trans second.3,first.4.trans second.4⟩

theorem Same.symm (same : Same o o') : Same o' o := ⟨same.1.symm,same.2.symm,same.3.symm,same.4.symm⟩

theorem map_ok {ε α β : Type} {f : α → β} {e : Except ε α} {b : β} (done : e.map f = .ok b) :
    ∃ a, e = .ok a ∧ b = f a := by
  cases e with
  | error err => cases done
  | ok a => cases done; exact ⟨a,rfl,rfl⟩

theorem step_ok {write : Write} {plan : Option Plan} (done : transaction w a = .ok (write,plan)) :
    w.step a = { store := w.store.put write, plans := remaining w.plans a ++ plan.toList } := by
  rw [World.step,done]

theorem loaded {operationID : String} (load : loadCommittedOperation s jobID runID operationID = .ok (job,run,o)) :
    s.jobs.lookup jobID = some job ∧ s.runs.lookup (jobID,runID) = some run ∧
      s.operations.lookup operationID = some o := by
  unfold loadCommittedOperation at load
  split at load
  all_goals cases load
  exact ⟨‹_›,‹_›,‹_›⟩

theorem resolved (resolve : resolveTargetRun s jobID runID = .ok (job,some run)) :
    s.jobs.lookup jobID = some job ∧ target s jobID runID = some run := by
  unfold resolveTargetRun at resolve
  rw [target]
  split at resolve
  · cases resolve
  next stored =>
  by_cases named : runID = ""
  · rw [if_neg (not_not.mpr named)] at resolve
    obtain ⟨rfl,latest⟩ := Prod.mk.inj (Except.ok.inj resolve)
    exact ⟨stored,by rw [if_pos named,latest]⟩
  · rw [if_pos named] at resolve
    rw [if_neg named]
    split at resolve
    · cases resolve
    · cases resolve
      exact ⟨stored,‹_›⟩

theorem addressed_stored (addressed : target s jobID runID = some run) :
    ∃ id, s.runs.lookup (jobID,id) = some run := by
  unfold target at addressed
  split at addressed
  · exact latest_stored addressed
  · exact ⟨runID,addressed⟩

theorem newest_mem {operations : List Operation} {test : Operation → Bool}
    (newest : newestOperation (operations.filter test) = some o) : o ∈ operations ∧ test o = true :=
  List.mem_filter.mp (latestBy_mem newest)

/-- What a report does to a run whose aggregate it has merged: nothing, or the runtime has failed, or it has reached
the state that the run awaits. -/
theorem advance_cases (job : Job) (run : JobRun) (aggregated : Aggregate) (now : Int) :
    advanceRunFromComponent job run aggregated now = (job,run,none) ∨
    (∃ moved : JobRun, (authoritativeRuntimeSignal aggregated).map Prod.fst = some .failed ∧
      moved = { run with runState := .failed, state := .failed, completedAt := some now } ∧
      ∃ failed, (∀ o ∈ failed, ∃ t ∈ run.operations, t.state = .running ∧ Same t o ∧ o.state = .failed) ∧
        advanceRunFromComponent job run aggregated now = ({ job with state := .failed },
          withOperation moved failed,failed)) ∨
    ∃ (awaited : Awaited) (moved : JobRun), awaitedIn run.runState = some awaited ∧
      authoritativeRuntimeSignal aggregated = some (awaited.observed,true) ∧ moved.runState = awaited.runState ∧
      (moved.jobId = run.jobId ∧ moved.runId = run.runId ∧ moved.attempt = run.attempt ∧
        moved.operations = run.operations ∧
        moved.componentStatus = run.componentStatus) ∧
      ∃ done, (∀ o ∈ done, ∃ t ∈ run.operations, t.state = .running ∧ Same t o ∧ t.type = awaited.type ∧
          o.createdAt = t.createdAt) ∧
        advanceRunFromComponent job run aggregated now = ({ job with state := awaited.state },
          withOperation moved done,done) := by
  unfold advanceRunFromComponent
  split
  · exact .inl rfl
  · next signal =>
    refine .inr (.inl ⟨_,by rw [signal]; rfl,rfl,_,?_,rfl⟩)
    intro o found
    obtain ⟨t,newest,rfl⟩ := Option.map_eq_some_iff.mp found
    obtain ⟨member,test⟩ := newest_mem newest
    exact ⟨t,member,of_decide_eq_true (Bool.and_eq_true_iff.mp test).1,⟨rfl,rfl,rfl,rfl⟩,rfl⟩
  · exact .inl rfl
  · next observed _ signal =>
    split
    · exact .inl rfl
    next awaited awaits =>
    split
    · next reached =>
      refine .inr (.inr ⟨awaited,{ run with
        runState := awaited.runState, state := awaited.state
        startedAt := if awaited.runState = .running then run.startedAt <|> some now else run.startedAt
        completedAt := if isTerminalRunState awaited.runState then some now else run.completedAt },
        awaits,by rw [signal,reached],rfl,⟨rfl,rfl,rfl,rfl,rfl⟩,_,?_,rfl⟩)
      intro o found
      obtain ⟨t,newest,rfl⟩ := Option.map_eq_some_iff.mp found
      obtain ⟨member,test⟩ := newest_mem newest
      obtain ⟨type,running⟩ := Bool.and_eq_true_iff.mp test
      exact ⟨t,member,of_decide_eq_true running,⟨rfl,rfl,rfl,rfl⟩,of_decide_eq_true type,rfl⟩
    · exact .inl rfl

theorem upsert_mem {existing : List Aggregate} (member : status ∈ upsertAggregatedStatus existing aggregated) :
    status = aggregated ∨ status ∈ existing := by
  have replaced : ∀ {status}, status ∈ existing.map (fun status =>
    if status.component = aggregated.component then aggregated
      else status) → status = aggregated ∨ status ∈ existing := by
    intro status member
    obtain ⟨old,held,rfl⟩ := List.mem_map.mp member
    split
    · exact .inl rfl
    · exact .inr held
  have member := (List.mem_insertionSort _).mp member
  split at member
  · exact replaced member
  rcases List.mem_append.mp member with held | new
  · exact replaced held
  · exact .inl (List.mem_singleton.mp new)

theorem seen_own {old : JobRun} (own : aggregated.annotations = [])
    (member : status ∈ upsertAggregatedStatus old.componentStatus aggregated) : Seen old a status := by
  rcases upsert_mem member with rfl | there
  · exact .inr (.inl own)
  · exact .inl there

section Effects
variable {write : Write} {operation x : Operation} {key hash : String} {now : Int} {sequence index : Nat}
    {run' : JobRun}
  {request : AdmitRequest} {out : Plan ⊕ Operation} {plan : Plan} {command : JobCommandType}
    {incoming : ComponentStatus}
  {existing : List Operation}

theorem createJob_effect {requestID : String} (home : trimSpace job.jobId ≠ "")
    (done : createJob w.store job requestID key hash now sequence = .ok (write,o)) : Effect w a write := by
  unfold createJob at done
  split at done
  · cases done
    refine .unbound ?_ rfl rfl home rfl (by rintro _ ⟨⟩)
    rintro j ⟨⟩
    rfl
  · split at done
    · cases done
    · split at done
      · cases done
        exact .quiet rfl rfl rfl
      · cases done
        exact .unbound (by rintro j ⟨⟩) rfl rfl home rfl (by rintro _ ⟨⟩)

theorem createJobRun_effect (sound : Sound w) (home : trimSpace job.jobId ≠ "")
    (creates : ∀ request now sequence, a ≠ .command request now sequence)
    (done : createJobRun w.store job key hash now = .ok (write,run)) : Effect w a write := by
  have own : ((w.store.jobs.lookup job.jobId).getD job).jobId = job.jobId := by
    cases stored : w.store.jobs.lookup job.jobId with
    | none => rfl
    | some found => exact (sound.jobs _ found stored).1
  unfold createJobRun at done
  dsimp only at done
  split at done
  · cases done
  next room =>
  cases done
  refine @Effect.fresh w a _ ((w.store.jobs.lookup job.jobId).getD job) (((w.store.getLatestRun job.jobId).map
    JobRun.attempt).getD 0 + 1) .validating now (by rw [own]; exact home) ?_ rfl (by rintro o ⟨⟩) ?_
  · cases latest : w.store.getLatestRun job.jobId with
    | none =>
      rw [latest] at room
      exact .first creates (by rw [own]; exact latest)
    | some last =>
      rw [latest] at room
      exact .next creates (by rw [own]; exact latest) room
  · intro j put
    dsimp only at put
    split at put
    · cases put
      exact own.symm
    · cases put

def admitPlan (request : AdmitRequest) (job : Job) (run : JobRun) (now : Int) (sequence : Nat) : Plan :=
  let operation := begun .admission job.jobId run.runId "" request.reason request.requestId
    request.idempotencyKey now sequence
  { work := .admission, job := { job with state := .pending }
    run := { run with operations := appendOperation run.operations operation }, operation
    key := request.idempotencyKey, requestHash := hashAdmitRequest request.jobId request.reason, stableJob := none
    stableRun := none }

/-- What a plan puts into the store when it begins. -/
def beginning (scope : String) (plan : Plan) : Write where
  job := some plan.job
  run := some plan.run
  operation := some plan.operation
  record := recordFor scope plan.key plan.requestHash plan.operation.operationId plan.job.jobId plan.run.runId

/-- An admission begins on a first run or on the latest, or finds the latest run admitted already. -/
theorem persistAdmit_cases (done : persistAdmitPhase s request now sequence = .ok (write,out)) :
    ∃ job, s.jobs.lookup request.jobId = some job ∧
    ((∃ run, ((s.getLatestRun request.jobId = none ∧ run = newRun job 1 .admitting now) ∨
        ∃ latest, s.getLatestRun request.jobId = some latest ∧ run =
          { latest with runState := .admitting, state := .pending } ∧
          latest.runState ≠ .admitted ∧ latest.runState ≠ .waiting ∧ isTerminalRunState latest.runState = false) ∧
      write = beginning "admit" (admitPlan request job run now sequence) ∧
      out = .inl (admitPlan request job run now sequence)) ∨
    ∃ latest, s.getLatestRun request.jobId = some latest ∧ (latest.runState = .admitted ∨ latest.runState = .waiting) ∧
      write.job = none ∧ write.run = none ∧ (∃ o, out = .inr o) ∧ (write.operation = none ∨
        (s.getLatestOperation job.jobId latest.runId .admission = none ∧
          write.operation = some (newOperation .admission
          job.jobId latest.runId "" request.reason request.requestId request.idempotencyKey now sequence)))) := by
  unfold persistAdmitPhase at done
  dsimp only at done
  split at done
  · cases done
  next job stored =>
  refine ⟨job,stored,?_⟩
  split at done
  · next latest =>
    cases done
    exact .inl ⟨_,.inl ⟨latest,rfl⟩,rfl,rfl⟩
  · next latest found =>
    split at done
    · next waits =>
      refine .inr ⟨latest,found,waits,?_⟩
      unfold ensureOperation at done
      cases existing : s.getLatestOperation job.jobId latest.runId .admission with
      | some o =>
        rw [existing] at done
        cases done
        exact ⟨rfl,rfl,⟨_,rfl⟩,.inl rfl⟩
      | none =>
        rw [existing] at done
        cases done
        exact ⟨rfl,rfl,⟨_,rfl⟩,.inr ⟨rfl,rfl⟩⟩
    · next closed =>
      split at done
      · cases done
      next active =>
      cases done
      obtain ⟨admitted,waiting⟩ := not_or.mp closed
      exact .inl ⟨_,.inr ⟨latest,found,rfl,admitted,waiting,by simpa using active⟩,rfl,rfl⟩

theorem admit_effect (sound : Sound w) (done : persistAdmitPhase w.store request now sequence = .ok (write,out)) :
    Effect w (.admitJob request now sequence) write := by
  obtain ⟨job,stored,⟨run,begins,rfl,-⟩ | ⟨latest,found,waits,noJob,noRun,-,ensured⟩⟩ := persistAdmit_cases done
  · obtain ⟨own,home⟩ := sound.jobs _ job stored
    rcases begins with ⟨none,rfl⟩ | ⟨latest,found,rfl,admitted,waiting,active⟩
    · refine @Effect.fresh w _ _ job 1 .admitting now (own ▸ home)
        (.first (by rintro _ _ _ ⟨⟩) (by rw [own]; exact none)) rfl
        ?_ ?_
      · rintro o ⟨⟩
        exact ⟨_,_,_,_,_,_,_,rfl⟩
      · rintro j ⟨⟩
        rfl
    · obtain ⟨id,held⟩ := latest_stored found
      obtain ⟨place,rfl⟩ := Prod.mk.inj (sound.runs _ latest held).1
      rw [place] at held own
      refine @Effect.updated w _ _ latest _ rfl held rfl rfl ?_
        (.admission found ⟨admitted,waiting,active⟩) ?_ (fun _ => .inl)
      · rintro o ⟨⟩
        dsimp only [admitPlan]
        rw [own]
        exact .made ..
      · rintro j ⟨⟩
        exact own
  · rcases ensured with none | ⟨none,new⟩
    · exact .quiet noJob noRun none
    · obtain ⟨id,held⟩ := latest_stored found
      have own : job.jobId = latest.jobId :=
        (sound.jobs _ job stored).1.trans (Prod.mk.inj (sound.runs _ latest held).1).1
      rw [own] at none new
      exact .ensured rfl found none waits noJob noRun new

theorem mutate_cases {job' : Job} (done : mutate job run command now = .ok (job',run')) :
    (∃ transition, transitionOf command = some transition ∧ run.runState ∈ transition.allows ∧
      job' = { job with state := transition.state } ∧
      run' = { run with runState := transition.runState, state := transition.state }) ∨
    (command = .retry ∧ isTerminalRunState run.runState = true ∧ job' = { job with state := .pending } ∧
      run' = newRun job (run.attempt + 1) .retrying now) := by
  unfold mutate at done
  split at done
  · next transition found =>
    split at done
    · cases done
      exact .inl ⟨transition,found,‹_›,rfl,rfl⟩
    · cases done
  · split at done
    · split at done
      · cases done
        exact .inr ⟨‹_›,‹_›,rfl,rfl⟩
      · cases done
    · cases done

def commandPlan (request : CommandRequest) (job : Job) (run : JobRun) (job' : Job) (run' : JobRun) (now : Int)
    (sequence : Nat) : Plan :=
  let operation := begun (mapCommand request.command) job'.jobId run'.runId request.actor request.reason
    request.requestId
    request.idempotencyKey now sequence
  { work := .command request.command, job := job'
    run := { run' with operations := appendOperation run'.operations operation }, operation
    key := request.idempotencyKey
    requestHash := hashCommandRequest request.jobId request.runId request.command request.actor request.reason
    stableJob := some job, stableRun := some (stableRunForCommand run request.command) }

/-- A command begins on the run it addresses, or has been carried out already. -/
theorem persistCommand_cases {request : CommandRequest}
    (done : persistCommandPhase s request now sequence = .ok (write,out)) :
    (write.job = none ∧ write.run = none ∧ write.operation = none ∧ ∃ o, out = .inr o) ∨
    ∃ job run job' run', s.jobs.lookup request.jobId = some job ∧ target s request.jobId request.runId = some run ∧
      semanticIdempotentOperation s job run (mapCommand request.command) = none ∧
      mutate job run request.command now = .ok (job',run') ∧
      write = beginning "command" (commandPlan request job run job' run' now sequence) ∧
      out = .inl (commandPlan request job run job' run' now sequence) := by
  unfold persistCommandPhase at done
  dsimp only at done
  split at done
  · cases done
  · cases done
  next job run target =>
  obtain ⟨stored,addressed⟩ := resolved target
  split at done
  · cases done
    exact .inl ⟨rfl,rfl,rfl,_,rfl⟩
  · next unmet =>
    split at done
    · cases done
    next job' run' mutated =>
    cases done
    exact .inr ⟨job,run,job',run',stored,addressed,unmet,mutated,rfl,rfl⟩

theorem command_effect (sound : Sound w) {request : CommandRequest}
    (done : persistCommandPhase w.store request now sequence = .ok (write,out)) :
    Effect w (.command request now sequence) write := by
  obtain ⟨noJob,noRun,none,-⟩ | ⟨job,run,job',run',stored,addressed,unmet,mutated,rfl,-⟩ := persistCommand_cases done
  · exact .quiet noJob noRun none
  · obtain ⟨own,home⟩ := sound.jobs _ job stored
    obtain ⟨id,held⟩ := addressed_stored addressed
    obtain ⟨place,rfl⟩ := Prod.mk.inj (sound.runs _ run held).1
    rcases mutate_cases mutated with ⟨transition,moves,allowed,rfl,rfl⟩ | ⟨type,terminal,rfl,rfl⟩
    · rw [place] at held own
      refine @Effect.updated w _ _ run _ rfl held rfl rfl ?_ (.command moves allowed addressed) ?_ (fun _ => .inl)
      · rintro o ⟨⟩
        rw [own]
        exact .made ..
      · rintro j ⟨⟩
        exact own
    · rw [type] at unmet
      refine @Effect.fresh w _ _ job (run.attempt + 1) .retrying now (own ▸ home)
        (.retry type stored addressed terminal unmet) rfl ?_ ?_
      · rintro o ⟨⟩
        exact ⟨_,_,_,_,_,_,_,rfl⟩
      · rintro j ⟨⟩
        rfl

theorem plan_loads (sound : Sound w) (member : plan ∈ w.plans)
    (load : loadCommittedOperation w.store plan.job.jobId plan.run.runId plan.operation.operationId =
      .ok (job,run,t)) :
    w.store.runs.lookup (run.jobId,run.runId) = some run ∧ (plan.job.jobId = run.jobId ∧ plan.run.runId = run.runId) ∧
    job.jobId = run.jobId ∧ w.store.operations.lookup t.operationId = some t ∧ Same t plan.operation ∧
    t.jobId = run.jobId ∧ t.runId = run.runId := by
  obtain ⟨foundJob,foundRun,foundOperation⟩ := loaded load
  obtain ⟨shaped,t',tabled,same⟩ := sound.plans plan member
  obtain rfl := Option.some.inj (tabled.symm.trans foundOperation)
  obtain ⟨key,_⟩ := sound.runs _ run foundRun
  obtain ⟨place,id⟩ := Prod.mk.inj key
  refine ⟨key ▸ foundRun,⟨place,id⟩,(sound.jobs _ job foundJob).1.trans place,?_,same,?_,?_⟩
  · rw [same.operationId]
    exact foundOperation
  · rw [same.jobId,shaped.bound.1,place]
  · rw [same.runId,shaped.bound.2,id]

theorem prepare_effect (sound : Sound w) {scope : String} {result : PrepareResult}
    (planned : w.plans[index]? = some plan)
    (lifeless : isLifecycle plan.operation.type = false)
    (done : finalizePrepare scope w.store plan result now = .ok (write,o)) :
    Effect w (.prepared index result now) write := by
  unfold finalizePrepare at done
  split at done
  · cases done
  next job run t load =>
  obtain ⟨held,own,place,tabled,same,bound⟩ := plan_loads sound (List.mem_of_getElem? planned) load
  have lifeless : isLifecycle t.type = false := by rw [same.type]; exact lifeless
  split at done
  · cases done
    exact .quiet rfl rfl rfl
  · next running =>
    have running := not_not.mp running
    split at done
    · cases done
      refine @Effect.updated w _ _ run _ rfl held rfl rfl ?_ .stays ?_ (fun _ => seen_own rfl)
      · rintro o ⟨⟩
        exact .finished tabled running ⟨rfl,rfl,rfl,rfl⟩ bound (fun _ => lifeless)
      · rintro j ⟨⟩
        exact place
    · next clean =>
      cases done
      have success : result.err = none ∧ result.diagnostics = [] := by
        cases err : result.err <;> cases texts : result.diagnostics <;> simp [err,texts] at clean
        exact ⟨rfl,rfl⟩
      refine @Effect.updated w _ _ run _ rfl held rfl rfl ?_ (.prepared planned own success
        ⟨(loaded load).2.2,running⟩) ?_
        (fun _ => .inl)
      · rintro o ⟨⟩
        exact .finished tabled running ⟨rfl,rfl,rfl,rfl⟩ bound (fun _ => lifeless)
      · rintro j ⟨⟩
        exact place

theorem dispatch_effect (sound : Sound w) {err : Option RuntimeError} (planned : w.plans[index]? = some plan)
    (work : plan.work = .command command) (moves : command ≠ .retry)
    (done : finalizeCommandPhase w.store plan err now = .ok (write,o)) :
    Effect w (.dispatched index err now) write := by
  have member := List.mem_of_getElem? planned
  unfold finalizeCommandPhase at done
  split at done
  · cases done
  next job run t load =>
  obtain ⟨held,own,place,tabled,same,bound⟩ := plan_loads sound member load
  split at done
  · cases done
    exact .quiet rfl rfl rfl
  · next running =>
    have running := not_not.mp running
    split at done
    · next err =>
      split at done
      · cases done
        exact .quiet rfl rfl rfl
      · next clear =>
        obtain ⟨stableJob,stableRun,keptJob,keptRun,ownJob,ownRun,ownID,_⟩ :=
          (sound.plans plan member).1.stable command work
          moves
        have again : w.store.runs.lookup (stableRun.jobId,stableRun.runId) = some run := by
          rw [ownRun,ownID]
          exact (loaded load).2.1
        rw [keptJob,keptRun] at done
        cases done
        exact .rejected rfl planned work moves again ⟨keptJob,keptRun⟩
          ⟨ownJob.trans ownRun.symm,ownRun.symm,ownID.symm⟩
          (by simpa using clear) ⟨(loaded load).2.2,running⟩ rfl ⟨rfl,rfl,rfl⟩
    · cases done
      refine @Effect.updated w _ _ run _ rfl held rfl rfl ?_ .stays ?_ (fun _ => .inl)
      · rintro o ⟨⟩
        exact .finished tabled running ⟨rfl,rfl,rfl,rfl⟩ bound (fun done => by cases running.symm.trans done)
      · rintro j ⟨⟩
        exact place

theorem report_write (done : reportComponentStatus s incoming = .ok (write,aggregated)) :
    ∃ job run, s.jobs.lookup incoming.jobId = some job ∧ s.runs.lookup (incoming.jobId,incoming.runId) = some run ∧
      aggregated = mergeAggregatedStatus run.componentStatus incoming ∧
        ∃ advanced, advanced = advanceRunFromComponent job
        { run with componentStatus := upsertAggregatedStatus run.componentStatus aggregated } aggregated
          incoming.observedAt ∧
      write = { job := some advanced.1, run := some advanced.2.1, operation := advanced.2.2 } := by
  unfold reportComponentStatus at done
  split at done
  · cases done
  split at done
  · cases done
  · cases done
  · cases done
    exact ⟨_,_,‹_›,‹_›,rfl,_,rfl,rfl⟩

theorem report_effect (sound : Sound w) (done : reportComponentStatus w.store incoming = .ok (write,aggregated)) :
    Effect w (.report incoming) write := by
  obtain ⟨job,run,foundJob,foundRun,merge,_,rfl,rfl⟩ := report_write done
  obtain ⟨key,_⟩ := sound.runs _ run foundRun
  obtain ⟨place,id⟩ := Prod.mk.inj key
  have home : job.jobId = run.jobId := (sound.jobs _ job foundJob).1.trans place
  have held : w.store.runs.lookup (run.jobId,run.runId) = some run := key ▸ foundRun
  have seen : ∀ status ∈ upsertAggregatedStatus run.componentStatus aggregated,
    Seen run (.report incoming) status := by
    intro status member
    rcases upsert_mem member with rfl | there
    · exact .inr (.inr ⟨incoming,rfl,merge,key⟩)
    · exact .inl there
  rcases advance_cases job
    { run with componentStatus := upsertAggregatedStatus run.componentStatus aggregated } aggregated
    incoming.observedAt with still | ⟨moved,signal,rfl,failed,from_,moves⟩ |
    ⟨awaited,moved,awaits,signal,reached,⟨sameJob,sameRun,sameAttempt,sameList,sameStatus⟩,finished,from_,moves⟩
  · rw [still]
    refine @Effect.updated w _ _ run _ rfl held rfl rfl (by rintro o ⟨⟩) .stays ?_ seen
    · rintro j ⟨⟩
      exact home
  · rw [moves]
    refine @Effect.updated w _ _ run _ rfl held rfl ?_ ?_ (.failed ⟨place,id⟩ (merge ▸ signal)) ?_ seen
    · cases failed <;> rfl
    · intro o here
      obtain ⟨t,listed,running,same,_⟩ := from_ o here
      exact .reported listed running same ⟨place,id⟩
    · rintro j ⟨⟩
      exact home
  · rw [moves]
    refine @Effect.updated w _ _ run _ rfl ?_ sameAttempt ?_ ?_ ?_ ?_ (sameStatus ▸ seen)
    · show w.store.runs.lookup (moved.jobId,moved.runId) = some run
      rw [sameJob,sameRun]
      exact held
    · cases finished with
      | none => exact sameList
      | some o => exact congrArg (appendOperation · o) sameList
    · intro o here
      obtain ⟨t,listed,running,same,_⟩ := from_ o here
      exact .reported listed running same ⟨place,id⟩
    · show Moves w run (.report incoming) moved.runState
      rw [reached]
      exact .observed awaits ⟨place,id⟩ (merge ▸ signal)
    · rintro j ⟨⟩
      exact home.trans sameJob.symm

theorem record_effect (sound : Sound w) {incoming : Operation}
    (done : recordOperation w.store incoming = .ok (write,o)) : Effect w (.record incoming) write := by
  unfold recordOperation at done
  split at done
  · cases done
  next known =>
  have home : trimSpace incoming.jobId ≠ "" := by
    have some : w.store.jobs.lookup incoming.jobId ≠ none := by simpa using known
    obtain ⟨job,stored⟩ := Option.ne_none_iff_exists'.mp some
    exact (sound.jobs _ job stored).2
  split at done
  · split at done
    · cases done
    · cases done
      exact .quiet rfl rfl rfl
  · next absent =>
    split at done
    · next alone =>
      cases done
      exact .unbound (by rintro j ⟨⟩) rfl rfl home alone (fun _ _ => rfl)
    · split at done
      · cases done
      · next run found =>
        cases done
        obtain ⟨place,id⟩ := Prod.mk.inj (sound.runs _ run found).1
        refine @Effect.updated w _ _ run _ rfl ?_ rfl rfl ?_ .stays (by rintro j ⟨⟩) (fun _ => .inl)
        · exact (sound.runs _ run found).1 ▸ found
        · rintro o ⟨⟩
          exact .recorded absent ⟨place,id⟩

theorem reconciliation_effect (sound : Sound w) {detail : String} {done : Unit}
    (held : w.store.operations.lookup operation.operationId = some operation)
    (done : markReconciliationRequired w.store operation detail now = .ok (write,done)) : Effect w a write := by
  have home := (sound.operations _ operation held).2
  unfold markReconciliationRequired at done
  dsimp only at done
  rw [held] at done
  split at done
  · next blank =>
    have alone := blank.resolve_left (ne_of_trimSpace home)
    dsimp only at done
    split at done
    · cases done
      exact .quiet rfl rfl rfl
    · cases done
      exact .unbound (by rintro j ⟨⟩) rfl rfl home alone (by rintro ⟨⟩)
  · split at done
    · cases done
    · next job run current load =>
      obtain ⟨_,found,again⟩ := loaded load
      obtain rfl := Option.some.inj (held.symm.trans again)
      obtain ⟨place,id⟩ := Prod.mk.inj (sound.runs _ run found).1
      split at done
      · cases done
        exact .quiet rfl rfl rfl
      · next running =>
        cases done
        refine @Effect.updated w _ _ run _ rfl ?_ rfl rfl ?_ .stays (by rintro j ⟨⟩) (fun _ => seen_own rfl)
        · exact (sound.runs _ run found).1 ▸ found
        · rintro o ⟨⟩
          exact .finished held (not_not.mp running) ⟨rfl,rfl,rfl,rfl⟩ ⟨place,id⟩ (fun done => by cases done)

theorem effect_of (sound : Sound w) {plan : Option Plan} (done : transaction w a = .ok (write,plan)) :
    Effect w a write := by
  have still : (Except.ok ({},none) : Except Status (Write × Option Plan)) = .ok (write,plan) → Effect w a write := by
    rintro ⟨⟩
    exact .quiet rfl rfl rfl
  cases a with
  | createJob job requestID key hash now sequence =>
    obtain ⟨⟨written,o⟩,made,same⟩ := map_ok done
    cases same
    exact createJob_effect job.2.1 made
  | createJobRun job key hash now =>
    obtain ⟨⟨written,run⟩,made,same⟩ := map_ok done
    cases same
    exact createJobRun_effect sound job.2.1 (by rintro _ _ _ ⟨⟩) made
  | admitJob request now sequence =>
    obtain ⟨⟨written,out⟩,made,same⟩ := map_ok done
    cases same
    exact admit_effect sound made
  | command request now sequence =>
    obtain ⟨⟨written,out⟩,made,same⟩ := map_ok done
    cases same
    exact command_effect sound made
  | resume key hash operationID =>
    simp only [transaction] at done
    split at done
    · exact still done
    split at done
    · exact still done
    obtain ⟨found,_,same⟩ := map_ok done
    cases same
    exact .quiet rfl rfl rfl
  | prepared index result now =>
    simp only [transaction] at done
    split at done
    · exact still done
    next plan planned =>
    have work := (sound.plans plan (List.mem_of_getElem? planned)).1.work
    split at done
    · next does =>
      obtain ⟨⟨written,o⟩,made,same⟩ := map_ok done
      cases same
      refine prepare_effect sound planned ?_ made
      cases type : plan.operation.type <;> simp_all [workOf,isLifecycle]
    · next does =>
      obtain ⟨⟨written,o⟩,made,same⟩ := map_ok done
      cases same
      refine prepare_effect sound planned ?_ made
      cases type : plan.operation.type <;> simp_all [workOf,isLifecycle]
    · exact still done
  | dispatched index err now =>
    simp only [transaction] at done
    split at done
    · exact still done
    next plan planned =>
    split at done
    · exact still done
    · exact still done
    next command moves work =>
    obtain ⟨⟨written,o⟩,made,same⟩ := map_ok done
    cases same
    exact dispatch_effect sound planned work moves made
  | report incoming =>
    obtain ⟨⟨written,aggregated⟩,made,same⟩ := map_ok done
    cases same
    exact report_effect sound made
  | record operation =>
    obtain ⟨⟨written,o⟩,made,same⟩ := map_ok done
    cases same
    exact record_effect sound made
  | reconciliation operationID detail now =>
    simp only [transaction] at done
    split at done
    · exact still done
    next operation held =>
    obtain ⟨⟨written,_⟩,made,same⟩ := map_ok done
    cases same
    refine reconciliation_effect sound ?_ made
    rw [(sound.operations _ operation held).1]
    exact held
  | restart => exact still done

theorem Formed.same (formed : Formed s run) (job : run'.jobId = run.jobId) (id : run'.runId = run.runId)
    (list : run'.operations = run.operations) : Formed s run' :=
  ⟨by rw [job,id]; exact formed.named,by rw [job,id,list]; exact formed.listed,list ▸ formed.unique⟩

theorem admit_shaped (sound : Sound w) (done : persistAdmitPhase w.store request now sequence =
    .ok (write,.inl plan)) :
    Shaped w.store plan ∧ write.operation = some plan.operation := by
  obtain ⟨job,stored,⟨run,begins,rfl,same⟩ | ⟨_,_,_,_,_,⟨o,none⟩,_⟩⟩ := persistAdmit_cases done
  · cases same
    refine ⟨⟨?_,⟨rfl,rfl⟩,rfl,by rintro command ⟨⟩⟩,rfl⟩
    rcases begins with ⟨_,rfl⟩ | ⟨latest,found,rfl,_⟩
    · rfl
    · obtain ⟨id,held⟩ := latest_stored found
      exact (Prod.mk.inj (sound.runs _ latest held).1).1.symm.trans (sound.jobs _ job stored).1.symm
  · cases none

theorem command_shaped (sound : Sound w) {request : CommandRequest}
    (done : persistCommandPhase w.store request now sequence = .ok (write,.inl plan)) :
    Shaped w.store plan ∧ write.operation = some plan.operation := by
  obtain ⟨_,_,_,o,none⟩ | ⟨job,run,job',run',stored,addressed,unmet,mutated,rfl,same⟩ := persistCommand_cases done
  · cases none
  · cases same
    obtain ⟨id,held⟩ := addressed_stored addressed
    obtain ⟨key,formed⟩ := sound.runs _ run held
    have home : run.jobId = job.jobId := (Prod.mk.inj key).1.symm.trans (sound.jobs _ job stored).1.symm
    rcases mutate_cases mutated with ⟨transition,moves,_,rfl,rfl⟩ | ⟨type,_,rfl,rfl⟩
    · refine ⟨⟨home,⟨rfl,rfl⟩,?_,?_⟩,rfl⟩
      · show workOf (mapCommand request.command) = _
        cases type : request.command <;> simp_all [transitionOf,mapCommand,workOf,commandPlan]
      · intro command _ _
        exact ⟨job,_,rfl,rfl,rfl,home,rfl,formed.same rfl rfl rfl⟩
    · refine ⟨⟨rfl,⟨rfl,rfl⟩,?_,?_⟩,rfl⟩
      · show workOf (mapCommand request.command) = some (.command request.command)
        rw [type]
        rfl
      · rintro command ⟨⟩ other
        exact absurd type other

theorem resume_shaped (sound : Sound w) {work : Work} {operationID : String}
    (held : w.store.operations.lookup operationID = some operation) (does : workOf operation.type = some work)
    (done : loadRunningPlan w.store work key hash operation.jobId operation.runId operationID = .ok (.inl plan)) :
    Shaped w.store plan ∧ Tabled w.store plan.operation := by
  unfold loadRunningPlan at done
  split at done
  · cases done
  next job run current load =>
  obtain ⟨foundJob,foundRun,again⟩ := loaded load
  obtain rfl := Option.some.inj (held.symm.trans again)
  obtain ⟨key,formed⟩ := sound.runs _ run foundRun
  obtain ⟨place,id⟩ := Prod.mk.inj key
  have home := (sound.jobs _ job foundJob).1
  split at done
  · cases done
  cases done
  refine ⟨⟨place.symm.trans home.symm,⟨home.symm,id⟩,does,?_⟩,operation,?_,⟨rfl,rfl,rfl,rfl⟩⟩
  · rintro command rfl _
    exact ⟨job,_,rfl,rfl,rfl,place.symm.trans home.symm,rfl,formed.same rfl rfl rfl⟩
  · rw [(sound.operations _ operation held).1]
    exact held

/-- A plan is left in flight by an admission, by a command, or by an operation that is taken up again. -/
theorem plan_cases (done : transaction w a = .ok (write,some plan)) :
    (∃ request now sequence, a = .admitJob request now sequence ∧
      persistAdmitPhase w.store request now sequence = .ok (write,.inl plan)) ∨
    (∃ request now sequence, a = .command request now sequence ∧
      persistCommandPhase w.store request now sequence = .ok (write,.inl plan)) ∨
    ∃ key hash id operation work, a = .resume key hash id ∧ w.store.operations.lookup id = some operation ∧
      workOf operation.type = some work ∧
      loadRunningPlan w.store work key hash operation.jobId operation.runId id = .ok (.inl plan) := by
  cases a with
  | admitJob request now sequence =>
    obtain ⟨⟨written,_ | _⟩,made,same⟩ := map_ok done <;> cases same
    exact .inl ⟨request,now,sequence,rfl,made⟩
  | command request now sequence =>
    obtain ⟨⟨written,_ | _⟩,made,same⟩ := map_ok done <;> cases same
    exact .inr (.inl ⟨request,now,sequence,rfl,made⟩)
  | resume key hash operationID =>
    simp only [transaction] at done
    split at done
    · cases done
    next operation held =>
    split at done
    · cases done
    next work does =>
    obtain ⟨_ | _,made,same⟩ := map_ok done <;> cases same
    exact .inr (.inr ⟨key,hash,operationID,operation,work,rfl,held,does,made⟩)
  | createJob | createJobRun | report | record =>
    obtain ⟨_,_,same⟩ := map_ok done
    cases same
  | prepared | dispatched | reconciliation =>
    simp only [transaction] at done
    repeat' split at done
    all_goals first
      | cases done
      | (obtain ⟨_,_,same⟩ := map_ok done; cases same)
  | restart => cases done

theorem shaped_of (sound : Sound w) (done : transaction w a = .ok (write,some plan)) :
    Shaped w.store plan ∧ (write.operation = some plan.operation ∨ Tabled w.store plan.operation) := by
  rcases plan_cases done with ⟨_,_,_,_,made⟩ | ⟨_,_,_,_,made⟩ | ⟨_,_,_,_,_,_,held,does,made⟩
  · exact ⟨(admit_shaped sound made).1,.inl (admit_shaped sound made).2⟩
  · exact ⟨(command_shaped sound made).1,.inl (command_shaped sound made).2⟩
  · exact ⟨(resume_shaped sound held does made).1,.inr (resume_shaped sound held does made).2⟩

theorem issued_bound (sound : Sound w) {key : String × String} (stored : w.store.runs.lookup key = some run)
    (issued : Issued w run a o) : o.jobId = run.jobId ∧ o.runId = run.runId := by
  cases issued with
  | made => exact ⟨rfl,rfl⟩
  | recorded _ bound => exact bound
  | finished _ _ _ bound _ => exact bound
  | reported listed _ same _ =>
    obtain ⟨job,id,_⟩ := (sound.runs _ run stored).2.listed _ listed
    exact ⟨same.jobId.symm.trans job,same.runId.symm.trans id⟩

theorem effect_operation (sound : Sound w) (effect : Effect w a write) (written : write.operation = some o) :
    trimSpace o.jobId ≠ "" := by
  cases effect with
  | quiet _ _ none => cases none.symm.trans written
  | unbound _ _ operation home _ _ =>
    cases operation.symm.trans written
    exact home
  | ensured _ stored _ _ _ _ operation =>
    cases operation.symm.trans written
    obtain ⟨id,held⟩ := latest_stored stored
    exact (sound.runs _ _ held).2.named.1
  | fresh home _ _ made _ =>
    obtain ⟨_,_,_,_,_,_,_,rfl⟩ := made o written
    exact home
  | updated _ stored _ _ issued _ _ _ =>
    rw [(issued_bound sound stored (issued o written)).1]
    exact (sound.runs _ _ stored).2.named.1
  | rejected _ _ _ _ _ _ _ _ running failed done =>
    cases done.2.2.symm.trans written
    subst failed
    exact (sound.operations _ _ running.1).2

theorem put_tabled (apart : Apart s write) (tabled : Tabled s o ∨ write.operation = some o) :
    Tabled (s.put write) o := by
  unfold Tabled
  rw [put_operations]
  cases written : write.operation with
  | none =>
    rw [written] at tabled
    exact tabled.resolve_right (by simp)
  | some x =>
    by_cases here : x.operationId = o.operationId
    · refine ⟨x,by simp [here],?_⟩
      rcases tabled with ⟨t,held,same⟩ | own
      · rw [← here] at held
        exact (apart.operation x written t held).symm.trans same
      · cases written.symm.trans own
        exact ⟨rfl,rfl,rfl,rfl⟩
    · simp only [Option.filter_some,here,decide_false,Bool.false_eq_true,if_false,Option.none_or]
      exact tabled.resolve_right (fun own => here (by cases written.symm.trans own; rfl))

theorem appendOperation_mem : o ∈ appendOperation existing x ↔ o = x ∨
    (o ∈ existing ∧ o.operationId ≠ x.operationId) := by
  unfold appendOperation
  by_cases there : existing.any (fun current => decide (current.operationId = x.operationId)) = true
  · rw [if_pos there,List.mem_map]
    constructor
    · rintro ⟨current,held,rfl⟩
      by_cases own : current.operationId = x.operationId
      · exact .inl (if_pos own)
      · rw [if_neg own]
        exact .inr ⟨held,own⟩
    · rintro (rfl | ⟨held,other⟩)
      · obtain ⟨current,held,own⟩ := List.any_eq_true.mp there
        exact ⟨current,held,if_pos (of_decide_eq_true own)⟩
      · exact ⟨o,held,if_neg other⟩
  · rw [if_neg there,List.mem_append,List.mem_singleton]
    have absent : ∀ y ∈ existing, y.operationId ≠ x.operationId := by simpa using there
    constructor
    · rintro (held | rfl)
      · exact .inr ⟨held,absent o held⟩
      · exact .inl rfl
    · rintro (rfl | ⟨held,_⟩)
      · exact .inr rfl
      · exact .inl held

theorem appendOperation_unique (unique : (existing.map Operation.operationId).Nodup) :
    ((appendOperation existing x).map Operation.operationId).Nodup := by
  unfold appendOperation
  split
  · have same : (existing.map (fun current => if current.operationId = x.operationId then x else current)).map
        Operation.operationId = existing.map Operation.operationId := by
      rw [List.map_map]
      refine List.map_congr_left ?_
      intro current _
      dsimp only [Function.comp]
      split
      · exact Eq.symm ‹_›
      · rfl
    rw [same]
    exact unique
  · next absent =>
    rw [List.map_append,List.nodup_append]
    refine ⟨unique,by simp,?_⟩
    have absent : ∀ y ∈ existing, y.operationId ≠ x.operationId := by simpa using absent
    simpa using absent

theorem Formed.grow (apart : Apart s write) (formed : Formed s run) : Formed (s.put write) run := by
  refine ⟨formed.named,?_,formed.unique⟩
  intro o member
  obtain ⟨job,id,tabled⟩ := formed.listed o member
  exact ⟨job,id,put_tabled apart (.inl tabled)⟩

/-- A formed run stays one when an operation of its own, which the step writes, is put into its list. -/
theorem Formed.append (apart : Apart s write) (formed : Formed s run) (written : write.operation = some o)
    (bound : o.jobId = run.jobId ∧ o.runId = run.runId) (job : run'.jobId = run.jobId) (id : run'.runId = run.runId)
    (list : run'.operations = appendOperation run.operations o) : Formed (s.put write) run' := by
  have grown := formed.grow apart
  refine ⟨by rw [job,id]; exact formed.named,?_,list ▸ appendOperation_unique formed.unique⟩
  · rw [job,id,list]
    intro x member
    rcases appendOperation_mem.mp member with rfl | ⟨held,_⟩
    · exact ⟨bound.1,bound.2,put_tabled apart (.inr written)⟩
    · exact grown.listed x held

theorem effect_run (sound : Sound w) (apart : Apart w.store write) (effect : Effect w a write)
    (written : write.run = some run) :
    Formed (w.store.put write) run := by
  cases effect with
  | quiet _ none _ => cases none.symm.trans written
  | unbound _ none _ _ _ _ => cases none.symm.trans written
  | ensured _ _ _ _ _ none _ => cases none.symm.trans written
  | fresh home _ new made _ =>
    cases new.symm.trans written
    refine ⟨⟨home,trimSpace_deterministicID⟩,?_,by cases write.operation <;> simp⟩
    intro o member
    have own : write.operation = some o := by simpa using member
    obtain ⟨_,_,_,_,_,_,_,rfl⟩ := made o own
    exact ⟨rfl,rfl,put_tabled apart (.inr own)⟩
  | @updated old _ new stored _ listed issued _ _ _ =>
    cases new.symm.trans written
    obtain ⟨key,formed⟩ := sound.runs _ old stored
    obtain ⟨job,id⟩ := Prod.mk.inj key
    cases own : write.operation with
    | none =>
      rw [own] at listed
      exact (formed.same job id listed).grow apart
    | some o =>
      rw [own] at listed
      exact formed.append apart own (issued_bound sound stored (issued o own)) job id listed
  | @rejected _ _ _ plan command _ _ _ _ _ _ planned work moves _ copies same _ running failed done =>
    cases done.2.1.symm.trans written
    obtain ⟨shaped,t',tabled,alike⟩ := sound.plans plan (List.mem_of_getElem? planned)
    obtain rfl := Option.some.inj (tabled.symm.trans running.1)
    obtain ⟨_,kept,_,keptRun,_,_,_,formed⟩ := shaped.stable command work moves
    cases copies.2.symm.trans keptRun
    refine formed.append apart done.2.2 ?_ rfl rfl rfl
    subst failed
    exact ⟨alike.jobId.trans (shaped.bound.1.trans same.2.1),alike.runId.trans (shaped.bound.2.trans same.2.2)⟩

theorem effect_job (sound : Sound w) (effect : Effect w a write) (written : write.job = some job) :
    trimSpace job.jobId ≠ "" := by
  cases effect with
  | quiet none _ _ => cases none.symm.trans written
  | unbound jobs _ _ home _ _ =>
    rw [jobs job written]
    exact home
  | ensured _ _ _ _ none _ _ => cases none.symm.trans written
  | fresh home _ _ _ put =>
    rw [put job written]
    exact home
  | updated _ stored _ _ _ _ put _ =>
    obtain ⟨key,formed⟩ := sound.runs _ _ stored
    rw [put job written,(Prod.mk.inj key).1]
    exact formed.named.1
  | rejected _ _ _ _ stored _ same _ _ _ done =>
    cases done.1.symm.trans written
    obtain ⟨key,formed⟩ := sound.runs _ _ stored
    rw [same.1,(Prod.mk.inj key).1]
    exact formed.named.1

theorem Shaped.grow (apart : Apart s write) (shaped : Shaped s plan) : Shaped (s.put write) plan := by
  refine ⟨shaped.job,shaped.bound,shaped.work,?_⟩
  intro command work moves
  obtain ⟨job,run,keptJob,keptRun,ownJob,ownRun,ownID,formed⟩ := shaped.stable command work moves
  exact ⟨job,run,keptJob,keptRun,ownJob,ownRun,ownID,formed.grow apart⟩

end Effects

theorem remaining_subset {plans : List Plan} {plan : Plan} (member : plan ∈ remaining plans a) : plan ∈ plans := by
  unfold remaining at member
  split at member
  · exact List.mem_of_mem_eraseIdx member
  · exact List.mem_of_mem_eraseIdx member
  · cases member
  · exact member

theorem step_sound (sound : Sound w) (proper : Proper w a) : Sound (w.step a) := by
  unfold World.step
  split
  · exact ⟨sound.jobs,sound.runs,sound.operations,fun plan member => sound.plans plan (remaining_subset member)⟩
  next write plan done =>
  have effect := effect_of sound done
  have apart := proper.apart done
  refine ⟨?_,?_,?_,?_⟩
  · intro key job stored
    rw [put_jobs,Option.or_eq_some_iff,Option.filter_eq_some_iff] at stored
    rcases stored with ⟨new,own⟩ | ⟨_,old⟩
    · obtain rfl := of_decide_eq_true own
      exact ⟨rfl,effect_job sound effect new⟩
    · exact sound.jobs key job old
  · intro key run stored
    rw [put_runs,Option.or_eq_some_iff,Option.filter_eq_some_iff] at stored
    rcases stored with ⟨new,own⟩ | ⟨_,old⟩
    · exact ⟨(of_decide_eq_true own).symm,effect_run sound apart effect new⟩
    · exact ⟨(sound.runs key run old).1,(sound.runs key run old).2.grow apart⟩
  · intro key o stored
    rw [put_operations,Option.or_eq_some_iff,Option.filter_eq_some_iff] at stored
    rcases stored with ⟨new,own⟩ | ⟨_,old⟩
    · exact ⟨of_decide_eq_true own,effect_operation sound effect new⟩
    · exact sound.operations key o old
  · intro p member
    rcases List.mem_append.mp member with before | here
    · obtain ⟨shaped,tabled⟩ := sound.plans p (remaining_subset before)
      exact ⟨shaped.grow apart,put_tabled apart (.inl tabled)⟩
    · obtain rfl : plan = some p := by simpa using here
      obtain ⟨shaped,tabled⟩ := shaped_of sound done
      exact ⟨shaped.grow apart,put_tabled apart tabled.symm⟩

theorem effect_listed (sound : Sound w) (effect : Effect w a write) (new : write.operation = some o) :
    o.runId = "" ∨ w.store.getLatestOperation o.jobId o.runId o.type = none ∨
    ∃ run, write.run = some run ∧ (run.jobId,run.runId) = (o.jobId,o.runId) ∧ o ∈ run.operations := by
  cases effect with
  | quiet _ _ none => cases none.symm.trans new
  | unbound _ _ operation _ alone _ =>
    cases operation.symm.trans new
    exact .inl alone
  | ensured _ _ missing _ _ _ operation =>
    cases operation.symm.trans new
    exact .inr (.inl missing)
  | fresh _ _ written made _ =>
    refine .inr (.inr ⟨_,written,?_,by simp [new]⟩)
    obtain ⟨_,_,_,_,_,_,_,rfl⟩ := made o new
    rfl
  | @updated old run written stored _ listed issued _ _ _ =>
    obtain ⟨job,id⟩ := issued_bound sound stored (issued o new)
    refine .inr (.inr ⟨run,written,by rw [job,id]; exact (sound.runs _ old stored).1,?_⟩)
    rw [listed,new]
    exact appendOperation_mem.mpr (.inl rfl)
  | @rejected _ _ _ plan _ _ _ run t _ _ planned _ _ _ _ same _ running failed written =>
    cases written.2.2.symm.trans new
    obtain ⟨shaped,t',tabled,alike⟩ := sound.plans plan (List.mem_of_getElem? planned)
    obtain rfl := Option.some.inj (tabled.symm.trans running.1)
    refine .inr (.inr ⟨_,written.2.1,?_,appendOperation_mem.mpr (.inl rfl)⟩)
    subst failed
    show (run.jobId,run.runId) = (t'.jobId,t'.runId)
    rw [alike.jobId,alike.runId,shaped.bound.1,shaped.bound.2,same.2.1,same.2.2]

theorem step_tabled (sound : Sound w) (proper : Proper w a) (held : w.store.operations.lookup o.operationId = some o)
    (stored : w.store.runs.lookup (o.jobId,o.runId) = some run) (member : o ∈ run.operations)
    (same : (w.step a).store.runs.lookup (o.jobId,o.runId) = some run) :
    (w.step a).store.operations.lookup o.operationId = some o := by
  unfold World.step at same ⊢
  split at same
  · exact held
  next write plan done =>
  cases new : write.operation with
  | none => exact (put_no_operation new _).trans held
  | some x =>
    rw [put_operation new]
    split
    · next own =>
      -- the operation that is written has the ID of one in the list, and is in the list as well
      have alike := (proper.apart done).operation x new o (by rw [own]; exact held)
      obtain ⟨_,formed⟩ := sound.runs _ run stored
      rcases effect_listed sound (effect_of sound done) new with alone | missing | ⟨run',written,key,listed⟩
      · exact absurd ((formed.listed o member).2.1.symm.trans (alike.runId.trans alone))
          (ne_of_trimSpace formed.named.2)
      · rw [← alike.jobId,← alike.runId,← alike.type] at missing
        exact absurd missing (latestOperation_some held)
      · rw [put_run written,if_pos (by rw [key,alike.jobId,alike.runId])] at same
        cases same
        exact congrArg some (List.inj_on_of_nodup_map formed.unique listed member own)
    · exact held

def jobA : Normalized := ⟨⟨"a",.pending,""⟩,by decide⟩

def order (command : JobCommandType) (runId : String) : CommandRequest :=
  { jobId := "a", runId, command, actor := "", reason := "", requestId := "", idempotencyKey := "" }

/-- The runtime's report that the run has reached a state. -/
def reached (state : RuntimeState) (runId : String) (revision : UInt64) (observedAt : Int) : ComponentStatus :=
  { component := "runtime", source := authoritativeRuntimeObservationSource, jobId := "a", runId, stated := none
    statedConverged := none, health := .healthy, detail := "", revision, observedAt, state, converged := true }

theorem empty_sound : Sound ⟨.empty,[]⟩ := by
  refine ⟨?_,?_,?_,?_⟩
  · rintro key job ⟨⟩
  · rintro key run ⟨⟩
  · rintro key o ⟨⟩
  · rintro plan ⟨⟩

end TgsRl.JobEffects
