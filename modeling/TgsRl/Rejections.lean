import TgsRl.JobEffects

/-!
The rejection of a command. It writes back the copies of job and run that its plan holds, so what
another command or a report has written meanwhile is lost (`terminate_lost`).
-/
namespace TgsRl.Rejections
open Jobs JobController JobEffects Loops

/-- The step leaves the job and one of its runs as they are, whatever else it does. -/
def Spares (jobID runID : String) (w : World) (a : Step) : Prop := Proper w a ∧
  (w.step a).store.jobs.lookup jobID = w.store.jobs.lookup jobID ∧
  (w.step a).store.runs.lookup (jobID,runID) = w.store.runs.lookup (jobID,runID)

instance (jobID runID : String) (w : World) (a : Step) : Decidable (Spares jobID runID w a) :=
  inferInstanceAs (Decidable (_ ∧ _ ∧ _))

variable {w : World} {a : Step} {write : Write} {jobID runID : String} {steps : List Step}

theorem spared (spares : Guarded World.step (Spares jobID runID) w steps) :
    (run World.step w steps).store.jobs.lookup jobID = w.store.jobs.lookup jobID ∧
    (run World.step w steps).store.runs.lookup (jobID,runID) = w.store.runs.lookup (jobID,runID) := by
  induction steps generalizing w with
  | nil => exact ⟨rfl,rfl⟩
  | cons a steps ih =>
    obtain ⟨job,r⟩ := ih spares.2
    exact ⟨job.trans spares.1.2.1,r.trans spares.1.2.2⟩

theorem found_again (sound : Sound w) {r : JobRun} {o : Operation}
    (spares : Guarded World.step (Spares o.jobId o.runId) w steps)
    (held : w.store.operations.lookup o.operationId = some o) (stored : w.store.runs.lookup (o.jobId,o.runId) = some r)
    (member : o ∈ r.operations) : (run World.step w steps).store.operations.lookup o.operationId = some o := by
  induction steps generalizing w with
  | nil => exact held
  | cons a steps ih =>
    have same := spares.1.2.2.trans stored
    exact ih (step_sound sound spares.1.1) spares.2 (step_tabled sound spares.1.1 held stored member same) same

theorem stable_same {r : JobRun} {command : JobCommandType} (coarse : (stableRunForCommand r command).state = r.state) :
    stableRunForCommand r command = r := by
  show { r with state := (stableRunForCommand r command).state } = r
  rw [coarse]

/-- What a rejected command writes: the copies it holds, with its operation. -/
def undoing (job : Job) (r : JobRun) (o : Operation) : Write where
  job := some job
  run := some { r with operations := appendOperation r.operations o }
  operation := some o

/-- The rejection of a plan that finds its job, run and operation as it left them. -/
theorem dispatch_rejected {plan : Plan} {index : Nat} {err : RuntimeError} {now : Int} {command : JobCommandType}
    (planned : w.plans[index]? = some plan) (work : plan.work = .command command) (moves : command ≠ .retry)
    (clear : isAmbiguousRuntimeCommandError err = false) (foundJob : w.store.jobs.lookup plan.job.jobId = some plan.job)
    (foundRun : w.store.runs.lookup (plan.job.jobId,plan.run.runId) = some plan.run)
    (foundOperation : w.store.operations.lookup plan.operation.operationId = some plan.operation)
    (running : plan.operation.state = .running) {job : Job} {r : JobRun} (keptJob : plan.stableJob = some job)
    (keptRun : plan.stableRun = some r) :
    (w.step (.dispatched index (some err) now)).store = w.store.put (undoing job r (refused plan.operation err now)) := by
  have final : finalizeCommandPhase w.store plan (some err) now =
      .ok (undoing job r (refused plan.operation err now),refused plan.operation err now) := by
    simp only [finalizeCommandPhase,loadCommittedOperation,foundJob,foundRun,foundOperation,running,ne_eq,not_true_eq_false,
      if_false,clear,Bool.false_eq_true,keptJob,keptRun,Option.getD_some,refused,undoing]
  unfold World.step transaction
  simp only [planned]
  cases command with
  | retry => exact absurd rfl moves
  | _ => simp only [work,final,Except.map]

/-- What the plan of a command that moves its run holds. -/
theorem accepted_plan {s : Store} {request : CommandRequest} {now : Int} {sequence : Nat} {plan : Plan}
    (moves : request.command ≠ .retry) (made : persistCommandPhase s request now sequence = .ok (write,.inl plan)) :
    write = beginning "command" plan ∧ plan.work = .command request.command ∧ plan.operation.state = .running ∧
    plan.operation ∈ plan.run.operations ∧ ∃ job r, s.jobs.lookup request.jobId = some job ∧
      target s request.jobId request.runId = some r ∧ plan.stableJob = some job ∧
      plan.stableRun = some (stableRunForCommand r request.command) ∧ plan.job.jobId = job.jobId ∧
      plan.run.jobId = r.jobId ∧ plan.run.runId = r.runId := by
  rcases persistCommand_cases made with ⟨_,_,_,o,none⟩ | ⟨job,r,job',r',stored,addressed,_,mutated,rfl,same⟩
  · cases none
  · cases same
    obtain ⟨transition,_,_,rfl,rfl⟩ := (mutate_cases mutated).resolve_right (fun retry => moves retry.1)
    exact ⟨rfl,rfl,rfl,appendOperation_mem.mpr (.inl rfl),job,r,stored,addressed,rfl,rfl,rfl,rfl,rfl⟩

theorem rejection_undoes_itself {before between others : List Step} {request : CommandRequest} {now later : Int}
    {sequence index : Nat} {plan : Plan} {write : Write} {err : RuntimeError}
    (proper : Guarded World.step Proper ⟨.empty,[]⟩ (before ++ [.command request now sequence]))
    (accepted : transaction (run World.step ⟨.empty,[]⟩ before) (.command request now sequence) = .ok (write,some plan))
    (moves : request.command ≠ .retry)
    (coarse : ∀ r ∈ target (run World.step ⟨.empty,[]⟩ before).store request.jobId request.runId,
      (stableRunForCommand r request.command).state = r.state)
    (meanwhile : Guarded World.step (Spares request.jobId plan.run.runId)
      ((run World.step ⟨.empty,[]⟩ before).step (.command request now sequence)) between)
    (without : Guarded World.step (Spares request.jobId plan.run.runId) (run World.step ⟨.empty,[]⟩ before) others)
    (planned : (run World.step ((run World.step ⟨.empty,[]⟩ before).step (.command request now sequence)) between).plans[index]? =
      some plan) (clear : isAmbiguousRuntimeCommandError err = false) :
    let after := (run World.step ((run World.step ⟨.empty,[]⟩ before).step (.command request now sequence)) between).step
      (.dispatched index (some err) later)
    let alone := run World.step (run World.step ⟨.empty,[]⟩ before) others
    after.store.jobs.lookup request.jobId = alone.store.jobs.lookup request.jobId ∧
    ∃ r, alone.store.runs.lookup (request.jobId,plan.run.runId) = some r ∧
      after.store.runs.lookup (request.jobId,plan.run.runId) =
        some { r with operations := appendOperation r.operations (refused plan.operation err later) } := by
  obtain ⟨first,last,_⟩ := guarded_append.mp proper
  have sound : Sound (run World.step ⟨.empty,[]⟩ before) := guarded_keeps (fun _ _ => step_sound) empty_sound first
  generalize run World.step ⟨.empty,[]⟩ before = w at *
  intro after alone
  obtain ⟨aloneJob,aloneRun⟩ := spared without
  obtain ⟨foundJob,foundRun⟩ := spared meanwhile
  obtain ⟨⟨written,out⟩,made,same⟩ := map_ok accepted
  obtain ⟨rfl,out'⟩ := Prod.mk.inj same
  obtain rfl : out = .inl plan := by
    cases out <;> cases out'
    rfl
  have shaped := (command_shaped sound made).1
  obtain ⟨begins,work,running,listed,job,r,stored,addressed,keptJob,keptRun,ownJob,ownRun,ownID⟩ := accepted_plan moves made
  have begun : (w.step (.command request now sequence)).store = w.store.put (beginning "command" plan) := by
    rw [step_ok accepted,begins]
  obtain ⟨own,_⟩ := sound.jobs _ job stored
  obtain ⟨id,held⟩ := addressed_stored addressed
  obtain ⟨place,rfl⟩ := Prod.mk.inj (sound.runs _ r held).1
  rw [stable_same (coarse r addressed)] at keptRun
  have home : plan.job.jobId = request.jobId := ownJob.trans own
  have key : (plan.run.jobId,plan.run.runId) = (request.jobId,plan.run.runId) := by rw [ownRun,place]
  -- the steps in between leave what the command has written
  rw [begun,put_job rfl,if_pos home,← home] at foundJob
  rw [begun,put_run rfl,if_pos key,← home] at foundRun
  have bound : (plan.operation.jobId,plan.operation.runId) = (request.jobId,plan.run.runId) := by
    rw [shaped.bound.1,shaped.bound.2,home]
  have foundOperation := found_again (r := plan.run) (o := plan.operation) (step_sound sound last)
    (by rw [(Prod.mk.inj bound).1,(Prod.mk.inj bound).2]; exact meanwhile) (by rw [begun,put_operation rfl,if_pos rfl])
    (by rw [bound,begun,put_run rfl,if_pos key]) listed
  have rejected : after.store = _ := dispatch_rejected planned work moves clear foundJob foundRun foundOperation running keptJob
    keptRun
  rw [rejected,ownID]
  refine ⟨?_,r,by rw [← ownID,aloneRun,ownID]; exact held,?_⟩
  · rw [put_job rfl,if_pos own,aloneJob,stored]
  · rw [put_run rfl,if_pos (by rw [place])]

/-- A run is started, PAUSE and then TERMINATE are persisted, and the runtime rejects the PAUSE. -/
def pauseRejected : List Step :=
  [.createJob jobA "" "" "" 0 0,.admitJob ⟨"a","","",""⟩ 1 1,.prepared 0 ⟨[],none⟩ 2,.command (order .start "") 3 2,
    .dispatched 0 none 4,.report (reached .running (runIDOf jobA 1) 1 5),.command (order .pause "") 6 3,
    .command (order .terminate "") 7 4,.dispatched 0 (some ⟨.failedPrecondition,"busy"⟩) 8]

/-- The runtime repeats that the run is running, RESUME is refused, and a run that does not exist is reported. -/
def meanwhile : List Step :=
  [.report (reached .running (runIDOf jobA 1) 1 5),.command (order .resume "") 7 4,.report (reached .running "b" 1 8)]

theorem pause_undone :
    let w := run World.step ⟨.empty,[]⟩ (pauseRejected.take 6)
    let after := (run World.step (w.step (.command (order .pause "") 6 3)) meanwhile).step
      (.dispatched 0 (some ⟨.failedPrecondition,"busy"⟩) 9)
    let alone := run World.step w meanwhile
    after.store.jobs.lookup "a" = alone.store.jobs.lookup "a" ∧
    ∃ r, alone.store.runs.lookup ("a",runIDOf jobA 1) = some r ∧ r.runState = .running ∧
      after.store.runs.lookup ("a",runIDOf jobA 1) = some { r with
        operations := appendOperation r.operations
          (refused (begun .pause "a" (runIDOf jobA 1) "" "" "" "" 6 3) ⟨.failedPrecondition,"busy"⟩ 9) } := by
  have facts : let w := run World.step ⟨.empty,[]⟩ (pauseRejected.take 6)
      Guarded World.step Proper ⟨.empty,[]⟩ (pauseRejected.take 6 ++ [.command (order .pause "") 6 3]) ∧
      (transaction w (.command (order .pause "") 6 3)).toOption.any (fun done => done.2.any (fun plan => decide (
        (run World.step (w.step (.command (order .pause "") 6 3)) meanwhile).plans[0]? = some plan ∧
        plan.run.runId = runIDOf jobA 1 ∧ plan.operation = begun .pause "a" (runIDOf jobA 1) "" "" "" "" 6 3))) = true ∧
      (∀ r ∈ target w.store "a" "", (stableRunForCommand r .pause).state = r.state) ∧
      Guarded World.step (Spares "a" (runIDOf jobA 1)) (w.step (.command (order .pause "") 6 3)) meanwhile ∧
      Guarded World.step (Spares "a" (runIDOf jobA 1)) w meanwhile ∧
      ((run World.step w meanwhile).store.runs.lookup ("a",runIDOf jobA 1)).map JobRun.runState = some .running := by
    decide +kernel
  obtain ⟨proper,there,coarse,between,others,running⟩ := facts
  obtain ⟨⟨write,made⟩,accepted,some⟩ := ok_of_any there
  obtain ⟨plan,rfl,holds⟩ := (Option.any_eq_true _ _).mp some
  obtain ⟨planned,own,operation⟩ := of_decide_eq_true holds
  rw [← own] at between others
  obtain ⟨job,r,stored,undone⟩ := @rejection_undoes_itself (pauseRejected.take 6) meanwhile meanwhile (order .pause "") 6 9 3 0
    plan write ⟨.failedPrecondition,"busy"⟩ proper accepted (by decide) coarse between others planned rfl
  rw [show (order .pause "").jobId = "a" from rfl] at job stored undone
  rw [own] at stored undone
  rw [operation] at undone
  dsimp only
  refine ⟨job,r,stored,?_,undone⟩
  simpa [stored] using running

theorem terminate_lost :
    ((run World.step ⟨.empty,[]⟩ pauseRejected).store.runs.lookup ("a",runIDOf jobA 1)).map
      (fun r => (r.runState,r.operations.map (fun o => (o.type,o.state)))) =
        some (.running,[(.admission,.succeeded),(.start,.succeeded),(.pause,.failed)]) ∧
    ((run World.step ⟨.empty,[]⟩ (pauseRejected.take 6 ++ [.command (order .terminate "") 7 4])).store.runs.lookup
      ("a",runIDOf jobA 1)).map (fun r => (r.runState,r.operations.map (fun o => (o.type,o.state)))) =
        some (.terminating,[(.admission,.succeeded),(.start,.succeeded),(.terminate,.running)]) := by
  decide +kernel

end TgsRl.Rejections
