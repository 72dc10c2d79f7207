import TgsRl.JobEffects

/-!
The attempts of a job. A new run's number is above those of all runs of its job, unless RETRY is
addressed to an earlier attempt: the retry that was carried out for it is not found again, and the
same number is given twice (`attempt_twice`).
-/
namespace TgsRl.Attempts
open Jobs JobController JobEffects Loops

variable {w : World} {write : Write} {a : Step} {s : Store} {jobID id : String} {job : Job} {attempt : UInt64} {now : Int}
  {sequence : Nat} {r : JobRun}

theorem above_all {latest run : JobRun} (found : s.getLatestRun jobID = some latest) (room : latest.attempt + 1 ≠ 0)
    (stored : s.runs.lookup (jobID,id) = some run) : run.attempt ≠ latest.attempt + 1 := by
  obtain ⟨best,found',below⟩ := latest_max stored
  obtain rfl := Option.some.inj (found.symm.trans found')
  intro same
  have count := congrArg UInt64.toNat same
  have positive : (latest.attempt + 1).toNat ≠ 0 := fun zero => room (UInt64.toNat_inj.mp zero)
  have bound := UInt64.le_iff_toNat_le.mp below
  rw [UInt64.toNat_add] at count positive
  have size := latest.attempt.toNat_lt
  simp only [UInt64.reduceToNat] at count positive
  omega

theorem none_stored {run : JobRun} (none : s.getLatestRun jobID = none) : s.runs.lookup (jobID,id) ≠ some run := by
  intro stored
  obtain ⟨latest,found,_⟩ := latest_max stored
  cases none.symm.trans found

/-- A RETRY that is accepted is addressed to the latest attempt, and its number can be raised. -/
def RetriesLatest (w : World) : Step → Prop
  | .command request _ _ => request.command = .retry → ∀ job ∈ w.store.jobs.lookup request.jobId,
      ∀ run ∈ target w.store request.jobId request.runId, isTerminalRunState run.runState = true →
      semanticIdempotentOperation w.store job run .retry = none →
      w.store.getLatestRun request.jobId = some run ∧ run.attempt + 1 ≠ 0
  | _ => True

theorem fresh_absent (sound : Sound w) (apart : Apart w.store write) (retries : RetriesLatest w a)
    (numbered : Numbered w job a attempt) (written : write.run = some r) (own : r.jobId = job.jobId)
    (number : r.attempt = attempt) : w.store.runs.lookup (r.jobId,r.runId) = none := by
  by_contra there
  obtain ⟨run,stored⟩ := Option.ne_none_iff_exists'.mp there
  have same : run.attempt = attempt := (apart.run r written run stored).symm.trans number
  rw [own] at stored
  cases numbered with
  | first _ none => exact none_stored none stored
  | next _ found room => exact above_all found room stored same
  | retry type known addressed terminal new =>
    obtain ⟨last,room⟩ := retries type job known _ addressed terminal new
    rw [(sound.jobs _ job known).1] at stored
    exact above_all last room stored same

/-- A terminal run that RETRY addresses is the latest attempt, or was itself begun by a RETRY; a report for an earlier
    attempt does not say that its runtime has failed, or has reached the state that the run awaits. -/
def Isolating (w : World) (a : Step) : Prop := Proper w a ∧ match a with
  | .command request _ _ => request.command = .retry → ∀ run ∈ target w.store request.jobId request.runId,
      isTerminalRunState run.runState = true →
      if w.store.getLatestRun request.jobId = some run then run.attempt + 1 ≠ 0
      else (w.store.getLatestOperation request.jobId run.runId .retry).isSome = true
  | .report incoming => ∀ run ∈ w.store.runs.lookup (incoming.jobId,incoming.runId),
      w.store.getLatestRun incoming.jobId ≠ some run →
      ∀ signal ∈ authoritativeRuntimeSignal (mergeAggregatedStatus run.componentStatus incoming),
        signal.1 ≠ .failed ∧ ∀ awaited ∈ awaitedIn run.runState, signal ≠ (awaited.observed,true)
  | _ => True

instance (w : World) : ∀ a, Decidable (Isolating w a)
  | .command .. | .report _ => @instDecidableAnd _ _ _ (by dsimp only; infer_instance)
  | .createJob .. | .createJobRun .. | .admitJob .. | .resume .. | .prepared .. | .dispatched .. | .record _
  | .reconciliation .. | .restart => @instDecidableAnd _ _ _ (.isTrue trivial)

def Distinct (s : Store) : Prop :=
  ∀ jobID id id' n, (s.runs.lookup (jobID,id)).map JobRun.attempt = some n →
    (s.runs.lookup (jobID,id')).map JobRun.attempt = some n → id = id'

/-- An earlier attempt that a RETRY began is not retried again. -/
theorem not_retried (sound : Sound w) (distinct : Distinct w.store) {request : CommandRequest}
    (isolating : Isolating w (.command request now sequence)) (type : request.command = .retry) {run : JobRun}
    (stored : w.store.jobs.lookup request.jobId = some job) (addressed : target w.store request.jobId request.runId = some run)
    (terminal : isTerminalRunState run.runState = true) (new : semanticIdempotentOperation w.store job run .retry = none) :
    w.store.getLatestRun request.jobId = some run ∧ run.attempt + 1 ≠ 0 := by
  have allowed := isolating.2 type run addressed terminal
  by_cases last : w.store.getLatestRun request.jobId = some run
  · rw [if_pos last] at allowed
    exact ⟨last,allowed⟩
  · rw [if_neg last] at allowed
    exfalso
    obtain ⟨id,held⟩ := addressed_stored addressed
    obtain ⟨latest,found,below⟩ := latest_max held
    obtain ⟨id',held'⟩ := latest_stored found
    -- the two runs are different, so the latest one's number is larger
    have differ : run.attempt ≠ latest.attempt := by
      intro same
      obtain rfl := distinct request.jobId id id' run.attempt (by rw [held]; rfl) (by rw [held',same]; rfl)
      exact last (by rw [found,← held,held'])
    have less : run.attempt < latest.attempt := UInt64.lt_of_le_of_ne below differ
    obtain ⟨o,existing⟩ := Option.isSome_iff_exists.mp allowed
    have own := (sound.jobs _ job stored).1
    rw [semanticIdempotentOperation,own,existing,found] at new
    simp [less] at new

theorem numbered_fresh (sound : Sound w) (distinct : Distinct w.store) (isolating : Isolating w a)
    (numbered : Numbered w job a attempt) {run : JobRun} (stored : w.store.runs.lookup (job.jobId,id) = some run) :
    run.attempt ≠ attempt := by
  cases numbered with
  | first _ none => exact absurd stored (none_stored none)
  | next _ found room => exact above_all found room stored
  | @retry request _ _ old type known addressed terminal new =>
    obtain ⟨last,room⟩ := not_retried sound distinct isolating type known addressed terminal new
    rw [(sound.jobs _ job known).1] at stored
    exact above_all last room stored

/-- A step keeps the numbers of the runs, or adds a run with a number that is not in use. -/
theorem effect_numbers (sound : Sound w) (distinct : Distinct w.store) (isolating : Isolating w a)
    (apart : Apart w.store write) (effect : Effect w a write) :
    (∀ key, ((w.store.put write).runs.lookup key).map JobRun.attempt = (w.store.runs.lookup key).map JobRun.attempt) ∨
    ∃ new, write.run = some new ∧ ∀ id run, w.store.runs.lookup (new.jobId,id) = some run → run.attempt ≠ new.attempt := by
  cases written : write.run with
  | none => exact .inl (fun key => by rw [put_no_run written])
  | some new =>
    cases stored : w.store.runs.lookup (new.jobId,new.runId) with
    | some old =>
      refine .inl (fun key => ?_)
      rw [put_run written]
      split
      · next here => rw [← here,stored,Option.map_some,Option.map_some,apart.run new written old stored]
      · rfl
    | none =>
      refine .inr ⟨new,rfl,?_⟩
      cases effect with
      | quiet _ none _ => cases none.symm.trans written
      | unbound _ none _ _ _ _ => cases none.symm.trans written
      | ensured _ _ _ _ _ none _ => cases none.symm.trans written
      | fresh _ numbered own _ _ =>
        cases own.symm.trans written
        exact fun id run held => numbered_fresh sound distinct isolating numbered held
      | updated own held _ _ _ _ _ _ =>
        cases own.symm.trans written
        cases stored.symm.trans held
      | rejected _ _ _ _ held _ _ _ _ _ own =>
        cases own.2.1.symm.trans written
        cases stored.symm.trans held

theorem step_distinct (sound : Sound w) (distinct : Distinct w.store) (isolating : Isolating w a) :
    Distinct (w.step a).store := by
  unfold World.step
  split
  · exact distinct
  next write plan done =>
  rcases effect_numbers sound distinct isolating (isolating.1.apart done) (effect_of sound done) with kept | ⟨new,written,fresh⟩
  · intro jobID id id' n first second
    exact distinct jobID id id' n ((kept _).symm.trans first) ((kept _).symm.trans second)
  · have looked : ∀ jobID id n, ((w.store.put write).runs.lookup (jobID,id)).map JobRun.attempt = some n →
        (jobID = new.jobId ∧ id = new.runId ∧ n = new.attempt) ∨
        ((w.store.runs.lookup (jobID,id)).map JobRun.attempt = some n ∧ (jobID = new.jobId → n ≠ new.attempt)) := by
      intro jobID id n found
      rw [put_run written] at found
      split at found
      · next here =>
        obtain ⟨rfl,rfl⟩ := Prod.mk.inj here
        exact .inl ⟨rfl,rfl,(Option.some.inj found).symm⟩
      · refine .inr ⟨found,?_⟩
        rintro rfl
        obtain ⟨run,stored,rfl⟩ := Option.map_eq_some_iff.mp found
        exact fresh id run stored
    intro jobID id id' n first second
    rcases looked jobID id n first with ⟨job,name,number⟩ | ⟨old,other⟩ <;>
      rcases looked jobID id' n second with ⟨job',name',number'⟩ | ⟨old',other'⟩
    · exact name.trans name'.symm
    · exact absurd number (other' job)
    · exact absurd number' (other job')
    · exact distinct jobID id id' n old old'

theorem isolating_keeps {steps : List Step} (guarded : Guarded World.step Isolating ⟨.empty,[]⟩ steps) :
    Sound (run World.step ⟨.empty,[]⟩ steps) ∧ Distinct (run World.step ⟨.empty,[]⟩ steps).store :=
  guarded_keeps (P := fun w => Sound w ∧ Distinct w.store)
    (fun _ _ held isolating => ⟨step_sound held.1 isolating.1,step_distinct held.1 held.2 isolating⟩)
    ⟨empty_sound,by rintro jobID id id' n ⟨⟩⟩ guarded

theorem retry_quiet (sound : Sound w) (distinct : Distinct w.store) {request : CommandRequest} (type : request.command = .retry)
    (isolating : Isolating w (.command request now sequence)) (addressed : target w.store request.jobId request.runId = some r)
    (earlier : w.store.getLatestRun request.jobId ≠ some r) (key : String × String) :
    (w.step (.command request now sequence)).store.runs.lookup key = w.store.runs.lookup key := by
  unfold World.step
  split
  · rfl
  next write plan done =>
  obtain ⟨⟨written,out⟩,made,same⟩ := map_ok done
  cases same
  rcases persistCommand_cases made with ⟨_,none,_,_⟩ | ⟨job,run,job',run',stored,addressed',unmet,mutated,rfl,_⟩
  · exact put_no_run none key
  · exfalso
    obtain rfl := Option.some.inj (addressed'.symm.trans addressed)
    rcases mutate_cases mutated with ⟨transition,moves,_⟩ | ⟨_,terminal,_⟩
    · rw [type] at moves
      cases moves
    · rw [type] at unmet
      exact earlier (not_retried sound distinct isolating type stored addressed terminal unmet).1

/-- A report for an earlier attempt changes nothing but its run. -/
theorem report_alone {incoming : ComponentStatus} (sound : Sound w) (isolating : Isolating w (.report incoming))
    (stored : w.store.runs.lookup (incoming.jobId,incoming.runId) = some r)
    (earlier : w.store.getLatestRun incoming.jobId ≠ some r) :
    (w.step (.report incoming)).store.jobs.lookup incoming.jobId = w.store.jobs.lookup incoming.jobId ∧
    ∀ key, key ≠ (incoming.jobId,incoming.runId) →
      (w.step (.report incoming)).store.runs.lookup key = w.store.runs.lookup key := by
  unfold World.step
  split
  · exact ⟨rfl,fun _ _ => rfl⟩
  next write plan done =>
  obtain ⟨⟨written,aggregated⟩,made,same⟩ := map_ok done
  cases same
  obtain ⟨job,run,foundJob,foundRun,merged,_,rfl,rfl⟩ := report_write made
  obtain rfl := Option.some.inj (stored.symm.trans foundRun)
  have quiet := isolating.2 r stored earlier
  rw [← merged] at quiet
  have still : advanceRunFromComponent job { r with componentStatus := upsertAggregatedStatus r.componentStatus aggregated }
      aggregated incoming.observedAt = (job,{ r with componentStatus := upsertAggregatedStatus r.componentStatus aggregated },
        none) := by
    rcases advance_cases job { r with componentStatus := upsertAggregatedStatus r.componentStatus aggregated } aggregated
      incoming.observedAt with still | ⟨_,signal,_⟩ | ⟨awaited,_,awaits,signal,_⟩
    · exact still
    · obtain ⟨found,known,failed⟩ := Option.map_eq_some_iff.mp signal
      exact absurd failed (quiet found known).1
    · exact absurd rfl ((quiet _ signal).2 awaited awaits)
  rw [still]
  constructor
  · rw [put_jobs,foundJob,Option.filter_some]
    split <;> rfl
  · intro key other
    obtain ⟨place,id⟩ := Prod.mk.inj (sound.runs _ r stored).1
    rw [put_run rfl,if_neg]
    rintro rfl
    exact other (by rw [place,id])

theorem attempts_isolated {steps : List Step} (guarded : Guarded World.step Isolating ⟨.empty,[]⟩ steps) :
    let w := run World.step ⟨.empty,[]⟩ steps
    (∀ jobID id id' r r', w.store.runs.lookup (jobID,id) = some r → w.store.runs.lookup (jobID,id') = some r' →
      r.attempt = r'.attempt → id = id') ∧
    (∀ request now sequence r, request.command = .retry → Isolating w (.command request now sequence) →
      target w.store request.jobId request.runId = some r → w.store.getLatestRun request.jobId ≠ some r →
      ∀ key, (w.step (.command request now sequence)).store.runs.lookup key = w.store.runs.lookup key) ∧
    ∀ incoming r, Isolating w (.report incoming) → w.store.runs.lookup (incoming.jobId,incoming.runId) = some r →
      w.store.getLatestRun incoming.jobId ≠ some r →
      (w.step (.report incoming)).store.jobs.lookup incoming.jobId = w.store.jobs.lookup incoming.jobId ∧
      ∀ key, key ≠ (incoming.jobId,incoming.runId) →
        (w.step (.report incoming)).store.runs.lookup key = w.store.runs.lookup key := by
  obtain ⟨sound,distinct⟩ := isolating_keeps guarded
  refine ⟨?_,?_,?_⟩
  · intro jobID id id' r r' stored stored' same
    exact distinct jobID id id' r.attempt (by rw [stored]; rfl) (by rw [stored',same]; rfl)
  · intro request now sequence r type isolating addressed earlier
    exact retry_quiet sound distinct type isolating addressed earlier
  · intro incoming r isolating stored earlier
    exact report_alone sound isolating stored earlier

/-- A first attempt is terminated and retried, and then retried once more by its ID. -/
def retriedTwice : List Step :=
  [.createJob jobA "" "" "" 0 0,.createJobRun jobA "" "" 0,.command (order .terminate "") 1 1,
    .report (reached .terminated (runIDOf jobA 1) 1 2),.command (order .retry (runIDOf jobA 1)) 3 2,
    .command (order .retry (runIDOf jobA 1)) 4 3]

/-- The retry of a first attempt, which is reported as terminated once more. -/
theorem attempts_isolated_retried :
    let w := run World.step ⟨.empty,[]⟩ (retriedTwice.take 5)
    let late := reached .terminated (runIDOf jobA 1) 1 2
    (w.store.runs.pairs.map (fun entry => entry.2.attempt)).Perm [1,2] ∧
    (w.step (.report late)).store.jobs.lookup "a" = w.store.jobs.lookup "a" ∧
    ∀ key, key ≠ ("a",runIDOf jobA 1) → (w.step (.report late)).store.runs.lookup key = w.store.runs.lookup key := by
  intro w late
  have facts : Guarded World.step Isolating ⟨.empty,[]⟩ (retriedTwice.take 5 ++ [.report late]) ∧
      (w.store.runs.pairs.map (fun entry => entry.2.attempt)).Perm [1,2] ∧
      (w.store.runs.lookup ("a",runIDOf jobA 1)).isSome = true ∧
      w.store.getLatestRun "a" ≠ w.store.runs.lookup ("a",runIDOf jobA 1) := by decide +kernel
  obtain ⟨guarded,two,stored,earlier⟩ := facts
  obtain ⟨before,isolating,_⟩ := guarded_append.mp guarded
  obtain ⟨r,held⟩ := Option.isSome_iff_exists.mp stored
  rw [held] at earlier
  have isolated := (attempts_isolated before).2.2 late r isolating
  rw [show run World.step ⟨.empty,[]⟩ (retriedTwice.take 5) = w from rfl] at isolated
  clear_value w
  exact ⟨two,isolated held earlier⟩

theorem attempt_twice :
    (∃ first ∈ (run World.step ⟨.empty,[]⟩ retriedTwice).store.runs.pairs,
      ∃ second ∈ (run World.step ⟨.empty,[]⟩ retriedTwice).store.runs.pairs,
        first.1.1 = second.1.1 ∧ first.2.attempt = second.2.attempt ∧ first.1 ≠ second.1) ∧
    ((run World.step ⟨.empty,[]⟩ (retriedTwice ++ [.report (reached .failed (runIDOf jobA 1) 2 5)])).store.jobs.lookup
      "a").map Job.state = some .failed := by
  decide +kernel

end TgsRl.Attempts
