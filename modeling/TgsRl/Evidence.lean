import TgsRl.JobEffects

/-!
The evidence on which lifecycle operations succeed. An operation succeeds on the authoritative one
among the observations of its run, which any later report evaluates again: an observation from
before a command can complete it (`terminated_before`).
-/
namespace TgsRl.Evidence
open Messages Jobs State Validation JobController JobEffects Loops

variable {existing : List Aggregate} {incoming : ComponentStatus}

theorem parse_mem {component source : String} {o : Observation}
    (found : (parseObservations existing component).lookup source = some o) :
    ∃ status ∈ existing, status.observations.lookup source = some o := by
  have general : ∀ (entries : List (String × Observation)) (held : Map String Observation),
      (entries.foldl (fun held entry => held.insert entry.1 entry.2) held).lookup source = some o →
      held.lookup source = some o ∨ (source,o) ∈ entries := by
    intro entries
    induction entries with
    | nil => exact fun held found => .inl found
    | cons entry entries ih =>
      intro held found
      rcases ih _ found with here | later
      · by_cases own : entry.1 = source
        · subst own
          rw [AList.lookup_insert] at here
          cases here
          exact .inr (by simp)
        · rw [AList.lookup_insert_ne (Ne.symm own)] at here
          exact .inl here
      · exact .inr (by simp [later])
  obtain ⟨status,held,member⟩ := List.mem_flatMap.mp ((general _ ∅ found).resolve_left (by simp))
  exact ⟨status,(List.mem_filter.mp held).1,Map.mem_pairs_iff.mp member⟩

theorem observation_mem {source : String} {o : Observation}
    (found : (observationsBySource existing incoming).lookup source = some o) :
    (source = sourceOf incoming ∧ o = (normalizeRuntimeSignal incoming).toObservation) ∨
    ∃ status ∈ existing, status.observations.lookup source = some o := by
  unfold observationsBySource at found
  dsimp only at found
  split at found
  · by_cases own : sourceOf incoming = source
    · subst own
      have same := (AList.lookup_insert _).symm.trans found
      exact .inl ⟨rfl,(Option.some.inj same).symm⟩
    · rw [AList.lookup_insert_ne (Ne.symm own)] at found
      exact .inr (parse_mem found)
  · exact .inr (parse_mem found)

theorem normalize_observedAt (incoming : ComponentStatus) :
    (normalizeRuntimeSignal incoming).observedAt = incoming.observedAt := by
  unfold normalizeRuntimeSignal
  split
  · rfl
  · split <;> rfl

theorem signal_kept {observed : RuntimeState}
    (signal : authoritativeRuntimeSignal (mergeAggregatedStatus existing incoming) = some (observed,true)) :
    ∃ o, (observationsBySource existing incoming).lookup authoritativeRuntimeObservationSource = some o ∧
      o.state = observed ∧ o.converged = true := by
  generalize kept : ((observationsBySource existing incoming).lookup authoritativeRuntimeObservationSource).filter
    (fun o => decide (o.state ≠ .unknown)) = charge
  have source : (mergeAggregatedStatus existing incoming).runtimeSource =
      if charge.isSome then authoritativeRuntimeObservationSource else "" := by rw [← kept]; rfl
  have state : (mergeAggregatedStatus existing incoming).state = charge.elim .unknown Observation.state := by rw [← kept]; rfl
  have converged : (mergeAggregatedStatus existing incoming).converged = charge.elim false Observation.converged := by
    rw [← kept]
    rfl
  rw [authoritativeRuntimeSignal,source,state,converged] at signal
  cases charge with
  | none =>
    rw [if_pos (by decide)] at signal
    cases signal
  | some o =>
    obtain ⟨found,known⟩ := Option.filter_eq_some_iff.mp kept
    refine ⟨o,found,?_⟩
    have trimmed : trimSpace authoritativeRuntimeObservationSource = authoritativeRuntimeObservationSource := by decide
    have known := of_decide_eq_true known
    simpa [trimmed,known] using signal

/-- The observation is one that was reported for the run, as it is read back. -/
def Told (history : List Step) (r : JobRun) (source : String) (o : Observation) : Prop :=
  ∃ incoming, .report incoming ∈ history ∧ (incoming.jobId,incoming.runId) = (r.jobId,r.runId) ∧ source = sourceOf incoming ∧
    Timed incoming.observedAt ∧ o = reread (normalizeRuntimeSignal incoming).toObservation

def Reported (history : List Step) (r : JobRun) : Prop :=
  ∀ status ∈ r.componentStatus, ∀ source o, status.observations.lookup source = some o → Told history r source o

structure Recorded (history : List Step) (w : World) : Prop where
  sound : Sound w
  runs : ∀ key r, w.store.runs.lookup key = some r → Reported history r
  plans : ∀ plan ∈ w.plans, ∀ r, plan.stableRun = some r → Reported history r

variable {w : World} {a : Step} {write : Write} {history : List Step}

theorem Told.more {r : JobRun} {source : String} {o : Observation} (told : Told history r source o) :
    Told (history ++ [a]) r source o := by
  obtain ⟨incoming,there,rest⟩ := told
  exact ⟨incoming,by simp [there],rest⟩

theorem Reported.more {r : JobRun} (reported : Reported history r) : Reported (history ++ [a]) r :=
  fun status held source o found => (reported status held source o found).more

theorem stable_stored {plan : Plan} {r : JobRun} (done : transaction w a = .ok (write,some plan))
    (stable : plan.stableRun = some r) : ∃ key old, w.store.runs.lookup key = some old ∧
      r.componentStatus = old.componentStatus ∧ (r.jobId,r.runId) = (old.jobId,old.runId) := by
  rcases plan_cases done with ⟨_,_,_,_,made⟩ | ⟨_,_,_,_,made⟩ | ⟨_,_,_,_,work,_,_,_,made⟩
  · obtain ⟨_,_,⟨_,_,_,same⟩ | ⟨_,_,_,_,_,⟨o,none⟩,_⟩⟩ := persistAdmit_cases made
    · cases same
      cases stable
    · cases none
  · rcases persistCommand_cases made with ⟨_,_,_,o,none⟩ | ⟨_,old,_,_,_,addressed,_,_,_,same⟩
    · cases none
    · cases same
      cases stable
      obtain ⟨id,held⟩ := addressed_stored addressed
      exact ⟨_,old,held,rfl,rfl⟩
  · unfold loadRunningPlan at made
    split at made
    · cases made
    next job old current load =>
    split at made
    · cases made
    cases made
    cases work with
    | admission => cases stable
    | command command =>
      cases stable
      exact ⟨_,old,(loaded load).2.1,rfl,rfl⟩

theorem merged_told {old : JobRun} (reported : Reported history old) (timed : Timed incoming.observedAt)
    (own : (incoming.jobId,incoming.runId) = (old.jobId,old.runId)) {source : String} {o : Observation}
    (found : (mergeAggregatedStatus old.componentStatus incoming).observations.lookup source = some o) :
    Told (history ++ [.report incoming]) old source o := by
  obtain ⟨_,kept,held,rfl⟩ := merged_lookup.mp found
  rcases observation_mem held with ⟨rfl,rfl⟩ | ⟨status,there,inside⟩
  · exact ⟨incoming,by simp,own,rfl,timed,rfl⟩
  · obtain ⟨told,known,same,named,early,rfl⟩ := (reported status there source kept inside).more
    refine ⟨told,known,same,named,early,?_⟩
    rw [reread_timed (o := reread _),reread_timed]
    · simp
    · rw [normalize_observedAt]
      exact early
    · rw [reread_timed] <;> rw [normalize_observedAt] <;> exact early

theorem step_recorded (recorded : Recorded history w) (proper : Proper w a)
    (timed : ∀ incoming, a = .report incoming → Timed incoming.observedAt) : Recorded (history ++ [a]) (w.step a) := by
  have sound := recorded.sound
  suffices both : (∀ key r, (w.step a).store.runs.lookup key = some r → Reported (history ++ [a]) r) ∧
      ∀ plan ∈ (w.step a).plans, ∀ r, plan.stableRun = some r → Reported (history ++ [a]) r from
    ⟨step_sound sound proper,both.1,both.2⟩
  cases done : transaction w a with
  | error err =>
    rw [World.step,done]
    exact ⟨fun key r stored => (recorded.runs key r stored).more,
      fun plan member r stable => (recorded.plans plan (remaining_subset member) r stable).more⟩
  | ok result =>
    obtain ⟨write,plan⟩ := result
    rw [step_ok done]
    constructor
    · intro key r stored
      cases new : write.run with
      | none =>
        rw [put_no_run new] at stored
        exact (recorded.runs key r stored).more
      | some written =>
        rw [put_run new] at stored
        split at stored
        · cases stored
          cases effect_of sound done with
          | quiet _ none _ => cases none.symm.trans new
          | unbound _ none _ _ _ _ => cases none.symm.trans new
          | ensured _ _ _ _ _ none _ => cases none.symm.trans new
          | fresh _ _ run _ _ =>
            cases run.symm.trans new
            rintro status ⟨⟩
          | @updated old _ run held _ _ _ _ _ seen =>
            cases run.symm.trans new
            have before := recorded.runs _ old held
            have own := (sound.runs _ old held).1
            intro status member source o inside
            unfold Told
            rw [own]
            rcases seen status member with there | none | ⟨incoming,rfl,rfl,told⟩
            · exact (before status there source o inside).more
            · rw [Aggregate.observations,none] at inside
              cases inside
            · exact merged_told before (timed incoming rfl) told inside
          | @rejected _ _ _ plan _ _ _ stable _ _ _ planned _ _ _ copies _ _ _ _ run =>
            cases run.2.1.symm.trans new
            exact (recorded.plans plan (List.mem_of_getElem? planned) stable copies.2).more
        · exact (recorded.runs key r stored).more
    · intro p member r stable
      rcases List.mem_append.mp member with old | here
      · exact (recorded.plans p (remaining_subset old) r stable).more
      · obtain rfl : plan = some p := by simpa using here
        obtain ⟨key,old,stored,same,own⟩ := stable_stored done stable
        intro status held source o inside
        rw [same] at held
        unfold Told
        rw [own]
        exact (recorded.runs key old stored).more status held source o inside

/-- The state that an operation of the type brings about. -/
def required : OperationType → Option RuntimeState
  | .start | .resume => some .running
  | .pause => some .paused
  | .stop | .terminate => some .terminated
  | _ => none

/-- The authoritative observation that a report leaves in charge, if it is the one its run awaits, is not older than the
    running operations that it completes, and the time of the report lies in the years 0 to 9999; no operation of the
    lifecycle is recorded as succeeded from outside; and no IDs collide. -/
def Recent (w : World) (a : Step) : Prop := Proper w a ∧ match a with
  | .report incoming => Timed incoming.observedAt ∧ ∀ r ∈ w.store.runs.lookup (incoming.jobId,incoming.runId),
      ∀ awaited ∈ awaitedIn r.runState,
      ∀ o ∈ (observationsBySource r.componentStatus incoming).lookup authoritativeRuntimeObservationSource,
      o.state = awaited.observed → o.converged = true → ∀ t ∈ r.operations, t.type = awaited.type → t.state = .running →
      t.createdAt ≤ o.observedAt
  | .record operation => operation.state = .succeeded → isLifecycle operation.type = false
  | _ => True

instance (w : World) : ∀ a, Decidable (Recent w a)
  | .report _ | .record _ => @instDecidableAnd _ _ _ (by dsimp only; infer_instance)
  | .createJob .. | .createJobRun .. | .admitJob .. | .command .. | .resume .. | .prepared .. | .dispatched ..
  | .reconciliation .. | .restart => @instDecidableAnd _ _ _ (.isTrue trivial)

theorem Recent.timed (recent : Recent w a) (incoming : ComponentStatus) (told : a = .report incoming) :
    Timed incoming.observedAt := by
  subst told
  exact recent.2.1

theorem recorded_run {steps : List Step} (recorded : Recorded history w) (guarded : Guarded World.step Recent w steps) :
    Recorded (history ++ steps) (run World.step w steps) := by
  induction steps generalizing w history with
  | nil => simpa using recorded
  | cons a steps ih =>
    have later := ih (step_recorded recorded guarded.1.1 guarded.1.timed) guarded.2
    rwa [List.append_assoc,List.singleton_append] at later

theorem required_awaited {state : JobRunState} {awaited : Awaited} (awaits : awaitedIn state = some awaited) :
    required awaited.type = some awaited.observed := by
  cases state <;> cases awaits <;> rfl

/-- The operation that a report completes rests on the observation in charge. -/
theorem report_evidence (recorded : Recorded history w) (recent : Recent w (.report incoming)) {aggregated : Aggregate}
    (done : reportComponentStatus w.store incoming = .ok (write,aggregated)) {o : Operation}
    (written : write.operation = some o) (success : o.state = .succeeded) :
    ∃ told, .report told ∈ history ++ [.report incoming] ∧ (told.jobId,told.runId) = (o.jobId,o.runId) ∧
      told.source = authoritativeRuntimeObservationSource ∧ (normalizeRuntimeSignal told).converged = true ∧
      required o.type = some (normalizeRuntimeSignal told).state ∧ o.createdAt ≤ told.observedAt := by
  obtain ⟨job,r,_,stored,merged,_,rfl,rfl⟩ := report_write done
  have key := (recorded.sound.runs _ r stored).1
  rcases advance_cases job { r with componentStatus := upsertAggregatedStatus r.componentStatus aggregated } aggregated
    incoming.observedAt with still | ⟨_,_,_,failed,from_,moves⟩ | ⟨awaited,_,awaits,signal,_,_,finished,from_,moves⟩
  · rw [still] at written
    cases written
  · rw [moves] at written
    obtain ⟨_,_,_,_,state⟩ := from_ o written
    cases state.symm.trans success
  · rw [moves] at written
    obtain ⟨t,listed,running,same,type,created⟩ := from_ o written
    rw [merged] at signal
    obtain ⟨charge,found,state,converged⟩ := signal_kept signal
    have timely := recent.2.2 r stored awaited awaits charge found state converged t listed type running
    obtain ⟨job',id,_⟩ := (recorded.sound.runs _ r stored).2.listed t listed
    have bound : (r.jobId,r.runId) = (o.jobId,o.runId) := by rw [← same.jobId,← same.runId,job',id]
    -- the observation in charge is the report itself, or one that is read back
    obtain ⟨told,there,own,source,sees,shows,time⟩ : ∃ told, .report told ∈ history ++ [.report incoming] ∧
        (told.jobId,told.runId) = (r.jobId,r.runId) ∧ authoritativeRuntimeObservationSource = sourceOf told ∧
        charge.state = (normalizeRuntimeSignal told).state ∧ (normalizeRuntimeSignal told).converged = true ∧
        charge.observedAt = told.observedAt := by
      rcases observation_mem found with ⟨source,rfl⟩ | ⟨status,held,inside⟩
      · exact ⟨incoming,by simp,key,source,rfl,converged,normalize_observedAt incoming⟩
      · obtain ⟨told,there,own,source,timed,read⟩ := recorded.runs _ r stored status held _ _ inside
        rw [reread_timed (by rw [normalize_observedAt]; exact timed)] at read
        subst read
        exact ⟨told,by simp [there],own,source,rfl,(Bool.and_eq_true_iff.mp converged).1,normalize_observedAt told⟩
    refine ⟨told,there,own.trans bound,?_,shows,?_,?_⟩
    · by_contra other
      unfold sourceOf at source
      split at source
      · exact absurd (show authoritativeRuntimeObservationSource = "unknown" from source) (by decide)
      · exact other source.symm
    · rw [← same.type,type,required_awaited awaits,← state,sees]
    · rw [created,← time]
      exact timely

theorem success_has_evidence {before : List Step} {a : Step}
    (guarded : Guarded World.step Recent ⟨.empty,[]⟩ (before ++ [a])) {id : String} {o : Operation}
    (lifecycle : isLifecycle o.type = true) (success : o.state = .succeeded)
    (after : (run World.step ⟨.empty,[]⟩ (before ++ [a])).store.operations.lookup id = some o)
    (earlier : ∀ t, (run World.step ⟨.empty,[]⟩ before).store.operations.lookup id = some t → t.state ≠ .succeeded) :
    ∃ told, .report told ∈ before ++ [a] ∧ (told.jobId,told.runId) = (o.jobId,o.runId) ∧
      told.source = authoritativeRuntimeObservationSource ∧ (normalizeRuntimeSignal told).converged = true ∧
      required o.type = some (normalizeRuntimeSignal told).state ∧ o.createdAt ≤ told.observedAt := by
  obtain ⟨first,recent,_⟩ := guarded_append.mp guarded
  have recorded : Recorded before (run World.step ⟨.empty,[]⟩ before) := by
    have start : Recorded [] ⟨.empty,[]⟩ := ⟨empty_sound,by rintro key r ⟨⟩,by rintro plan ⟨⟩⟩
    simpa using recorded_run start first
  rw [run_append,run_cons,run_nil] at after
  generalize run World.step ⟨.empty,[]⟩ before = w at *
  cases done : transaction w a with
  | error err =>
    rw [World.step,done] at after
    exact absurd success (earlier o after)
  | ok result =>
    obtain ⟨write,plan⟩ := result
    rw [step_ok done] at after
    cases new : write.operation with
    | none =>
      rw [put_no_operation new] at after
      exact absurd success (earlier o after)
    | some written =>
      rw [put_operation new] at after
      split at after
      · cases after
        cases effect_of recorded.sound done with
        | quiet _ _ none => cases none.symm.trans new
        | unbound _ _ own _ _ outcome =>
          cases own.symm.trans new
          obtain rfl := outcome success lifecycle
          cases (recent.2 success).symm.trans lifecycle
        | ensured _ _ _ _ _ _ own =>
          cases own.symm.trans new
          cases lifecycle
        | fresh _ _ _ made _ =>
          obtain ⟨_,_,_,_,_,_,_,rfl⟩ := made o new
          cases success
        | updated _ _ _ _ issued _ _ _ =>
          cases issued o new with
          | made => cases success
          | recorded _ _ => cases (recent.2 success).symm.trans lifecycle
          | finished _ _ _ _ outcome => cases (outcome success).symm.trans lifecycle
          | reported =>
            obtain ⟨⟨_,_⟩,made,same⟩ := map_ok done
            cases same
            exact report_evidence recorded recent made new success
        | rejected _ _ _ _ _ _ _ _ _ failed own =>
          cases own.2.2.symm.trans new
          subst failed
          cases success
      · exact absurd success (earlier o after)

def terminating : List Step :=
  [.createJob jobA "" "" "" 0 0,.createJobRun jobA "" "" 0,.command (order .terminate "") 1 1]

def termination : Operation := begun .terminate "a" (runIDOf jobA 1) "" "" "" "" 1 1

theorem success_has_evidence_terminate :
    ∃ told, .report told ∈ terminating ++ [.report (reached .terminated (runIDOf jobA 1) 1 2)] ∧
      told.source = authoritativeRuntimeObservationSource ∧ termination.createdAt ≤ told.observedAt := by
  have facts : Guarded World.step Recent ⟨.empty,[]⟩ (terminating ++ [.report (reached .terminated (runIDOf jobA 1) 1 2)]) ∧
      (run World.step ⟨.empty,[]⟩ terminating).store.operations.lookup termination.operationId = some termination ∧
      (run World.step ⟨.empty,[]⟩ (terminating ++ [.report (reached .terminated (runIDOf jobA 1) 1
        2)])).store.operations.lookup termination.operationId =
        some { termination with state := .succeeded, completedAt := some 2 } := by decide +kernel
  obtain ⟨guarded,pending,done⟩ := facts
  obtain ⟨told,there,_,source,_,_,timely⟩ := success_has_evidence guarded rfl rfl done (by
    intro t stored
    cases pending.symm.trans stored
    decide)
  exact ⟨told,there,source,timely⟩

/-- The runtime is observed terminated before TERMINATE is given, and another source reports afterwards. -/
def terminatedBefore : List Step :=
  [.createJob jobA "" "" "" 0 0,.createJobRun jobA "" "" 0,.report (reached .terminated (runIDOf jobA 1) 1 1),
    .command (order .terminate "") 5 1,
    .report { reached .unknown (runIDOf jobA 1) 1 6 with source := "node", converged := false }]

theorem terminated_before :
    ((run World.step ⟨.empty,[]⟩ terminatedBefore).store.operations.values.map (fun o => (o.type,o.state,o.createdAt))).contains
      (.terminate,.succeeded,5) = true ∧
    ∀ told, .report told ∈ terminatedBefore → told.source = authoritativeRuntimeObservationSource → told.observedAt < 5 := by
  constructor
  · decide +kernel
  · intro told there source
    simp only [terminatedBefore,List.mem_cons,List.not_mem_nil,or_false,reduceCtorEq,false_or,Step.report.injEq] at there
    rcases there with rfl | rfl
    · decide
    · exact absurd source (by decide)

end TgsRl.Evidence
