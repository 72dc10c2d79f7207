import TgsRl.Attempts

/-!
The order in which a run passes its states. A rejected command puts its run back into the state from
which it was accepted (`start_rejected`), so a started run can wait again. `Orderly` are the steps
that take effect on a run in the state they are meant for.
-/
namespace TgsRl.Lifecycles
open Jobs JobController JobEffects Attempts Loops

/-- STARTING and the states that follow it. -/
def started : JobRunState → Bool
  | .starting | .running | .pausing | .paused | .resuming | .stopping | .stopped | .terminating | .terminated | .succeeded
  | .failed => true
  | _ => false

def final : JobRunState → Bool
  | .succeeded | .failed | .terminated => true
  | _ => false

def transitionOfWork : Work → Option Transition
  | .admission => none
  | .command command => transitionOf command

/-- The steps that take effect on a run in a state they are meant for: an admission that is not refused finds a run that is
    not started, a RETRY that is accepted the latest attempt, the end of a preparation that succeeds a run that still waits for
    it, the rejection of a command a run that is still carrying it out, and the failure of a runtime a run that has not
    ended otherwise. -/
def Orderly (w : World) (a : Step) : Prop := Proper w a ∧ RetriesLatest w a ∧ match a with
  | .admitJob request _ _ => ∀ latest ∈ w.store.getLatestRun request.jobId,
      isTerminalRunState latest.runState = false → started latest.runState = false
  | .prepared index result _ => result.err = none ∧ result.diagnostics = [] → ∀ plan ∈ w.plans[index]?,
      ∀ t ∈ w.store.operations.lookup plan.operation.operationId, t.state = .running →
      ∀ run ∈ w.store.runs.lookup (plan.job.jobId,plan.run.runId), run.runState = .admitting ∨ run.runState = .retrying
  | .dispatched index err _ => ∀ e ∈ err, isAmbiguousRuntimeCommandError e = false → ∀ plan ∈ w.plans[index]?,
      ∀ t ∈ w.store.operations.lookup plan.operation.operationId, t.state = .running →
      ∀ run ∈ w.store.runs.lookup (plan.job.jobId,plan.run.runId), ∀ transition ∈ transitionOfWork plan.work,
        run.runState = transition.runState
  | .report incoming => ∀ run ∈ w.store.runs.lookup (incoming.jobId,incoming.runId),
      (authoritativeRuntimeSignal (mergeAggregatedStatus run.componentStatus incoming)).map Prod.fst = some .failed →
      run.runState = .failed ∨ isTerminalRunState run.runState = false
  | _ => True

instance (w : World) : ∀ a, Decidable (Orderly w a)
  | .command .. => @instDecidableAnd _ _ _ (@instDecidableAnd _ _ (by dsimp only [RetriesLatest]; infer_instance) (.isTrue trivial))
  | .admitJob .. | .prepared .. | .dispatched .. | .report _ =>
    @instDecidableAnd _ _ _ (@instDecidableAnd _ _ (.isTrue trivial) (by dsimp only; infer_instance))
  | .createJob .. | .createJobRun .. | .resume .. | .record _ | .reconciliation .. | .restart =>
    @instDecidableAnd _ _ _ (.isTrue ⟨trivial,trivial⟩)

variable {w : World} {a : Step}

/-- The step ends a command of the run that the runtime has rejected. -/
def rejects (w : World) (key : String × String) : Step → Bool
  | .dispatched index (some err) _ => !isAmbiguousRuntimeCommandError err &&
      (w.plans[index]?).any (fun plan => decide ((plan.job.jobId,plan.run.runId) = key))
  | _ => false

def starts (w : World) (key : String × String) : Step → Bool
  | .command request _ _ => decide (request.command = .start) &&
      (w.store.runs.lookup key).any (fun run => decide (target w.store request.jobId request.runId = some run))
  | _ => false

/-- What a step may do to the state of a stored run. -/
inductive Forward (w : World) (key : String × String) (before : JobRunState) (a : Step) : JobRunState → Prop
  | stays : Forward w key before a before
  | moves {after : JobRunState} (open_ : isTerminalRunState before = false) (on : started before = true → started after = true) :
      Forward w key before a after
  | restart {after : JobRunState} (stopped : before = .stopped) (begins : starts w key a = true) (on : started after = true) :
      Forward w key before a after
  | back {after : JobRunState} (open_ : isTerminalRunState before = false) (ends : rejects w key a = true) :
      Forward w key before a after

variable {after before : JobRunState} {key : String × String} {r : JobRun}

theorem moves_forward {run : JobRun} (orderly : Orderly w a) (stored : w.store.runs.lookup (run.jobId,run.runId) = some run)
    (moves : Moves w run a after) : Forward w (run.jobId,run.runId) run.runState a after := by
  cases moves with
  | stays => exact .stays
  | admission latest open_ =>
    refine .moves open_.2.2 ?_
    intro late
    cases (orderly.2.2 run latest open_.2.2).symm.trans late
  | @command request now sequence transition found allowed addressed =>
    by_cases stopped : run.runState = .stopped
    · rw [stopped] at allowed
      cases command : request.command <;> rw [command] at found <;> cases found
      · exact .restart stopped (by simp [starts,command,stored,addressed]) rfl
      all_goals simp at allowed
    · refine .moves ?_ ?_
      · cases state : run.runState <;> rw [state] at allowed stopped <;> try rfl
        · exact absurd rfl stopped
        all_goals cases command : request.command <;> rw [command] at found <;> cases found <;> simp at allowed
      · intro _
        cases command : request.command <;> rw [command] at found <;> cases found <;> rfl
  | prepared planned own success running =>
    have state := orderly.2.2 success _ planned _ running.1 running.2 run (by rw [own.1,own.2]; exact stored)
    refine .moves ?_ ?_ <;> rcases state with state | state <;> rw [state]
    · rfl
    · rfl
    · rintro ⟨⟩
    · rintro ⟨⟩
  | failed own signal =>
    rcases orderly.2.2 run (by rw [own.1,own.2]; exact stored) signal with already | open_
    · rw [already]
      exact .stays
    · exact .moves open_ (fun _ => rfl)
  | observed awaits _ _ =>
    refine .moves ?_ ?_
    · cases state : run.runState <;> rw [state] at awaits <;> first | rfl | cases awaits
    · intro _
      cases state : run.runState <;> rw [state] at awaits <;> cases awaits <;> rfl

theorem step_forward (sound : Sound w) (orderly : Orderly w a) (stored : w.store.runs.lookup key = some r) :
    ∃ r', (w.step a).store.runs.lookup key = some r' ∧ Forward w key r.runState a r'.runState := by
  unfold World.step
  split
  · exact ⟨r,stored,.stays⟩
  next write plan done =>
  show ∃ r', (w.store.put write).runs.lookup key = some r' ∧ _
  cases effect_of sound done with
  | quiet _ none _ => exact ⟨r,by rw [put_no_run none]; exact stored,.stays⟩
  | unbound _ none _ _ _ _ => exact ⟨r,by rw [put_no_run none]; exact stored,.stays⟩
  | ensured _ _ _ _ _ none _ => exact ⟨r,by rw [put_no_run none]; exact stored,.stays⟩
  | fresh _ numbered new _ _ =>
    rw [put_run new]
    split
    · next here =>
      subst here
      cases (fresh_absent sound (orderly.1.apart done) orderly.2.1 numbered new rfl rfl).symm.trans stored
    · exact ⟨r,stored,.stays⟩
  | @updated old run written held _ _ _ moves _ _ =>
    rw [put_run written]
    split
    · next here =>
      subst here
      obtain rfl := Option.some.inj (stored.symm.trans held)
      have own := (sound.runs _ r stored).1
      rw [own] at stored ⊢
      exact ⟨run,rfl,moves_forward orderly stored moves⟩
    · exact ⟨r,stored,.stays⟩
  | @rejected index err now plan command _ old stable t _ step planned work other held copies same clear running _ written =>
    rw [put_run written.2.1]
    split
    · next here =>
      have own : (plan.job.jobId,plan.run.runId) = key := by rw [same.2.1,same.2.2]; exact here
      refine ⟨_,rfl,.back ?_ (by subst step; simp [rejects,clear,planned,own])⟩
      subst step
      have state : ∀ transition, transitionOf command = some transition → r.runState = transition.runState :=
        fun transition found => orderly.2.2 err rfl clear plan planned t running.1 running.2 r (own ▸ stored) transition
          (by rw [work]; exact found)
      cases command with
      | retry => exact absurd rfl other
      | unknown =>
        have does := (sound.plans plan (List.mem_of_getElem? planned)).1.work
        rw [work] at does
        cases type : plan.operation.type <;> rw [type] at does <;> cases does
      | _ => rw [state _ rfl]; rfl
    · exact ⟨r,stored,.stays⟩

theorem Forward.on (forward : Forward w key before a after) (kept : rejects w key a = false) (late : started before = true) :
    started after = true := by
  cases forward with
  | stays => exact late
  | moves _ on => exact on late
  | restart _ _ on => exact on
  | back _ ends => cases kept.symm.trans ends

theorem Forward.ended (forward : Forward w key before a after) (terminal : isTerminalRunState before = true)
    (still : before = .stopped → starts w key a = false) : after = before := by
  cases forward with
  | stays => rfl
  | moves open_ _ => cases open_.symm.trans terminal
  | restart stopped begins _ => cases (still stopped).symm.trans begins
  | back open_ _ => cases open_.symm.trans terminal

theorem run_forward (sound : Sound w) {later : List Step} (guarded : Guarded World.step Orderly w later)
    (stored : w.store.runs.lookup key = some r) :
    ∃ r', (run World.step w later).store.runs.lookup key = some r' ∧
      (started r.runState = true → Guarded World.step (fun w a => rejects w key a = false) w later → started r'.runState = true) ∧
      (final r.runState = true → r'.runState = r.runState) ∧
      (r.runState = .stopped → Guarded World.step (fun w a => starts w key a = false) w later → r'.runState = .stopped) := by
  induction later generalizing w r with
  | nil => exact ⟨r,stored,fun late _ => late,fun _ => rfl,fun stopped _ => stopped⟩
  | cons a later ih =>
    obtain ⟨r₁,stored₁,forward⟩ := step_forward sound guarded.1 stored
    obtain ⟨r',stored',late,ends,stops⟩ := ih (step_sound sound guarded.1.1) guarded.2 stored₁
    refine ⟨r',stored',?_,?_,?_⟩
    · intro early kept
      exact late (forward.on kept.1 early) kept.2
    · intro over_
      have same : r₁.runState = r.runState := by
        apply forward.ended
        · cases state : r.runState <;> rw [state] at over_ <;> first | rfl | cases over_
        · intro stopped
          rw [stopped] at over_
          cases over_
      exact (ends (same ▸ over_)).trans same
    · intro stopped kept
      have same := forward.ended (by rw [stopped]; rfl) (fun _ => kept.1)
      exact stops (same.trans stopped) kept.2

theorem lifecycle_forward {steps later : List Step} (guarded : Guarded World.step Orderly ⟨.empty,[]⟩ (steps ++ later))
    {key : String × String} {r : JobRun}
    (stored : (run World.step ⟨.empty,[]⟩ steps).store.runs.lookup key = some r) :
    ∃ r', (run World.step ⟨.empty,[]⟩ (steps ++ later)).store.runs.lookup key = some r' ∧
      (started r.runState = true → Guarded World.step (fun w a => rejects w key a = false) (run World.step ⟨.empty,[]⟩ steps) later →
        r'.runState ∉ [.validating,.admitting,.waiting]) ∧
      (final r.runState = true → r'.runState = r.runState) ∧
      (r.runState = .stopped → Guarded World.step (fun w a => starts w key a = false) (run World.step ⟨.empty,[]⟩ steps) later →
        r'.runState = .stopped) := by
  obtain ⟨first,second⟩ := guarded_append.mp guarded
  have sound := guarded_keeps (fun w a held orderly => step_sound held orderly.1) empty_sound first
  obtain ⟨r',stored',late,ends,stops⟩ := run_forward sound second stored
  rw [run_append]
  refine ⟨r',stored',?_,ends,stops⟩
  intro early kept back
  have on := late early kept
  simp only [List.mem_cons,List.not_mem_nil,or_false] at back
  rcases back with state | state | state <;> rw [state] at on <;> cases on

/-- A run is admitted, prepared and started; then it is terminated, while the answer to START stays out, and an admission of
    the terminated run is refused. -/
def terminatedEarly : List Step :=
  [.createJob jobA "" "" "" 0 0,.admitJob ⟨"a","","",""⟩ 1 1,.prepared 0 ⟨[],none⟩ 2,.command (order .start "") 3 2,
    .command (order .terminate "") 4 3,.dispatched 0 (some ⟨.deadlineExceeded,""⟩) 5,
    .report (reached .terminated (runIDOf jobA 1) 1 6),.admitJob ⟨"a","","",""⟩ 7 4]

theorem lifecycle_forward_terminated :
    ∃ r r', (run World.step ⟨.empty,[]⟩ (terminatedEarly.take 4)).store.runs.lookup ("a",runIDOf jobA 1) = some r ∧
      r.runState = .starting ∧ (run World.step ⟨.empty,[]⟩ terminatedEarly).store.runs.lookup ("a",runIDOf jobA 1) = some r' ∧
      r'.runState ∉ [.validating,.admitting,.waiting] := by
  have facts : Guarded World.step Orderly ⟨.empty,[]⟩ (terminatedEarly.take 4 ++ terminatedEarly.drop 4) ∧
      Guarded World.step (fun w a => rejects w ("a",runIDOf jobA 1) a = false)
        (run World.step ⟨.empty,[]⟩ (terminatedEarly.take 4)) (terminatedEarly.drop 4) ∧
      ((run World.step ⟨.empty,[]⟩ (terminatedEarly.take 4)).store.runs.lookup ("a",runIDOf jobA 1)).map JobRun.runState =
        some .starting := by decide +kernel
  obtain ⟨guarded,kept,there⟩ := facts
  obtain ⟨r,stored,starting⟩ := Option.map_eq_some_iff.mp there
  obtain ⟨r',stored',on,_⟩ := lifecycle_forward guarded stored
  rw [List.take_append_drop] at stored'
  exact ⟨r,r',stored,starting,stored',on (by rw [starting]; rfl) kept⟩

/-- A job is admitted and prepared, and the START of its run is rejected. -/
def startRejected : List Step :=
  [.createJob jobA "" "" "" 0 0,.admitJob ⟨"a","","",""⟩ 1 1,.prepared 0 ⟨[],none⟩ 2,.command (order .start "") 3 2,
    .dispatched 0 (some ⟨.failedPrecondition,"no capacity"⟩) 4]

theorem start_rejected :
    ((run World.step ⟨.empty,[]⟩ (startRejected.take 4)).store.runs.lookup ("a",runIDOf jobA 1)).map JobRun.runState =
      some .starting ∧
    ((run World.step ⟨.empty,[]⟩ startRejected).store.runs.lookup ("a",runIDOf jobA 1)).map JobRun.runState =
      some .waiting := by
  decide +kernel

/-- In every interleaving in which no IDs collide the tables and the calls in flight refer to each other. -/
theorem tables_sound {steps : List Step} (proper : Guarded World.step Proper ⟨.empty,[]⟩ steps) :
    Sound (run World.step ⟨.empty,[]⟩ steps) :=
  guarded_keeps (fun _ _ => step_sound) empty_sound proper

theorem tables_sound_rejected : Sound (run World.step ⟨.empty,[]⟩ startRejected) := tables_sound (by decide +kernel)

end TgsRl.Lifecycles
