import TgsRl.Loops
import TgsRl.State

/-!
Replay commands. The supervisor applies START, PAUSE, RESUME, STOP and TERMINATE to one replay under
its lock; a command is remembered by its idempotency key, and START drives the recorded steps
through the scheduler, one durable row a step, before it marks the replay completed. The process may
die at any point and is then started again on the stored replay. Neither START nor the lifecycle
commands look at the state they start from.
-/
namespace TgsRl.ReplayCommands
open State (Map)
open Loops

inductive ReplayState
  | unknown
  | pending
  | running
  | paused
  | completed
  | failed
  | cancelled
  deriving DecidableEq, Repr

inductive CommandType
  | start
  | pause
  | resume
  | stop
  | terminate
  | other (code : Nat)
  deriving DecidableEq, Repr

/-- A scheduler input artifact: what decoding it raises, and the digests under which its progress is recognised. -/
structure StepArtifact where
  ordinal : Nat
  event_id : String
  digest : String
  earlier : List String := []
  problem : Option String := none
  deriving DecidableEq, Repr

/-- `replay_step_progress_digests`. -/
def StepArtifact.progressDigests (step : StepArtifact) : List String := step.digest :: step.earlier

/-- The fields of a replay that its commands read or write. The annotations are kept by key: SHA-256 has no collisions. -/
structure Replay where
  state : ReplayState
  steps : List StepArtifact
  commands : Map String CommandType := ∅
  decisions : List String := []
  applied_events : Nat := 0
  emitted_decisions : Nat := 0

/-- One row of `replay_schedule_steps`, of this replay. -/
structure ScheduleStep where
  start_key : String
  ordinal : Nat
  step_digest : String
  decision : String
  deriving DecidableEq, Repr

/-- The supervisor with one replay: its copy in memory, the stored one, the stored rows and how often the scheduler was called. -/
structure System where
  client : Bool
  memory : Replay
  saved : Replay
  rows : List ScheduleStep
  calls : Nat

/-- What comes of one turn of the runner: a decision, an exception, or the end of the process, before or after the call. -/
inductive Turn
  | decided (decision : String)
  | failed (called : Bool) (message : String)
  | crashed (called : Bool)
  deriving DecidableEq, Repr

/-- A command with what its environment does: the runner's turns, the event count that
aggregation gives (`none` where it raises), and whether the process dies before the replay is recorded. -/
structure Request where
  command : CommandType
  idempotency_key : String
  turns : List Turn := []
  summary : Option Nat := some 0
  dies : Bool := false

inductive Answer
  | replay (replay : Replay)
  | refused (message : String)
  | lost

def decodeReplaySteps (replay : Replay) : Except String (List StepArtifact) :=
  if replay.steps = [] then .error "replay has no scheduler input artifacts"
  else match replay.steps.findSome? StepArtifact.problem with
    | some message => .error message
    | none =>
      if (replay.steps.map StepArtifact.ordinal).Nodup then
        .ok (replay.steps.insertionSort (fun a b => a.ordinal ≤ b.ordinal))
      else .error "replay artifact ordinals must be unique"

def listReplayScheduleSteps (rows : List ScheduleStep) (key : String) : List ScheduleStep :=
  (rows.filter (fun row => row.start_key = key)).insertionSort (fun a b => a.ordinal ≤ b.ordinal)

/-- The steps of a replay whose stored progress under the key fits them. -/
def matchProgress (replay : Replay) (done : List ScheduleStep) : Except String (List StepArtifact) :=
  match decodeReplaySteps replay with
  | .error message => .error message
  | .ok steps =>
    if steps.length < done.length then .error "durable replay progress exceeds replay inputs"
    else if steps.map StepArtifact.ordinal ≠ List.range' 1 steps.length then
      .error "replay step ordinals must be contiguous from one"
    else if ¬ (steps.map StepArtifact.event_id).Nodup then .error "replay steps require unique trigger events"
    -- the ordinal of the step beside a row is the row's position, by the check above
    else if (done.zip steps).all (fun pair => pair.1.ordinal = pair.2.ordinal && pair.1.step_digest ∈ pair.2.progressDigests) then
      .ok steps
    else .error "durable replay progress does not match inputs"

inductive Ended
  | finished
  | failed (message : String)
  | crashed
  deriving DecidableEq, Repr

/-- What the runner did: the rows it stored, its scheduler calls and how it ended. -/
structure Driven where
  rows : List ScheduleStep
  calls : Nat
  ended : Ended
  deriving DecidableEq, Repr

/-- The runner's loop: one call and one stored row a step. Where the turns are used up the process has died. -/
def drive (key : String) : List StepArtifact → List Turn → Driven
  | [], _ => ⟨[],0,.finished⟩
  | _ :: _, [] => ⟨[],0,.crashed⟩
  | step :: rest, .decided decision :: turns =>
    let later := drive key rest turns
    ⟨⟨key,step.ordinal,step.digest,decision⟩ :: later.rows,later.calls + 1,later.ended⟩
  | _ :: _, .failed called message :: _ => ⟨[],called.toNat,.failed message⟩
  | _ :: _, .crashed called :: _ => ⟨[],called.toNat,.crashed⟩

/-- `complete_replay`: the state is set whatever it was. -/
def completeReplay (replay : Replay) (decisions : List String) : Replay :=
  { replay with
    state := .completed
    decisions := decisions
    applied_events := decisions.length
    emitted_decisions := decisions.length }

def System.restart (s : System) (client : Bool) : System := { s with client := client, memory := s.saved }

/-- A refused START stores the replay as it is in memory. -/
def System.refuse (s : System) (message : String) : System × Answer := ({ s with saved := s.memory },.refused message)

/-- `commit_command` and `record_replay`. -/
def System.commit (s : System) (r : Request) (replay : Replay) : System × Answer :=
  let committed := { replay with commands := replay.commands.insert r.idempotency_key r.command }
  if r.dies then (s.restart s.client,.lost)
  else ({ s with memory := committed, saved := committed },.replay committed)

/-- The end of a START, after the runner: an exception stores the replay as it was, a finished run completes it. -/
def System.conclude (s : System) (r : Request) (decisions : List String) : Ended → System × Answer
  | .crashed => (s.restart s.client,.lost)
  | .failed message => s.refuse message
  | .finished =>
    match r.summary with
    | none => s.refuse "trace summary failed"
    | some _ => s.commit r (completeReplay s.memory decisions)

/-- `_start_replay_durably` as `_apply_replay_command_locked` calls it. -/
def System.startReplayDurably (s : System) (r : Request) : System × Answer :=
  let done := listReplayScheduleSteps s.rows r.idempotency_key
  match matchProgress s.memory done with
  | .error message => s.refuse message
  | .ok steps =>
    let driven := drive r.idempotency_key (steps.drop done.length) r.turns
    let after := { s with rows := s.rows ++ driven.rows, calls := s.calls + driven.calls }
    after.conclude r ((done ++ driven.rows).map ScheduleStep.decision) driven.ended

/-- The state `ExperimentCoordinator.apply_replay_command` sets. -/
def commandState : CommandType → Option ReplayState
  | .start => some .running
  | .pause => some .paused
  | .resume => some .running
  | .stop => some .completed
  | .terminate => some .cancelled
  | .other _ => none

/-- The commands that only set a state. -/
def System.setState (s : System) (r : Request) : System × Answer :=
  match commandState r.command with
  | none => (s,.refused "unknown replay command")
  | some state =>
    match r.summary with
    | none => (s,.refused "trace summary failed")
    | some events => s.commit r { s.memory with state := state, applied_events := events }

def System.applyReplayCommand (s : System) (r : Request) : System × Answer :=
  if r.idempotency_key = "" then (s,.refused "replay command idempotency_key is required")
  else match s.memory.commands.lookup r.idempotency_key with
    | some command =>
      (s,if command = r.command then .replay s.memory
        else .refused "replay idempotency_key was reused for another command")
    | none =>
      if r.command = .start then
        if s.client then s.startReplayDurably r
        else (s,.refused "replay START requires a scheduler client with preview support")
      else s.setState r

inductive Move
  | command (r : Request)
  | restart (client : Bool)

def System.step (s : System) : Move → System
  | .command r => (s.applyReplayCommand r).1
  | .restart client => s.restart client

/-- A replay that was created and stored, with the rows left by earlier commands. -/
def System.stored (client : Bool) (replay : Replay) (rows : List ScheduleStep) : System := ⟨client,replay,replay,rows,0⟩

def System.Finished (s : System) : Prop := s.memory.state = .completed ∨ s.memory.state = .cancelled

variable {s : System} {r : Request}

theorem step_saved (m : Move) (saved : s.saved = s.memory) : (s.step m).saved = (s.step m).memory := by
  cases m with
  | restart client => rfl
  | command r =>
    simp only [System.step,System.applyReplayCommand,System.startReplayDurably,System.setState,System.conclude,System.commit,
      System.refuse,System.restart]
    grind

theorem run_saved (saved : s.saved = s.memory) (moves : List Move) :
    (run System.step s moves).saved = (run System.step s moves).memory :=
  @run_keeps _ _ System.step (fun s => s.saved = s.memory) (fun _ m kept => step_saved m kept) _ saved moves

/-- No call is made in the first turn. -/
def Idle : List Turn → Prop
  | [] => True
  | .decided _ :: _ => False
  | .failed called _ :: _ => called = false
  | .crashed called :: _ => called = false

variable {key : String} {step : StepArtifact} {rest : List StepArtifact} {turns : List Turn}

theorem drive_idle : (drive key (step :: rest) turns).calls = 0 ↔ Idle turns := by
  cases turns with
  | nil => simp [drive,Idle]
  | cons turn turns =>
    cases turn with
    | decided decision => simp [drive,Idle]
    | failed called message => simp [drive,Idle]
    | crashed called => simp [drive,Idle]

theorem drive_idle_ended (idle : Idle turns) : (drive key (step :: rest) turns).ended ≠ .finished := by
  cases turns with
  | nil => simp [drive]
  | cons turn turns =>
    cases turn with
    | decided decision => exact idle.elim
    | failed called message => simp [drive]
    | crashed called => simp [drive]

/-- The steps a START with the key still has to schedule. -/
def System.remaining (s : System) (key : String) : Except String (List StepArtifact) :=
  let done := listReplayScheduleSteps s.rows key
  match matchProgress s.memory done with
  | .error message => .error message
  | .ok steps => .ok (steps.drop done.length)

/-- A START that calls nothing and sets no new state: it is refused, it is stopped before its first call, or everything is
scheduled already and the replay is completed or not recorded. -/
def QuietStart (s : System) (r : Request) : Prop :=
  s.client = true → ∀ steps, s.remaining r.idempotency_key = .ok steps →
    if steps = [] then r.summary = none ∨ r.dies = true ∨ s.memory.state = .completed else Idle r.turns

/-- A command that would set a state, and sets the present one or none. -/
def QuietState (s : System) (r : Request) : Prop :=
  ∀ state, commandState r.command = some state → r.summary = none ∨ r.dies = true ∨ state = s.memory.state

/-- What may be done with a finished replay. -/
def Harmless (s : System) : Move → Prop
  | .restart _ => True
  | .command r =>
    s.Finished → r.idempotency_key = "" ∨ r.idempotency_key ∈ s.memory.commands ∨
      if r.command = .start then QuietStart s r else QuietState s r

/-- A move that keeps a replay as it is. -/
def Keeps (s : System) (m : Move) : Prop := (s.step m).memory.state = s.memory.state ∧ (s.step m).calls = s.calls

theorem commit_keeps {after : System} {replay : Replay} (saved : s.saved = s.memory) (same : after.saved = s.saved) :
    ((after.commit r replay).1.memory.state = s.memory.state ∧ (after.commit r replay).1.calls = s.calls) ↔
      (r.dies = true ∨ replay.state = s.memory.state) ∧ after.calls = s.calls := by
  cases dies : r.dies with
  | true => simp [System.commit,System.restart,dies,same,saved]
  | false => simp [System.commit,dies]

theorem setState_keeps (saved : s.saved = s.memory) :
    ((s.setState r).1.memory.state = s.memory.state ∧ (s.setState r).1.calls = s.calls) ↔ QuietState s r := by
  unfold QuietState System.setState
  cases target : commandState r.command with
  | none => simp
  | some state =>
    cases summary : r.summary with
    | none => simp
    | some events =>
      simp only [commit_keeps saved rfl]
      simp

theorem conclude_calls (s : System) (r : Request) (decisions : List String) (ended : Ended) :
    (s.conclude r decisions ended).1.calls = s.calls := by
  cases ended with
  | crashed => rfl
  | failed message => rfl
  | finished =>
    simp only [System.conclude,System.commit]
    cases r.summary with
    | none => rfl
    | some events => cases r.dies <;> rfl

theorem conclude_state {decisions : List String} {ended : Ended} (saved : s.saved = s.memory) (unfinished : ended ≠ .finished) :
    (s.conclude r decisions ended).1.memory.state = s.memory.state := by
  cases ended with
  | crashed => simp [System.conclude,System.restart,saved]
  | failed message => rfl
  | finished => exact absurd rfl unfinished

theorem startReplayDurably_keeps (saved : s.saved = s.memory) :
    ((s.startReplayDurably r).1.memory.state = s.memory.state ∧ (s.startReplayDurably r).1.calls = s.calls) ↔
      ∀ steps, s.remaining r.idempotency_key = .ok steps →
        if steps = [] then r.summary = none ∨ r.dies = true ∨ s.memory.state = .completed else Idle r.turns := by
  simp only [System.startReplayDurably,System.remaining]
  cases progress : matchProgress s.memory (listReplayScheduleSteps s.rows r.idempotency_key) with
  | error message => simp [System.refuse]
  | ok steps =>
    cases left : steps.drop (listReplayScheduleSteps s.rows r.idempotency_key).length with
    | nil =>
      -- nothing is left to schedule: the replay is completed at once
      cases summary : r.summary with
      | none => simp [left,drive,System.conclude,System.refuse,summary]
      | some events =>
        cases dies : r.dies with
        | true => simp [left,drive,System.conclude,System.commit,System.restart,summary,dies,saved]
        | false => simp [left,drive,System.conclude,System.commit,completeReplay,summary,dies,eq_comm]
    | cons step rest =>
      simp only [left,conclude_calls,Except.ok.injEq,forall_eq',reduceCtorEq,if_false]
      constructor
      · intro kept
        exact drive_idle.mp (by simpa using kept.2)
      · intro idle
        refine ⟨?_,by simp [drive_idle.mpr idle]⟩
        exact conclude_state (s := { s with rows := _, calls := _ }) saved (drive_idle_ended idle)

theorem keeps_iff_harmless (saved : s.saved = s.memory) (m : Move) : (s.Finished → Keeps s m) ↔ Harmless s m := by
  cases m with
  | restart client => simp [Keeps,Harmless,System.step,System.restart,saved]
  | command r =>
    unfold Keeps Harmless
    refine imp_congr_right (fun _ => ?_)
    simp only [System.step,System.applyReplayCommand]
    by_cases empty : r.idempotency_key = ""
    · simp [empty]
    · by_cases recorded : r.idempotency_key ∈ s.memory.commands
      · obtain ⟨command,found⟩ := Option.isSome_iff_exists.mp (AList.lookup_isSome.mpr recorded)
        simp [empty,recorded,found]
      · have absent := AList.lookup_eq_none.mpr recorded
        simp only [empty,recorded,absent,false_or,if_false]
        by_cases start : r.command = .start
        · simp only [start,if_true]
          unfold QuietStart
          cases client : s.client with
          | false => simp
          | true =>
            rw [if_pos rfl,startReplayDurably_keeps saved]
            simp
        · simp only [start,if_false]
          exact setState_keeps saved

/-- Once the replay is finished its state is kept and the scheduler is not called for it. -/
def StaysFinished (s : System) (moves : List Move) : Prop :=
  ∀ first later, first ++ later <+: moves → (run System.step s first).Finished →
    (run System.step s (first ++ later)).memory.state = (run System.step s first).memory.state ∧
    (run System.step s (first ++ later)).calls = (run System.step s first).calls

theorem harmless_run_keeps {moves : List Move} (saved : s.saved = s.memory) (finished : s.Finished)
    (harmless : Guarded System.step Harmless s moves) :
    (run System.step s moves).memory.state = s.memory.state ∧ (run System.step s moves).calls = s.calls := by
  induction moves generalizing s with
  | nil => simp
  | cons m rest ih =>
    obtain ⟨state,calls⟩ := (keeps_iff_harmless saved m).mpr harmless.1 finished
    have still : (s.step m).Finished := by
      unfold System.Finished
      rw [state]
      exact finished
    have later := ih (step_saved m saved) still harmless.2
    simp only [run_cons]
    exact ⟨later.1.trans state,later.2.trans calls⟩

theorem stays_tail {m : Move} {rest : List Move} (stays : StaysFinished s (m :: rest)) : StaysFinished (s.step m) rest := by
  intro first later within finished
  exact stays (m :: first) later (by simpa using within) finished

/-- A finished replay stays finished in exactly the runs that send it harmless commands only. -/
theorem finished_replay_stays_iff (client : Bool) (replay : Replay) (rows : List ScheduleStep) (moves : List Move) :
    StaysFinished (.stored client replay rows) moves ↔
      Guarded System.step Harmless (.stored client replay rows) moves := by
  have saved : (System.stored client replay rows).saved = (System.stored client replay rows).memory := rfl
  generalize System.stored client replay rows = s at saved
  induction moves generalizing s with
  | nil =>
    refine ⟨fun _ => trivial,fun _ first later within _ => ?_⟩
    obtain ⟨rfl,rfl⟩ : first = [] ∧ later = [] := by simpa using within
    simp
  | cons m rest ih =>
    constructor
    · intro stays
      refine ⟨?_,(ih (s.step m) (step_saved m saved)).mp (stays_tail stays)⟩
      exact (keeps_iff_harmless saved m).mp (fun finished => stays [] [m] (by simp) finished)
    · intro harmless first later within finished
      obtain ⟨after,split⟩ := within
      rw [← split,List.append_assoc,guarded_append,guarded_append] at harmless
      rw [run_append]
      exact harmless_run_keeps (run_saved saved first) finished harmless.2.1

/-- One recorded step, scheduled by START: the replay is completed, a PAUSE under another key takes it back, and a second
START under another key calls the scheduler once more. -/
theorem paused_after_completed :
    let s := System.stored true ⟨.pending,[⟨1,"event","digest",[],none⟩],∅,[],0,0⟩ []
    let start := Move.command ⟨.start,"first",[.decided "place"],some 1,false⟩
    let pause := Move.command ⟨.pause,"second",[],some 1,false⟩
    let completed := s.step start
    let again := completed.step (.command ⟨.start,"third",[.decided "place"],some 1,false⟩)
    (completed.memory.state = .completed ∧ completed.calls = 1) ∧ (completed.step pause).memory.state = .paused ∧
      again.calls = 2 ∧ ¬ StaysFinished s [start,pause] := by
  intro s start pause completed again
  have paused : (completed.step pause).memory.state = .paused := by decide
  refine ⟨by decide,paused,by decide,fun stays => ?_⟩
  have kept := (stays [start] [pause] List.prefix_rfl (Or.inl (by decide))).1
  have changed : (completed.step pause).memory.state ≠ completed.memory.state := by decide
  exact changed kept

end TgsRl.ReplayCommands
