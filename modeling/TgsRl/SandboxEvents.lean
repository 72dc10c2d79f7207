import Mathlib.Data.Prod.Lex
import Mathlib.Data.String.Basic
import TgsRl.Loops
import TgsRl.State

/-!
Sandbox events of one run. `publish_sandbox_event` recognises a repeated event by its stored
payload, looks up the sandbox and the runtime unit the event is about, refuses a generation that
goes back and a transition the state machine does not have, rebuilds the sandbox record from the
event and projects the units from all sandboxes. The lookup uses the sandbox ID of the request while
the record is written under the ID completed from the unit. Units have distinct IDs; what
persistence adds to memory is not modelled here.
-/
namespace TgsRl.SandboxEvents
open State (Map)
open Loops

/-- The runtime states that events report; the control states are `other`. -/
inductive RuntimeState
  | unknown
  | requested
  | bound
  | running
  | paused
  | sleeping
  | failed
  | terminated
  | other (code : Nat)
  deriving DecidableEq, Repr

structure Binding where
  binding_id : String := ""
  runtime_unit_id : String := ""
  pending_unit_id : String := ""
  device_ids : List String := []
  accelerator_units : Option Nat := none
  deriving DecidableEq, Repr

def Binding.unit (b : Binding) : String := if b.runtime_unit_id ≠ "" then b.runtime_unit_id else b.pending_unit_id

/-- The fields of a manifest that default a sandbox. -/
structure Manifest where
  priority : Int := 0
  accelerator_units : Nat := 0
  data_kind : Nat := 0
  deriving DecidableEq, Repr

/-- A runtime unit. `unit_count` and `priority` are its annotations, `none` where they are no number (or no positive one). -/
structure RuntimeUnit where
  runtime_unit_id : String
  sandbox_id : String := ""
  generation : Nat := 1
  state : RuntimeState := .requested
  unit_count : Option Nat := some 1
  accelerator_units : Nat := 0
  priority : Option Int := none
  deriving DecidableEq, Repr

structure SandboxEvent where
  event_id : String
  sandbox_id : String := ""
  state : RuntimeState
  generation : Nat
  binding : Option Binding := none
  share : Option Nat := none
  priority : Option Int := none
  offloaded : Option Bool := none
  safe_point : Bool := false
  occurred_at : Option Nat := none
  data_kind : Nat := 0
  payload : String := ""
  deriving DecidableEq, Repr

structure Sandbox where
  sandbox_id : String
  state : RuntimeState
  generation : Nat
  binding : Binding
  share : Nat
  priority : Int
  safe_point : Bool
  offloaded : Bool
  observed_at : Option Nat
  data_kind : Nat
  last_confirmed_at : Nat
  state_changed_at : Option Nat
  deriving DecidableEq, Repr

structure Run where
  manifest : Manifest
  units : List RuntimeUnit
  sandboxes : Map String Sandbox := ∅
  events : Map String SandboxEvent := ∅

def RuntimeState.terminal : RuntimeState → Bool
  | .failed => true
  | .terminated => true
  | _ => false

/-- `_is_allowed_same_generation_transition`. -/
def allowedTransition (current next : RuntimeState) : Bool :=
  if current = next then true
  else match current, next with
    | .unknown, _ => true
    | .terminated, _ => false
    | current, .failed => !current.terminal
    | current, .terminated => !current.terminal
    | .requested, .bound => true
    | .requested, .running => true
    | .requested, .sleeping => true
    | .requested, .paused => true
    | .bound, .running => true
    | .bound, .paused => true
    | .bound, .sleeping => true
    | .running, .paused => true
    | .running, .sleeping => true
    | .paused, .running => true
    | .paused, .sleeping => true
    | .sleeping, .running => true
    | .sleeping, .paused => true
    | _, _ => false

/-- What the record found for the request's own sandbox ID says against the event. -/
def fence (existing : Option Sandbox) (event : SandboxEvent) : Except String Unit :=
  match existing with
  | none => .ok ()
  | some sandbox =>
    if event.generation < sandbox.generation then .error "sandbox event generation must not go backwards"
    else if event.generation = sandbox.generation ∧ allowedTransition sandbox.state event.state = false then
      .error "sandbox event transition is not allowed"
    else .ok ()

def eventOrDefaultShare (event : SandboxEvent) (binding : Binding) (unit : RuntimeUnit) (manifest : Manifest)
    (existing : Option Sandbox) : Nat :=
  match event.share, existing, binding.accelerator_units with
  | some share, _, _ => share
  | none, some sandbox, _ => sandbox.share
  | none, none, some units => units
  | none, none, none => if unit.accelerator_units ≠ 0 then unit.accelerator_units else manifest.accelerator_units

def eventOrDefaultPriority (event : SandboxEvent) (unit : RuntimeUnit) (manifest : Manifest) (existing : Option Sandbox) : Int :=
  match event.priority, existing with
  | some priority, _ => priority
  | none, some sandbox => sandbox.priority
  | none, none => unit.priority.getD manifest.priority

def eventOrDefaultOffloaded (event : SandboxEvent) (existing : Option Sandbox) : Bool :=
  match event.offloaded, existing with
  | some offloaded, _ => offloaded
  | none, some sandbox => sandbox.offloaded
  | none, none => event.state = .sleeping

/-- The sandbox record an event leaves. -/
def observedSandbox (now : Nat) (event : SandboxEvent) (unit : RuntimeUnit) (manifest : Manifest) (existing : Option Sandbox) :
    Sandbox where
  sandbox_id := event.sandbox_id
  state := event.state
  generation := event.generation
  binding := event.binding.getD ⟨"","","",[],none⟩
  share := eventOrDefaultShare event (event.binding.getD ⟨"","","",[],none⟩) unit manifest existing
  priority := eventOrDefaultPriority event unit manifest existing
  safe_point := event.safe_point
  offloaded := eventOrDefaultOffloaded event existing
  observed_at := event.occurred_at
  data_kind := if event.data_kind ≠ 0 then event.data_kind else manifest.data_kind
  last_confirmed_at := now
  state_changed_at :=
    match existing with
    | none => some now
    | some sandbox =>
      if sandbox.generation ≠ event.generation ∨ sandbox.state ≠ event.state then some now
      -- a record without a transition time has its observation time as one
      else sandbox.state_changed_at.or sandbox.observed_at

/-- The current-generation sandboxes of a unit. -/
def targets (sandboxes : List Sandbox) (unit : RuntimeUnit) : List Sandbox :=
  sandboxes.filter (fun sandbox => sandbox.binding.unit = unit.runtime_unit_id && sandbox.sandbox_id ≠ "" &&
    sandbox.generation = unit.generation)

/-- `RuntimeOracle.project` for one unit. -/
def projectUnit (sandboxes : List Sandbox) (unit : RuntimeUnit) : Except String RuntimeUnit :=
  if unit.runtime_unit_id = "" then .ok unit
  else match ((targets sandboxes unit).map Sandbox.sandbox_id).insertionSort (· ≤ ·) with
    | [] => .ok unit
    | first :: rest =>
      match unit.unit_count with
      | none => .error unit.runtime_unit_id
      | some count =>
        let states := (targets sandboxes unit).map Sandbox.state
        let state :=
          if .failed ∈ states then RuntimeState.failed
          else if count = rest.length + 1 ∧ states.all (fun state => state = states.headD .unknown) then states.headD .unknown
          else .unknown
        .ok { unit with state := state, sandbox_id := first }

/-- The unit an event is about. -/
def Run.unitFor (run : Run) (event : SandboxEvent) : Option RuntimeUnit :=
  let name := (event.binding.getD ⟨"","","",[],none⟩).unit
  if name ≠ "" then run.units.find? (fun unit => unit.runtime_unit_id = name)
  else run.units.find? (fun unit => unit.sandbox_id = event.sandbox_id)

/-- The event with the sandbox ID of its unit where it has none. -/
def SandboxEvent.complete (event : SandboxEvent) (unit : RuntimeUnit) : SandboxEvent :=
  if event.sandbox_id = "" then { event with sandbox_id := unit.sandbox_id } else event

/-- The unit's generation follows the event's. -/
def raiseGeneration (event : SandboxEvent) (name : String) (unit : RuntimeUnit) : RuntimeUnit :=
  if unit.runtime_unit_id = name then { unit with generation := max unit.generation event.generation } else unit

/-- The sandboxes of the run after an event. -/
def Run.sandboxesAfter (run : Run) (now : Nat) (request : SandboxEvent) (unit : RuntimeUnit) : Map String Sandbox :=
  run.sandboxes.insert (request.complete unit).sandbox_id
    (observedSandbox now (request.complete unit) unit run.manifest (run.sandboxes.lookup request.sandbox_id))

/-- The units of the run after an event, projected from its sandboxes. -/
def Run.unitsAfter (run : Run) (now : Nat) (request : SandboxEvent) (unit : RuntimeUnit) : Except String (List RuntimeUnit) :=
  (run.units.map (raiseGeneration request unit.runtime_unit_id)).mapM
    (projectUnit (run.sandboxesAfter now request unit).values)

def Run.observe (run : Run) (now : Nat) (request : SandboxEvent) (unit : RuntimeUnit) (projected : List RuntimeUnit) : Run :=
  { run with
    units := projected
    sandboxes := run.sandboxesAfter now request unit
    events := run.events.insert request.event_id (request.complete unit) }

def Run.publishSandboxEvent (run : Run) (now : Nat) (request : SandboxEvent) : Run × Except String SandboxEvent :=
  match run.events.lookup request.event_id with
  | some stored =>
    if stored = request then (run,.ok stored)
    else (run,.error ("sandbox event " ++ request.event_id ++ " already exists with different payload"))
  | none =>
    match run.unitFor request with
    | none => (run,.error "unknown runtime unit")
    | some unit =>
      match fence (run.sandboxes.lookup request.sandbox_id) request with
      | .error message => (run,.error message)
      | .ok _ =>
        match run.unitsAfter now request unit with
        | .error message => (run,.error message)
        | .ok projected => (run.observe now request unit projected,.ok (request.complete unit))

/-- A new event that is accepted, with the unit it is about and the units it leaves. -/
structure Accepted (run : Run) (now : Nat) (request : SandboxEvent) (unit : RuntimeUnit) (projected : List RuntimeUnit) :
    Prop where
  new : run.events.lookup request.event_id = none
  bound : run.unitFor request = some unit
  fenced : fence (run.sandboxes.lookup request.sandbox_id) request = .ok ()
  projects : run.unitsAfter now request unit = .ok projected

section Publish
variable {run : Run} {now : Nat} {request : SandboxEvent} {unit : RuntimeUnit} {projected : List RuntimeUnit}

theorem Accepted.publish (accepted : Accepted run now request unit projected) :
    run.publishSandboxEvent now request = (run.observe now request unit projected,.ok (request.complete unit)) := by
  simp [Run.publishSandboxEvent,accepted.new,accepted.bound,accepted.fenced,accepted.projects]

theorem publish_cases (run : Run) (now : Nat) (request : SandboxEvent) :
    (∃ message, run.publishSandboxEvent now request = (run,.error message)) ∨
    (run.events.lookup request.event_id = some request ∧ run.publishSandboxEvent now request = (run,.ok request)) ∨
    ∃ unit projected, Accepted run now request unit projected := by
  unfold Run.publishSandboxEvent
  cases found : run.events.lookup request.event_id with
  | some stored =>
    by_cases same : stored = request
    · subst same
      exact .inr (.inl ⟨rfl,by simp⟩)
    · exact .inl ⟨_,by simp only [same,if_false]; rfl⟩
  | none =>
    cases bound : run.unitFor request with
    | none => exact .inl ⟨_,rfl⟩
    | some unit =>
      cases fenced : fence (run.sandboxes.lookup request.sandbox_id) request with
      | error message => exact .inl ⟨message,rfl⟩
      | ok passed =>
        cases projects : run.unitsAfter now request unit with
        | error message => exact .inl ⟨message,by simp only [projects]⟩
        | ok projected => exact .inr (.inr ⟨unit,projected,found,bound,fenced,projects⟩)

end Publish

structure Request where
  now : Nat
  event : SandboxEvent

def Run.step (run : Run) (r : Request) : Run := (run.publishSandboxEvent r.now r.event).1

/-- No generation decreases, and a terminal state is left only with a higher one. -/
def NotBack (before after : Run) : Prop :=
  ∀ id old, before.sandboxes.lookup id = some old → ∃ new, after.sandboxes.lookup id = some new ∧
    old.generation ≤ new.generation ∧ (old.state.terminal = true → new.state ≠ old.state → old.generation < new.generation)

/-- Publishing the event changes nothing and returns the stored event. -/
def Repeats (run : Run) (event : SandboxEvent) : Prop :=
  ∃ stored, run.events.lookup event.event_id = some stored ∧ ∀ now, run.publishSandboxEvent now event = (run,.ok stored)

/-- Observed state never goes back in a run, and events that it accepted are recognised from then on. -/
def NeverBack (run : Run) (requests : List Request) : Prop :=
  ∀ first r rest, requests = first ++ r :: rest →
    NotBack (Loops.run Run.step run first) ((Loops.run Run.step run first).step r) ∧
    (((Loops.run Run.step run first).publishSandboxEvent r.now r.event).2.isOk = true →
      ∀ between, between <+: rest → Repeats (Loops.run Run.step run (first ++ r :: between)) r.event)

/-- A new event that is accepted names its sandbox, or its unit has none yet. -/
def NamesSandbox (run : Run) (r : Request) : Prop :=
  ∀ unit projected, Accepted run r.now r.event unit projected → r.event.sandbox_id ≠ "" ∨ unit.sandbox_id = ""

section NeverBack
variable {run : Run} {now : Nat} {request : SandboxEvent} {unit : RuntimeUnit} {projected : List RuntimeUnit}

theorem terminal_stays {current next : RuntimeState} (terminal : current.terminal = true)
    (allowed : allowedTransition current next = true) : next = current := by
  by_contra changed
  cases current with
  | failed => cases next <;> simp_all [allowedTransition,RuntimeState.terminal]
  | terminated => cases next <;> simp_all [allowedTransition]
  | _ => simp [RuntimeState.terminal] at terminal

theorem fence_ok {old : Sandbox} {event : SandboxEvent} (passed : fence (some old) event = .ok ()) :
    old.generation ≤ event.generation ∧
      (old.state.terminal = true → event.state ≠ old.state → old.generation < event.generation) := by
  unfold fence at passed
  by_cases lower : event.generation < old.generation
  · simp [lower] at passed
  · refine ⟨by omega,fun terminal changed => ?_⟩
    by_contra same
    have equal : event.generation = old.generation := by omega
    have refused : allowedTransition old.state event.state = false := by
      by_contra allowed
      exact changed (terminal_stays terminal (by simpa using allowed))
    simp [equal,refused] at passed

theorem complete_eq_iff : request.complete unit = request ↔ request.sandbox_id ≠ "" ∨ unit.sandbox_id = "" := by
  unfold SandboxEvent.complete
  by_cases named : request.sandbox_id = ""
  · rw [if_pos named]
    constructor
    · intro same
      refine .inr ?_
      rw [← named]
      exact congrArg SandboxEvent.sandbox_id same
    · rintro (other | none)
      · exact absurd named other
      · rw [none,← named]
  · simp [named]

theorem repeats_iff {event : SandboxEvent} : Repeats run event ↔ run.events.lookup event.event_id = some event := by
  constructor
  · rintro ⟨stored,found,again⟩
    have reply := again 0
    unfold Run.publishSandboxEvent at reply
    by_cases same : stored = event
    · rw [← same] at found ⊢
      exact found
    · simp [found,same] at reply
  · intro found
    exact ⟨event,found,fun now => by simp [Run.publishSandboxEvent,found]⟩

theorem step_run_of_refused {r : Request} {answer : Except String SandboxEvent}
    (same : run.publishSandboxEvent r.now r.event = (run,answer)) : run.step r = run := by
  rw [Run.step,same]

theorem Accepted.step {r : Request} (accepted : Accepted run r.now r.event unit projected) :
    run.step r = run.observe r.now r.event unit projected := by
  rw [Run.step,accepted.publish]

theorem step_events {id : String} {stored : SandboxEvent} (held : run.events.lookup id = some stored) (r : Request) :
    (run.step r).events.lookup id = some stored := by
  rcases publish_cases run r.now r.event with ⟨message,refused⟩ | ⟨-,again⟩ | ⟨unit,projected,accepted⟩
  · rw [step_run_of_refused refused]
    exact held
  · rw [step_run_of_refused again]
    exact held
  · rw [accepted.step]
    have other : id ≠ r.event.event_id := by
      rintro rfl
      rw [accepted.new] at held
      cases held
    exact (AList.lookup_insert_ne other).trans held

theorem notBack_refl (run : Run) : NotBack run run :=
  fun _ old held => ⟨old,held,le_refl _,fun _ changed => absurd rfl changed⟩

theorem Accepted.notBack (accepted : Accepted run now request unit projected) (named : request.complete unit = request) :
    NotBack run (run.observe now request unit projected) := by
  intro id old held
  have written : (run.observe now request unit projected).sandboxes = run.sandboxes.insert request.sandbox_id
      (observedSandbox now request unit run.manifest (run.sandboxes.lookup request.sandbox_id)) := by
    simp only [Run.observe,Run.sandboxesAfter,named]
  rw [written]
  by_cases same : id = request.sandbox_id
  · subst same
    refine ⟨_,AList.lookup_insert _,?_⟩
    have passed := accepted.fenced
    rw [held] at passed
    exact fence_ok passed
  · exact ⟨old,by rw [AList.lookup_insert_ne same]; exact held,le_refl _,fun _ changed => absurd rfl changed⟩

theorem step_notBack_iff (run : Run) (r : Request) :
    (NotBack run (run.step r) ∧ ((run.publishSandboxEvent r.now r.event).2.isOk = true → Repeats (run.step r) r.event)) ↔
      NamesSandbox run r := by
  rcases publish_cases run r.now r.event with ⟨message,refused⟩ | ⟨held,again⟩ | ⟨unit,projected,accepted⟩
  · rw [step_run_of_refused refused,refused]
    refine ⟨fun _ unit projected accepted => ?_,fun _ => ⟨notBack_refl run,by simp [Except.isOk,Except.toBool]⟩⟩
    rw [accepted.publish] at refused
    exact absurd (congrArg Prod.snd refused) (by simp)
  · rw [step_run_of_refused again]
    refine ⟨fun _ unit projected accepted => ?_,fun _ => ⟨notBack_refl run,fun _ => repeats_iff.mpr held⟩⟩
    rw [accepted.new] at held
    cases held
  · have stored : (run.step r).events.lookup r.event.event_id = some (r.event.complete unit) := by
      rw [accepted.step]
      exact AList.lookup_insert _
    constructor
    · rintro ⟨-,recognised⟩ unit' projected' accepted'
      obtain rfl := Option.some.inj (accepted.bound.symm.trans accepted'.bound)
      have again := repeats_iff.mp (recognised (by simp [accepted.publish,Except.isOk,Except.toBool]))
      rw [stored] at again
      exact complete_eq_iff.mp (Option.some.inj again)
    · intro names
      have named := complete_eq_iff.mpr (names unit projected accepted)
      refine ⟨?_,fun _ => repeats_iff.mpr (by rw [stored,named])⟩
      rw [accepted.step]
      exact accepted.notBack named

end NeverBack

/-- Observed state never goes back and accepted events stay recognised exactly in the runs whose new events name their
sandbox or are bound to a unit without one. -/
theorem sandbox_never_back_iff (run : Run) (requests : List Request) :
    NeverBack run requests ↔ Guarded Run.step NamesSandbox run requests := by
  have local_iff : NeverBack run requests ↔ ∀ before r after, requests = before ++ r :: after →
      NotBack (Loops.run Run.step run before) ((Loops.run Run.step run before).step r) ∧
      (((Loops.run Run.step run before).publishSandboxEvent r.now r.event).2.isOk = true →
        Repeats ((Loops.run Run.step run before).step r) r.event) := by
    constructor
    · intro never before r after split
      obtain ⟨kept,again⟩ := never before r after split
      refine ⟨kept,fun ok => ?_⟩
      have now := again ok [] List.nil_prefix
      rwa [run_append] at now
    · intro here before r after split
      obtain ⟨kept,again⟩ := here before r after split
      refine ⟨kept,fun ok between _ => repeats_iff.mpr ?_⟩
      have held := repeats_iff.mp (again ok)
      rw [run_append,run_cons]
      exact @run_keeps _ _ Run.step (fun s => s.events.lookup r.event.event_id = some r.event)
        (fun s next held => step_events held next) _ held between
  rw [local_iff]
  exact along_iff_guarded (fun s r (_ : True) => step_notBack_iff s r) (fun _ _ _ _ => trivial) trivial requests

def demoRun : Run := ⟨⟨0,1,1⟩,[⟨"unit","",1,.requested,some 1,1,none⟩],∅,∅⟩

/-- An event of a sandbox that carries its binding. -/
def boundEvent (event_id sandbox_id : String) (state : RuntimeState) (generation : Nat) : Request :=
  ⟨0,⟨event_id,sandbox_id,state,generation,some ⟨"binding","unit","",[],none⟩,none,none,none,false,none,0,""⟩⟩

/-- The sandbox is terminated at generation 2; an event without sandbox ID then takes its record back to generation 1 and
RUNNING, and is refused when it is published again. -/
theorem unnamed_event_goes_back :
    let ended := demoRun.step (boundEvent "first" "box" .terminated 2)
    let unnamed := boundEvent "second" "" .running 1
    let back := ended.step unnamed
    (ended.sandboxes.lookup "box").map (fun s => (s.state,s.generation)) = some (.terminated,2) ∧
    (back.sandboxes.lookup "box").map (fun s => (s.state,s.generation)) = some (.running,1) ∧
    (back.publishSandboxEvent 0 unnamed.event).2 =
      .error "sandbox event second already exists with different payload" ∧
    ¬ NeverBack demoRun [boundEvent "first" "box" .terminated 2,unnamed] := by
  intro ended unnamed back
  have refused : (back.publishSandboxEvent 0 unnamed.event).2 =
      .error "sandbox event second already exists with different payload" := by decide
  refine ⟨by decide,by decide,refused,fun never => ?_⟩
  obtain ⟨stored,-,again⟩ := (never [_] unnamed [] rfl).2 (by decide) [] List.nil_prefix
  have reply : back.publishSandboxEvent 0 unnamed.event = (back,.ok stored) := again 0
  rw [reply] at refused
  cases refused

end TgsRl.SandboxEvents
