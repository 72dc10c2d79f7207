import TgsRl.Jobs
import TgsRl.Loops

/-!
The observation manager of `operator-go`, for one bundle. A snapshot that is projected to a new
state is saved as pending, published for every binding, and then becomes the last state; terminal
ones end in a cleanup and in the deletion of the registration. While a state is pending, snapshots
of any other state are ignored, also after a restart (`termination_hidden`).
-/
namespace TgsRl.ObservationManager
open Messages Jobs Loops

structure Binding where
  bindingId : String
  pendingUnitId : String
  runtimeUnitId : String
  sandboxId : String
  generation : Nat
  deviceIds : List String
  acceleratorUnits : Rat
  deriving DecidableEq, Repr

structure Action where
  actionId : String
  actionType : ActionType
  idempotencyKey : String
  bindingId : String
  sandboxId : String
  targetId : String
  share : Rat
  priority : Int
  deriving DecidableEq, Repr

structure ActionResult where
  actionId : String
  idempotencyKey : String
  observedRevision : Nat
  observedGeneration : Nat
  deriving DecidableEq, Repr

/-- A decision with its selected plan; its ID is a prefix and a hash in hexadecimal digits. -/
structure Decision where
  decisionId : String
  plain : ':' ∉ decisionId.toList
  planId : String
  sequence : Nat
  generation : Nat
  planGeneration : Nat
  dataKind : DataKind
  actionResults : List ActionResult
  actions : List Action
  bindings : List Binding
  deriving DecidableEq, Repr

structure JobRun where
  runId : String
  jobId : String
  traceId : String
  deriving DecidableEq, Repr

def decisionGeneration (decision : Decision) : Nat :=
  ((decision.generation :: decision.planGeneration :: decision.actionResults.map (·.observedGeneration)).find? (fun generation =>
    decide (generation ≠ 0))).getD 1

/-- `claimRequired`: the bundle has a resource claim, a template of one, or a HAMi profile. -/
structure Bundle where
  fingerprint : String
  generation : Nat
  claimRequired : Bool
  deriving DecidableEq, Repr

/-- The committed control request that a state answers. -/
structure Control where
  key : String
  revision : Nat
  requestID : String
  deriving DecidableEq, Repr

structure Registration where
  bundle : Bundle
  decision : Decision
  jobRun : JobRun
  publishedEventIDs : List String
  lastState : RuntimeState
  pendingState : RuntimeState
  transition : Nat
  publishedStates : RuntimeState → Nat
  pendingObservedAt : Option Int
  pendingDetail : String
  pendingControl : Control

def noControl : Control := ⟨"",0,""⟩

/-- A registration as a worker hands it over, and as it is recovered from a bundle. -/
def fresh (bundle : Bundle) (decision : Decision) (jobRun : JobRun) : Registration :=
  { bundle, decision, jobRun, publishedEventIDs := [], lastState := .unknown, pendingState := .unknown, transition := 0
    publishedStates := fun _ => 0, pendingObservedAt := none, pendingDetail := "", pendingControl := noControl }

def sameRegistration (left right : Registration) : Bool :=
  decide (left.decision.decisionId = right.decision.decisionId ∧
    decisionGeneration left.decision = decisionGeneration right.decision ∧ left.decision.planId = right.decision.planId ∧
    ¬ (left.decision.sequence ≠ 0 ∧ right.decision.sequence ≠ 0 ∧ left.decision.sequence ≠ right.decision.sequence) ∧
    left.bundle.fingerprint = right.bundle.fingerprint)

/-- What `Register` saves. -/
def register (existing : Option Registration) (incoming : Registration) : Except String Registration :=
  match existing with
  | none => .ok incoming
  | some existing =>
    if sameRegistration existing incoming then .ok existing
    else if existing.decision.sequence < incoming.decision.sequence then
      let incoming := { incoming with publishedEventIDs := existing.publishedEventIDs }
      .ok (if existing.bundle.generation = incoming.bundle.generation then
        { incoming with
          lastState := existing.lastState, publishedStates := existing.publishedStates, transition := existing.transition }
        else incoming)
    else .error "registration conflicts with existing bundle identity"

structure Snapshot where
  observedGeneration : Nat
  workloadAdmitted : Bool
  resourceClaimsAllocated : Bool
  allocatedDeviceIDs : List String
  jobActive : Nat
  workerRegistrationRequired : Bool
  podReady : Bool
  jobSucceeded : Nat
  jobFailed : Nat
  jobPaused : Bool
  jobDeleted : Bool
  reason : String
  observedAt : Option Int
  control : Control
  controlAction : JobCommandType
  controlCommitted : Bool
  controlRetireRun : Bool
  deriving DecidableEq, Repr

inductive EventType where
  | unknown | bound | running | paused | failed | terminated
  deriving DecidableEq, Repr

def EventType.text : EventType → String
  | .unknown => "SANDBOX_EVENT_TYPE_UNKNOWN"
  | .bound => "SANDBOX_EVENT_TYPE_BOUND"
  | .running => "SANDBOX_EVENT_TYPE_RUNNING"
  | .paused => "SANDBOX_EVENT_TYPE_PAUSED"
  | .failed => "SANDBOX_EVENT_TYPE_FAILED"
  | .terminated => "SANDBOX_EVENT_TYPE_TERMINATED"

structure Projection where
  eventType : EventType
  state : RuntimeState
  detail : String
  ready : Bool
  deriving DecidableEq, Repr

def defaultDetail (value fallback : String) : String := if value ≠ "" then value else fallback

def project (snapshot : Snapshot) (claimRequired : Bool) : Projection :=
  let detail := defaultDetail snapshot.reason
  let bound := snapshot.workloadAdmitted && (!claimRequired || snapshot.resourceClaimsAllocated)
  if snapshot.jobDeleted then ⟨.terminated,.terminated,detail "kubernetes job deleted",true⟩
  else if 0 < snapshot.jobFailed then ⟨.failed,.failed,detail "kubernetes job failed",true⟩
  else if 0 < snapshot.jobSucceeded then ⟨.terminated,.terminated,detail "kubernetes job succeeded",true⟩
  else if snapshot.jobPaused ∧ snapshot.controlCommitted ∧ snapshot.controlAction = .pause then
    ⟨.paused,.paused,detail "kubernetes job suspended",true⟩
  else if bound ∧ 0 < snapshot.jobActive ∧ (snapshot.workerRegistrationRequired = false ∨ snapshot.podReady) then
    ⟨.running,.running,detail "kubernetes job is active",true⟩
  else if bound then ⟨.bound,.bound,detail "workload admitted and resources allocated",true⟩
  else ⟨.unknown,.unknown,detail "waiting for workload admission and resource allocation",false⟩

def controlMatchesProjection (action : JobCommandType) (state : RuntimeState) : Bool :=
  match action with
  | .pause => decide (state = .paused)
  | .resume => decide (state = .running)
  | .stop | .terminate => decide (state = .terminated)
  | _ => false

def shouldPublishTransition (last pending next : RuntimeState) : Bool :=
  if pending ≠ .unknown then decide (pending = next)
  else if next = last then false
  else !(decide (next = .bound) && decide (last ≠ .unknown))

/-- `runRetirement`: the attribute of the semantic context that says whether the run was retired. -/
structure SandboxEvent where
  decisionId : String
  planId : String
  eventType : EventType
  generation : Nat
  transition : Nat
  sandboxId : String
  runtimeUnitId : String
  runId : String
  jobId : String
  traceId : String
  state : RuntimeState
  binding : Binding
  detail : String
  occurredAt : Int
  dataKind : DataKind
  actionId : String
  providerRevision : Nat
  idempotencyKey : String
  share : Option Rat
  priority : Option Int
  offloaded : Option Bool
  runRetirement : Option Bool
  deriving DecidableEq, Repr

def SandboxEvent.bindingId (event : SandboxEvent) : String := event.binding.bindingId

def SandboxEvent.eventId (event : SandboxEvent) : String :=
  event.decisionId ++ ":" ++ event.eventType.text ++ ":" ++ toString event.generation ++ ":" ++ event.bindingId ++
    if 1 < event.transition then ":transition:" ++ toString event.transition else ""

def runtimeUnitID (binding : Binding) : String := if binding.runtimeUnitId ≠ "" then binding.runtimeUnitId else binding.pendingUnitId

def sandboxID (binding : Binding) : String :=
  if binding.sandboxId ≠ "" then binding.sandboxId
  else if binding.bindingId ≠ "" then "sandbox-" ++ binding.bindingId
  else "sandbox-unknown"

def causalAction (decision : Decision) (binding : Binding) : Option Action × Nat :=
  match decision.actions.find? (fun action => decide (action.bindingId = binding.bindingId ∨ action.sandboxId = binding.sandboxId ∨
      action.targetId = runtimeUnitID binding)) with
  | none => (none,0)
  | some action => match decision.actionResults.find? (fun result => decide (result.actionId = action.actionId)) with
    | none => (some action,0)
    | some result =>
      (some (if action.idempotencyKey = "" then { action with idempotencyKey := result.idempotencyKey } else action),
        result.observedRevision)

/-- What the action says of the share, the priority and the offloading. -/
def observedActionState (action : Option Action) (binding : Binding) : Option Rat × Option Int × Option Bool :=
  match action with
  | none => (none,none,none)
  | some action => match action.actionType with
    | .bind => (some binding.acceleratorUnits,some action.priority,some false)
    | .setShare => (some action.share,none,none)
    | .setPriority => (none,some action.priority,none)
    | .resume => (none,none,some false)
    | .offload => (none,none,some true)
    | _ => (none,none,none)

def isTerminal (state : RuntimeState) : Bool := decide (state = .terminated ∨ state = .failed)

/-- The binding with the devices that the snapshot shows. -/
def observedBinding (snapshot : Snapshot) (binding : Binding) : Binding :=
  if snapshot.allocatedDeviceIDs = [] then binding else { binding with deviceIds := snapshot.allocatedDeviceIDs }

/-- Whether an end retires the run, as far as the snapshot shows it. -/
def observedRetirement (snapshot : Snapshot) (state : RuntimeState) : Option Bool :=
  if isTerminal state = true ∧ snapshot.controlCommitted = true then some snapshot.controlRetireRun else none

/-- `BuildSandboxEvent`, with what `publishSnapshot` sets in the event. -/
def eventFor (reg : Registration) (snapshot : Snapshot) (projection : Projection) (binding : Binding) : SandboxEvent :=
  let caused := causalAction reg.decision binding
  let controlled := reg.pendingControl.key ≠ ""
  { decisionId := reg.decision.decisionId, planId := reg.decision.planId, eventType := projection.eventType
    generation := ([binding.generation,reg.decision.generation].find? (fun generation => decide (generation ≠ 0))).getD 1
    transition := reg.transition, sandboxId := sandboxID binding, runtimeUnitId := runtimeUnitID binding
    runId := reg.jobRun.runId, jobId := reg.jobRun.jobId, traceId := reg.jobRun.traceId
    state := projection.state, binding := observedBinding snapshot binding
    detail := if controlled ∧ reg.pendingControl.requestID ≠ "" then
        reg.pendingDetail ++ " (request " ++ reg.pendingControl.requestID ++ ")" else reg.pendingDetail
    occurredAt := reg.pendingObservedAt.getD 0, dataKind := reg.decision.dataKind
    actionId := (caused.1.map (·.actionId)).getD ""
    providerRevision := if controlled then reg.pendingControl.revision else caused.2
    idempotencyKey := if controlled then reg.pendingControl.key else (caused.1.map (·.idempotencyKey)).getD ""
    share := (observedActionState caused.1 binding).1, priority := (observedActionState caused.1 binding).2.1
    offloaded := (observedActionState caused.1 binding).2.2
    runRetirement := observedRetirement snapshot projection.state }

/-- The registration in memory, the saved one, what has been published, and how many of the writes, publications and
    cleanups to come succeed (`none`: all of them) before one fails or the process crashes. -/
structure Pass where
  reg : Registration
  stored : Registration
  log : List SandboxEvent
  budget : Option Nat

/-- One operation that may fail; a failure leaves what has been done. -/
def Pass.attempt (p : Pass) : Except Pass Pass :=
  match p.budget with
  | none => .ok p
  | some 0 => .error p
  | some (n + 1) => .ok { p with budget := some n }

def Pass.save (p : Pass) : Except Pass Pass := p.attempt.map (fun p => { p with stored := p.reg })

def Pass.saveIf (p : Pass) (needed : Bool) : Except Pass Pass := if needed then p.save else .ok p

def Pass.publish (p : Pass) (event : SandboxEvent) : Except Pass Pass :=
  p.attempt.map (fun p => { p with
    log := p.log ++ [event]
    reg := { p.reg with publishedEventIDs := p.reg.publishedEventIDs ++ [event.eventId] } })

def publishBindings (snapshot : Snapshot) (projection : Projection) : List Binding → Pass → Except Pass Pass
  | [],p => .ok p
  | binding :: rest,p =>
    let event := eventFor p.reg snapshot projection binding
    if event.eventId ∈ p.reg.publishedEventIDs then publishBindings snapshot projection rest p
    else match p.publish event with
      | .error p => .error p
      | .ok p => match p.save with
        | .error p => .error p
        | .ok p => publishBindings snapshot projection rest p

/-- The time, the detail and the control request of a pending state; `now` stands in for a missing time. -/
def withObserved (reg : Registration) (snapshot : Snapshot) (projection : Projection) (now : Int) : Registration :=
  { reg with
    pendingObservedAt := some (snapshot.observedAt.getD now)
    pendingDetail := projection.detail
    pendingControl := if snapshot.controlCommitted ∧ controlMatchesProjection snapshot.controlAction projection.state then
      snapshot.control else reg.pendingControl }

/-- The registration with the projected state pending, and whether it has to be saved. -/
def pend (reg : Registration) (snapshot : Snapshot) (projection : Projection) (now : Int) : Registration × Bool :=
  if reg.pendingState = .unknown then
    (withObserved { reg with
      pendingState := projection.state, transition := reg.publishedStates projection.state + 1 } snapshot projection now,true)
  else if reg.pendingObservedAt = none then (withObserved reg snapshot projection now,true)
  else (reg,false)

def settle (reg : Registration) (state : RuntimeState) : Registration :=
  { reg with
    lastState := state
    publishedStates := Function.update reg.publishedStates state reg.transition
    pendingState := .unknown, pendingObservedAt := none, pendingDetail := "", pendingControl := noControl }

/-- The result says whether the registration is to be deleted. -/
def publishSnapshot (p : Pass) (snapshot : Snapshot) (now : Int) : Except Pass (Pass × Bool) :=
  let projection := project snapshot p.reg.bundle.claimRequired
  if snapshot.observedGeneration < decisionGeneration p.reg.decision ∨ projection.ready = false ∨
      shouldPublishTransition p.reg.lastState p.reg.pendingState projection.state = false then .ok (p,false)
  else do
    let pended := pend p.reg snapshot projection now
    let p ← { p with reg := pended.1 }.saveIf pended.2
    let p ← publishBindings snapshot projection p.reg.decision.bindings p
    if isTerminal projection.state then
      let p ← p.attempt
      .ok (p,true)
    else
      let p ← { p with reg := settle p.reg projection.state }.save
      .ok (p,false)

/-- The saved registration of the bundle, and all that has been published. -/
structure World where
  registration : Option Registration
  log : List SandboxEvent

inductive Step where
  | register (bundle : Bundle) (decision : Decision) (jobRun : JobRun) (saved : Bool)
  /-- The watch receives a snapshot; a watch that begins again reads the saved registration. -/
  | observe (snapshot : Snapshot) (now : Int) (budget : Option Nat)
  /-- The bundle is gone, and so is its registration. -/
  | absent

def World.step (w : World) : Step → World
  | .register bundle decision jobRun saved => match register w.registration (fresh bundle decision jobRun) with
    | .error _ => w
    | .ok registration => if saved then { w with registration := some registration } else w
  | .observe snapshot now budget => match w.registration with
    | none => w
    | some reg => match publishSnapshot ⟨reg,reg,w.log,budget⟩ snapshot now with
      | .error p => ⟨some p.stored,p.log⟩
      | .ok (p,false) => ⟨some p.stored,p.log⟩
      | .ok (p,true) => match p.attempt with
        | .error p => ⟨some p.stored,p.log⟩
        | .ok p => ⟨none,p.log⟩
  | .absent => { w with registration := none }

def World.empty : World := ⟨none,[]⟩

theorem split_colon {a a' r r' : List Char} (plain : ':' ∉ a) (plain' : ':' ∉ a') (same : a ++ ':' :: r = a' ++ ':' :: r') :
    a = a' ∧ r = r' := by
  induction a generalizing a' with
  | nil => cases a' <;> simp_all
  | cons c a ih =>
    cases a' with
    | nil =>
      rw [List.cons_append,List.nil_append,List.cons.injEq] at same
      exact absurd (by simp [same.1]) plain
    | cons d a' =>
      simp only [List.cons_append,List.cons.injEq,List.mem_cons,not_or] at *
      obtain ⟨rfl,later⟩ := ih plain.2 plain'.2 same.2
      exact ⟨⟨same.1,rfl⟩,later⟩

theorem text_plain (type : EventType) : ':' ∉ type.text.toList := by cases type <;> decide

theorem text_injective {a b : EventType} (same : a.text = b.text) : a = b := by
  revert same
  cases a <;> cases b <;> decide

theorem digits_plain (n : Nat) : ':' ∉ (toString n).toList := by
  intro member
  have digit := Nat.isDigit_of_mem_toDigits (b := 10) (n := n) (c := ':') (by decide) (by decide)
    (by simpa [Nat.toList_repr] using member)
  revert digit
  decide

theorem eventId_split {e e' : SandboxEvent} (plain : ':' ∉ e.decisionId.toList) (plain' : ':' ∉ e'.decisionId.toList)
    (same : e.eventId = e'.eventId) : e.decisionId = e'.decisionId ∧ e.eventType = e'.eventType ∧
      e.bindingId ++ (if 1 < e.transition then ":transition:" ++ toString e.transition else "") =
        e'.bindingId ++ if 1 < e'.transition then ":transition:" ++ toString e'.transition else "" := by
  have chars := congrArg String.toList same
  simp only [SandboxEvent.eventId,String.toList_append,List.append_assoc,show ":".toList = [':'] from rfl,
    List.singleton_append] at chars
  obtain ⟨decision,chars⟩ := split_colon plain plain' chars
  obtain ⟨type,chars⟩ := split_colon (text_plain _) (text_plain _) chars
  obtain ⟨_,chars⟩ := split_colon (digits_plain _) (digits_plain _) chars
  refine ⟨String.toList_inj.mp decision,text_injective (String.toList_inj.mp type),String.toList_inj.mp ?_⟩
  rw [String.toList_append,String.toList_append]
  exact chars

/-- Events of a first transition are told apart by their decision, type and binding. -/
theorem eventId_same {e e' : SandboxEvent} (plain : ':' ∉ e.decisionId.toList) (plain' : ':' ∉ e'.decisionId.toList)
    (once : e.transition ≤ 1) (once' : e.eventType = e'.eventType → e'.transition ≤ 1) (same : e.eventId = e'.eventId) :
    e.decisionId = e'.decisionId ∧ e.eventType = e'.eventType ∧ e.bindingId = e'.bindingId := by
  obtain ⟨decision,type,rest⟩ := eventId_split plain plain' same
  rw [if_neg (by omega),if_neg (by have := once' type; omega)] at rest
  exact ⟨decision,type,by simpa using rest⟩

def EventType.ends (type : EventType) : Bool := decide (type = .terminated ∨ type = .failed)

/-- Published events of an end are first transitions. -/
def Told (log : List SandboxEvent) : Prop :=
  ∀ e ∈ log, ':' ∉ e.decisionId.toList ∧ (e.eventType.ends = true → e.transition ≤ 1)

structure Kept (log : List SandboxEvent) (reg : Registration) : Prop where
  last : isTerminal reg.lastState = false
  states : ∀ state, isTerminal state = true → reg.publishedStates state = 0
  pending : isTerminal reg.pendingState = true → reg.transition = 1
  ids : ∀ id ∈ reg.publishedEventIDs, ∃ e ∈ log, e.eventId = id

structure Inv (w : World) : Prop where
  told : Told w.log
  kept : ∀ reg, w.registration = some reg → Kept w.log reg

structure Good (transition : Nat) (p : Pass) : Prop where
  told : Told p.log
  reg : Kept p.log p.reg
  stored : Kept p.log p.stored
  same : p.reg.transition = transition

variable {log : List SandboxEvent} {reg : Registration} {P : Pass → Prop} {p : Pass} {w : World} {snapshot : Snapshot}

theorem Kept.more (kept : Kept log reg) (event : SandboxEvent) : Kept (log ++ [event]) reg :=
  { kept with
    ids := fun id member => by
      obtain ⟨e,there,own⟩ := kept.ids id member
      exact ⟨e,by simp [there],own⟩ }

/-- What holds of a pass wherever it ends. -/
def Ends {α : Type} (pick : α → Pass) (P : Pass → Prop) : Except Pass α → Prop
  | .ok a => P (pick a)
  | .error p => P p

theorem Ends.bind {α : Type} {pick : α → Pass} {Q : Pass → Prop} {x : Except Pass Pass} {f : Pass → Except Pass α}
    (first : Ends id Q x) (failed : ∀ p, Q p → P p) (next : ∀ p, Q p → Ends pick P (f p)) : Ends pick P (x >>= f) := by
  cases x with
  | ok p => exact next p first
  | error p => exact failed p first

theorem attempt_ends (all : ∀ budget, P { p with budget }) : Ends id P p.attempt := by
  unfold Pass.attempt
  split
  · exact all p.budget
  · exact all p.budget
  · exact all _

theorem save_ends (before : ∀ budget, P { p with budget }) (after : ∀ budget, P { p with budget, stored := p.reg }) :
    Ends id P p.save := by
  unfold Pass.save Pass.attempt
  split
  · exact after p.budget
  · exact before p.budget
  · exact after _

variable {t : Nat}

theorem Good.saved (good : Good t p) : Ends id (Good t) p.save :=
  save_ends (fun _ => ⟨good.told,good.reg,good.stored,good.same⟩) (fun _ => ⟨good.told,good.reg,good.reg,good.same⟩)

theorem Good.published (good : Good t p) (event : SandboxEvent) (plain : ':' ∉ event.decisionId.toList)
    (once : event.eventType.ends = true → event.transition ≤ 1) : Ends id (Good t) (p.publish event) := by
  have after : ∀ budget, Good t { p with
      budget, log := p.log ++ [event]
      reg := { p.reg with publishedEventIDs := p.reg.publishedEventIDs ++ [event.eventId] } } := by
    intro budget
    refine ⟨?_,{ good.reg.more event with ids := ?_ },good.stored.more event,good.same⟩
    · intro e member
      rcases List.mem_append.mp member with old | new
      · exact good.told e old
      · obtain rfl := List.mem_singleton.mp new
        exact ⟨plain,once⟩
    · intro id member
      rcases List.mem_append.mp member with old | new
      · exact (good.reg.more event).ids id old
      · exact ⟨event,by simp,(List.mem_singleton.mp new).symm⟩
  unfold Pass.publish Pass.attempt
  split
  · exact after p.budget
  · exact ⟨good.told,good.reg,good.stored,good.same⟩
  · exact after _

theorem publishBindings_good (snapshot : Snapshot) {projection : Projection} (once : projection.eventType.ends = true → t ≤ 1)
    (bindings : List Binding) (good : Good t p) : Ends id (Good t) (publishBindings snapshot projection bindings p) := by
  induction bindings generalizing p with
  | nil => exact good
  | cons binding rest ih =>
    rw [publishBindings]
    split
    · exact ih good
    have published := good.published (eventFor p.reg snapshot projection binding) p.reg.decision.plain
      (fun ends => le_of_eq_of_le good.same (once ends))
    split
    · next failed => rw [failed] at published; exact published
    · next p' done =>
      rw [done] at published
      have saved := (show Good t p' from published).saved
      split
      · next failed => rw [failed] at saved; exact saved
      · next done => rw [done] at saved; exact ih saved

theorem project_ends (snapshot : Snapshot) (claimRequired : Bool) :
    (project snapshot claimRequired).eventType.ends = isTerminal (project snapshot claimRequired).state := by
  unfold project
  dsimp only
  repeat' split
  all_goals rfl

/-- A state that becomes pending is a first transition if it is terminal. -/
theorem pend_kept (kept : Kept log reg) (snapshot : Snapshot) (projection : Projection) (now : Int)
    (next : shouldPublishTransition reg.lastState reg.pendingState projection.state = true) :
    Kept log (pend reg snapshot projection now).1 ∧
      (isTerminal projection.state = true → (pend reg snapshot projection now).1.transition = 1) := by
  unfold pend
  split
  · next free =>
    have first : isTerminal projection.state = true → reg.publishedStates projection.state + 1 = 1 := fun ends => by
      rw [kept.states _ ends]
    exact ⟨⟨kept.last,kept.states,first,kept.ids⟩,first⟩
  · next busy =>
    have same : reg.pendingState = projection.state := by simpa [shouldPublishTransition,busy] using next
    split
    · exact ⟨⟨kept.last,kept.states,kept.pending,kept.ids⟩,fun ends => kept.pending (same ▸ ends)⟩
    · exact ⟨kept,fun ends => kept.pending (same ▸ ends)⟩

theorem settle_kept (kept : Kept log reg) {state : RuntimeState} (goes : isTerminal state = false) :
    Kept log (settle reg state) := by
  refine ⟨goes,?_,by simp [settle,isTerminal],kept.ids⟩
  intro other ends
  have apart : other ≠ state := by
    rintro rfl
    rw [goes] at ends
    cases ends
  simpa [settle,Function.update_of_ne apart] using kept.states other ends

theorem publishSnapshot_kept (told : Told p.log) (kept : Kept p.log p.reg) (stored : Kept p.log p.stored) (snapshot : Snapshot)
    (now : Int) : Ends Prod.fst (fun p => Told p.log ∧ Kept p.log p.stored) (publishSnapshot p snapshot now) := by
  unfold publishSnapshot
  dsimp only
  split
  · exact ⟨told,stored⟩
  next passes =>
  simp only [not_or,Bool.not_eq_false] at passes
  obtain ⟨kept,first⟩ := pend_kept kept snapshot (project snapshot p.reg.bundle.claimRequired) now passes.2.2
  generalize pend p.reg snapshot (project snapshot p.reg.bundle.claimRequired) now = pended at *
  generalize hproj : project snapshot p.reg.bundle.claimRequired = projection at *
  have once : projection.eventType.ends = true → pended.1.transition ≤ 1 := by
    intro ends
    rw [← hproj,project_ends,hproj] at ends
    exact (first ends).le
  have good : Good pended.1.transition { p with reg := pended.1 } := ⟨told,kept,stored,rfl⟩
  have weaken : ∀ q, Good pended.1.transition q → Told q.log ∧ Kept q.log q.stored := fun q good => ⟨good.told,good.stored⟩
  refine Ends.bind (Q := Good pended.1.transition) ?_ weaken (fun q good => ?_)
  · unfold Pass.saveIf
    split
    · exact good.saved
    · exact good
  · refine Ends.bind (publishBindings_good snapshot once _ good) weaken (fun q good => ?_)
    split
    · exact Ends.bind (attempt_ends (fun _ => ⟨good.told,good.stored⟩)) (fun _ held => held) (fun _ held => held)
    next goes =>
    have settled := settle_kept good.reg (Bool.eq_false_iff.mpr goes)
    exact Ends.bind (save_ends (fun _ => ⟨good.told,good.stored⟩) (fun _ => ⟨good.told,settled⟩)) (fun _ held => held)
      (fun _ held => held)

theorem register_kept {existing : Option Registration} {bundle : Bundle} {decision : Decision} {jobRun : JobRun}
    (kept : ∀ reg, existing = some reg → Kept log reg) (done : register existing (fresh bundle decision jobRun) = .ok reg) :
    Kept log reg := by
  have new : Kept log (fresh bundle decision jobRun) := ⟨rfl,fun _ _ => rfl,fun ends => (by cases ends),fun _ member => (by cases member)⟩
  unfold register at done
  split at done
  · cases done; exact new
  next old =>
  have held := kept old rfl
  split at done
  · cases done; exact held
  split at done
  · cases done
    dsimp only
    split
    · exact ⟨held.last,held.states,fun ends => (by cases ends),held.ids⟩
    · exact ⟨rfl,fun _ _ => rfl,fun ends => (by cases ends),held.ids⟩
  · cases done

theorem step_inv (inv : Inv w) (a : Step) : Inv (w.step a) := by
  cases a with
  | register bundle decision jobRun saved =>
    rw [World.step]
    split
    · exact inv
    next reg done =>
    split
    · refine ⟨inv.told,fun reg' same => ?_⟩
      cases same
      exact register_kept inv.kept done
    · exact inv
  | observe snapshot now budget =>
    rw [World.step]
    split
    · exact inv
    next reg here =>
    have kept := inv.kept reg here
    have after := publishSnapshot_kept (p := ⟨reg,reg,w.log,budget⟩) inv.told kept kept snapshot now
    split
    · next failed =>
      rw [failed] at after
      exact ⟨after.1,fun reg' same => by cases same; exact after.2⟩
    · next done =>
      rw [done] at after
      exact ⟨after.1,fun reg' same => by cases same; exact after.2⟩
    · next q done =>
      rw [done] at after
      have held : Ends id (fun q => Told q.log ∧ Kept q.log q.stored) q.attempt := attempt_ends (fun _ => after)
      split
      · next failed =>
        rw [failed] at held
        exact ⟨held.1,fun reg' same => by cases same; exact held.2⟩
      · next gone =>
        rw [gone] at held
        exact ⟨held.1,fun reg' same => by cases same⟩
  | absent => exact ⟨inv.told,fun reg' same => by cases same⟩

theorem run_inv (steps : List Step) : Inv (run World.step .empty steps) := by
  have keeps : ∀ w a, Inv w → Inv (World.step w a) := fun _ a inv => step_inv inv a
  have start : Inv .empty := ⟨fun _ member => (by cases member),fun _ same => (by cases same)⟩
  exact run_keeps keeps start steps

theorem ends_first (steps : List Step) :
    let w := run World.step .empty steps
    Told w.log ∧ ∀ reg, w.registration = some reg → ∀ id ∈ reg.publishedEventIDs, ∃ e ∈ w.log, e.eventId = id :=
  ⟨(run_inv steps).told,fun reg held => ((run_inv steps).kept reg held).ids⟩

/-- The job was deleted, failed or succeeded. -/
def Snapshot.terminal (snapshot : Snapshot) : Prop := snapshot.jobDeleted = true ∨ 0 < snapshot.jobFailed ∨ 0 < snapshot.jobSucceeded

theorem project_terminal (terminal : snapshot.terminal) (claimRequired : Bool) :
    (project snapshot claimRequired).ready = true ∧ isTerminal (project snapshot claimRequired).state = true := by
  unfold project
  dsimp only
  split
  · exact ⟨rfl,rfl⟩
  next kept =>
  split
  · exact ⟨rfl,rfl⟩
  next running =>
  rw [if_pos ((terminal.resolve_left kept).resolve_left running)]
  exact ⟨rfl,rfl⟩

/-- What the events of a registration depend on. -/
structure SameEvents (reg reg' : Registration) : Prop where
  decision : reg'.decision = reg.decision
  transition : reg'.transition = reg.transition

theorem observedBinding_id (snapshot : Snapshot) (binding : Binding) :
    (observedBinding snapshot binding).bindingId = binding.bindingId := by
  unfold observedBinding
  split <;> rfl

/-- Where nothing fails, an event with the ID of every binding is published, now or before. -/
theorem publishBindings_all (snapshot : Snapshot) (projection : Projection) (bindings : List Binding) (all : p.budget = none)
    (known : ∀ id ∈ p.reg.publishedEventIDs, ∃ e ∈ p.log, e.eventId = id) :
    ∃ p', publishBindings snapshot projection bindings p = .ok p' ∧ p'.budget = none ∧ SameEvents p.reg p'.reg ∧
      (∀ e ∈ p.log, e ∈ p'.log) ∧
      ∀ binding ∈ bindings, ∃ e ∈ p'.log, e.eventId = (eventFor p.reg snapshot projection binding).eventId := by
  induction bindings generalizing p with
  | nil => exact ⟨p,rfl,all,⟨rfl,rfl⟩,fun _ member => member,by simp⟩
  | cons binding rest ih =>
    rw [publishBindings]
    by_cases told : (eventFor p.reg snapshot projection binding).eventId ∈ p.reg.publishedEventIDs
    · rw [if_pos told]
      obtain ⟨p',done,free,same,grows,each⟩ := ih all known
      refine ⟨p',done,free,same,grows,fun b member => ?_⟩
      rcases List.mem_cons.mp member with rfl | later
      · obtain ⟨e,there,own⟩ := known _ told
        exact ⟨e,grows e there,own⟩
      · exact each b later
    · rw [if_neg told]
      simp only [Pass.publish,Pass.save,Pass.attempt,all,Except.map]
      set event := eventFor p.reg snapshot projection binding
      set reg := { p.reg with publishedEventIDs := p.reg.publishedEventIDs ++ [event.eventId] }
      obtain ⟨p',done,free,same,grows,each⟩ := ih (p := ⟨reg,reg,p.log ++ [event],none⟩) rfl (by
        intro id member
        rcases List.mem_append.mp member with old | new
        · obtain ⟨e,there,own⟩ := known id old
          exact ⟨e,by simp [there],own⟩
        · exact ⟨event,by simp,(List.mem_singleton.mp new).symm⟩)
      refine ⟨p',done,free,⟨same.decision,same.transition⟩,fun e member => grows e (by simp [member]),fun b member => ?_⟩
      rcases List.mem_cons.mp member with rfl | later
      · exact ⟨event,grows event (by simp),rfl⟩
      · exact each b later

theorem terminal_through (inv : Inv w) (here : w.registration = some reg) (terminal : snapshot.terminal)
    (current : decisionGeneration reg.decision ≤ snapshot.observedGeneration) (now : Int)
    (open' : reg.pendingState = .unknown ∨ reg.pendingState = (project snapshot reg.bundle.claimRequired).state) :
    (w.step (.observe snapshot now none)).registration = none ∧
    ∀ binding ∈ reg.decision.bindings, ∃ e ∈ (w.step (.observe snapshot now none)).log,
      e.decisionId = reg.decision.decisionId ∧ e.bindingId = binding.bindingId ∧ e.eventType.ends = true := by
  have after := (step_inv inv (.observe snapshot now none)).told
  obtain ⟨ready,ends⟩ := project_terminal terminal reg.bundle.claimRequired
  have kept := inv.kept reg here
  have passes : shouldPublishTransition reg.lastState reg.pendingState (project snapshot reg.bundle.claimRequired).state = true := by
    unfold shouldPublishTransition
    split
    · next busy => exact decide_eq_true (open'.resolve_left busy)
    · have new : (project snapshot reg.bundle.claimRequired).state ≠ reg.lastState := fun same => by
        have := kept.last
        rw [← same,ends] at this
        cases this
      rw [if_neg new]
      have unbound : (project snapshot reg.bundle.claimRequired).state ≠ .bound := fun same => by
        rw [same] at ends
        cases ends
      simp [unbound]
  obtain ⟨pended,first⟩ := pend_kept kept snapshot (project snapshot reg.bundle.claimRequired) now passes
  have decision : (pend reg snapshot (project snapshot reg.bundle.claimRequired) now).1.decision = reg.decision := by
    unfold pend withObserved
    split
    · rfl
    · split <;> rfl
  have types := project_ends snapshot reg.bundle.claimRequired
  rw [World.step,here] at after ⊢
  dsimp only at after ⊢
  unfold publishSnapshot at after ⊢
  dsimp only at after ⊢
  rw [if_neg (by simp [ready,passes,current])] at after ⊢
  generalize pend reg snapshot (project snapshot reg.bundle.claimRequired) now = next at *
  generalize project snapshot reg.bundle.claimRequired = projection at *
  obtain ⟨p',done,free,same,_,each⟩ := publishBindings_all snapshot projection next.1.decision.bindings
    (p := ⟨next.1,if next.2 then next.1 else reg,w.log,none⟩) rfl pended.ids
  have saved : (Pass.mk next.1 reg w.log none).saveIf next.2 = .ok ⟨next.1,if next.2 then next.1 else reg,w.log,none⟩ := by
    unfold Pass.saveIf Pass.save Pass.attempt
    split <;> simp_all [Except.map]
  have attempt : p'.attempt = .ok p' := by rw [Pass.attempt,free]
  simp only [saved,bind,Except.bind,done,ends,if_true,attempt] at after ⊢
  refine ⟨trivial,fun binding member => ?_⟩
  obtain ⟨e,there,own⟩ := each binding (by rwa [decision])
  have plain := after e there
  have mine := eventId_same (e := eventFor next.1 snapshot projection binding) next.1.decision.plain plain.1 (first ends).le
    (fun type => plain.2 (by rw [← type]; exact types.trans ends)) own.symm
  refine ⟨e,there,mine.1.symm.trans (by rw [eventFor,decision]),?_,by rw [← mine.2.1]; exact types.trans ends⟩
  exact mine.2.2.symm.trans (observedBinding_id snapshot binding)

theorem hidden (here : w.registration = some reg) (now : Int) (busy : reg.pendingState ≠ .unknown)
    (other : reg.pendingState ≠ (project snapshot reg.bundle.claimRequired).state) (budget : Option Nat) :
    w.step (.observe snapshot now budget) = w := by
  obtain ⟨_,log⟩ := w
  obtain rfl := here
  rw [World.step]
  dsimp only
  unfold publishSnapshot
  dsimp only
  rw [if_pos (.inr (.inr (by simp [shouldPublishTransition,busy,other])))]

/-- The watch receives the snapshots of a stream, and nothing fails. -/
def observing (snapshots : Nat → Snapshot) (now : Nat → Int) (count : Nat) : List Step :=
  (List.range count).map (fun k => .observe (snapshots k) (now k) none)

theorem observing_succ (snapshots : Nat → Snapshot) (now : Nat → Int) (count : Nat) :
    observing snapshots now (count + 1) = observing snapshots now count ++ [.observe (snapshots count) (now count) none] := by
  simp [observing,List.range_succ]

theorem observing_hidden (here : w.registration = some reg) {snapshots : Nat → Snapshot} (now : Nat → Int)
    (busy : reg.pendingState ≠ .unknown) {count : Nat}
    (others : ∀ k < count, reg.pendingState ≠ (project (snapshots k) reg.bundle.claimRequired).state) :
    run World.step w (observing snapshots now count) = w := by
  induction count with
  | zero => rfl
  | succ count ih =>
    rw [observing_succ,run_append,ih (fun k below => others k (by omega)),run_cons,run_nil]
    exact hidden here (now count) busy (others count (by omega)) none

/-- Whatever has happened to a registration: once terminal snapshots are reported and nothing fails any more, a TERMINATED or
    FAILED event of every binding is published and the registration deleted, exactly if no state is pending or a snapshot
    shows the pending one. -/
theorem terminal_published_iff {before : List Step} {reg : Registration} {snapshots : Nat → Snapshot} (now : Nat → Int)
    (here : (run World.step .empty before).registration = some reg) (terminal : ∀ k, (snapshots k).terminal)
    (current : ∀ k, decisionGeneration reg.decision ≤ (snapshots k).observedGeneration) :
    (∃ count, let w := run World.step .empty (before ++ observing snapshots now count)
      w.registration = none ∧ ∀ binding ∈ reg.decision.bindings, ∃ e ∈ w.log,
        e.decisionId = reg.decision.decisionId ∧ e.bindingId = binding.bindingId ∧
          (e.eventType = .terminated ∨ e.eventType = .failed)) ↔
    (reg.pendingState = .unknown ∨ ∃ k, reg.pendingState = (project (snapshots k) reg.bundle.claimRequired).state) := by
  have inv := run_inv before
  simp only [run_append]
  generalize run World.step .empty before = w at *
  constructor
  · rintro ⟨count,gone,_⟩
    by_contra hides
    obtain ⟨busy,others⟩ := not_or.mp hides
    rw [observing_hidden here now busy (fun k _ same => others ⟨k,same⟩),here] at gone
    cases gone
  · intro opens
    -- the first snapshot that is let through
    have found : ∃ k, reg.pendingState = .unknown ∨ reg.pendingState = (project (snapshots k) reg.bundle.claimRequired).state := by
      rcases opens with free | ⟨k,same⟩
      · exact ⟨0,.inl free⟩
      · exact ⟨k,.inr same⟩
    classical
    obtain ⟨first,through,earlier⟩ := Nat.findX found
    have quiet : run World.step w (observing snapshots now first) = w := by
      cases first with
      | zero => rfl
      | succ n =>
        have hidden := fun k (below : k < n + 1) => not_or.mp (earlier k below)
        exact observing_hidden here now (hidden 0 (by omega)).1 (fun k below => (hidden k below).2)
    refine ⟨first + 1,?_⟩
    rw [observing_succ,run_append,quiet,run_cons,run_nil]
    obtain ⟨gone,each⟩ := terminal_through inv here (terminal first) (current first) (now first) through
    refine ⟨gone,fun binding member => ?_⟩
    obtain ⟨e,there,decision,own,ends⟩ := each binding member
    exact ⟨e,there,decision,own,of_decide_eq_true ends⟩

def bindingOf (bindingId : String) : Binding := ⟨bindingId,"","unit","sandbox",1,[],1⟩

def decisionA : Decision := ⟨"decision-a",by decide,"plan-a",1,1,1,.unknown,[],[],[bindingOf "binding-a",bindingOf "binding-b"]⟩

/-- The job has been admitted and is active; `paused` answers a committed pause. -/
def snapshotOf (paused deleted : Bool) : Snapshot :=
  { observedGeneration := 1, workloadAdmitted := true, resourceClaimsAllocated := false
    allocatedDeviceIDs := [], jobActive := 1
    workerRegistrationRequired := false, podReady := false, jobSucceeded := 0, jobFailed := 0, jobPaused := paused
    jobDeleted := deleted, reason := "", observedAt := some 1, control := ⟨"pause-1",1,"request-1"⟩
    controlAction := if paused then .pause else .unknown, controlCommitted := paused, controlRetireRun := false }

/-- The pause is saved as pending and published for no binding, or for all of them. -/
def pausedOnce (budget : Option Nat) : List Step :=
  [.register ⟨"f",1,false⟩ decisionA ⟨"run-1","job-1","trace-1"⟩ true,.observe (snapshotOf false false) 1 none,.observe (snapshotOf true false) 2 budget]

theorem terminal_published_deleted :
    ∃ reg count, (run World.step .empty (pausedOnce none)).registration = some reg ∧
      (run World.step .empty (pausedOnce none ++ observing (fun _ => snapshotOf false true) (fun _ => 3) count)).registration =
        none := by
  have there : (run World.step .empty (pausedOnce none)).registration.any (fun reg => decide (reg.pendingState = .unknown) &&
      decide (decisionGeneration reg.decision ≤ 1)) = true := by decide +kernel
  cases here : (run World.step .empty (pausedOnce none)).registration with
  | none => rw [here] at there; cases there
  | some reg =>
    rw [here] at there
    obtain ⟨free,current⟩ := Bool.and_eq_true_iff.mp there
    obtain ⟨count,gone,_⟩ := (@terminal_published_iff _ _ (fun _ => snapshotOf false true) (fun _ => 3) here
      (fun _ => .inl rfl) (fun _ => of_decide_eq_true current)).mpr (.inl (of_decide_eq_true free))
    exact ⟨reg,count,rfl,gone⟩

/-- The first publication of the pause fails; that the job is deleted is then ignored, and the registration stays. -/
theorem termination_hidden :
    let w := run World.step .empty (pausedOnce (some 1))
    w.registration.map Registration.pendingState = some .paused ∧
    ∀ count now, run World.step w (observing (fun _ => snapshotOf false true) now count) = w := by
  intro w
  have pending : w.registration.map Registration.pendingState = some .paused := by decide +kernel
  refine ⟨pending,fun count now => ?_⟩
  obtain ⟨reg,here,state⟩ := Option.map_eq_some_iff.mp pending
  exact observing_hidden here now (by simp [state]) (fun k _ => by rw [state]; simp [project,snapshotOf])

end TgsRl.ObservationManager
