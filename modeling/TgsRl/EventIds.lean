import TgsRl.ObservationManager

/-!
The IDs of the operator's events, for all bundles of the manager. The time, the detail and the
control request of an event come from the saved pending state; the devices and the mark that the run
is retired come from the snapshot at hand. So a publication that is tried again on a later snapshot
can send another event under the same ID (`device_ids_change`), and so can a decision that is
registered again.
-/
namespace TgsRl.EventIds
open Messages (RuntimeState)
open Loops ObservationManager

/-- The saved registration of each bundle key, and every event handed to the publisher. -/
structure Manager where
  registrations : String → Option Registration
  log : List SandboxEvent

def Manager.empty : Manager := ⟨fun _ => none,[]⟩

def Manager.step (m : Manager) (call : String × Step) : Manager :=
  let w := World.step ⟨m.registrations call.1,m.log⟩ call.2
  ⟨Function.update m.registrations call.1 w.registration,w.log⟩

def From (decision : Decision) (bindingId : String) (e : SandboxEvent) : Prop :=
  e.decisionId = decision.decisionId ∧ e.bindingId = bindingId

instance (decision : Decision) (bindingId : String) (e : SandboxEvent) : Decidable (From decision bindingId e) :=
  inferInstanceAs (Decidable (_ ∧ _))

/-- A registration that can use event IDs of its own: its binding IDs have no colon and name its bindings, and no
event of its decision and bindings was sent, nor is any under another bundle key to send some. -/
structure Novel (m : Manager) (key : String) (decision : Decision) : Prop where
  plain : ∀ binding ∈ decision.bindings, ':' ∉ binding.bindingId.toList
  named : ∀ binding ∈ decision.bindings, ∀ other ∈ decision.bindings, binding.bindingId = other.bindingId →
    binding = other
  unsent : ∀ binding ∈ decision.bindings, ∀ e ∈ m.log, ¬ From decision binding.bindingId e
  apart : ∀ other reg, other ≠ key → m.registrations other = some reg → reg.decision.decisionId = decision.decisionId →
    ∀ binding ∈ decision.bindings, ∀ taken ∈ reg.decision.bindings, taken.bindingId ≠ binding.bindingId

/-- The devices and the retirement of an event are those a snapshot shows. -/
def Shown (snapshot : Snapshot) (binding : Binding) (e : SandboxEvent) : Prop :=
  e.binding = observedBinding snapshot binding ∧ e.runRetirement = observedRetirement snapshot e.state

instance (snapshot : Snapshot) (binding : Binding) (e : SandboxEvent) : Decidable (Shown snapshot binding e) :=
  inferInstanceAs (Decidable (_ ∧ _))

/-- A registration is the stored one or has event IDs of its own, and a snapshot of the pending state shows the
devices and the retirement of the events already sent for it. -/
def Steady (m : Manager) (call : String × Step) : Prop :=
  match call.2 with
  | .register bundle decision jobRun _ =>
    (m.registrations call.1).any (sameRegistration · (fresh bundle decision jobRun)) = true ∨ Novel m call.1 decision
  | .observe snapshot _ _ => ∀ reg, m.registrations call.1 = some reg →
    (project snapshot reg.bundle.claimRequired).state = reg.pendingState →
      ∀ binding ∈ reg.decision.bindings, ∀ e ∈ m.log, From reg.decision binding.bindingId e →
      e.state = reg.pendingState → e.transition = reg.transition → Shown snapshot binding e
  | .absent => True

def typeOf : RuntimeState → EventType
  | .bound => .bound
  | .running => .running
  | .paused => .paused
  | .failed => .failed
  | .terminated => .terminated
  | _ => .unknown

theorem typeOf_injective {a b : RuntimeState} (known : typeOf a ≠ .unknown) (same : typeOf a = typeOf b) : a = b := by
  revert known same
  cases a <;> cases b <;> decide

theorem project_type (snapshot : Snapshot) (claimRequired : Bool) :
    (project snapshot claimRequired).eventType = typeOf (project snapshot claimRequired).state ∧
      ((project snapshot claimRequired).ready = true → (project snapshot claimRequired).eventType ≠ .unknown) := by
  unfold project
  dsimp only
  repeat' split
  all_goals exact ⟨rfl,nofun⟩

/-- What holds of every event: its parts can be read off its ID. -/
structure Formed (e : SandboxEvent) : Prop where
  decision : ':' ∉ e.decisionId.toList
  binding : ':' ∉ e.bindingId.toList
  transition : 1 ≤ e.transition
  type : e.eventType = typeOf e.state
  known : e.eventType ≠ .unknown

theorem suffix_injective {a b : String} {t t' : Nat} (plain : ':' ∉ a.toList) (plain' : ':' ∉ b.toList)
    (one : 1 ≤ t) (one' : 1 ≤ t')
    (same : a ++ (if 1 < t then ":transition:" ++ toString t else "") =
      b ++ (if 1 < t' then ":transition:" ++ toString t' else "")) :
    a = b ∧ t = t' := by
  have chars := congrArg String.toList same
  have spelled : ":transition:".toList = ':' :: "transition:".toList := rfl
  by_cases many : 1 < t
  · by_cases many' : 1 < t'
    · simp only [many,many',if_true,String.toList_append,spelled,List.cons_append] at chars
      obtain ⟨left,rest⟩ := split_colon plain plain' chars
      exact ⟨String.toList_inj.mp left,Jobs.toString_injective (List.append_cancel_left rest)⟩
    · simp only [many,many',if_true,if_false,String.toList_append,spelled,List.cons_append] at chars
      exact absurd (by rw [← List.append_nil b.toList]; exact chars ▸ by simp) plain'
  · by_cases many' : 1 < t'
    · simp only [many,many',if_true,if_false,String.toList_append,spelled,List.cons_append] at chars
      exact absurd (by rw [← List.append_nil a.toList]; exact chars.symm ▸ by simp) plain
    · simp only [many,many',if_false] at same
      exact ⟨by simpa using same,by omega⟩

theorem eventId_parts {e e' : SandboxEvent} (formed : Formed e) (formed' : Formed e') (same : e.eventId = e'.eventId) :
    e.decisionId = e'.decisionId ∧ e.eventType = e'.eventType ∧ e.bindingId = e'.bindingId ∧
      e.transition = e'.transition := by
  obtain ⟨decision,type,rest⟩ := eventId_split formed.decision formed'.decision same
  obtain ⟨binding,transition⟩ := suffix_injective formed.binding formed'.binding formed.transition
    formed'.transition rest
  exact ⟨decision,type,binding,transition⟩

/-- The registrations agree in what events are made of, apart from the snapshot. -/
structure Alike (reg reg' : Registration) : Prop where
  decision : reg'.decision = reg.decision
  jobRun : reg'.jobRun = reg.jobRun
  transition : reg'.transition = reg.transition
  detail : reg'.pendingDetail = reg.pendingDetail
  control : reg'.pendingControl = reg.pendingControl
  observedAt : reg'.pendingObservedAt = reg.pendingObservedAt

/-- The event was made for a binding of the registration: in a state's earlier transition, or in the pending one. -/
def Known (reg : Registration) (binding : Binding) (e : SandboxEvent) : Prop :=
  ∃ reg' snapshot projection, e = eventFor reg' snapshot projection binding ∧ reg'.decision = reg.decision ∧
    reg'.jobRun = reg.jobRun ∧
    (e.transition ≤ reg.publishedStates e.state ∨ e.state = reg.pendingState ∧ Alike reg reg')

/-- What is known of a saved registration and its events. -/
structure Kept (log : List SandboxEvent) (reg : Registration) : Prop where
  plain : ∀ binding ∈ reg.decision.bindings, ':' ∉ binding.bindingId.toList
  named : ∀ binding ∈ reg.decision.bindings, ∀ other ∈ reg.decision.bindings,
    binding.bindingId = other.bindingId → binding = other
  events : ∀ binding ∈ reg.decision.bindings, ∀ e ∈ log, From reg.decision binding.bindingId e → Known reg binding e
  pending : reg.pendingState ≠ .unknown →
    reg.transition = reg.publishedStates reg.pendingState + 1 ∧ reg.pendingObservedAt ≠ none

/-- The registrations of one decision share no binding. -/
def Apart (reg other : Registration) : Prop :=
  other.decision.decisionId = reg.decision.decisionId →
    ∀ binding ∈ reg.decision.bindings, ∀ taken ∈ other.decision.bindings, taken.bindingId ≠ binding.bindingId

def Unique (log : List SandboxEvent) : Prop := ∀ e ∈ log, ∀ e' ∈ log, e.eventId = e'.eventId → e = e'

structure Inv (m : Manager) : Prop where
  formed : ∀ e ∈ m.log, Formed e
  unique : Unique m.log
  kept : ∀ key reg, m.registrations key = some reg → Kept m.log reg
  apart : ∀ key other reg reg', other ≠ key → m.registrations key = some reg →
    m.registrations other = some reg' → Apart reg reg'

variable {reg reg' : Registration} {snapshot : Snapshot} {projection : Projection} {m : Manager} {key : String}
    {now : Int}
  {budget : Option Nat}

theorem eventFor_congr {snapshot' : Snapshot} {projection' : Projection} {binding : Binding} (alike : Alike reg reg')
    (type : projection'.eventType = projection.eventType) (state : projection'.state = projection.state)
    (shown : observedBinding snapshot' binding = observedBinding snapshot binding)
    (retires : observedRetirement snapshot' projection'.state = observedRetirement snapshot projection.state) :
    eventFor reg' snapshot' projection' binding = eventFor reg snapshot projection binding := by
  unfold eventFor
  rw [alike.decision,alike.jobRun,alike.transition,alike.detail,alike.control,alike.observedAt,type,state,shown,
    ← state,retires,state]

/-- The registrations agree in all but the IDs they remember, their bundle and their last state. -/
structure Same (reg reg' : Registration) : Prop extends Alike reg reg' where
  pending : reg'.pendingState = reg.pendingState
  published : reg'.publishedStates = reg.publishedStates

theorem Same.refl (reg : Registration) : Same reg reg := ⟨⟨rfl,rfl,rfl,rfl,rfl,rfl⟩,rfl,rfl⟩

theorem Same.remember (same : Same reg reg') (ids : List String) : Same reg { reg' with publishedEventIDs := ids } :=
  ⟨⟨same.decision,same.jobRun,same.transition,same.detail,same.control,same.observedAt⟩,same.pending,same.published⟩

theorem Kept.same {log : List SandboxEvent} (kept : Kept log reg) (same : Same reg reg') : Kept log reg' where
  plain := same.decision ▸ kept.plain
  named := same.decision ▸ kept.named
  events binding member e sent own := by
    rw [same.decision] at member own
    obtain ⟨made,snapshot,projection,eq,decision,jobRun,times⟩ := kept.events binding member e sent own
    refine ⟨made,snapshot,projection,eq,decision.trans same.decision.symm,jobRun.trans same.jobRun.symm,?_⟩
    rw [same.published,same.pending]
    refine times.imp_right (fun ⟨state,alike⟩ => ⟨state,?_⟩)
    exact ⟨alike.decision.trans same.decision.symm,alike.jobRun.trans same.jobRun.symm,
      alike.transition.trans same.transition.symm,alike.detail.trans same.detail.symm,
      alike.control.trans same.control.symm,alike.observedAt.trans same.observedAt.symm⟩
  pending := by
    rw [same.pending,same.transition,same.published,same.observedAt]
    exact kept.pending

theorem Apart.symm {other : Registration} (apart : Apart reg other) : Apart other reg :=
  fun decision binding member taken member' same => apart decision.symm taken member' binding member same.symm

/-- What one bundle key leaves: its own registration and those of the other keys, and the events. -/
structure Outcome (others : String → Option Registration) (key : String) (w : World) : Prop where
  formed : ∀ e ∈ w.log, Formed e
  unique : Unique w.log
  own : ∀ reg, w.registration = some reg → Kept w.log reg ∧
    ∀ other reg', other ≠ key → others other = some reg' → Apart reg reg'
  others : ∀ other reg', other ≠ key → others other = some reg' → Kept w.log reg'

theorem Inv.outcome (inv : Inv m) (key : String) : Outcome m.registrations key ⟨m.registrations key,m.log⟩ :=
  ⟨inv.formed,inv.unique,fun reg here => ⟨inv.kept key reg here,fun other reg' differ there =>
    inv.apart key other reg reg' differ here there⟩,
    fun other reg' _ there => inv.kept other reg' there⟩

theorem Outcome.inv (inv : Inv m) {w : World} (outcome : Outcome m.registrations key w) :
    Inv ⟨Function.update m.registrations key w.registration,w.log⟩ where
  formed := outcome.formed
  unique := outcome.unique
  kept key' reg here := by
    dsimp only at here
    by_cases same : key' = key
    · subst same
      rw [Function.update_self] at here
      exact (outcome.own reg here).1
    · rw [Function.update_of_ne same] at here
      exact outcome.others key' reg same here
  apart first second reg reg' differ here there := by
    dsimp only at here there
    by_cases same : first = key
    · subst same
      rw [Function.update_self] at here
      rw [Function.update_of_ne differ] at there
      exact (outcome.own reg here).2 second reg' differ there
    · rw [Function.update_of_ne same] at here
      by_cases same' : second = key
      · subst same'
        rw [Function.update_self] at there
        exact ((outcome.own reg' there).2 first reg same here).symm
      · rw [Function.update_of_ne same'] at there
        exact inv.apart first second reg reg' differ here there

section Pass
variable {registrations : String → Option Registration}

/-- While events are sent: the registration has the projected state pending, and the events of this transition sent
so far show what the snapshot does. -/
structure Sending (registrations : String → Option Registration) (key : String) (snapshot : Snapshot)
    (projection : Projection)
    (reg : Registration) (p : Pass) : Prop where
  formed : ∀ e ∈ p.log, Formed e
  unique : Unique p.log
  memory : Same reg p.reg
  stored : Same reg p.stored
  kept : Kept p.log reg
  shown : ∀ binding ∈ reg.decision.bindings, ∀ e ∈ p.log, From reg.decision binding.bindingId e →
    e.state = projection.state →
    e.transition = reg.transition → Shown snapshot binding e
  others : ∀ other reg', other ≠ key → registrations other = some reg' → Kept p.log reg' ∧ Apart reg reg'

variable {p : Pass}

/-- An event sent before under the ID of a new one is that event. -/
theorem Sending.again (sending : Sending registrations key snapshot projection reg p)
    (pending : reg.pendingState = projection.state) (type : projection.eventType = typeOf projection.state)
    {binding : Binding}
    (member : binding ∈ reg.decision.bindings) (formed : Formed (eventFor p.reg snapshot projection binding))
    {e : SandboxEvent}
    (sent : e ∈ p.log) (same : (eventFor p.reg snapshot projection binding).eventId = e.eventId) :
    eventFor p.reg snapshot projection binding = e := by
  obtain ⟨decision,types,bindings,transition⟩ := eventId_parts formed (sending.formed e sent) same
  have own : From reg.decision binding.bindingId e :=
    ⟨decision.symm.trans (congrArg Decision.decisionId sending.memory.decision),
      bindings.symm.trans (observedBinding_id snapshot binding)⟩
  have state : e.state = projection.state := by
    have known := (sending.formed e sent).type
    exact typeOf_injective (known ▸ (sending.formed e sent).known) (known.symm.trans (types.symm.trans type))
  have turn : e.transition = reg.transition := transition.symm.trans sending.memory.transition
  obtain ⟨made,snapshot',projection',eq,_,_,times⟩ := sending.kept.events binding member e sent own
  have shown := sending.shown binding member e sent own state turn
  subst eq
  rcases times with passed | ⟨_,alike⟩
  · have busy : reg.pendingState ≠ .unknown := by
      rw [pending]
      intro unknown
      exact formed.known (type.trans (by rw [unknown]; rfl))
    have next := (sending.kept.pending busy).1
    rw [turn,state,← pending,next] at passed
    omega
  · refine (eventFor_congr ?_ ?_ state shown.1 ?_).symm
    · exact ⟨alike.decision.trans sending.memory.decision.symm,alike.jobRun.trans sending.memory.jobRun.symm,
        alike.transition.trans sending.memory.transition.symm,alike.detail.trans sending.memory.detail.symm,
        alike.control.trans sending.memory.control.symm,alike.observedAt.trans sending.memory.observedAt.symm⟩
    · exact types.symm
    · exact shown.2.trans (congrArg (observedRetirement snapshot) state)

theorem Sending.published (sending : Sending registrations key snapshot projection reg p)
    (pending : reg.pendingState = projection.state) (type : projection.eventType = typeOf projection.state)
    (known : projection.eventType ≠ .unknown) {binding : Binding} (member : binding ∈ reg.decision.bindings)
    (budget : Option Nat) :
    Sending registrations key snapshot projection reg { p with
      budget, log := p.log ++ [eventFor p.reg snapshot projection binding]
      reg := { p.reg with publishedEventIDs := p.reg.publishedEventIDs ++
        [(eventFor p.reg snapshot projection binding).eventId] } } := by
  have busy : reg.pendingState ≠ .unknown := by
    rw [pending]
    intro unknown
    exact known (type.trans (by rw [unknown]; rfl))
  have formed : Formed (eventFor p.reg snapshot projection binding) := by
    refine ⟨p.reg.decision.plain,?_,?_,type,known⟩
    · rw [SandboxEvent.bindingId,show (eventFor p.reg snapshot projection binding).binding =
        observedBinding snapshot binding from rfl,
        observedBinding_id]
      exact sending.kept.plain binding member
    · rw [show (eventFor p.reg snapshot projection binding).transition = p.reg.transition from rfl,
        sending.memory.transition,
        (sending.kept.pending busy).1]
      omega
  have again := fun e (sent : e ∈ p.log) => sending.again pending type member formed sent
  have own : (eventFor p.reg snapshot projection binding).bindingId = binding.bindingId :=
    observedBinding_id snapshot binding
  have made : Known reg binding (eventFor p.reg snapshot projection binding) :=
    ⟨p.reg,snapshot,projection,rfl,sending.memory.decision,sending.memory.jobRun,
      .inr ⟨pending.symm,sending.memory.toAlike⟩⟩
  have named : ∀ other ∈ reg.decision.bindings,
      From reg.decision other.bindingId (eventFor p.reg snapshot projection binding) → other = binding :=
    fun other member' from' => sending.kept.named other member' binding member (from'.2.symm.trans own)
  have decided : (eventFor p.reg snapshot projection binding).decisionId = reg.decision.decisionId :=
    congrArg Decision.decisionId sending.memory.decision
  have shows : Shown snapshot binding (eventFor p.reg snapshot projection binding) := ⟨rfl,rfl⟩
  generalize eventFor p.reg snapshot projection binding = e at *
  refine ⟨?_,?_,sending.memory.remember _,sending.stored,?_,?_,?_⟩
  · intro e' sent
    rcases List.mem_append.mp sent with old | new
    · exact sending.formed e' old
    · exact List.mem_singleton.mp new ▸ formed
  · intro e' sent e'' sent' same
    rcases List.mem_append.mp sent with old | new <;> rcases List.mem_append.mp sent' with old' | new'
    · exact sending.unique e' old e'' old' same
    · obtain rfl := List.mem_singleton.mp new'
      exact (again e' old same.symm).symm
    · obtain rfl := List.mem_singleton.mp new
      exact again e'' old' same
    · exact (List.mem_singleton.mp new).trans (List.mem_singleton.mp new').symm
  · refine { sending.kept with events := fun other member' e' sent from' => ?_ }
    rcases List.mem_append.mp sent with old | new
    · exact sending.kept.events other member' e' old from'
    · obtain rfl := List.mem_singleton.mp new
      exact named other member' from' ▸ made
  · intro other member' e' sent from' state turn
    rcases List.mem_append.mp sent with old | new
    · exact sending.shown other member' e' old from' state turn
    · obtain rfl := List.mem_singleton.mp new
      exact named other member' from' ▸ shows
  · intro other reg' differ there
    obtain ⟨kept,apart⟩ := sending.others other reg' differ there
    refine ⟨{ kept with events := fun taken member' e' sent from' => ?_ },apart⟩
    rcases List.mem_append.mp sent with old | new
    · exact kept.events taken member' e' old from'
    · obtain rfl := List.mem_singleton.mp new
      exact absurd (from'.2.symm.trans own) (apart (from'.1.symm.trans decided) binding member taken member')

theorem Sending.budgeted (sending : Sending registrations key snapshot projection reg p) (budget : Option Nat) :
    Sending registrations key snapshot projection reg { p with budget } :=
  ⟨sending.formed,sending.unique,sending.memory,sending.stored,sending.kept,sending.shown,sending.others⟩

theorem Sending.saved (sending : Sending registrations key snapshot projection reg p) :
    Ends id (Sending registrations key snapshot projection reg) p.save :=
  save_ends sending.budgeted (fun _ => ⟨sending.formed,sending.unique,sending.memory,sending.memory,sending.kept,
    sending.shown,sending.others⟩)

theorem publishBindings_sending (pending : reg.pendingState = projection.state)
    (type : projection.eventType = typeOf projection.state) (known : projection.eventType ≠ .unknown)
    (bindings : List Binding)
    (inside : ∀ binding ∈ bindings, binding ∈ reg.decision.bindings)
    (sending : Sending registrations key snapshot projection reg p) :
    Ends id (Sending registrations key snapshot projection reg) (publishBindings snapshot projection bindings p) := by
  induction bindings generalizing p with
  | nil => exact sending
  | cons binding rest ih =>
    have later := fun other member => inside other (List.mem_cons_of_mem binding member)
    rw [publishBindings]
    split
    · exact ih later sending
    have sent : Ends id (Sending registrations key snapshot projection reg)
      (p.publish (eventFor p.reg snapshot projection binding)) := by
      unfold Pass.publish Pass.attempt
      split
      · exact sending.published pending type known (inside binding List.mem_cons_self) _
      · exact sending
      · exact sending.published pending type known (inside binding List.mem_cons_self) _
    split
    next failed => rw [failed] at sent; exact sent
    next p' done =>
      rw [done] at sent
      have saved := (show Sending registrations key snapshot projection reg p' from sent).saved
      split
      next failed => rw [failed] at saved; exact saved
      next done => rw [done] at saved; exact ih later saved

theorem Sending.outcome (sending : Sending registrations key snapshot projection reg p) :
    Outcome registrations key ⟨some p.stored,p.log⟩ where
  formed := sending.formed
  unique := sending.unique
  own reg' here := by
    cases here
    refine ⟨sending.kept.same sending.stored,fun other reg' differ there => ?_⟩
    have apart := (sending.others other reg' differ there).2
    rw [Apart,sending.stored.decision]
    exact apart
  others other reg' differ there := (sending.others other reg' differ there).1

theorem Sending.settled (sending : Sending registrations key snapshot projection reg p)
    (pending : reg.pendingState = projection.state) (busy : reg.pendingState ≠ .unknown) :
    Outcome registrations key ⟨some (settle p.reg projection.state),p.log⟩ where
  formed := sending.formed
  unique := sending.unique
  own reg' here := by
    cases here
    have turn : p.reg.transition = p.reg.publishedStates projection.state + 1 := by
      rw [sending.memory.transition,sending.memory.published,(sending.kept.pending busy).1,pending]
    have kept := sending.kept.same sending.memory
    refine ⟨⟨kept.plain,kept.named,fun binding member e sent own => ?_,fun busy => absurd rfl busy⟩,
      fun other reg' differ there => ?_⟩
    · obtain ⟨made,snapshot',projection',eq,decision,jobRun,times⟩ := kept.events binding member e sent own
      refine ⟨made,snapshot',projection',eq,decision,jobRun,.inl ?_⟩
      by_cases state : e.state = projection.state
      · simp only [settle,state,Function.update_self]
        rcases times with passed | ⟨_,alike⟩
        · rw [state] at passed
          omega
        · rw [eq]
          exact alike.transition.le
      · simp only [settle,Function.update_of_ne state]
        rcases times with passed | ⟨same,_⟩
        · exact passed
        · exact absurd (same.trans (sending.memory.pending.trans pending)) state
    · have apart := (sending.others other reg' differ there).2
      rw [Apart,show (settle p.reg projection.state).decision = p.reg.decision from rfl,sending.memory.decision]
      exact apart
  others other reg' differ there := (sending.others other reg' differ there).1

end Pass

theorem unknown_unsent {log : List SandboxEvent} (formed : ∀ e ∈ log, Formed e) {e : SandboxEvent}
    (sent : e ∈ log) : e.state ≠ .unknown := by
  intro unknown
  have made := formed e sent
  exact made.known (made.type.trans (by rw [unknown]; rfl))

theorem pend_sending (inv : Inv m) (here : m.registrations key = some reg)
    (steady : Steady m (key,.observe snapshot now budget))
    (next : shouldPublishTransition reg.lastState reg.pendingState
      (project snapshot reg.bundle.claimRequired).state = true) :
    let pended := (pend reg snapshot (project snapshot reg.bundle.claimRequired) now).1
    ∀ budget, Sending m.registrations key snapshot (project snapshot reg.bundle.claimRequired) pended
      ⟨pended,pended,m.log,budget⟩ := by
  have kept := inv.kept key reg here
  intro pended budget
  simp only [pended]
  have others : ∀ other reg', other ≠ key → m.registrations other = some reg' → Kept m.log reg' ∧ Apart reg reg' :=
    fun other reg' differ there => ⟨inv.kept other reg' there,inv.apart key other reg reg' differ here there⟩
  by_cases free : reg.pendingState = .unknown
  · -- a new transition: the events sent before are of earlier ones
    have earlier : ∀ binding ∈ reg.decision.bindings, ∀ e ∈ m.log, From reg.decision binding.bindingId e →
        ∃ reg' snapshot' projection', e = eventFor reg' snapshot' projection' binding ∧ reg'.decision = reg.decision ∧
          reg'.jobRun = reg.jobRun ∧ e.transition ≤ reg.publishedStates e.state := by
      intro binding member e sent own
      obtain ⟨made,snapshot',projection',eq,decision,jobRun,times⟩ := kept.events binding member e sent own
      refine ⟨made,snapshot',projection',eq,decision,jobRun,?_⟩
      rcases times with passed | ⟨state,_⟩
      · exact passed
      · exact absurd (state.trans free) (unknown_unsent inv.formed sent)
    rw [pend,if_pos free]
    refine ⟨inv.formed,inv.unique,.refl _,.refl _,⟨kept.plain,kept.named,?_,fun _ => ⟨rfl,nofun⟩⟩,?_,others⟩
    · intro binding member e sent own
      obtain ⟨made,snapshot',projection',eq,decision,jobRun,passed⟩ := earlier binding member e sent own
      exact ⟨made,snapshot',projection',eq,decision,jobRun,.inl passed⟩
    · intro binding member e sent own state turn
      obtain ⟨_,_,_,_,_,_,passed⟩ := earlier binding member e sent own
      rw [state] at passed
      have : e.transition = reg.publishedStates (project snapshot reg.bundle.claimRequired).state + 1 := turn
      omega
  · have same : reg.pendingState = (project snapshot reg.bundle.claimRequired).state := by
      simpa [shouldPublishTransition,free] using next
    rw [pend,if_neg free,if_neg (kept.pending free).2]
    exact ⟨inv.formed,inv.unique,.refl _,.refl _,kept,fun binding member e sent own state turn =>
      steady reg here same.symm binding member e sent own (state.trans same.symm) turn,others⟩

theorem saveIf_cases (p : Pass) (needed : Bool) :
    (∃ p', p.saveIf needed = .error p' ∧ p'.stored = p.stored ∧ p'.log = p.log) ∨
      ∃ budget, p.saveIf needed = .ok { p with budget, stored := if needed then p.reg else p.stored } := by
  unfold Pass.saveIf Pass.save Pass.attempt
  split
  · split
    · exact .inr ⟨_,rfl⟩
    · exact .inl ⟨_,rfl,rfl,rfl⟩
    · exact .inr ⟨_,rfl⟩
  · exact .inr ⟨p.budget,rfl⟩

theorem pend_unsaved (unsaved : (pend reg snapshot projection now).2 = false) :
    (pend reg snapshot projection now).1 = reg := by
  revert unsaved
  unfold pend
  split
  · exact nofun
  split
  · exact nofun
  · exact fun _ => rfl

theorem pend_pending (next : shouldPublishTransition reg.lastState reg.pendingState projection.state = true) :
    (pend reg snapshot projection now).1.pendingState = projection.state := by
  unfold pend
  split
  · rfl
  next busy =>
    have same : reg.pendingState = projection.state := by simpa [shouldPublishTransition,busy] using next
    split <;> exact same

theorem publishSnapshot_outcome (inv : Inv m) (here : m.registrations key = some reg)
    (steady : Steady m (key,.observe snapshot now budget)) :
    Ends Prod.fst (fun p => Outcome m.registrations key ⟨some p.stored,p.log⟩)
      (publishSnapshot ⟨reg,reg,m.log,budget⟩ snapshot now) := by
  have before : Outcome m.registrations key ⟨some reg,m.log⟩ := here ▸ inv.outcome key
  unfold publishSnapshot
  dsimp only
  split
  · exact before
  next passes =>
    simp only [not_or,Bool.not_eq_false] at passes
    obtain ⟨type,known⟩ := project_type snapshot reg.bundle.claimRequired
    have sends := pend_sending inv here steady passes.2.2
    have unsaved := @pend_unsaved reg snapshot (project snapshot reg.bundle.claimRequired) now
    have pending := @pend_pending reg snapshot (project snapshot reg.bundle.claimRequired) now passes.2.2
    replace known := known passes.2.1
    generalize pend reg snapshot (project snapshot reg.bundle.claimRequired) now = pended at *
    generalize project snapshot reg.bundle.claimRequired = projection at *
    rcases saveIf_cases ⟨pended.1,reg,m.log,budget⟩ pended.2 with ⟨p',failed,stored,log⟩ | ⟨left,saved⟩
    · rw [failed]
      show Outcome m.registrations key ⟨some p'.stored,p'.log⟩
      rw [stored,log]
      exact before
    · rw [saved]
      have started : Sending m.registrations key snapshot projection pended.1
          ⟨pended.1,if pended.2 then pended.1 else reg,m.log,left⟩ := by
        split
        · exact sends left
        next same =>
          have same := unsaved (Bool.eq_false_iff.mpr same)
          exact same ▸ sends left
      show Ends Prod.fst _ (publishBindings snapshot projection pended.1.decision.bindings
        ⟨pended.1,if pended.2 then pended.1 else reg,m.log,left⟩ >>= _)
      refine Ends.bind (publishBindings_sending pending type known _ (fun _ member => member) started)
        (fun _ sending => sending.outcome) (fun p sending => ?_)
      have busy : pended.1.pendingState ≠ .unknown := fun unknown =>
        known (type.trans (by rw [← pending,unknown]; rfl))
      split
      · exact Ends.bind (attempt_ends sending.budgeted) (fun _ sending => sending.outcome)
          (fun _ sending => sending.outcome)
      · exact Ends.bind (save_ends (fun _ => sending.outcome) (fun _ => sending.settled pending busy))
          (fun _ held => held)
          (fun _ held => held)

theorem observe_outcome (inv : Inv m) (steady : Steady m (key,.observe snapshot now budget)) :
    Outcome m.registrations key (World.step ⟨m.registrations key,m.log⟩ (.observe snapshot now budget)) := by
  cases here : m.registrations key with
  | none =>
    have before := inv.outcome key
    rw [here] at before
    exact before
  | some reg =>
    have after := publishSnapshot_outcome inv here steady
    rw [World.step]
    dsimp only
    split
    next failed => rw [failed] at after; exact after
    next done => rw [done] at after; exact after
    next p done =>
      rw [done] at after
      have after : Outcome m.registrations key ⟨some p.stored,p.log⟩ := after
      have held : Ends id (fun p => Outcome m.registrations key ⟨some p.stored,p.log⟩) p.attempt :=
        attempt_ends (fun _ => after)
      split
      next failed => rw [failed] at held; exact held
      next gone =>
        rw [gone] at held
        exact ⟨held.formed,held.unique,fun _ same => (by cases same),held.others⟩

theorem Novel.kept {decision : Decision} (novel : Novel m key decision) (decided : reg.decision = decision)
    (free : reg.pendingState = .unknown) : Kept m.log reg := by
  subst decided
  exact ⟨novel.plain,novel.named,fun binding member e sent own => absurd own (novel.unsent binding member e sent),
    fun busy => absurd free busy⟩

theorem register_cases {existing : Option Registration} {incoming : Registration}
    (done : register existing incoming = .ok reg) :
    existing = some reg ∨
      existing.any (sameRegistration · incoming) = false ∧ reg.decision = incoming.decision ∧
        reg.pendingState = incoming.pendingState := by
  unfold register at done
  split at done
  · cases done
    exact .inr ⟨rfl,rfl,rfl⟩
  next old =>
    split at done
    · cases done
      exact .inl rfl
    next differs =>
      have differs : (some old).any (sameRegistration · incoming) = false := Bool.eq_false_iff.mpr differs
      split at done
      · cases done
        dsimp only
        split <;> exact .inr ⟨differs,rfl,rfl⟩
      · cases done

theorem register_outcome (inv : Inv m) {bundle : Bundle} {decision : Decision} {jobRun : JobRun} {saved : Bool}
    (steady : Steady m (key,.register bundle decision jobRun saved)) :
    Outcome m.registrations key (World.step ⟨m.registrations key,m.log⟩ (.register bundle decision jobRun saved)) := by
  have before := inv.outcome key
  rw [World.step]
  dsimp only
  split
  · exact before
  next reg done =>
    split
    · rcases register_cases done with same | ⟨differs,decided,free⟩
      · rw [← same]
        exact before
      · rcases steady with same | novel
        · exact absurd (differs.symm.trans same) Bool.false_ne_true
        · refine ⟨before.formed,before.unique,fun reg' here => ?_,before.others⟩
          cases here
          refine ⟨novel.kept decided free,fun other reg' differ there sameDecision binding member taken member' => ?_⟩
          have decided : reg.decision = decision := decided
          rw [decided] at member sameDecision
          exact novel.apart other reg' differ there sameDecision binding member taken member'
    · exact before

theorem step_inv (m : Manager) (call : String × Step) (inv : Inv m) (steady : Steady m call) : Inv (m.step call) := by
  obtain ⟨key,step⟩ := call
  cases step with
  | register bundle decision jobRun saved => exact (register_outcome inv steady).inv inv
  | observe snapshot now budget => exact (observe_outcome inv steady).inv inv
  | absent =>
    have before := inv.outcome key
    exact Outcome.inv (w := ⟨none,m.log⟩) inv ⟨before.formed,before.unique,fun _ same => (by cases same),before.others⟩

theorem empty_inv : Inv .empty :=
  ⟨fun _ sent => (by cases sent),fun _ sent => (by cases sent),fun _ _ here => (by cases here),
    fun _ _ _ _ _ here => (by cases here)⟩

/-- In every run in which a new registration has event IDs of its own, and the snapshots of a pending state go on to
show the devices and the retirement of its first events, two events with one ID are the same in every field. -/
theorem event_ids_name_events (calls : List (String × Step)) (steady : Guarded Manager.step Steady .empty calls) :
    ∀ e ∈ (run Manager.step .empty calls).log, ∀ e' ∈ (run Manager.step .empty calls).log,
      e.eventId = e'.eventId → e = e' :=
  (guarded_keeps step_inv empty_inv steady).unique

def runningOn (device : String) : Snapshot := { snapshotOf false false with allocatedDeviceIDs := [device] }

def decisionOne : Decision := ⟨"decision-1",by decide,"plan-1",1,1,1,.unknown,[],[],[bindingOf "binding-1"]⟩

/-- The RUNNING event is published, but that it was is not saved; then the watch begins again. -/
def publishedTwice (first second : String) : List (String × Step) :=
  [("bundle",.register ⟨"f",1,false⟩ decisionOne ⟨"run-1","job-1","trace-1"⟩ true),
    ("bundle",.observe (runningOn first) 1 (some 2)),
    ("bundle",.observe (runningOn second) 2 none)]

theorem steady_of_all
    (all : (m.registrations key).all (fun reg => decide
      ((project snapshot reg.bundle.claimRequired).state = reg.pendingState →
      ∀ binding ∈ reg.decision.bindings, ∀ e ∈ m.log, From reg.decision binding.bindingId e →
      e.state = reg.pendingState → e.transition = reg.transition → Shown snapshot binding e)) = true) :
    Steady m (key,.observe snapshot now budget) :=
  fun reg here => of_decide_eq_true ((Option.all_eq_true _ _).mp all reg here)

theorem event_ids_name_events_again :
    (run Manager.step .empty (publishedTwice "gpu-0" "gpu-0")).log.length = 2 ∧
    ∀ e ∈ (run Manager.step .empty (publishedTwice "gpu-0" "gpu-0")).log,
      ∀ e' ∈ (run Manager.step .empty (publishedTwice "gpu-0" "gpu-0")).log, e.eventId = e'.eventId → e = e' := by
  refine ⟨by decide +kernel,event_ids_name_events _ ⟨.inr ?_,steady_of_all ?_,steady_of_all ?_,trivial⟩⟩
  · exact ⟨by decide,by decide,fun _ _ e sent => (by cases sent),fun _ _ _ here => (by cases here)⟩
  · decide +kernel
  · decide +kernel

/-- The second time the event names another device. -/
theorem device_ids_change :
    ¬ ∀ e ∈ (run Manager.step .empty (publishedTwice "gpu-0" "gpu-1")).log,
      ∀ e' ∈ (run Manager.step .empty (publishedTwice "gpu-0" "gpu-1")).log, e.eventId = e'.eventId → e = e' := by
  decide +kernel

end TgsRl.EventIds
