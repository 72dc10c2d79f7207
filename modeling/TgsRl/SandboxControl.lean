import TgsRl.SandboxEvents

/-!
Operator control of observed sandboxes. `build_operator_control_request` fails for the whole run
when one sandbox record is not bound to a unit. An event that carries no binding leaves a record
without one, unlike share, priority and offloading, which keep their values
(`unbound_event_uncontrollable`, `controllable_iff`).
-/
namespace TgsRl.SandboxControl
open SandboxEvents
open State (Map)
open Loops

inductive ControlAction
  | pause
  | resume
  | stop
  | terminate
  | other (action : String)
  deriving DecidableEq, Repr

structure ControlTarget where
  runtime_unit_id : String
  sandbox_id : String
  expected_generation : Nat
  deriving DecidableEq, Repr

/-- The identity by which targets are sorted. -/
def ControlTarget.key (t : ControlTarget) : String ×ₗ String := toLex (t.runtime_unit_id,t.sandbox_id)

structure ControlRequest where
  action : ControlAction
  targets : List ControlTarget
  deriving DecidableEq, Repr

def Sandbox.target (s : Sandbox) : ControlTarget := ⟨s.binding.unit,s.sandbox_id,s.generation⟩

/-- The checks on one sandbox. The store has one record for each sandbox ID, so generations cannot conflict. -/
def controlTarget (units : List RuntimeUnit) (s : Sandbox) : Except String ControlTarget :=
  if s.binding.unit = "" then .error ("sandbox '" ++ s.sandbox_id ++ "' is not bound to a runtime unit")
  else if s.binding.unit ∉ units.map RuntimeUnit.runtime_unit_id then
    .error ("sandbox '" ++ s.sandbox_id ++ "' references unknown runtime unit '" ++ s.binding.unit ++ "'")
  else if s.sandbox_id = "" then .error "runtime control target is missing sandbox_id"
  else if s.generation = 0 then .error ("sandbox '" ++ s.sandbox_id ++ "' has no workload generation fence")
  else .ok (Sandbox.target s)

def buildOperatorControlRequest (run : Run) (action : ControlAction) : Except String ControlRequest :=
  if run.sandboxes.values = [] then .error "run has no materialized sandboxes"
  else match run.sandboxes.values.mapM (controlTarget run.units) with
    | .error message => .error message
    | .ok targets =>
      match action with
      | .other name => .error ("unsupported backend control action: " ++ name)
      | command => .ok ⟨command,targets.insertionSort (fun a b => a.key ≤ b.key)⟩

/-- Every sandbox is one target of every control request. -/
def Controllable (run : Run) : Prop :=
  ∀ action ∈ [ControlAction.pause,.resume,.stop,.terminate], ∃ request,
    buildOperatorControlRequest run action = .ok request ∧ request.action = action ∧
    (∀ id s, run.sandboxes.lookup id = some s → s.binding.unit ∈ run.units.map RuntimeUnit.runtime_unit_id ∧
      request.targets.filter (fun t => t.sandbox_id = id) = [⟨s.binding.unit,id,s.generation⟩]) ∧
    ∀ t ∈ request.targets, t.sandbox_id ∈ run.sandboxes

/-- What an event does not carry keeps its value. -/
def KeepsFields (event : SandboxEvent) (before after : Run) : Prop :=
  ∀ old new, before.sandboxes.lookup event.sandbox_id = some old → after.sandboxes.lookup event.sandbox_id = some new →
    (event.binding = none → new.binding = old.binding) ∧ (event.share = none → new.share = old.share) ∧
    (event.priority = none → new.priority = old.priority) ∧ (event.offloaded = none → new.offloaded = old.offloaded)

/-- In a run every accepted event keeps the fields it does not carry, and the sandboxes stay controllable. -/
def StaysControllable (run : Run) (requests : List Request) : Prop :=
  ∀ before r after, requests = before ++ r :: after →
    ∀ unit projected, Accepted (Loops.run Run.step run before) r.now r.event unit projected →
      KeepsFields r.event (Loops.run Run.step run before) ((Loops.run Run.step run before).step r) ∧
      Controllable ((Loops.run Run.step run before).step r)

/-- An accepted event names its sandbox; the first one of a sandbox is bound to a unit and has a positive generation. -/
def Opens (run : Run) (r : Request) : Prop :=
  ∀ unit projected, Accepted run r.now r.event unit projected → r.event.sandbox_id ≠ "" ∧
    (r.event.sandbox_id ∉ run.sandboxes → (∃ binding, r.event.binding = some binding ∧ binding.unit ≠ "") ∧ 0 < r.event.generation)

/-- An accepted event carries a binding that names a unit. -/
def CarriesBinding (run : Run) (r : Request) : Prop :=
  ∀ unit projected, Accepted run r.now r.event unit projected → ∃ binding, r.event.binding = some binding ∧ binding.unit ≠ ""

section Events
variable {run : Run} {r : Request} {unit : RuntimeUnit} {projected : List RuntimeUnit} {binding : Binding}

theorem projectUnit_id {sandboxes : List Sandbox} {u v : RuntimeUnit} (done : projectUnit sandboxes u = .ok v) :
    v.runtime_unit_id = u.runtime_unit_id := by
  unfold projectUnit at done
  split at done
  · cases done; rfl
  split at done
  · cases done; rfl
  split at done
  · cases done
  · cases done; rfl

theorem units_same (accepted : Accepted run r.now r.event unit projected) :
    projected.map RuntimeUnit.runtime_unit_id = run.units.map RuntimeUnit.runtime_unit_id := by
  have each := mapM_eq_ok accepted.projects
  have raised : ∀ u, (raiseGeneration r.event unit.runtime_unit_id u).runtime_unit_id = u.runtime_unit_id := by
    intro u
    unfold raiseGeneration
    split <;> rfl
  have same : (run.units.map (raiseGeneration r.event unit.runtime_unit_id)).map RuntimeUnit.runtime_unit_id =
      run.units.map RuntimeUnit.runtime_unit_id := by
    simp [raised]
  rw [← same]
  generalize run.units.map (raiseGeneration r.event unit.runtime_unit_id) = units at each
  clear same accepted
  induction each with
  | nil => rfl
  | cons first _ ih => rw [List.map_cons,List.map_cons,projectUnit_id first,ih]

theorem unit_known (accepted : Accepted run r.now r.event unit projected) (carried : r.event.binding = some binding)
    (named : binding.unit ≠ "") : binding.unit ∈ run.units.map RuntimeUnit.runtime_unit_id := by
  have found := accepted.bound
  simp only [Run.unitFor,carried,Option.getD_some,if_pos named] at found
  have same : unit.runtime_unit_id = binding.unit := by simpa using List.find?_some found
  exact List.mem_map.mpr ⟨unit,List.mem_of_find?_eq_some found,same⟩

theorem sandboxes_after (accepted : Accepted run r.now r.event unit projected) (named : r.event.sandbox_id ≠ "") :
    (run.step r).sandboxes = run.sandboxes.insert r.event.sandbox_id
      (observedSandbox r.now r.event unit run.manifest (run.sandboxes.lookup r.event.sandbox_id)) := by
  rw [accepted.step]
  simp only [Run.observe,Run.sandboxesAfter,complete_eq_iff.mpr (.inl named)]

theorem record_after (accepted : Accepted run r.now r.event unit projected) (named : r.event.sandbox_id ≠ "") :
    (run.step r).sandboxes.lookup r.event.sandbox_id =
      some (observedSandbox r.now r.event unit run.manifest (run.sandboxes.lookup r.event.sandbox_id)) := by
  rw [sandboxes_after accepted named,AList.lookup_insert]

theorem keepsFields_of_binding (accepted : Accepted run r.now r.event unit projected) (named : r.event.sandbox_id ≠ "")
    (carried : r.event.binding = some binding) : KeepsFields r.event run (run.step r) := by
  intro old new before after
  rw [record_after accepted named,before] at after
  obtain rfl := Option.some.inj after
  refine ⟨fun absent => ?_,fun absent => ?_,fun absent => ?_,fun absent => ?_⟩
  · rw [carried] at absent
    cases absent
  · simp [observedSandbox,eventOrDefaultShare,absent]
  · simp [observedSandbox,eventOrDefaultPriority,absent]
  · simp [observedSandbox,eventOrDefaultOffloaded,absent]

/-- Every record is named, bound to a known unit and fenced by a positive generation. -/
structure Placed (run : Run) : Prop where
  sandbox : ∀ id s, run.sandboxes.lookup id = some s → s.sandbox_id = id ∧ id ≠ ""
  bound : ∀ id s, run.sandboxes.lookup id = some s →
    s.binding.unit ≠ "" ∧ s.binding.unit ∈ run.units.map RuntimeUnit.runtime_unit_id
  fenced : ∀ id s, run.sandboxes.lookup id = some s → 0 < s.generation

theorem step_placed (placed : Placed run) (opens : Opens run r) (carries : CarriesBinding run r) : Placed (run.step r) := by
  rcases publish_cases run r.now r.event with ⟨message,refused⟩ | ⟨-,again⟩ | ⟨unit,projected,accepted⟩
  · rwa [step_run_of_refused refused]
  · rwa [step_run_of_refused again]
  · obtain ⟨named,first⟩ := opens unit projected accepted
    obtain ⟨binding,carried,unitNamed⟩ := carries unit projected accepted
    have units : (run.step r).units.map RuntimeUnit.runtime_unit_id = run.units.map RuntimeUnit.runtime_unit_id := by
      rw [accepted.step]
      exact units_same accepted
    have sandboxes := sandboxes_after accepted named
    -- the record written and the records left alone
    have each : ∀ id s, (run.step r).sandboxes.lookup id = some s →
        (id = r.event.sandbox_id ∧ s = observedSandbox r.now r.event unit run.manifest (run.sandboxes.lookup r.event.sandbox_id)) ∨
        run.sandboxes.lookup id = some s := by
      intro id s held
      rw [sandboxes] at held
      by_cases same : id = r.event.sandbox_id
      · subst same
        rw [AList.lookup_insert] at held
        exact .inl ⟨rfl,(Option.some.inj held).symm⟩
      · rw [AList.lookup_insert_ne same] at held
        exact .inr held
    refine ⟨fun id s held => ?_,fun id s held => ?_,fun id s held => ?_⟩
    · rcases each id s held with ⟨rfl,rfl⟩ | old
      · exact ⟨rfl,named⟩
      · exact placed.sandbox id s old
    · rw [units]
      rcases each id s held with ⟨rfl,rfl⟩ | old
      · have its : (observedSandbox r.now r.event unit run.manifest (run.sandboxes.lookup r.event.sandbox_id)).binding = binding := by
          simp [observedSandbox,carried]
        rw [its]
        exact ⟨unitNamed,unit_known accepted carried unitNamed⟩
      · exact placed.bound id s old
    · rcases each id s held with ⟨rfl,rfl⟩ | old
      · show 0 < r.event.generation
        cases before : run.sandboxes.lookup r.event.sandbox_id with
        | none => exact (first (AList.lookup_eq_none.mp before)).2
        | some sandbox =>
          have passed := accepted.fenced
          rw [before] at passed
          have := (fence_ok passed).1
          have := placed.fenced _ _ before
          omega
      · exact placed.fenced id s old

theorem mem_values {s : Sandbox} : s ∈ run.sandboxes.values ↔ ∃ id, run.sandboxes.lookup id = some s := by
  constructor
  · intro member
    obtain ⟨⟨id,held⟩,entry,rfl⟩ := List.mem_map.mp member
    exact ⟨id,Map.mem_entries_iff.mp entry⟩
  · rintro ⟨id,held⟩
    exact List.mem_map.mpr ⟨⟨id,s⟩,Map.mem_entries_iff.mpr held,rfl⟩

theorem targets_distinct (placed : Placed run) :
    ((run.sandboxes.values.map Sandbox.target).map ControlTarget.sandbox_id).Nodup := by
  have ids : (run.sandboxes.values.map Sandbox.target).map ControlTarget.sandbox_id = run.sandboxes.keys := by
    simp only [Map.values,List.map_map,AList.keys,List.keys]
    apply List.map_congr_left
    rintro ⟨id,s⟩ entry
    exact (placed.sandbox id s (Map.mem_entries_iff.mp entry)).1
  rw [ids]
  exact run.sandboxes.keys_nodup

theorem placed_controllable (placed : Placed run) (some_sandbox : run.sandboxes.values ≠ []) : Controllable run := by
  intro action listed
  have each : ∀ s ∈ run.sandboxes.values, controlTarget run.units s = .ok (Sandbox.target s) := by
    intro s member
    obtain ⟨id,held⟩ := mem_values.mp member
    obtain ⟨same,named⟩ := placed.sandbox id s held
    obtain ⟨bound,known⟩ := placed.bound id s held
    have fenced := placed.fenced id s held
    subst same
    simp only [controlTarget,if_neg bound,if_neg (not_not.mpr known),if_neg named,if_neg (Nat.pos_iff_ne_zero.mp fenced)]
  have sorted := List.perm_insertionSort (fun a b : ControlTarget => a.key ≤ b.key) (run.sandboxes.values.map Sandbox.target)
  have distinct : ((run.sandboxes.values.map Sandbox.target).insertionSort (fun a b => a.key ≤ b.key)).Nodup :=
    sorted.nodup_iff.mpr (targets_distinct placed).of_map
  refine ⟨⟨action,(run.sandboxes.values.map Sandbox.target).insertionSort (fun a b => a.key ≤ b.key)⟩,?_,rfl,?_,?_⟩
  · unfold buildOperatorControlRequest
    rw [if_neg some_sandbox,mapM_ok each]
    cases action with
    | other name => simp at listed
    | _ => rfl
  · intro id s held
    obtain ⟨same,-⟩ := placed.sandbox id s held
    refine ⟨(placed.bound id s held).2,?_⟩
    rw [← List.perm_singleton,List.perm_ext_iff_of_nodup (distinct.filter _) (List.nodup_singleton _)]
    intro t
    rw [List.mem_filter,sorted.mem_iff,List.mem_map,List.mem_singleton]
    constructor
    · rintro ⟨⟨s',member,rfl⟩,its⟩
      obtain ⟨id',held'⟩ := mem_values.mp member
      have named : s'.sandbox_id = id := of_decide_eq_true its
      rw [(placed.sandbox id' s' held').1] at named
      rw [named,held] at held'
      obtain rfl := Option.some.inj held'
      simp [Sandbox.target,same]
    · rintro rfl
      exact ⟨⟨s,mem_values.mpr ⟨id,held⟩,by simp [Sandbox.target,same]⟩,by simp⟩
  · intro t member
    obtain ⟨s,inside,rfl⟩ := List.mem_map.mp (sorted.mem_iff.mp member)
    obtain ⟨id,held⟩ := mem_values.mp inside
    rw [show (Sandbox.target s).sandbox_id = id from (placed.sandbox id s held).1]
    exact AList.lookup_isSome.mp (by simp [held])

theorem bound_of_controllable (controllable : Controllable run) {id : String} {s : Sandbox}
    (held : run.sandboxes.lookup id = some s) : s.binding.unit ≠ "" := by
  obtain ⟨request,built,-⟩ := controllable .pause (by simp)
  unfold buildOperatorControlRequest at built
  split at built
  · cases built
  split at built
  · cases built
  next targets made =>
  obtain ⟨t,-,checked⟩ := exists_of_forall₂ (mapM_eq_ok made).flip (mem_values.mpr ⟨id,held⟩)
  intro unbound
  simp [controlTarget,unbound] at checked

theorem step_controllable_iff (placed : Placed run) (opens : Opens run r) :
    (∀ unit projected, Accepted run r.now r.event unit projected →
      KeepsFields r.event run (run.step r) ∧ Controllable (run.step r)) ↔ CarriesBinding run r := by
  constructor
  · intro good unit projected accepted
    obtain ⟨named,-⟩ := opens unit projected accepted
    have bound := bound_of_controllable (good unit projected accepted).2 (record_after accepted named)
    cases carried : r.event.binding with
    | none => simp [observedSandbox,carried,Binding.unit] at bound
    | some binding => exact ⟨binding,rfl,by simpa [observedSandbox,carried] using bound⟩
  · intro carries unit projected accepted
    obtain ⟨named,-⟩ := opens unit projected accepted
    obtain ⟨binding,carried,-⟩ := carries unit projected accepted
    refine ⟨keepsFields_of_binding accepted named carried,?_⟩
    refine placed_controllable (step_placed placed opens carries) (fun empty => ?_)
    have member := mem_values.mpr ⟨_,record_after accepted named⟩
    rw [empty] at member
    cases member

end Events

theorem stays_cons {run : Run} {r : Request} {rest : List Request} :
    StaysControllable run (r :: rest) ↔
      (∀ unit projected, Accepted run r.now r.event unit projected →
        KeepsFields r.event run (run.step r) ∧ Controllable (run.step r)) ∧ StaysControllable (run.step r) rest := by
  constructor
  · intro stays
    refine ⟨stays [] r rest rfl,fun before next after split => ?_⟩
    exact stays (r :: before) next after (by rw [split]; rfl)
  · rintro ⟨first,later⟩ before next after split
    cases before with
    | nil => cases split; exact first
    | cons _ before => cases split; exact later before next after rfl

/-- Of the runs whose sandboxes start bound, those in which every accepted event carries its binding keep all sandboxes
controllable. -/
theorem controllable_iff (manifest : Manifest) (units : List RuntimeUnit) (requests : List Request)
    (opens : Guarded Run.step Opens ⟨manifest,units,∅,∅⟩ requests) :
    StaysControllable ⟨manifest,units,∅,∅⟩ requests ↔ Guarded Run.step CarriesBinding ⟨manifest,units,∅,∅⟩ requests := by
  have placed : Placed ⟨manifest,units,∅,∅⟩ := ⟨by simp,by simp,by simp⟩
  generalize (⟨manifest,units,∅,∅⟩ : Run) = run at opens placed
  induction requests generalizing run with
  | nil => exact ⟨fun _ => trivial,fun _ before r after split => by simp at split⟩
  | cons r rest ih =>
    rw [stays_cons,step_controllable_iff placed opens.1]
    exact and_congr_right (fun carries => ih _ opens.2 (step_placed placed opens.1 carries))

/-- A sandbox is observed bound and then reported again without a binding: its record has lost the unit. -/
theorem unbound_event_uncontrollable :
    let first := boundEvent "first" "box" .running 1
    let second : Request := ⟨1,⟨"second","box",.paused,1,none,none,none,none,false,none,0,""⟩⟩
    let bound := demoRun.step first
    let lost := bound.step second
    (buildOperatorControlRequest bound .pause).toOption = some ⟨.pause,[⟨"unit","box",1⟩]⟩ ∧
    (bound.publishSandboxEvent 1 second.event).2.isOk = true ∧
    (lost.sandboxes.lookup "box").map (fun s => s.binding.unit) = some "" ∧
    buildOperatorControlRequest lost .pause = .error "sandbox 'box' is not bound to a runtime unit" := by
  intro first second bound lost
  exact ⟨by decide,by decide,by decide,by decide⟩

/-- Two events of one sandbox that both carry the binding keep it controllable. -/
theorem bound_events_controllable :
    StaysControllable ⟨demoRun.manifest,demoRun.units,∅,∅⟩
      [boundEvent "first" "box" .running 1,boundEvent "second" "box" .paused 1] := by
  have carried : ∀ run event_id state, CarriesBinding run (boundEvent event_id "box" state 1) :=
    fun _ _ _ _ _ _ => ⟨_,rfl,by decide⟩
  have opens : ∀ run event_id state, Opens run (boundEvent event_id "box" state 1) :=
    fun _ _ _ _ _ _ => ⟨by simp [boundEvent],fun _ => ⟨⟨_,rfl,by decide⟩,Nat.one_pos⟩⟩
  refine (controllable_iff demoRun.manifest demoRun.units _ ?_).mpr ?_
  · exact ⟨opens _ _ _,opens _ _ _,trivial⟩
  · exact ⟨carried _ _ _,carried _ _ _,trivial⟩

end TgsRl.SandboxControl
