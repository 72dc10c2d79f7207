import Mathlib.Data.List.Sort
import Mathlib.Data.String.Basic
import Mathlib.Logic.Function.Basic
import TgsRl.Loops
import TgsRl.Validation

/-!
The generations of one run in the Python runtime. A generation is kept in three places: the counter
of the executor that the manifest selects, the runtime units in memory and in SQLite, and the
sandboxes. A Start counts the counter up and writes it to every unit; a sandbox event raises one
unit and leaves the counter; compiling writes units of generation zero and without a sandbox; only a
restart takes the counter from what is stored.

A Start that finds no units first prepares the run, which is a move of its own here. Units have
distinct IDs, a Start holds the lock of the run until it is answered, and a Start whose launch fails
has no generation, though the counter has moved.
-/
namespace TgsRl.StartGenerations
open State (Map)
open Validation (trimSpace)
open Loops

/-- The annotation that says how far the intents of a Start are published. -/
inductive Publication
  | unset
  | pending
  | complete
  deriving DecidableEq, Repr

structure RuntimeUnit where
  sandbox_id : String := ""
  generation : Nat := 0
  start_key : String := ""
  publication : Publication := .unset
  deriving DecidableEq, Repr

/-- What a Start writes to a unit. -/
def RuntimeUnit.mark (u : RuntimeUnit) : Nat × String × Publication := (u.generation,u.start_key,u.publication)

structure Sandbox where
  runtime_unit_id : String
  generation : Nat
  deriving DecidableEq, Repr

abbrev Units := Map String RuntimeUnit

inductive Backend
  | fake
  | real
  deriving DecidableEq, Repr

/-- What an executor keeps of the run: its counter and the Start keys it answers from its cache. -/
structure Executor where
  generation : Nat := 0
  cache : List String := []
  deriving DecidableEq, Repr

/-- A Start that awaits the scheduler. -/
structure Flight where
  key : String
  generation : Nat
  backend : Backend
  deriving DecidableEq, Repr

/-- A run in memory and in the database. `starts`, `finished` and `observed` record the Starts that staged units, the
    keys of those that were answered and the generations of accepted events; the runtime does not read them. -/
structure Run where
  backend : Option Backend := none
  units : Units := ∅
  stored : Units := ∅
  sandboxes : Map String Sandbox := ∅
  executors : Backend → Executor := fun _ => {}
  inflight : Option Flight := none
  starts : List (String × Nat) := []
  finished : List String := []
  observed : List Nat := []

/-- Every generation that was given to a Start or reported by an event. -/
def Run.history (s : Run) : List Nat := s.starts.map Prod.snd ++ s.observed

/-- All units agree with the first one on the key and a positive generation. -/
def agreed (units : List RuntimeUnit) (states : List Publication) : Option (String × Nat) :=
  match units with
  | [] => none
  | u :: _ =>
    if (∀ v ∈ units, v.start_key = u.start_key ∧ v.generation = u.generation ∧ v.publication = u.publication) ∧
      u.start_key ≠ "" ∧ 0 < u.generation ∧ u.publication ∈ states
    then some (u.start_key,u.generation) else none

def durable_start_retry (units : List RuntimeUnit) : Option (String × Nat) := agreed units [.unset,.complete]

def durable_pending_start (units : List RuntimeUnit) : Option (String × Nat) := agreed units [.pending]

/-- `register_runtime` with the cache it hydrates. -/
def Executor.register (e : Executor) (units : List RuntimeUnit) : Executor :=
  match durable_start_retry units with
  | none => e
  | some (key,generation) => ⟨max e.generation generation,key :: e.cache⟩

def Executor.restore (e : Executor) (generation : Nat) : Executor := { e with generation := max e.generation generation }

/-- What `start` of the executor answers. -/
inductive Answer
  | cached
  | refused
  | retry (generation : Nat)
  | launch (generation : Nat)
  deriving DecidableEq, Repr

def Executor.answer (e : Executor) (units : List RuntimeUnit) (key : String) : Answer :=
  if key ∈ e.cache then .cached
  else match durable_pending_start units with
  | some (pending,generation) => if pending = key then .retry generation else .refused
  | none => .launch (e.generation + 1)

def Run.setExecutor (s : Run) (b : Backend) (e : Executor) : Run := { s with executors := Function.update s.executors b e }

/-- `_sync_executor`, units apart. -/
def Run.sync (s : Run) (b : Backend) : Run := s.setExecutor b ((s.executors b).register s.units.values)

def Run.save (s : Run) : Run := { s with stored := s.units ∪ s.stored }

/-- The units of a compiled manifest, one for each phase, by ID. -/
def compiled (phases : List String) : Units := phases.foldl (fun units phase => units.insert phase {}) ∅

/-- `compile_runtime`: the units in memory are replaced, those in the database written over. -/
def Run.compile (s : Run) (b : Backend) (phases : List String) : Run :=
  Run.save { s with backend := some b, units := compiled phases }

/-- The units a request that may compile goes on with. -/
def Run.unitsFor (s : Run) (phases : List String) : Units :=
  if s.units.entries = [] then compiled phases else s.units

def Run.prepare (s : Run) (phases : List String) (done : Bool) : Run :=
  match s.backend with
  | none => s
  | some b =>
    let s := Run.sync { s with units := s.unitsFor phases } b
    if done then s.save else s

/-- Pause, resume, checkpoint and the other actions, which write the units as they are. -/
def Run.control (s : Run) (synced done : Bool) : Run :=
  match s.backend with
  | none => s
  | some b =>
    let s := if synced then s.sync b else s
    if done then s.save else s

/-- `_persist_control_result` of a Start. -/
def Run.stage (s : Run) (b : Backend) (key : String) (generation : Nat) : Run :=
  Run.save { s with
    units := s.units.mapValues fun _ u => { u with
      generation := generation,
      start_key := key,
      publication := .pending },
    inflight := some ⟨key,generation,b⟩,
    starts := (key,generation) :: s.starts }

/-- What a Start is answered by the executor; `none` where it does not get there. -/
def Run.verdict (s : Run) (key : String) : Option (Backend × Answer) :=
  match s.inflight, s.backend with
  | none, some b =>
    if trimSpace key = "" then none
    else some (b,((s.executors b).register s.units.values).answer s.units.values key)
  | _, _ => none

/-- `_start_locked` up to the outbox. Without units a new Start fails in the end, and nothing is written. -/
def Run.start (s : Run) (key : String) (launched : Bool) : Run :=
  match s.verdict key with
  | none => s
  | some (b,answer) =>
    let e := (s.executors b).register s.units.values
    match answer with
    | .cached => s.setExecutor b e
    | .refused => s.setExecutor b e
    | .retry g => (s.setExecutor b (e.restore g)).stage b key g
    | .launch g =>
      let s := s.setExecutor b (e.restore g)
      if launched ∧ s.units.entries ≠ [] then s.stage b key g else s

/-- The generation of a Start that is no retry. -/
def Run.newGeneration (s : Run) (key : String) (launched : Bool) : Option Nat :=
  match s.verdict key with
  | some (_,.launch g) => if launched ∧ s.units.entries ≠ [] then some g else none
  | _ => none

/-- The end of a Start: `_mark_start_complete` and `complete_start` once all intents are delivered. -/
def Run.finish (s : Run) (delivered : Bool) : Run :=
  match s.inflight with
  | none => s
  | some f =>
    let s := { s with inflight := none }
    if delivered ∧ s.units.entries ≠ [] ∧ ∀ u ∈ s.units.values, u.generation = f.generation then
      let e := s.executors f.backend
      Run.save { s with
        units := s.units.mapValues fun _ u => { u with
          start_key := f.key,
          publication := .complete },
        executors := Function.update s.executors f.backend { e with cache := f.key :: e.cache },
        finished := f.key :: s.finished }
    else s

/-- A sandbox event. `admitted` says that its ID is new, its transition allowed and its run projected. -/
structure SandboxEvent where
  sandbox_id : String := ""
  runtime_unit_id : String := ""
  generation : Nat
  admitted : Bool := true
  deriving DecidableEq, Repr

/-- The unit an event is about: the one its binding names, or the one with its sandbox. -/
def Run.unitOf (s : Run) (e : SandboxEvent) : Option (String × RuntimeUnit) :=
  if e.runtime_unit_id ≠ "" then (s.units.lookup e.runtime_unit_id).map fun u => (e.runtime_unit_id,u)
  else s.units.pairs.find? fun p => p.2.sandbox_id = e.sandbox_id

/-- The unit with its new generation, where the event is accepted. -/
def Run.observes (s : Run) (e : SandboxEvent) : Option (String × RuntimeUnit) :=
  if !e.admitted ∨ s.backend = none then none
  else if (s.sandboxes.lookup e.sandbox_id).any (fun sandbox => e.generation < sandbox.generation) then none
  else (s.unitOf e).map fun p => (p.1,{ p.2 with generation := max p.2.generation e.generation })

/-- The sandboxes of a unit that have its generation. -/
def targets (sandboxes : Map String Sandbox) (id : String) (u : RuntimeUnit) : List String :=
  ((sandboxes.pairs.filter fun p => p.1 ≠ "" ∧ p.2.runtime_unit_id = id ∧ p.2.generation = u.generation).map
    Prod.fst).insertionSort (· ≤ ·)

/-- `RuntimeOracle.project` for one unit, which takes the first of its sandboxes. -/
def project (sandboxes : Map String Sandbox) (id : String) (u : RuntimeUnit) : RuntimeUnit :=
  if id = "" then u else { u with sandbox_id := (targets sandboxes id u).headD u.sandbox_id }

/-- All units are projected in memory; the event's own is stored. -/
def Run.event (s : Run) (e : SandboxEvent) : Run :=
  match s.observes e with
  | none => s
  | some (id,u) =>
    let sandboxes := s.sandboxes.insert (if e.sandbox_id = "" then u.sandbox_id else e.sandbox_id)
      ⟨e.runtime_unit_id,e.generation⟩
    { s with
      units := s.units.mapValues fun other v => project sandboxes other (if other = id then u else v)
      stored := s.stored.insert id (project sandboxes id u)
      sandboxes
      observed := e.generation :: s.observed }

/-- `latest_generation` of the recovered run. -/
def Run.latest (s : Run) : Nat :=
  max ((s.stored.values.map RuntimeUnit.generation).foldl max 0) ((s.sandboxes.values.map Sandbox.generation).foldl max 0)

/-- A new supervisor on the database. -/
def Run.restart (s : Run) : Run := { s with
  units := s.stored,
  inflight := none,
  executors := fun b =>
    if s.backend = some b then (Executor.register {} s.stored.values).restore s.latest else {} }

inductive Move
  | validate (backend : Backend)
  | compile (backend : Backend) (phases : List String)
  | prepare (phases : List String) (done : Bool)
  | control (synced done : Bool)
  | start (key : String) (launched : Bool)
  | finish (delivered : Bool)
  | event (event : SandboxEvent)
  | restart

def Run.step (s : Run) : Move → Run
  | .validate b => { s with backend := some b }
  | .compile b phases => s.compile b phases
  | .prepare phases done => s.prepare phases done
  | .control synced done => s.control synced done
  | .start key launched => s.start key launched
  | .finish delivered => s.finish delivered
  | .event e => s.event e
  | .restart => s.restart

variable {key id : String} {g : Nat} {s : Run} {e : SandboxEvent} {u : RuntimeUnit} {units stored : Units}

@[simp]
theorem project_mark (sandboxes : Map String Sandbox) (id : String) (u : RuntimeUnit) :
    (project sandboxes id u).mark = u.mark := by
  unfold project
  split <;> rfl

@[simp]
theorem project_generation (sandboxes : Map String Sandbox) (id : String) (u : RuntimeUnit) :
    (project sandboxes id u).generation = u.generation := congrArg Prod.fst (project_mark sandboxes id u)

theorem mark_eq {p : Publication} : u.mark = (g,key,p) ↔ u.start_key = key ∧ u.generation = g ∧ u.publication = p := by
  simp only [RuntimeUnit.mark,Prod.mk.injEq]
  tauto

theorem agreed_iff {units : List RuntimeUnit} {states : List Publication} : agreed units states = some (key,g) ↔
    units ≠ [] ∧ key ≠ "" ∧ 0 < g ∧ ∃ p ∈ states, ∀ u ∈ units, u.mark = (g,key,p) := by
  cases units with
  | nil => simp [agreed]
  | cons u rest =>
    simp only [agreed,Option.ite_none_right_eq_some,Option.some.injEq,Prod.mk.injEq,mark_eq]
    constructor
    · rintro ⟨⟨same,named,positive,state⟩,rfl,rfl⟩
      exact ⟨by simp,named,positive,u.publication,state,same⟩
    · rintro ⟨-,named,positive,p,state,all⟩
      obtain ⟨rfl,rfl,rfl⟩ := all u (by simp)
      exact ⟨⟨all,named,positive,state⟩,rfl,rfl⟩

/-- The caches forget nothing. -/
def Grown (before after : Backend → Executor) : Prop := ∀ b, (before b).cache ⊆ (after b).cache

theorem register_cache (e : Executor) (units : List RuntimeUnit) : e.cache ⊆ (e.register units).cache := by
  unfold Executor.register
  split
  · exact List.Subset.refl _
  · exact List.subset_cons_self _ _

theorem grown_update {e : Backend → Executor} {b : Backend} {next : Executor} (more : (e b).cache ⊆ next.cache) :
    Grown e (Function.update e b next) := by
  intro b'
  by_cases same : b' = b
  · subst same
    simpa using more
  · simp [Function.update_of_ne same]

/-- A Start that reaches its executor with a key that is not cached. -/
structure Staged (s : Run) (key : String) (b : Backend) (g : Nat) : Prop where
  backend : s.backend = some b
  unknown : key ∉ (s.executors b).cache
  named : key ≠ ""
  nonempty : s.units.entries ≠ []
  positive : 0 < g

theorem verdict_some {b : Backend} {answer : Answer} (verdict : s.verdict key = some (b,answer)) :
    s.backend = some b ∧ key ≠ "" ∧ answer = ((s.executors b).register s.units.values).answer s.units.values key := by
  unfold Run.verdict at verdict
  split at verdict
  · split_ifs at verdict with blank
    cases verdict
    refine ⟨‹_›,?_,rfl⟩
    rintro rfl
    exact blank rfl
  · cases verdict

/-- A Start leaves the units or stages them, under a new generation or under the one that is pending. -/
theorem start_cases (s : Run) (key : String) (launched : Bool) :
    (s.newGeneration key launched = none ∧ ∃ e, Grown s.executors e ∧ s.start key launched = { s with executors := e }) ∨
    ∃ e b g, Grown s.executors e ∧ Staged s key b g ∧ s.start key launched = Run.stage { s with executors := e } b key g ∧
      (s.newGeneration key launched = some g ∧ durable_pending_start s.units.values = none ∨
        s.newGeneration key launched = none ∧ durable_pending_start s.units.values = some (key,g)) := by
  unfold Run.start Run.newGeneration
  cases verdict : s.verdict key with
  | none => exact .inl ⟨rfl,s.executors,fun b => List.Subset.refl _,rfl⟩
  | some pair =>
    obtain ⟨b,answer⟩ := pair
    obtain ⟨backend,named,answered⟩ := verdict_some verdict
    have grown := register_cache (s.executors b) s.units.values
    unfold Executor.answer at answered
    split_ifs at answered with cached
    · subst answered
      exact .inl ⟨rfl,_,grown_update grown,rfl⟩
    have unknown : key ∉ (s.executors b).cache := fun known => cached (grown known)
    have restored (g : Nat) : Grown s.executors (Function.update s.executors b
        (((s.executors b).register s.units.values).restore g)) := grown_update grown
    cases pending : durable_pending_start s.units.values with
    | none =>
      rw [pending] at answered
      subst answered
      dsimp only
      by_cases goes : launched = true ∧ s.units.entries ≠ []
      · exact .inr ⟨_,b,_,restored _,⟨backend,unknown,named,goes.2,Nat.succ_pos _⟩,if_pos goes,.inl ⟨if_pos goes,rfl⟩⟩
      · exact .inl ⟨if_neg goes,_,restored _,if_neg goes⟩
    | some pair =>
      obtain ⟨key',g⟩ := pair
      rw [pending] at answered
      simp only at answered
      split_ifs at answered with same
      · subst answered
        subst same
        obtain ⟨filled,-,positive,-⟩ := agreed_iff.mp pending
        have nonempty : s.units.entries ≠ [] := by simpa [Map.values] using filled
        exact .inr ⟨_,b,g,restored g,⟨backend,unknown,named,nonempty,positive⟩,rfl,.inr ⟨rfl,rfl⟩⟩
      · subst answered
        exact .inl ⟨rfl,_,grown_update grown,rfl⟩

theorem unitOf_lookup (found : s.unitOf e = some (id,u)) : s.units.lookup id = some u := by
  unfold Run.unitOf at found
  split at found
  · obtain ⟨v,held,same⟩ := Option.map_eq_some_iff.mp found
    cases same
    exact held
  · exact Map.mem_pairs_iff.mp (List.mem_of_find?_eq_some found)

theorem observes_some (found : s.observes e = some (id,u)) :
    ∃ v, s.units.lookup id = some v ∧ u = { v with generation := max v.generation e.generation } := by
  unfold Run.observes at found
  split at found
  · cases found
  split at found
  · cases found
  obtain ⟨⟨id',v⟩,held,same⟩ := Option.map_eq_some_iff.mp found
  cases same
  exact ⟨v,unitOf_lookup held,rfl⟩

def RuntimeUnit.fresh (u : RuntimeUnit) : Prop := u.generation = 0 ∧ u.start_key = "" ∧ u.publication = .unset

theorem compiled_fresh (phases : List String) (found : (compiled phases).lookup id = some u) : u.fresh := by
  have general : ∀ (phases : List String) (units : Units), (∀ id u, units.lookup id = some u → u.fresh) →
      ∀ id u, (phases.foldl (fun units phase => units.insert phase {}) units).lookup id = some u → u.fresh := by
    intro phases
    induction phases with
    | nil => exact fun _ all => all
    | cons phase rest ih =>
      intro units all
      refine ih _ ?_
      intro id u found
      by_cases same : id = phase
      · subst same
        rw [AList.lookup_insert] at found
        cases found
        exact ⟨rfl,rfl,rfl⟩
      · rw [AList.lookup_insert_ne same] at found
        exact all id u found
  exact general phases ∅ (fun id u found => by cases found) id u found

/-- The units in memory are stored with their marks, or were compiled and not stored yet. -/
def Mirrored (units stored : Units) : Prop :=
  ∀ id u, units.lookup id = some u → (stored.lookup id).map RuntimeUnit.mark = some u.mark ∨ u.fresh

theorem mirrored_save (units stored : Units) : Mirrored units (units ∪ stored) := by
  intro id u found
  exact .inl (by rw [AList.lookup_union_eq_some.mpr (.inl found),Option.map_some])

theorem mirrored_unitsFor (phases : List String) (mirrored : Mirrored s.units s.stored) :
    Mirrored (s.unitsFor phases) s.stored := by
  unfold Run.unitsFor
  split
  · exact fun id u found => .inr (compiled_fresh phases found)
  · exact mirrored

theorem fresh_of_mark {v : RuntimeUnit} (same : u.mark = v.mark) (fresh : v.fresh) : u.fresh := by
  have mark : u.mark = (0,"",.unset) := same.trans (mark_eq.mpr ⟨fresh.2.1,fresh.1,fresh.2.2⟩)
  obtain ⟨named,zero,unset⟩ := mark_eq.mp mark
  exact ⟨zero,named,unset⟩

theorem mirrored_event {sandboxes : Map String Sandbox} (mirrored : Mirrored units stored) :
    Mirrored (units.mapValues fun other v => project sandboxes other (if other = id then u else v))
      (stored.insert id (project sandboxes id u)) := by
  intro other v found
  rw [Map.lookup_mapValues] at found
  obtain ⟨before,held,rfl⟩ := Option.map_eq_some_iff.mp found
  by_cases same : other = id
  · subst same
    rw [AList.lookup_insert]
    exact .inl (by simp)
  · rw [AList.lookup_insert_ne same,if_neg same,project_mark]
    exact (mirrored other before held).imp_right (fresh_of_mark (project_mark ..))

theorem mirrored_step (move : Move) (mirrored : Mirrored s.units s.stored) :
    Mirrored (s.step move).units (s.step move).stored := by
  cases move with
  | validate b => exact mirrored
  | compile b phases => exact mirrored_save _ _
  | prepare phases done =>
    simp only [Run.step,Run.prepare]
    cases s.backend with
    | none => exact mirrored
    | some b =>
      cases done with
      | false => exact mirrored_unitsFor phases mirrored
      | true => exact mirrored_save _ _
  | control synced done =>
    simp only [Run.step,Run.control]
    cases s.backend with
    | none => exact mirrored
    | some b =>
      cases done with
      | false => cases synced <;> exact mirrored
      | true => exact mirrored_save _ _
  | start key launched =>
    rcases start_cases s key launched with ⟨-,e,-,same⟩ | ⟨e,b,g,-,-,same,-⟩
    · rw [Run.step,same]
      exact mirrored
    · rw [Run.step,same]
      exact mirrored_save _ _
  | finish delivered =>
    simp only [Run.step,Run.finish]
    cases s.inflight with
    | none => exact mirrored
    | some f =>
      simp only
      split
      · exact mirrored_save _ _
      · exact mirrored
  | event e =>
    simp only [Run.step,Run.event]
    cases s.observes e with
    | none => exact mirrored
    | some pair => exact mirrored_event mirrored
  | restart => exact fun id u found => .inl (congrArg (Option.map RuntimeUnit.mark) found)

/-- Every stored unit stays, and its generation does not go back. -/
def Grows (before after : Units) : Prop :=
  ∀ id u, before.lookup id = some u → ∃ v, after.lookup id = some v ∧ u.generation ≤ v.generation

/-- No unit of these is stored with a larger generation. -/
def Current (units stored : Units) : Prop :=
  ∀ id u v, units.lookup id = some u → stored.lookup id = some v → v.generation ≤ u.generation

theorem grows_refl (units : Units) : Grows units units := fun _ u found => ⟨u,found,Nat.le_refl _⟩

theorem grows_save : Grows stored (units ∪ stored) ↔ Current units stored := by
  constructor
  · intro grows id u v held found
    obtain ⟨w,after,below⟩ := grows id v found
    have same : (units ∪ stored).lookup id = some u := AList.lookup_union_eq_some.mpr (.inl held)
    rw [after] at same
    cases same
    exact below
  · intro current id v found
    cases held : units.lookup id with
    | some u => exact ⟨u,AList.lookup_union_eq_some.mpr (.inl held),current id u v held found⟩
    | none =>
      refine ⟨v,AList.lookup_union_eq_some.mpr (.inr ⟨?_,found⟩),Nat.le_refl _⟩
      exact AList.lookup_eq_none.mp held

theorem grows_insert : Grows stored (stored.insert id u) ↔ ∀ v, stored.lookup id = some v → v.generation ≤ u.generation := by
  constructor
  · intro grows v found
    obtain ⟨w,after,below⟩ := grows id v found
    rw [AList.lookup_insert] at after
    cases after
    exact below
  · intro current other v found
    by_cases same : other = id
    · subst same
      exact ⟨u,AList.lookup_insert _,current v found⟩
    · exact ⟨v,by rw [AList.lookup_insert_ne same]; exact found,Nat.le_refl _⟩

theorem current_mirrored (f : String → RuntimeUnit → RuntimeUnit) (mirrored : Mirrored units stored)
    (keeps : ∀ id u, units.lookup id = some u → (f id u).generation = u.generation) (started : ∀ u ∈ units.values, ¬ u.fresh) :
    Current (units.mapValues f) stored := by
  intro id u v held found
  rw [Map.lookup_mapValues] at held
  obtain ⟨before,member,rfl⟩ := Option.map_eq_some_iff.mp held
  rcases mirrored id before member with same | fresh
  · rw [found] at same
    rw [keeps id _ member]
    exact (congrArg Prod.fst (Option.some.inj same)).le
  · exact absurd fresh (started before (Map.mem_values_iff.mpr ⟨id,member⟩))

/-- No stored generation goes back, and a new Start is above every earlier Start and event. -/
def NeverBack (s : Run) (move : Move) : Prop :=
  Grows s.stored (s.step move).stored ∧
  ∀ key launched g, move = .start key launched → s.newGeneration key launched = some g → ∀ h ∈ s.history, h < g

/-- The condition on a request: what it writes is not stored with a larger generation (compiled units have generation
    zero), and the counter a new Start counts up is not below a stored unit. -/
def Ordered (s : Run) : Move → Prop
  | .validate _ => True
  | .compile _ phases => Current (compiled phases) s.stored
  | .prepare phases done => s.backend ≠ none → done = true → Current (s.unitsFor phases) s.stored
  | .control _ done => s.backend ≠ none → done = true → Current s.units s.stored
  | .start key launched => ∀ g, s.newGeneration key launched = some g → ∀ u ∈ s.stored.values, u.generation < g
  | .finish _ => True
  | .event e => ∀ id u, s.observes e = some (id,u) → ∀ v, s.stored.lookup id = some v → v.generation ≤ u.generation
  | .restart => True

/-- The history is what the stored units show. -/
structure Shown (s : Run) : Prop where
  mirrored : Mirrored s.units s.stored
  reached : ∀ h ∈ s.history, ∃ u ∈ s.stored.values, h ≤ u.generation
  given : ∀ u ∈ s.stored.values, u.generation = 0 ∨ u.generation ∈ s.history
  flying : ∀ f, s.inflight = some f → 0 < f.generation

/-- Among generations that the history has, to be above the stored units is to be above the history. -/
theorem above_history_iff (shown : Shown s) (positive : 0 < g) :
    (∀ h ∈ s.history, h < g) ↔ ∀ u ∈ s.stored.values, u.generation < g := by
  constructor
  · intro above u stored
    rcases shown.given u stored with zero | given
    · omega
    · exact above _ given
  · intro above h member
    obtain ⟨u,stored,below⟩ := shown.reached h member
    have := above u stored
    omega

theorem pending_current (mirrored : Mirrored s.units s.stored) (pending : durable_pending_start s.units.values = some (key,g)) :
    Current (s.units.mapValues fun _ u => { u with generation := g, start_key := key, publication := .pending }) s.stored := by
  obtain ⟨-,named,-,p,-,all⟩ := agreed_iff.mp pending
  refine current_mirrored _ mirrored ?_ ?_
  · intro id u held
    exact (mark_eq.mp (all u (Map.mem_values_iff.mpr ⟨id,held⟩))).2.1.symm
  · intro u member fresh
    exact named ((mark_eq.mp (all u member)).1.symm.trans fresh.2.1)

theorem staged_current (above : ∀ u ∈ stored.values, u.generation < g) :
    Current (units.mapValues fun _ u => { u with generation := g, start_key := key, publication := .pending }) stored := by
  intro id u v held found
  rw [Map.lookup_mapValues] at held
  obtain ⟨before,-,rfl⟩ := Option.map_eq_some_iff.mp held
  exact Nat.le_of_lt (above v (Map.mem_values_iff.mpr ⟨id,found⟩))

theorem start_neverBack_iff {launched : Bool} (shown : Shown s) :
    NeverBack s (.start key launched) ↔ Ordered s (.start key launched) := by
  simp only [NeverBack,Ordered,Run.step]
  rcases start_cases s key launched with ⟨none,e,-,same⟩ | ⟨e,b,g,-,staged,same,⟨new,-⟩ | ⟨none,pending⟩⟩
  · rw [same]
    constructor
    · intro _ g taken
      rw [none] at taken
      cases taken
    · intro _
      refine ⟨grows_refl _,?_⟩
      intro key' launched' g move taken
      cases move
      rw [none] at taken
      cases taken
  · constructor
    · intro ⟨_,above⟩ g' taken
      rw [new] at taken
      cases taken
      exact (above_history_iff shown staged.positive).mp (above key launched g rfl new)
    · intro ordered
      refine ⟨?_,?_⟩
      · rw [same]
        exact grows_save.mpr (staged_current (ordered g new))
      · intro key' launched' g' move taken
        cases move
        rw [new] at taken
        cases taken
        exact (above_history_iff shown staged.positive).mpr (ordered g new)
  · constructor
    · intro _ g taken
      rw [none] at taken
      cases taken
    · intro _
      refine ⟨?_,?_⟩
      · rw [same]
        exact grows_save.mpr (pending_current shown.mirrored pending)
      · intro key' launched' g' move taken
        cases move
        rw [none] at taken
        cases taken

theorem finish_grows (delivered : Bool) (shown : Shown s) : Grows s.stored (s.finish delivered).stored := by
  unfold Run.finish
  cases flying : s.inflight with
  | none => exact grows_refl _
  | some f =>
    simp only
    split
    · rename_i ends
      refine grows_save.mpr (current_mirrored _ shown.mirrored (fun _ _ _ => rfl) ?_)
      intro u member fresh
      have := shown.flying f flying
      have := ends.2.2 u member
      have := fresh.1
      omega
    · exact grows_refl _

/-- In every run so far in order, the condition says exactly which requests go back. -/
theorem neverBack_iff_ordered (move : Move) (shown : Shown s) : NeverBack s move ↔ Ordered s move := by
  have only : (∀ key launched, move ≠ .start key launched) → (NeverBack s move ↔ Grows s.stored (s.step move).stored) := by
    intro other
    refine ⟨And.left,fun grows => ⟨grows,?_⟩⟩
    intro key launched g same
    exact absurd same (other key launched)
  cases move with
  | validate b => exact (only (by simp)).trans (iff_of_true (grows_refl _) trivial)
  | compile b phases =>
    rw [only (by simp)]
    exact grows_save
  | prepare phases done =>
    rw [only (by simp)]
    simp only [Run.step,Run.prepare,Ordered]
    cases s.backend with
    | none => exact iff_of_true (grows_refl _) (fun known => absurd rfl known)
    | some b =>
      cases done with
      | false => exact iff_of_true (grows_refl _) (fun _ done => by cases done)
      | true => exact grows_save.trans ⟨fun current _ _ => current,fun ordered => ordered (by simp) rfl⟩
  | control synced done =>
    rw [only (by simp)]
    simp only [Run.step,Run.control,Ordered]
    cases s.backend with
    | none => exact iff_of_true (grows_refl _) (fun known => absurd rfl known)
    | some b =>
      cases done with
      | false => cases synced <;> exact iff_of_true (grows_refl _) (fun _ done => by cases done)
      | true =>
        cases synced <;> exact grows_save.trans ⟨fun current _ _ => current,fun ordered => ordered (by simp) rfl⟩
  | start key launched => exact start_neverBack_iff shown
  | finish delivered => exact (only (by simp)).trans (iff_of_true (finish_grows delivered shown) trivial)
  | event e =>
    rw [only (by simp)]
    simp only [Run.step,Run.event,Ordered]
    cases observed : s.observes e with
    | none => simpa using grows_refl _
    | some pair =>
      obtain ⟨id,u⟩ := pair
      simp [grows_insert]
  | restart => exact (only (by simp)).trans (iff_of_true (grows_refl _) trivial)

theorem mem_values_save (member : u ∈ (units ∪ stored).values) : u ∈ units.values ∨ u ∈ stored.values := by
  obtain ⟨id,found⟩ := Map.mem_values_iff.mp member
  rcases AList.lookup_union_eq_some.mp found with held | ⟨-,held⟩
  · exact .inl (Map.mem_values_iff.mpr ⟨id,held⟩)
  · exact .inr (Map.mem_values_iff.mpr ⟨id,held⟩)

theorem mem_save_of_mem (member : u ∈ units.values) : u ∈ (units ∪ stored).values := by
  obtain ⟨id,held⟩ := Map.mem_values_iff.mp member
  exact Map.mem_values_iff.mpr ⟨id,AList.lookup_union_eq_some.mpr (.inl held)⟩

theorem mem_values_mapValues {f : String → RuntimeUnit → RuntimeUnit} (member : u ∈ (units.mapValues f).values) :
    ∃ id v, units.lookup id = some v ∧ u = f id v := by
  obtain ⟨id,found⟩ := Map.mem_values_iff.mp member
  rw [Map.lookup_mapValues] at found
  obtain ⟨v,held,rfl⟩ := Option.map_eq_some_iff.mp found
  exact ⟨id,v,held,rfl⟩

theorem memory_given (shown : Shown s) (member : u ∈ s.units.values) : u.generation = 0 ∨ u.generation ∈ s.history := by
  obtain ⟨id,held⟩ := Map.mem_values_iff.mp member
  rcases shown.mirrored id u held with stored | fresh
  · obtain ⟨v,found,same⟩ := Option.map_eq_some_iff.mp stored
    have generation : v.generation = u.generation := congrArg Prod.fst same
    exact generation ▸ shown.given v (Map.mem_values_iff.mpr ⟨id,found⟩)
  · exact .inl fresh.1

theorem unitsFor_given (shown : Shown s) (phases : List String) (member : u ∈ (s.unitsFor phases).values) :
    u.generation = 0 ∨ u.generation ∈ s.history := by
  unfold Run.unitsFor at member
  split at member
  · obtain ⟨id,held⟩ := Map.mem_values_iff.mp member
    exact .inl (compiled_fresh phases held).1
  · exact memory_given shown member

theorem reached_grows {after : Units} {h : Nat} (grows : Grows s.stored after)
    (reached : ∃ u ∈ s.stored.values, h ≤ u.generation) : ∃ u ∈ after.values, h ≤ u.generation := by
  obtain ⟨u,member,below⟩ := reached
  obtain ⟨id,found⟩ := Map.mem_values_iff.mp member
  obtain ⟨v,later,grown⟩ := grows id u found
  exact ⟨v,Map.mem_values_iff.mpr ⟨id,later⟩,below.trans grown⟩

/-- A request that leaves the history keeps it shown where it writes only generations of the history. -/
theorem shown_same {t : Run} (shown : Shown s) (mirrored : Mirrored t.units t.stored) (grows : Grows s.stored t.stored)
    (starts : t.starts = s.starts) (observed : t.observed = s.observed)
    (written : ∀ u ∈ t.stored.values, u.generation = 0 ∨ u.generation ∈ s.history)
    (flying : ∀ f, t.inflight = some f → s.inflight = some f) : Shown t := by
  have history : t.history = s.history := by simp [Run.history,starts,observed]
  refine ⟨mirrored,?_,?_,fun f found => shown.flying f (flying f found)⟩
  · intro h member
    rw [history] at member
    exact reached_grows grows (shown.reached h member)
  · intro u member
    rw [history]
    exact written u member

theorem shown_stage {e : Backend → Executor} {b : Backend} (shown : Shown s) (positive : 0 < g)
    (nonempty : s.units.entries ≠ []) (grows : Grows s.stored (Run.stage { s with executors := e } b key g).stored) :
    Shown (Run.stage { s with executors := e } b key g) := by
  refine ⟨mirrored_save _ _,?_,?_,?_⟩
  · intro h member
    simp only [Run.history,Run.stage,Run.save,List.map_cons,List.cons_append,List.mem_cons] at member
    rcases member with rfl | earlier
    · obtain ⟨⟨id,u⟩,first⟩ := List.exists_mem_of_ne_nil _ nonempty
      refine ⟨{ u with generation := h, start_key := key, publication := .pending },?_,Nat.le_refl _⟩
      refine mem_save_of_mem (Map.mem_values_iff.mpr ⟨id,?_⟩)
      rw [Map.lookup_mapValues,Map.mem_entries_iff.mp first]
      rfl
    · exact reached_grows grows (shown.reached h earlier)
  · intro u member
    have earlier : ∀ n ∈ s.history, n ∈ (Run.stage { s with executors := e } b key g).history :=
      fun n known => List.mem_cons_of_mem _ known
    rcases mem_values_save member with new | old
    · obtain ⟨id,v,-,rfl⟩ := mem_values_mapValues new
      exact .inr (List.mem_cons_self ..)
    · exact (shown.given u old).imp_right (earlier _)
  · intro f found
    cases found
    exact positive

theorem shown_event (shown : Shown s) (grows : Grows s.stored (s.event e).stored) : Shown (s.event e) := by
  have mirrored := mirrored_step (.event e) shown.mirrored
  simp only [Run.step,Run.event] at mirrored grows ⊢
  cases observed : s.observes e with
  | none => exact shown
  | some pair =>
    obtain ⟨id,u⟩ := pair
    rw [observed] at mirrored grows
    obtain ⟨v,held,raised⟩ := observes_some observed
    have earlier : ∀ n, n ∈ s.history → n ∈ s.starts.map Prod.snd ++ e.generation :: s.observed := by
      intro n known
      simp only [Run.history,List.mem_append,List.mem_cons] at known ⊢
      tauto
    refine ⟨mirrored,?_,?_,shown.flying⟩
    · intro h member
      simp only [Run.history,List.mem_append,List.mem_cons] at member
      by_cases own : h = e.generation
      · refine ⟨_,Map.mem_values_iff.mpr ⟨id,AList.lookup_insert _⟩,?_⟩
        rw [own,project_generation,raised]
        exact Nat.le_max_right _ _
      · have known : h ∈ s.history := by
          simp only [Run.history,List.mem_append]
          tauto
        exact reached_grows grows (shown.reached h known)
    · intro w member
      obtain ⟨other,found⟩ := Map.mem_values_iff.mp member
      by_cases same : other = id
      · subst same
        rw [AList.lookup_insert] at found
        cases found
        have before := memory_given shown (Map.mem_values_iff.mpr ⟨other,held⟩)
        rw [project_generation]
        -- the unit has its old generation or the event's
        rcases Nat.le_total e.generation v.generation with low | high
        · rw [raised]
          simp only [Nat.max_eq_left low]
          exact before.imp_right (earlier _)
        · rw [raised]
          simp only [Nat.max_eq_right high]
          exact .inr (by simp [Run.history])
      · rw [AList.lookup_insert_ne same] at found
        exact (shown.given w (Map.mem_values_iff.mpr ⟨other,found⟩)).imp_right (earlier _)

theorem shown_step {s : Run} {move : Move} (shown : Shown s) (ordered : Ordered s move) : Shown (s.step move) := by
  have mirrored := mirrored_step move shown.mirrored
  have grows := ((neverBack_iff_ordered move shown).mpr ordered).1
  -- what a write adds to the database is in memory
  have saved : ∀ (units : Units), (∀ u ∈ units.values, u.generation = 0 ∨ u.generation ∈ s.history) →
      ∀ u ∈ (units ∪ s.stored).values, u.generation = 0 ∨ u.generation ∈ s.history := by
    intro units given u member
    rcases mem_values_save member with new | old
    · exact given u new
    · exact shown.given u old
  cases move with
  | validate b => exact shown_same shown mirrored grows rfl rfl shown.given (fun _ found => found)
  | compile b phases =>
    refine shown_same shown mirrored grows rfl rfl (saved _ ?_) (fun _ found => found)
    intro u member
    obtain ⟨id,held⟩ := Map.mem_values_iff.mp member
    exact .inl (compiled_fresh phases held).1
  | prepare phases done =>
    simp only [Run.step,Run.prepare] at mirrored grows ⊢
    cases backend : s.backend with
    | none => exact shown
    | some b =>
      rw [backend] at mirrored grows
      cases done with
      | false => exact shown_same shown mirrored grows rfl rfl shown.given (fun _ found => found)
      | true =>
        refine shown_same shown mirrored grows rfl rfl (saved _ ?_) (fun _ found => found)
        exact fun u member => unitsFor_given shown phases member
  | control synced done =>
    simp only [Run.step,Run.control] at mirrored grows ⊢
    cases backend : s.backend with
    | none => exact shown
    | some b =>
      rw [backend] at mirrored grows
      cases done with
      | false => cases synced <;> exact shown_same shown mirrored grows rfl rfl shown.given (fun _ found => found)
      | true =>
        cases synced <;> exact shown_same shown mirrored grows rfl rfl (saved _ (fun u member => memory_given shown member))
          (fun _ found => found)
  | start key launched =>
    simp only [Run.step] at mirrored grows ⊢
    rcases start_cases s key launched with ⟨-,e,-,same⟩ | ⟨e,b,g,-,staged,same,-⟩
    · rw [same]
      exact shown_same shown shown.mirrored (grows_refl _) rfl rfl shown.given (fun _ found => found)
    · rw [same] at grows ⊢
      exact shown_stage shown staged.positive staged.nonempty grows
  | finish delivered =>
    simp only [Run.step,Run.finish] at mirrored grows ⊢
    cases flying : s.inflight with
    | none => exact shown
    | some f =>
      rw [flying] at mirrored grows
      simp only at mirrored grows ⊢
      split at mirrored <;> rename_i ends
      · rw [if_pos ends] at grows ⊢
        refine shown_same shown mirrored grows rfl rfl (saved _ ?_) (fun _ found => by cases found)
        intro u member
        obtain ⟨id,v,held,rfl⟩ := mem_values_mapValues member
        have before : v ∈ s.units.values := Map.mem_values_iff.mpr ⟨id,held⟩
        have given := memory_given shown before
        exact given
      · rw [if_neg ends] at grows ⊢
        exact shown_same shown mirrored grows rfl rfl shown.given (fun _ found => by cases found)
  | event e => exact shown_event shown grows
  | restart => exact shown_same shown mirrored grows rfl rfl shown.given (fun _ found => by cases found)

theorem shown_empty : Shown {} where
  mirrored := fun id u found => by cases found
  reached := fun h member => by cases member
  given := fun u member => by cases member
  flying := fun f found => by cases found

/-- A run goes back in no step exactly when all its requests are in order. -/
theorem generations_never_back_iff (moves : List Move) :
    (∀ before move after, moves = before ++ move :: after → NeverBack (run Run.step {} before) move) ↔
      Guarded Run.step Ordered {} moves :=
  along_iff_guarded (fun s move (shown : Shown s) => neverBack_iff_ordered move shown)
    (fun s move shown ordered => @shown_step s move shown ordered) shown_empty moves

def demoPhases : List String := ["run:rollout","run:train"]

/-- A run of two units that is compiled and started, and one sandbox of which then reports generation five. -/
def demoMoves : List Move :=
  [.compile .fake demoPhases,.start "first" true,.finish true,
    .event { sandbox_id := "sandbox-1", runtime_unit_id := "run:rollout", generation := 5 }]

/-- The next Start has generation two, and the unit goes back to it; compiling again takes the unit back to zero. -/
theorem start_after_event_goes_back :
    ¬ NeverBack (run Run.step {} demoMoves) (.start "second" true) ∧
      ¬ NeverBack (run Run.step {} demoMoves) (.compile .fake demoPhases) := by
  have five : (run Run.step {} demoMoves).stored.lookup "run:rollout" = some ⟨"sandbox-1",5,"first",.complete⟩ := by
    decide +kernel
  refine ⟨?_,?_⟩
  · intro ⟨grows,_⟩
    obtain ⟨v,after,below⟩ := grows _ _ five
    have two : ((run Run.step {} demoMoves).step (.start "second" true)).stored.lookup "run:rollout" =
        some ⟨"sandbox-1",2,"second",.pending⟩ := by
      decide +kernel
    rw [two] at after
    cases after
    simp at below
  · intro ⟨grows,_⟩
    obtain ⟨v,after,below⟩ := grows _ _ five
    have zero : ((run Run.step {} demoMoves).step (.compile .fake demoPhases)).stored.lookup "run:rollout" =
        some ⟨"",0,"",.unset⟩ := by
      decide +kernel
    rw [zero] at after
    cases after
    simp at below

end TgsRl.StartGenerations
