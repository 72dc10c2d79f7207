import TgsRl.StartGenerations

/-!
The keys of Starts. A Start with a key that has started the run before is answered from the cache of
the executor, or goes on with the Start that the units show as pending. Both can be lost: each
executor has a cache of its own, a restart rebuilds it from the units, which carry the last key
only, compiling takes the key from the units, and an event raises the generation of a pending unit.
-/
namespace TgsRl.StartKeys
open State (Map)
open StartGenerations
open Loops

/-- A request stages the units for a key that has not been answered and that has no other generation. -/
def StartsOnce (s : Run) (move : Move) : Prop :=
  ∀ key g, (s.step move).starts = (key,g) :: s.starts → key ∉ s.finished ∧ ∀ g', (key,g') ∈ s.starts → g' = g

/-- All units carry the key, with one generation and in one state. -/
def Carries (key : String) (units : Units) : Prop :=
  ∃ u ∈ units.values, 0 < u.generation ∧ u.start_key = key ∧ ∀ v ∈ units.values, v.mark = u.mark

/-- The condition on a request. Once a key was used, the executor stays; the run is compiled when all keys are answered and
    restarted while all stored units carry every key; and an event does not raise a pending unit. -/
def Keeps (s : Run) : Move → Prop
  | .validate b => s.starts ≠ [] → s.backend = some b
  | .compile b _ => s.starts ≠ [] → s.backend = some b ∧ ∀ start ∈ s.starts, start.1 ∈ s.finished
  | .event e => ∀ p ∈ s.observes e, p.2.publication = .pending → ∀ v ∈ s.units.lookup p.1, e.generation ≤ v.generation
  | .restart => ∀ start ∈ s.starts, Carries start.1 s.stored
  | _ => True

instance (key : String) (units : Units) : Decidable (Carries key units) := by
  unfold Carries
  infer_instance

instance (s : Run) (move : Move) : Decidable (Keeps s move) := by
  cases move <;> (unfold Keeps; infer_instance)

/-- An answered key is cached, and any other key that was used is pending in all units. -/
structure Kept (s : Run) : Prop where
  mirrored : Mirrored s.units s.stored
  single : ∀ key g g', (key,g) ∈ s.starts → (key,g') ∈ s.starts → g = g'
  settled : ∀ key g, (key,g) ∈ s.starts → key ∈ s.finished ∨ durable_pending_start s.units.values = some (key,g)
  known : ∀ key ∈ s.finished, key ≠ "" ∧ ∃ g, (key,g) ∈ s.starts
  cached : ∀ key ∈ s.finished, ∃ b, s.backend = some b ∧ key ∈ (s.executors b).cache
  flying : ∀ f, s.inflight = some f → s.backend = some f.backend ∧ (f.key,f.generation) ∈ s.starts ∧
    durable_pending_start s.units.values = some (f.key,f.generation)
  waiting : ∀ id u, s.stored.lookup id = some u → u.publication = .pending →
    (s.units.lookup id).isSome ∧ (∃ g, (u.start_key,g) ∈ s.starts) ∧ u.start_key ∉ s.finished

variable {key id : String} {g : Nat} {s : Run} {u : RuntimeUnit} {units : Units}

theorem fresh_not_pending (fresh : u.fresh) : u.publication ≠ .pending := by
  rw [fresh.2.2]
  simp

/-- A pending unit in memory waits for a key that was used and is not answered. -/
theorem Kept.pending (kept : Kept s) (held : s.units.lookup id = some u) (pending : u.publication = .pending) :
    (∃ g, (u.start_key,g) ∈ s.starts) ∧ u.start_key ∉ s.finished := by
  rcases kept.mirrored id u held with stored | fresh
  · obtain ⟨v,found,same⟩ := Option.map_eq_some_iff.mp stored
    obtain ⟨named,-,state⟩ := mark_eq.mp same
    exact named ▸ (kept.waiting id v found (state.trans pending)).2
  · exact absurd pending (fresh_not_pending fresh)

theorem Kept.unanswered (kept : Kept s) (pending : durable_pending_start s.units.values = some (key,g)) : key ∉ s.finished := by
  obtain ⟨filled,-,-,p,state,all⟩ := agreed_iff.mp pending
  obtain ⟨u,member⟩ := List.exists_mem_of_ne_nil _ filled
  obtain ⟨id,held⟩ := Map.mem_values_iff.mp member
  obtain ⟨named,-,publication⟩ := mark_eq.mp (all u member)
  rw [List.mem_singleton.mp state] at publication
  exact named ▸ (kept.pending held publication).2

theorem Kept.used (kept : Kept s) (answered : key ∈ s.finished) : s.starts ≠ [] := by
  obtain ⟨-,g,member⟩ := kept.known key answered
  exact List.ne_nil_of_mem member

/-- A Start that stages the units does so for an unanswered key, under the only generation the key has. -/
theorem staged_once {b : Backend} (kept : Kept s) (staged : Staged s key b g)
    (way : durable_pending_start s.units.values = none ∨ durable_pending_start s.units.values = some (key,g)) :
    key ∉ s.finished ∧ ∀ g', (key,g') ∈ s.starts → g' = g := by
  have unanswered : key ∉ s.finished := by
    intro answered
    obtain ⟨b',backend,cached⟩ := kept.cached key answered
    rw [staged.backend] at backend
    cases backend
    exact staged.unknown cached
  refine ⟨unanswered,fun g' before => ?_⟩
  have pending := (kept.settled key g' before).resolve_left unanswered
  rcases way with none | same
  · rw [none] at pending
    cases pending
  · rw [same] at pending
    cases pending
    rfl

theorem startsOnce_of_kept {move : Move} (kept : Kept s) : StartsOnce s move := by
  have unchanged : (s.step move).starts = s.starts → StartsOnce s move := by
    intro same key g longer
    rw [same] at longer
    exact absurd (congrArg List.length longer) (by simp)
  cases move with
  | validate b => exact unchanged rfl
  | compile b phases => exact unchanged rfl
  | prepare phases done =>
    apply unchanged
    simp only [Run.step,Run.prepare]
    cases s.backend with
    | none => rfl
    | some b => cases done <;> rfl
  | control synced done =>
    apply unchanged
    simp only [Run.step,Run.control]
    cases s.backend with
    | none => rfl
    | some b => cases done <;> cases synced <;> rfl
  | start key launched =>
    rcases start_cases s key launched with ⟨-,e,-,same⟩ | ⟨e,b,g,-,staged,same,way⟩
    · exact unchanged (by rw [Run.step,same])
    · intro key' g' longer
      rw [Run.step,same] at longer
      cases longer
      exact staged_once kept staged (way.imp And.right And.right)
  | finish delivered =>
    apply unchanged
    simp only [Run.step,Run.finish]
    cases s.inflight with
    | none => rfl
    | some f =>
      simp only
      split <;> rfl
  | event e =>
    apply unchanged
    simp only [Run.step,Run.event]
    cases s.observes e <;> rfl
  | restart => exact unchanged rfl

theorem kept_units {e : Backend → Executor} (kept : Kept s) (grown : Grown s.executors e) (mirrored : Mirrored units s.stored)
    (pending : ∀ key g, durable_pending_start s.units.values = some (key,g) → durable_pending_start units.values = some (key,g))
    (ids : ∀ id, (s.units.lookup id).isSome → (units.lookup id).isSome) : Kept { s with units := units, executors := e } where
  mirrored := mirrored
  single := kept.single
  settled key g member := (kept.settled key g member).imp_right (pending key g)
  known := kept.known
  cached key answered := by
    obtain ⟨b,backend,cached⟩ := kept.cached key answered
    exact ⟨b,backend,grown b cached⟩
  flying f found := by
    obtain ⟨backend,member,waits⟩ := kept.flying f found
    exact ⟨backend,member,pending _ _ waits⟩
  waiting id u found state := by
    obtain ⟨here,rest⟩ := kept.waiting id u found state
    exact ⟨ids id here,rest⟩

theorem kept_executors {e : Backend → Executor} (kept : Kept s) (grown : Grown s.executors e) :
    Kept { s with executors := e } := kept_units kept grown kept.mirrored (fun _ _ => id) (fun _ => id)

theorem kept_save (kept : Kept s) : Kept s.save where
  mirrored := mirrored_save _ _
  single := kept.single
  settled := kept.settled
  known := kept.known
  cached := kept.cached
  flying := kept.flying
  waiting id u found state := by
    rcases AList.lookup_union_eq_some.mp found with held | ⟨-,old⟩
    · exact ⟨Option.isSome_iff_exists.mpr ⟨u,held⟩,kept.pending held state⟩
    · exact kept.waiting id u old state

theorem kept_sync (kept : Kept s) (b : Backend) : Kept (s.sync b) :=
  kept_executors kept (grown_update (register_cache _ _))

theorem kept_unitsFor (phases : List String) (kept : Kept s) : Kept { s with units := s.unitsFor phases } := by
  unfold Run.unitsFor
  split
  · next empty =>
    have none : s.units = ∅ := AList.ext empty
    refine kept_units kept (fun _ => List.Subset.refl _) (fun id u found => .inr (compiled_fresh phases found)) ?_ ?_
    · intro key g pending
      rw [none] at pending
      cases pending
    · intro id here
      rw [none] at here
      cases here
  · exact kept

theorem kept_compile {b : Backend} (phases : List String) (kept : Kept s) (keeps : Keeps s (.compile b phases)) :
    Kept (s.compile b phases) where
  mirrored := mirrored_save _ _
  single := kept.single
  settled key g member := .inl ((keeps (List.ne_nil_of_mem member)).2 _ member)
  known := kept.known
  cached key answered := by
    obtain ⟨b',backend,cached⟩ := kept.cached key answered
    exact ⟨b,rfl,Option.some.inj (backend.symm.trans (keeps (kept.used answered)).1) ▸ cached⟩
  flying f found := by
    obtain ⟨-,member,pending⟩ := kept.flying f found
    exact absurd ((keeps (List.ne_nil_of_mem member)).2 _ member) (kept.unanswered pending)
  waiting id u found state := by
    rcases AList.lookup_union_eq_some.mp found with new | ⟨-,old⟩
    · exact absurd state (fresh_not_pending (compiled_fresh phases new))
    · obtain ⟨-,⟨g,member⟩,unanswered⟩ := kept.waiting id u old state
      exact absurd ((keeps (List.ne_nil_of_mem member)).2 _ member) unanswered

theorem kept_validate {b : Backend} (kept : Kept s) (keeps : Keeps s (.validate b)) : Kept { s with backend := some b } := by
  refine ⟨kept.mirrored,kept.single,kept.settled,kept.known,fun key answered => ?_,fun f found => ?_,kept.waiting⟩
  · rw [← keeps (kept.used answered)]
    exact kept.cached key answered
  · have facts := kept.flying f found
    rw [keeps (List.ne_nil_of_mem facts.2.1)] at facts
    exact facts

theorem kept_stage {e : Backend → Executor} {b : Backend} (kept : Kept s) (grown : Grown s.executors e) (staged : Staged s key b g)
    (way : durable_pending_start s.units.values = none ∨ durable_pending_start s.units.values = some (key,g)) :
    Kept (Run.stage { s with executors := e } b key g) := by
  obtain ⟨unanswered,once⟩ := staged_once kept staged way
  have marks : ∀ u ∈ (Run.stage { s with executors := e } b key g).units.values, u.mark = (g,key,.pending) := by
    intro u member
    obtain ⟨id,v,-,rfl⟩ := mem_values_mapValues member
    rfl
  have pending : durable_pending_start (Run.stage { s with executors := e } b key g).units.values = some (key,g) := by
    refine agreed_iff.mpr ⟨?_,staged.named,staged.positive,.pending,by simp,marks⟩
    simpa [Run.stage,Run.save,Map.values,Map.mapValues] using staged.nonempty
  refine ⟨mirrored_save _ _,?_,?_,?_,?_,?_,?_⟩
  · intro other g₁ g₂ first second
    rcases List.mem_cons.mp first with new | old <;> rcases List.mem_cons.mp second with new' | old'
    · cases new
      cases new'
      rfl
    · cases new
      exact (once g₂ old').symm
    · cases new'
      exact once g₁ old
    · exact kept.single other g₁ g₂ old old'
  · intro other g' member
    rcases List.mem_cons.mp member with new | old
    · cases new
      exact .inr pending
    · refine (kept.settled other g' old).imp_right fun waits => ?_
      rcases way with none | same
      · rw [none] at waits
        cases waits
      · rw [same] at waits
        cases waits
        exact pending
  · intro other answered
    obtain ⟨named,g',member⟩ := kept.known other answered
    exact ⟨named,g',List.mem_cons_of_mem _ member⟩
  · intro other answered
    obtain ⟨b',backend,cached⟩ := kept.cached other answered
    exact ⟨b',backend,grown b' cached⟩
  · intro f found
    cases found
    exact ⟨staged.backend,List.mem_cons_self ..,pending⟩
  · intro id u found state
    rcases AList.lookup_union_eq_some.mp found with held | ⟨absent,old⟩
    · obtain ⟨named,-,-⟩ := mark_eq.mp (marks u (Map.mem_values_iff.mpr ⟨id,held⟩))
      exact ⟨Option.isSome_iff_exists.mpr ⟨u,held⟩,⟨g,named ▸ List.mem_cons_self ..⟩,named ▸ unanswered⟩
    · -- pending units are in memory
      have here := (kept.waiting id u old state).1
      rw [← AList.lookup_eq_none,Map.lookup_mapValues,Option.map_eq_none_iff] at absent
      rw [absent] at here
      cases here

theorem kept_finish (delivered : Bool) (kept : Kept s) : Kept (s.finish delivered) := by
  unfold Run.finish
  cases flying : s.inflight with
  | none => exact kept
  | some f =>
    obtain ⟨backend,member,pending⟩ := kept.flying f flying
    obtain ⟨-,named,-⟩ := agreed_iff.mp pending
    simp only
    split
    · refine ⟨mirrored_save _ _,kept.single,?_,?_,?_,(fun _ found => by cases found),?_⟩
      · intro key g used
        refine .inl ((kept.settled key g used).elim (List.mem_cons_of_mem _) fun waits => ?_)
        rw [pending] at waits
        cases waits
        exact List.mem_cons_self ..
      · intro key answered
        rcases List.mem_cons.mp answered with rfl | earlier
        · exact ⟨named,_,member⟩
        · exact kept.known key earlier
      · intro key answered
        rcases List.mem_cons.mp answered with rfl | earlier
        · exact ⟨f.backend,backend,by simp [Run.save]⟩
        · obtain ⟨b,there,cached⟩ := kept.cached key earlier
          exact ⟨b,there,(grown_update (List.subset_cons_self _ _) : Grown s.executors _) b cached⟩
      · intro id u found state
        rcases AList.lookup_union_eq_some.mp found with held | ⟨absent,old⟩
        · rw [Map.lookup_mapValues] at held
          obtain ⟨v,-,rfl⟩ := Option.map_eq_some_iff.mp held
          cases state
        · have here := (kept.waiting id u old state).1
          rw [← AList.lookup_eq_none,Map.lookup_mapValues,Option.map_eq_none_iff] at absent
          rw [absent] at here
          cases here
    · exact ⟨kept.mirrored,kept.single,kept.settled,kept.known,kept.cached,(fun _ found => by cases found),kept.waiting⟩

theorem kept_event {e : SandboxEvent} (kept : Kept s) (keeps : Keeps s (.event e)) : Kept (s.event e) := by
  have mirrored := mirrored_step (.event e) kept.mirrored
  simp only [Run.step,Run.event] at mirrored ⊢
  cases observed : s.observes e with
  | none => exact kept
  | some pair =>
    obtain ⟨id,u⟩ := pair
    rw [observed] at mirrored
    obtain ⟨v,held,raised⟩ := observes_some observed
    have named : u.start_key = v.start_key ∧ u.publication = v.publication := by rw [raised]; exact ⟨rfl,rfl⟩
    -- a pending unit keeps its mark
    have same (state : v.publication = .pending) : u.mark = v.mark := by
      have low := keeps (id,u) observed (named.2.trans state) v held
      rw [raised]
      exact mark_eq.mpr ⟨rfl,Nat.max_eq_left low,rfl⟩
    have marks {key : String} {g : Nat} (pending : durable_pending_start s.units.values = some (key,g)) :
        ∀ sandboxes, durable_pending_start
          (s.units.mapValues fun other v => project sandboxes other (if other = id then u else v)).values = some (key,g) := by
      intro sandboxes
      obtain ⟨filled,nonblank,positive,p,state,all⟩ := agreed_iff.mp pending
      refine agreed_iff.mpr ⟨by simpa [Map.values,Map.mapValues] using filled,nonblank,positive,p,state,fun w member => ?_⟩
      obtain ⟨other,x,found,rfl⟩ := mem_values_mapValues member
      have mark := all x (Map.mem_values_iff.mpr ⟨other,found⟩)
      rw [project_mark]
      split
      · next equal =>
        subst equal
        rw [held] at found
        cases found
        rw [same ((mark_eq.mp mark).2.2.trans (List.mem_singleton.mp state)),mark]
      · exact mark
    refine ⟨mirrored,kept.single,fun key g member => (kept.settled key g member).imp_right (marks · _),kept.known,kept.cached,?_,?_⟩
    · intro f found
      obtain ⟨backend,member,pending⟩ := kept.flying f found
      exact ⟨backend,member,marks pending _⟩
    · intro other w found state
      simp only [Map.lookup_mapValues,Option.isSome_map]
      by_cases equal : other = id
      · subst equal
        rw [AList.lookup_insert] at found
        cases found
        obtain ⟨key,-,publication⟩ := mark_eq.mp (project_mark _ other u)
        rw [key,named.1]
        exact ⟨Option.isSome_iff_exists.mpr ⟨v,held⟩,kept.pending held (named.2.symm.trans (publication.symm.trans state))⟩
      · rw [AList.lookup_insert_ne equal] at found
        exact kept.waiting other w found state

/-- What the stored units carry is what the units of the next process show. -/
theorem kept_restart (kept : Kept s) (keeps : Keeps s .restart) : Kept s.restart := by
  refine ⟨fun id u found => .inl (congrArg (Option.map RuntimeUnit.mark) found),kept.single,?_,kept.known,?_,
    (fun _ found => by cases found),?_⟩
  · intro key g member
    refine (kept.settled key g member).imp_right fun pending => ?_
    obtain ⟨w,carrier,positive,named,all⟩ := keeps _ member
    obtain ⟨filled,nonblank,positive,p,state,marks⟩ := agreed_iff.mp pending
    obtain ⟨u,first⟩ := List.exists_mem_of_ne_nil _ filled
    obtain ⟨id,held⟩ := Map.mem_values_iff.mp first
    rcases kept.mirrored id u held with stored | fresh
    · obtain ⟨v,found,same⟩ := Option.map_eq_some_iff.mp stored
      have mark : w.mark = (g,key,p) := (all v (Map.mem_values_iff.mpr ⟨id,found⟩)).symm.trans (same.trans (marks u first))
      exact agreed_iff.mpr ⟨List.ne_nil_of_mem carrier,nonblank,positive,p,state,fun x there => (all x there).trans mark⟩
    · have publication := (mark_eq.mp (marks u first)).2.2.trans (List.mem_singleton.mp state)
      exact absurd publication (fresh_not_pending fresh)
  · intro key answered
    obtain ⟨nonblank,g,member⟩ := kept.known key answered
    obtain ⟨w,carrier,positive,named,all⟩ := keeps _ member
    obtain ⟨id,found⟩ := Map.mem_values_iff.mp carrier
    have done : w.publication ∈ [.unset,.complete] := by
      cases state : w.publication with
      | pending => exact absurd (named ▸ answered) (kept.waiting id w found state).2.2
      | unset => simp
      | complete => simp
    have retry : durable_start_retry s.stored.values = some (key,w.generation) := agreed_iff.mpr
      ⟨List.ne_nil_of_mem carrier,nonblank,positive,w.publication,done,fun x there => (all x there).trans (mark_eq.mpr ⟨named,rfl,rfl⟩)⟩
    obtain ⟨b,backend,-⟩ := kept.cached key answered
    exact ⟨b,backend,by simp [Run.restart,backend,Executor.restore,Executor.register,retry]⟩
  · intro id u found state
    exact ⟨Option.isSome_iff_exists.mpr ⟨u,found⟩,(kept.waiting id u found state).2⟩

theorem kept_step {s : Run} {move : Move} (kept : Kept s) (keeps : Keeps s move) : Kept (s.step move) := by
  cases move with
  | validate b => exact kept_validate kept keeps
  | compile b phases => exact kept_compile phases kept keeps
  | prepare phases done =>
    simp only [Run.step,Run.prepare]
    split
    · exact kept
    next b _ =>
    have synced := kept_sync (kept_unitsFor phases kept) b
    split
    · exact kept_save synced
    · exact synced
  | control synced done =>
    simp only [Run.step,Run.control]
    cases s.backend with
    | none => exact kept
    | some b => cases synced <;> cases done <;> simp [kept,kept_sync,kept_save]
  | start key launched =>
    rcases start_cases s key launched with ⟨-,e,grown,same⟩ | ⟨e,b,g,grown,staged,same,way⟩
    · rw [Run.step,same]
      exact kept_executors kept grown
    · rw [Run.step,same]
      exact kept_stage kept grown staged (way.imp And.right And.right)
  | finish delivered => exact kept_finish delivered kept
  | event e => exact kept_event kept keeps
  | restart => exact kept_restart kept keeps

theorem kept_empty : Kept {} where
  mirrored := fun id u found => by cases found
  single := fun key g g' first => by cases first
  settled := fun key g first => by cases first
  known := fun key answered => by cases answered
  cached := fun key answered => by cases answered
  flying := fun f found => by cases found
  waiting := fun id u found => by cases found

/-- In every run whose requests meet the condition, a key that was answered stages nothing again and stays in the cache of
    the executor, and all Starts of one key have one generation. -/
theorem one_start_per_key (moves : List Move) (keeps : Guarded Run.step Keeps {} moves) :
    (∀ before move after, moves = before ++ move :: after → StartsOnce (run Run.step {} before) move) ∧
    (∀ key ∈ (run Run.step {} moves).finished, ∃ b, (run Run.step {} moves).backend = some b ∧
      key ∈ ((run Run.step {} moves).executors b).cache) ∧
    ∀ key g g', (key,g) ∈ (run Run.step {} moves).starts → (key,g') ∈ (run Run.step {} moves).starts → g = g' := by
  have steps : ∀ s move, Kept s → Keeps s move → Kept (s.step move) := fun s move => @kept_step s move
  have kept := guarded_keeps steps kept_empty keeps
  refine ⟨?_,kept.cached,kept.single⟩
  intro before move after split
  rw [split] at keeps
  exact startsOnce_of_kept (guarded_keeps steps kept_empty (guarded_append.mp keeps).1)

/-- A Start that is not answered, is sent again after a restart and answered, and after another restart a second one; then
    an event raises a unit, the run is compiled again, and both keys are sent once more. -/
def repeated : List Move :=
  [.compile .fake demoPhases,.start "first" true,.finish false,.restart,.start "first" true,.finish true,.restart,
    .start "second" true,.finish true,.event { sandbox_id := "sandbox-1", runtime_unit_id := "run:rollout", generation := 5 },
    .compile .fake demoPhases,.start "first" true,.start "second" true]

theorem repeated_start_demo : (run Run.step {} repeated).starts = [("second",2),("first",1),("first",1)] ∧
    (∀ key ∈ ["first","second"], ∃ b, (run Run.step {} repeated).backend = some b ∧
      key ∈ ((run Run.step {} repeated).executors b).cache) ∧
    ∀ before move after, repeated = before ++ move :: after → StartsOnce (run Run.step {} before) move := by
  have facts : Guarded Run.step Keeps {} repeated ∧ (run Run.step {} repeated).finished = ["second","first"] ∧
      (run Run.step {} repeated).starts = [("second",2),("first",1),("first",1)] := by decide +kernel
  obtain ⟨keeps,finished,starts⟩ := facts
  obtain ⟨once,cached,-⟩ := one_start_per_key repeated keeps
  refine ⟨starts,fun key named => cached key ?_,once⟩
  rw [finished]
  simpa [or_comm] using named

/-- Two Starts of a run of two units, and the runtime restarted. -/
def restarted : List Move :=
  [.compile .fake demoPhases,.start "first" true,.finish true,.start "second" true,.finish true,.restart]

/-- The first key starts the run again, although it was answered. -/
theorem first_key_starts_again : ¬ StartsOnce (run Run.step {} restarted) (.start "first" true) := by
  have again : ((run Run.step {} restarted).step (.start "first" true)).starts =
      ("first",3) :: (run Run.step {} restarted).starts := by
    decide +kernel
  have answered : "first" ∈ (run Run.step {} restarted).finished := by decide +kernel
  intro once
  exact (once "first" 3 again).1 answered

end TgsRl.StartKeys
