import Mathlib.Data.List.Basic
import TgsRl.Kahn
import TgsRl.Loops
import TgsRl.Validation

/-!
The phase graph of an execution contract, as `validateExecutionContract` in
`scheduler/validation.go` checks it.
-/
namespace TgsRl.PhaseGraphs
open Loops Validation Relation

/-- `PhaseKind`, with the numbers that name no kind. -/
inductive PhaseKind where
  | unknown | prefill | decode | toolWait | kvRestore | reference | reward | actor | optimizer | weightSync | idle
  | unnamed (number : Int)
  deriving DecidableEq, Repr

/-- The keys of `PhaseKind_name`. -/
def PhaseKind.known : PhaseKind → Bool
  | .unnamed _ => false
  | _ => true

/-- A phase, with the keys of its labels. A missing one reads as the empty message. -/
structure Phase where
  phaseId : String
  displayName : String
  kind : PhaseKind
  parallelism : UInt32
  maxAttempts : UInt32
  labels : List String
  deriving DecidableEq, Repr

structure PhaseEdge where
  fromPhaseId : String
  toPhaseId : String
  deriving DecidableEq, Repr

structure PhaseGraph where
  phases : List Phase
  edges : List PhaseEdge
  entryPhaseIds : List String
  deriving DecidableEq, Repr

def canonicalNonEmpty (value : String) : Bool := decide (value ≠ "") && decide (value = trimSpace value)

def graphField : String := "intent.execution_contract.phase_graph"

def entryField : String := "intent.execution_contract.phase_graph.entry_phase_ids"

/-- One phase, after those with the given IDs. -/
def checkPhase (ids : List String) (phase : Phase) : Except ValidationError (List String) :=
  if !canonicalNonEmpty phase.phaseId || decide (trimSpace phase.displayName = "") || !phase.kind.known ||
      decide (phase.kind = .unknown) || decide (phase.parallelism = 0) || decide (phase.maxAttempts = 0) then
    invalid graphField "contains an invalid phase"
  else if phase.labels.any (fun key => !canonicalNonEmpty key) then
    invalid graphField "phase label keys must be non-empty and have no surrounding whitespace"
  else if phase.phaseId ∈ ids then invalid graphField "phase IDs must be unique"
  else .ok (phase.phaseId :: ids)

/-- The maps `adjacency` and `indegree`. -/
structure Links where
  adjacency : String → List String
  indegree : String → Int

def Links.empty : Links := ⟨fun _ => [],fun _ => 0⟩

def Links.add (links : Links) (edge : PhaseEdge) : Links where
  adjacency := Function.update links.adjacency edge.fromPhaseId (links.adjacency edge.fromPhaseId ++ [edge.toPhaseId])
  indegree := Function.update links.indegree edge.toPhaseId (links.indegree edge.toPhaseId + 1)

def linkEdge (ids : List String) (links : Links) (edge : PhaseEdge) : Except ValidationError Links :=
  if edge.fromPhaseId ∉ ids ∨ edge.toPhaseId ∉ ids ∨ edge.fromPhaseId = edge.toPhaseId then
    invalid graphField "contains an invalid edge"
  else .ok (links.add edge)

def edgeKey (edge : PhaseEdge) : String := edge.fromPhaseId ++ "\x00" ++ edge.toPhaseId

def checkEdge (seen : List String) (edge : PhaseEdge) : Except ValidationError (List String) :=
  if edgeKey edge ∈ seen then invalid graphField "edges must be unique" else .ok (edgeKey edge :: seen)

def checkEntry (ids : List String) (links : Links) (entries : List String) (entry : String) :
    Except ValidationError (List String) :=
  if !canonicalNonEmpty entry || decide (entry ∉ ids) || decide (links.indegree entry ≠ 0) then
    invalid entryField "must identify graph roots"
  else if entry ∈ entries then invalid entryField "must be unique"
  else .ok (entry :: entries)

/-- The entries are the roots, and the traversal from them reaches every phase. The entries are queued in the order in
    which the map of them is ranged over, and the traversal is followed for the given number of visits. -/
def checkTraversal (ids : List String) (links : Links) (entries queued : List String) (fuel : Nat) :
    Except ValidationError Unit :=
  if entries = [] then invalid entryField "must not be empty"
  else if ids.any (fun id => decide (links.indegree id = 0) != decide (id ∈ entries)) then
    invalid entryField "must exactly identify graph roots"
  else if Kahn.visits links.adjacency fuel queued links.indegree ≠ ids.length then
    invalid graphField "must be acyclic and reachable"
  else .ok ()

/-- The phase graph part of `validateExecutionContract`. -/
def validatePhaseGraph (graph : PhaseGraph) (queued : List String) (fuel : Nat) : Except ValidationError Unit := do
  let ids ← graph.phases.foldlM checkPhase []
  if ids = [] then invalid graphField "must contain phases" else do
    let links ← graph.edges.foldlM (linkEdge ids) .empty
    let _ ← graph.edges.foldlM checkEdge []
    let entries ← graph.entryPhaseIds.foldlM (checkEntry ids links) []
    checkTraversal ids links entries queued fuel

/-- A loop that tests each item and refuses a key it has seen. -/
theorem foldlM_collect {α ε : Type} {step : List String → α → Except ε (List String)} {good : α → Prop} {key : α → String}
    (step_ok : ∀ seen a next, step seen a = .ok next ↔ good a ∧ key a ∉ seen ∧ next = key a :: seen)
    {items : List α} {seen next : List String} :
    items.foldlM step seen = .ok next ↔
      (∀ a ∈ items, good a ∧ key a ∉ seen) ∧ (items.map key).Nodup ∧ next = (items.map key).reverse ++ seen := by
  induction items generalizing seen with
  | nil => simp [pure,Except.pure,eq_comm]
  | cons a items ih =>
    constructor
    · intro run
      obtain ⟨middle,taken,later⟩ := foldlM_cons_ok run
      obtain ⟨fine,fresh,rfl⟩ := (step_ok seen a middle).mp taken
      obtain ⟨each,distinct,rfl⟩ := ih.mp later
      refine ⟨?_,?_,by simp⟩
      · intro b member
        rcases List.mem_cons.mp member with rfl | later
        · exact ⟨fine,fresh⟩
        · exact ⟨(each b later).1,fun old => (each b later).2 (by simp [old])⟩
      · refine List.nodup_cons.mpr ⟨?_,distinct⟩
        intro again
        obtain ⟨b,member,same⟩ := List.mem_map.mp again
        exact (each b member).2 (by simp [same])
    · rintro ⟨each,distinct,rfl⟩
      obtain ⟨fresh,distinct⟩ := List.nodup_cons.mp distinct
      obtain ⟨fine,unseen⟩ := each a (by simp)
      rw [List.foldlM_cons,(step_ok seen a _).mpr ⟨fine,unseen,rfl⟩]
      refine ih.mpr ⟨?_,distinct,by simp⟩
      intro b member
      obtain ⟨fine,unseen⟩ := each b (by simp [member])
      refine ⟨fine,?_⟩
      rw [List.mem_cons]
      rintro (same | old)
      · exact fresh (same ▸ List.mem_map_of_mem member)
      · exact unseen old

def ValidPhase (phase : Phase) : Prop :=
  canonicalNonEmpty phase.phaseId = true ∧ trimSpace phase.displayName ≠ "" ∧ phase.kind.known = true ∧
    phase.kind ≠ .unknown ∧ phase.parallelism ≠ 0 ∧ phase.maxAttempts ≠ 0 ∧ ∀ key ∈ phase.labels, canonicalNonEmpty key = true

theorem checkPhase_ok (ids : List String) (phase : Phase) (next : List String) :
    checkPhase ids phase = .ok next ↔ ValidPhase phase ∧ phase.phaseId ∉ ids ∧ next = phase.phaseId :: ids := by
  simp only [checkPhase,ValidPhase,invalid]
  split_ifs with bad labels seen
  · simp only [false_iff]
    rintro ⟨⟨id,name,known,kind,parallelism,attempts,_⟩,_⟩
    simp [id,name,known,kind,parallelism,attempts] at bad
  · simp only [false_iff]
    rintro ⟨⟨_,_,_,_,_,_,each⟩,_⟩
    obtain ⟨key,member,wrong⟩ := List.any_eq_true.mp labels
    simp [each key member] at wrong
  · simp [seen]
  · constructor
    · rintro ⟨⟩
      simp_all
    · rintro ⟨_,_,rfl⟩
      rfl

theorem checkEdge_ok (seen : List String) (edge : PhaseEdge) (next : List String) :
    checkEdge seen edge = .ok next ↔ True ∧ edgeKey edge ∉ seen ∧ next = edgeKey edge :: seen := by
  simp only [checkEdge,invalid]
  split_ifs with old <;> simp [old,eq_comm]

theorem checkEntry_ok (ids : List String) (links : Links) (entries : List String) (entry : String) (next : List String) :
    checkEntry ids links entries entry = .ok next ↔
      (canonicalNonEmpty entry = true ∧ entry ∈ ids ∧ links.indegree entry = 0) ∧ entry ∉ entries ∧ next = entry :: entries := by
  simp only [checkEntry,invalid]
  split_ifs with bad old
  · simp only [false_iff]
    rintro ⟨⟨canonical,known,root⟩,_⟩
    simp [canonical,known,root] at bad
  · simp [old]
  · constructor
    · rintro ⟨⟩
      simp_all
    · rintro ⟨_,_,rfl⟩
      rfl

theorem checkTraversal_ok {ids : List String} {links : Links} {entries queued : List String} {fuel : Nat} :
    checkTraversal ids links entries queued fuel = .ok () ↔ entries ≠ [] ∧
      (∀ id ∈ ids, links.indegree id = 0 ↔ id ∈ entries) ∧
      Kahn.visits links.adjacency fuel queued links.indegree = ids.length := by
  simp only [checkTraversal,invalid]
  split_ifs with none other missed
  · simp [none]
  · simp only [false_iff]
    rintro ⟨_,exactly,_⟩
    obtain ⟨id,member,differ⟩ := List.any_eq_true.mp other
    simp [exactly id member] at differ
  · simp [missed]
  · simp only [List.any_eq_true,bne_iff_ne,not_exists,not_and,not_not,decide_eq_decide] at other
    simp [none,not_not.mp missed]
    exact other

section Edges
variable {edges : List PhaseEdge} {links : Links} {nodes : Finset String}

theorem foldlM_linkEdge {ids : List String}
    (sound : ∀ edge ∈ edges, edge.fromPhaseId ∈ ids ∧ edge.toPhaseId ∈ ids ∧ edge.fromPhaseId ≠ edge.toPhaseId) :
    edges.foldlM (linkEdge ids) links = .ok (edges.foldl Links.add links) := by
  induction edges generalizing links with
  | nil => rfl
  | cons edge edges ih =>
    obtain ⟨source,target,different⟩ := sound edge (by simp)
    have taken : linkEdge ids links edge = .ok (links.add edge) := by simp [linkEdge,source,target,different]
    rw [List.foldlM_cons,taken]
    exact ih fun edge member => sound edge (by simp [member])

theorem mem_adjacency_foldl {u v : String} :
    v ∈ (edges.foldl Links.add links).adjacency u ↔ v ∈ links.adjacency u ∨ ⟨u,v⟩ ∈ edges := by
  induction edges generalizing links with
  | nil => simp
  | cons edge edges ih =>
    rw [List.foldl_cons,ih]
    by_cases same : u = edge.fromPhaseId
    · subst same
      have : (⟨edge.fromPhaseId,v⟩ : PhaseEdge) = edge ↔ v = edge.toPhaseId := by
        cases edge
        simp
      simp [Links.add,this,or_assoc]
    · have : (⟨u,v⟩ : PhaseEdge) ≠ edge := by
        rintro rfl
        exact same rfl
      simp [Links.add,same,this]

theorem indegree_foldl (balanced : ∀ v, links.indegree v = Kahn.edgesLeft links.adjacency nodes [] v)
    (sound : ∀ edge ∈ edges, edge.fromPhaseId ∈ nodes) (v : String) :
    (edges.foldl Links.add links).indegree v =
      Kahn.edgesLeft (edges.foldl Links.add links).adjacency nodes [] v := by
  induction edges generalizing links with
  | nil => exact balanced v
  | cons edge edges ih =>
    rw [List.foldl_cons]
    refine ih ?_ fun edge member => sound edge (by simp [member])
    intro v
    have source := sound edge (by simp)
    have others : ∑ u ∈ nodes.erase edge.fromPhaseId, ((links.add edge).adjacency u).count v =
        ∑ u ∈ nodes.erase edge.fromPhaseId, (links.adjacency u).count v := by
      refine Finset.sum_congr rfl fun u member => ?_
      simp [Links.add,Finset.ne_of_mem_erase member]
    have before := balanced v
    simp only [Kahn.edgesLeft,List.toFinset_nil,Finset.sdiff_empty] at before ⊢
    rw [← Finset.add_sum_erase _ _ source] at before ⊢
    rw [others]
    by_cases target : v = edge.toPhaseId
    · subst target
      simp [Links.add,before]
      omega
    · have : [edge.toPhaseId].count v = 0 := List.count_eq_zero.mpr (by simpa using target)
      simp [Links.add,target,before,this]

theorem edgeKey_inj {left right : PhaseEdge} (plain : '\x00' ∉ left.fromPhaseId.toList ∧ '\x00' ∉ left.toPhaseId.toList)
    (same : edgeKey left = edgeKey right) : left = right := by
  have chars : left.fromPhaseId.toList ++ '\x00' :: left.toPhaseId.toList =
      right.fromPhaseId.toList ++ '\x00' :: right.toPhaseId.toList := by
    simpa [edgeKey] using congrArg String.toList same
  obtain ⟨source,_,target⟩ := (List.append_cons_inj_of_notMem plain.1 plain.2).mp chars
  cases left
  cases right
  simp only [PhaseEdge.mk.injEq]
  exact ⟨String.toList_inj.mp source,String.toList_inj.mp target⟩

end Edges

/-- Phases that are valid one by one with distinct IDs, and edges between distinct ones of them, none twice. -/
structure WellFormed (graph : PhaseGraph) : Prop where
  phases : ∀ phase ∈ graph.phases, ValidPhase phase
  ids : (graph.phases.map Phase.phaseId).Nodup
  plain : ∀ phase ∈ graph.phases, '\x00' ∉ phase.phaseId.toList
  joined : ∀ edge ∈ graph.edges, edge.fromPhaseId ∈ graph.phases.map Phase.phaseId ∧
    edge.toPhaseId ∈ graph.phases.map Phase.phaseId ∧ edge.fromPhaseId ≠ edge.toPhaseId
  edges : graph.edges.Nodup

def PhaseGraph.Edge (graph : PhaseGraph) (u v : String) : Prop := ⟨u,v⟩ ∈ graph.edges

/-- The entries are the phases without incoming edge, each once, and there is one. -/
structure EntriesAreRoots (graph : PhaseGraph) : Prop where
  distinct : graph.entryPhaseIds.Nodup
  roots : ∀ id, id ∈ graph.entryPhaseIds ↔ id ∈ graph.phases.map Phase.phaseId ∧ ∀ edge ∈ graph.edges, edge.toPhaseId ≠ id
  nonempty : graph.entryPhaseIds ≠ []

theorem WellFormed.edgeKeys {graph : PhaseGraph} (sound : WellFormed graph) : (graph.edges.map edgeKey).Nodup := by
  refine sound.edges.map_on ?_
  intro left member right _ same
  have plain (id : String) (known : id ∈ graph.phases.map Phase.phaseId) : '\x00' ∉ id.toList := by
    obtain ⟨phase,among,rfl⟩ := List.mem_map.mp known
    exact sound.plain phase among
  obtain ⟨source,target,_⟩ := sound.joined left member
  exact edgeKey_inj ⟨plain _ source,plain _ target⟩ same

/-- What the check comes to for a sound graph. -/
theorem validatePhaseGraph_ok {graph : PhaseGraph} (sound : WellFormed graph) (links : Links)
    (linked : links = graph.edges.foldl Links.add .empty) {queued : List String} {fuel : Nat} :
    validatePhaseGraph graph queued fuel = .ok () ↔ graph.entryPhaseIds.Nodup ∧ graph.entryPhaseIds ≠ [] ∧
      (∀ id, id ∈ graph.entryPhaseIds ↔ id ∈ graph.phases.map Phase.phaseId ∧ links.indegree id = 0) ∧
      Kahn.visits links.adjacency fuel queued links.indegree = graph.phases.length := by
  have phases : graph.phases.foldlM checkPhase [] = .ok (graph.phases.map Phase.phaseId).reverse :=
    (foldlM_collect checkPhase_ok).mpr ⟨fun phase member => ⟨sound.phases phase member,by simp⟩,sound.ids,by simp⟩
  have edges : graph.edges.foldlM (linkEdge (graph.phases.map Phase.phaseId).reverse) .empty = .ok links :=
    linked ▸ foldlM_linkEdge (by simpa using sound.joined)
  have keys : graph.edges.foldlM checkEdge [] = .ok (graph.edges.map edgeKey).reverse :=
    (foldlM_collect checkEdge_ok).mpr ⟨by simp,sound.edgeKeys,by simp⟩
  have entries := @foldlM_collect _ _ _ _ _ (checkEntry_ok (graph.phases.map Phase.phaseId).reverse links)
    graph.entryPhaseIds []
  rw [validatePhaseGraph,phases]
  constructor
  · intro passed
    obtain ⟨_,⟨⟩,passed⟩ := bind_eq_ok passed
    split_ifs at passed
    · cases passed
    rw [edges,keys] at passed
    obtain ⟨_,⟨⟩,passed⟩ := bind_eq_ok passed
    obtain ⟨_,⟨⟩,passed⟩ := bind_eq_ok passed
    obtain ⟨found,run,passed⟩ := bind_eq_ok passed
    obtain ⟨each,distinct,rfl⟩ := entries.mp run
    obtain ⟨nonempty,exactly,visited⟩ := checkTraversal_ok.mp passed
    simp only [List.map_id',List.append_nil,List.mem_reverse] at each distinct nonempty exactly
    refine ⟨distinct,by simpa using nonempty,fun id => ⟨fun member => (each id member).1.2,?_⟩,by simpa using visited⟩
    rintro ⟨known,root⟩
    exact (exactly id known).mp root
  · rintro ⟨distinct,nonempty,roots,visited⟩
    have canonical {id : String} (known : id ∈ graph.phases.map Phase.phaseId) : canonicalNonEmpty id = true := by
      obtain ⟨phase,member,rfl⟩ := List.mem_map.mp known
      exact (sound.phases phase member).1
    have run := entries.mpr ⟨fun id member => ⟨⟨canonical ((roots id).mp member).1,by simpa using (roots id).mp member⟩,by simp⟩,
      by simpa using distinct,rfl⟩
    obtain ⟨entry,member⟩ := List.exists_mem_of_ne_nil _ nonempty
    have some : (graph.phases.map Phase.phaseId).reverse ≠ [] := by
      simpa using List.ne_nil_of_mem ((roots entry).mp member).1
    show (if _ then _ else _) = _
    rw [if_neg some,edges,keys]
    show (graph.entryPhaseIds.foldlM (checkEntry _ links) [] >>= fun entries => checkTraversal _ links entries queued fuel) = _
    rw [run]
    refine checkTraversal_ok.mpr ⟨by simpa using nonempty,fun id known => ?_,by simpa using visited⟩
    have known : id ∈ graph.phases.map Phase.phaseId := by simpa using known
    simp [roots id,known]

/-- A graph with sound phases and edges passes exactly if it has no cycle and its entries are its roots. -/
theorem validatePhaseGraph_ok_iff (graph : PhaseGraph) (sound : WellFormed graph) (queued : List String)
    (ranged : queued.Perm graph.entryPhaseIds) (fuel : Nat) (enough : graph.phases.length ≤ fuel) :
    validatePhaseGraph graph queued fuel = .ok () ↔ (∀ id, ¬TransGen graph.Edge id id) ∧ EntriesAreRoots graph := by
  let links := graph.edges.foldl Links.add .empty
  let nodes := (graph.phases.map Phase.phaseId).toFinset
  have edge {u v : String} : v ∈ links.adjacency u ↔ graph.Edge u v := by
    simp [links,mem_adjacency_foldl,Links.empty,PhaseGraph.Edge]
  have closed (u v : String) (joined : v ∈ links.adjacency u) : u ∈ nodes ∧ v ∈ nodes := by
    obtain ⟨source,target,_⟩ := sound.joined _ (edge.mp joined)
    exact ⟨List.mem_toFinset.mpr source,List.mem_toFinset.mpr target⟩
  have degrees : ∀ v, links.indegree v = Kahn.edgesLeft links.adjacency nodes [] v :=
    indegree_foldl (by simp [Links.empty,Kahn.edgesLeft]) fun edge member => List.mem_toFinset.mpr (sound.joined edge member).1
  have root {id : String} : links.indegree id = 0 ↔ ∀ edge ∈ graph.edges, edge.toPhaseId ≠ id := by
    rw [degrees id,Int.natCast_eq_zero,Kahn.edgesLeft_eq_zero]
    constructor
    · rintro none ⟨u,v⟩ member rfl
      have joined := edge.mpr member
      exact absurd (none u (closed u v joined).1 joined) (by simp)
    · intro none u _ joined
      exact absurd rfl (none ⟨u,id⟩ (edge.mp joined))
  have card : nodes.card = graph.phases.length := by
    simpa [nodes] using List.toFinset_card_of_nodup sound.ids
  have same : (fun u v => v ∈ links.adjacency u) = graph.Edge := by
    funext u v
    exact propext edge
  have traversed (distinct : graph.entryPhaseIds.Nodup)
      (roots : ∀ id, id ∈ graph.entryPhaseIds ↔ id ∈ graph.phases.map Phase.phaseId ∧ links.indegree id = 0) :
      Kahn.visits links.adjacency fuel queued links.indegree = graph.phases.length ↔ ∀ id, ¬TransGen graph.Edge id id := by
    rw [← card,← same]
    refine Kahn.visits_eq_card_iff closed degrees (ranged.nodup_iff.mpr distinct) ?_ (card ▸ enough)
    intro v
    simp [ranged.mem_iff,roots v,nodes]
  rw [validatePhaseGraph_ok sound links rfl]
  constructor
  · rintro ⟨distinct,nonempty,roots,visited⟩
    exact ⟨(traversed distinct roots).mp visited,distinct,fun id => by rw [roots id,root],nonempty⟩
  · rintro ⟨acyclic,distinct,roots,nonempty⟩
    have roots (id : String) : id ∈ graph.entryPhaseIds ↔ id ∈ graph.phases.map Phase.phaseId ∧ links.indegree id = 0 := by
      rw [roots id,root]
    exact ⟨distinct,nonempty,roots,(traversed distinct roots).mpr acyclic⟩

def twoPhases : PhaseGraph :=
  ⟨[⟨"rollout","Rollout",.decode,1,1,[]⟩,⟨"train","Train",.actor,1,1,[]⟩],[⟨"rollout","train"⟩],["rollout"]⟩

theorem twoPhases_ok : WellFormed twoPhases ∧ (∀ id, ¬TransGen twoPhases.Edge id id) ∧ EntriesAreRoots twoPhases := by
  have sound : WellFormed twoPhases := by
    refine ⟨?_,by decide,by decide,by decide,by decide⟩
    simp only [ValidPhase,twoPhases]
    decide +kernel
  exact ⟨sound,(validatePhaseGraph_ok_iff twoPhases sound ["rollout"] (.refl _) 2 (by decide)).mp (by decide +kernel)⟩

end TgsRl.PhaseGraphs
