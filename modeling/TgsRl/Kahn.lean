import Mathlib.Algebra.BigOperators.Group.Finset.Basic
import Mathlib.Algebra.Order.BigOperators.Group.Finset
import Mathlib.Data.Finset.Card
import Mathlib.Data.Fintype.Card
import Mathlib.Data.Fintype.EquivFin
import Mathlib.Logic.Relation
import Mathlib.Order.WellFounded
import Mathlib.Tactic.Common

/-!
Kahn's traversal of a finite graph: the node at the head of a queue is visited, its
edges are taken away, and a node that has no edge left to it joins the queue. Started
with the nodes without incoming edge it visits every node exactly if the graph has
no cycle (`visits_eq_card_iff`).
-/
namespace TgsRl.Kahn
open Relation

variable {α : Type} [DecidableEq α]

def relax (state : List α × (α → Int)) (next : α) : List α × (α → Int) :=
  let degree := Function.update state.2 next (state.2 next - 1)
  (if degree next = 0 then state.1 ++ [next] else state.1,degree)

/-- How many nodes are visited until the queue is empty, in at most as many visits as given. -/
def visits (adjacency : α → List α) : Nat → List α → (α → Int) → Nat
  | 0,_,_ => 0
  | _ + 1,[],_ => 0
  | fuel + 1,current :: queue,degree =>
    let relaxed := (adjacency current).foldl relax (queue,degree)
    visits adjacency fuel relaxed.1 relaxed.2 + 1

/-- Every edge of the node is taken away; the nodes left without edges are queued, each once. -/
theorem foldl_relax {targets : List α} (queue : List α) {degree : α → Int} (enough : ∀ v, (targets.count v : Int) ≤ degree v) :
    (∀ v, (targets.foldl relax (queue,degree)).2 v = degree v - targets.count v) ∧
    ∃ added, (targets.foldl relax (queue,degree)).1 = queue ++ added ∧ added.Nodup ∧
      ∀ v, v ∈ added ↔ v ∈ targets ∧ degree v = targets.count v := by
  induction targets generalizing queue degree with
  | nil => exact ⟨by simp,[],by simp⟩
  | cons next targets ih =>
    have fewer : ∀ v, (targets.count v : Int) ≤ Function.update degree next (degree next - 1) v := by
      intro v
      have := enough v
      by_cases same : v = next
      · subst same
        simp at this ⊢
        omega
      · simpa [same,List.count_cons_of_ne (Ne.symm same)] using this
    rw [List.foldl_cons]
    by_cases last : degree next - 1 = 0
    · have gone : next ∉ targets := by
        have := enough next
        rw [← List.count_eq_zero]
        simp at this
        omega
      have taken : relax (queue,degree) next = (queue ++ [next],Function.update degree next (degree next - 1)) := by
        simp [relax,last]
      obtain ⟨left,added,queued,distinct,members⟩ := ih (queue ++ [next]) fewer
      rw [taken]
      refine ⟨?_,next :: added,by simp [queued],?_,?_⟩
      · intro v
        rw [left v]
        by_cases same : v = next
        · subst same
          simp
          omega
        · simp [same,List.count_cons_of_ne (Ne.symm same)]
      · refine List.nodup_cons.mpr ⟨?_,distinct⟩
        intro again
        exact gone ((members next).mp again).1
      · intro v
        by_cases same : v = next
        · subst same
          have none := List.count_eq_zero.mpr gone
          simp [none]
          omega
        · simp [same,members v,List.count_cons_of_ne (Ne.symm same)]
    · have taken : relax (queue,degree) next = (queue,Function.update degree next (degree next - 1)) := by
        simp [relax,last]
      obtain ⟨left,added,queued,distinct,members⟩ := ih queue fewer
      rw [taken]
      refine ⟨?_,added,queued,distinct,?_⟩
      · intro v
        rw [left v]
        by_cases same : v = next
        · subst same
          simp
          omega
        · simp [same,List.count_cons_of_ne (Ne.symm same)]
      · intro v
        rw [members v]
        by_cases same : v = next
        · subst same
          have := enough v
          simp at this ⊢
          constructor
          · rintro ⟨_,equal⟩
            omega
          · intro equal
            refine ⟨List.count_pos_iff.mp (by omega),by omega⟩
        · simp [same,List.count_cons_of_ne (Ne.symm same)]

section Traversal
variable {adjacency : α → List α} {nodes : Finset α}

/-- How many edges lead to the node from nodes that are not done. -/
def edgesLeft (adjacency : α → List α) (nodes : Finset α) (done : List α) (v : α) : Nat :=
  ∑ u ∈ nodes \ done.toFinset, (adjacency u).count v

theorem edgesLeft_append (adjacency : α → List α) {done : List α} {c : α} (member : c ∈ nodes) (fresh : c ∉ done) (v : α) :
    (adjacency c).count v + edgesLeft adjacency nodes (done ++ [c]) v = edgesLeft adjacency nodes done v := by
  have open' : c ∈ nodes \ done.toFinset := by simp [member,fresh]
  have rest : nodes \ (done ++ [c]).toFinset = (nodes \ done.toFinset).erase c := by
    ext u
    simp
    tauto
  rw [edgesLeft,edgesLeft,rest]
  exact Finset.add_sum_erase _ (fun u => (adjacency u).count v) open'

theorem edgesLeft_eq_zero {done : List α} {v : α} :
    edgesLeft adjacency nodes done v = 0 ↔ ∀ u ∈ nodes, v ∈ adjacency u → u ∈ done := by
  simp only [edgesLeft,Finset.sum_eq_zero_iff,Finset.mem_sdiff,List.mem_toFinset,List.count_eq_zero]
  constructor
  · intro none u member edge
    by_contra later
    exact none u ⟨member,later⟩ edge
  · intro all u member edge
    exact member.2 (all u member.1 edge)

/-- Where the traversal is: the nodes that are done or queued are those to which no edge is left, and no node that is done
    lies on a cycle. -/
structure Progress (adjacency : α → List α) (nodes : Finset α) (done queue : List α) (degree : α → Int) : Prop where
  distinct : (done ++ queue).Nodup
  inside : ∀ v ∈ done ++ queue, v ∈ nodes
  degrees : ∀ v, degree v = edgesLeft adjacency nodes done v
  ready : ∀ v ∈ nodes, v ∈ done ++ queue ↔ degree v = 0
  clear : ∀ v ∈ done, ¬TransGen (fun u v => v ∈ adjacency u) v v

variable {done queue : List α} {degree : α → Int}

theorem Progress.length_le (progress : Progress adjacency nodes done queue degree) :
    done.length + queue.length ≤ nodes.card := by
  rw [← List.length_append,← List.toFinset_card_of_nodup progress.distinct]
  exact Finset.card_le_card fun v member => progress.inside v (List.mem_toFinset.mp member)

theorem Progress.visit {c : α} (closed : ∀ u v, v ∈ adjacency u → u ∈ nodes ∧ v ∈ nodes)
    (progress : Progress adjacency nodes done (c :: queue) degree) :
    Progress adjacency nodes (done ++ [c]) ((adjacency c).foldl relax (queue,degree)).1
      ((adjacency c).foldl relax (queue,degree)).2 := by
  have member : c ∈ nodes := progress.inside c (by simp)
  have fresh : c ∉ done := by
    intro before
    exact List.disjoint_of_nodup_append progress.distinct before (by simp)
  have split := edgesLeft_append adjacency member fresh
  have enough (v : α) : ((adjacency c).count v : Int) ≤ degree v := by
    rw [progress.degrees v,← split v]
    omega
  obtain ⟨left,added,queued,once,members⟩ := foldl_relax queue enough
  have new (v : α) (joins : v ∈ added) : v ∈ nodes ∧ v ∉ done ++ c :: queue := by
    obtain ⟨edge,equal⟩ := (members v).mp joins
    have known := (closed c v edge).2
    refine ⟨known,fun already => ?_⟩
    have zero := (progress.ready v known).mp already
    have := List.count_pos_iff.mpr edge
    omega
  have shape : done ++ [c] ++ ((adjacency c).foldl relax (queue,degree)).1 = (done ++ c :: queue) ++ added := by
    simp [queued]
  refine ⟨?_,?_,?_,?_,?_⟩
  · rw [shape]
    exact progress.distinct.append once fun v before joins => (new v joins).2 before
  · intro v
    rw [shape,List.mem_append]
    rintro (before | joins)
    · exact progress.inside v before
    · exact (new v joins).1
  · intro v
    rw [left v,progress.degrees v,← split v]
    omega
  · intro v known
    rw [shape,List.mem_append,progress.ready v known,members v,left v]
    have := enough v
    constructor
    · rintro (zero | ⟨_,equal⟩)
      · omega
      · omega
    · intro equal
      by_cases edge : v ∈ adjacency c
      · exact .inr ⟨edge,by omega⟩
      · rw [List.count_eq_zero.mpr edge] at equal
        exact .inl (by omega)
  · intro v visited cycle
    rcases List.mem_append.mp visited with before | now
    · exact progress.clear v before cycle
    · cases List.mem_singleton.mp now
      -- the last node of the cycle before this one is done already
      obtain ⟨u,way,edge⟩ := TransGen.tail'_iff.mp cycle
      have zero : edgesLeft adjacency nodes done c = 0 := by
        have := (progress.ready c member).mp (by simp)
        rw [progress.degrees c] at this
        exact_mod_cast this
      exact progress.clear u (edgesLeft_eq_zero.mp zero u (closed u c edge).1 edge) (TransGen.head' edge way)

/-- The traversal ends with an empty queue after as many visits as there are nodes, or fewer. -/
theorem Progress.finish {fuel : Nat} (closed : ∀ u v, v ∈ adjacency u → u ∈ nodes ∧ v ∈ nodes)
    (progress : Progress adjacency nodes done queue degree) (enough : nodes.card ≤ fuel + done.length) :
    ∃ done' degree', Progress adjacency nodes done' [] degree' ∧
      visits adjacency fuel queue degree + done.length = done'.length := by
  induction fuel generalizing done queue degree with
  | zero =>
    have := progress.length_le
    have empty : queue = [] := List.length_eq_zero_iff.mp (by omega)
    exact ⟨done,degree,empty ▸ progress,by simp [visits]⟩
  | succ fuel ih =>
    cases queue with
    | nil => exact ⟨done,degree,progress,by simp [visits]⟩
    | cons c queue =>
      obtain ⟨done',degree',ended,count⟩ := ih (progress.visit closed) (by simp; omega)
      refine ⟨done',degree',ended,?_⟩
      simp only [List.length_append,List.length_singleton] at count
      simp only [visits]
      omega

theorem Progress.complete (progress : Progress adjacency nodes done [] degree) (acyclic : ∀ v, ¬TransGen (fun u v => v ∈ adjacency u) v v)
    {v : α} (member : v ∈ nodes) : v ∈ done := by
  let before (u v : nodes) : Prop := TransGen (fun u v => v ∈ adjacency u) u.1 v.1
  have : IsTrans nodes before := ⟨fun _ _ _ first second => TransGen.trans first second⟩
  have : Std.Irrefl before := ⟨fun v => acyclic v.1⟩
  have wellFounded : WellFounded before := Finite.wellFounded_of_trans_of_irrefl before
  suffices all : ∀ v : nodes, v.1 ∈ done from all ⟨v,member⟩
  intro v
  induction v using wellFounded.induction with
  | h v ih =>
    have none : edgesLeft adjacency nodes done v = 0 :=
      edgesLeft_eq_zero.mpr fun u known edge => ih ⟨u,known⟩ (TransGen.single edge)
    have := (progress.ready v.1 v.2).mpr (by rw [progress.degrees v.1,none]; rfl)
    simpa using this

theorem visits_eq_card_iff {fuel : Nat} (closed : ∀ u v, v ∈ adjacency u → u ∈ nodes ∧ v ∈ nodes)
    (degrees : ∀ v, degree v = edgesLeft adjacency nodes [] v) (distinct : queue.Nodup)
    (roots : ∀ v, v ∈ queue ↔ v ∈ nodes ∧ degree v = 0) (enough : nodes.card ≤ fuel) :
    visits adjacency fuel queue degree = nodes.card ↔ ∀ v, ¬TransGen (fun u v => v ∈ adjacency u) v v := by
  have start : Progress adjacency nodes [] queue degree :=
    ⟨by simpa using distinct,fun v member => ((roots v).mp member).1,degrees,fun v known => by simp [roots v,known],by simp⟩
  obtain ⟨done,degree',ended,count⟩ := start.finish closed (by simpa using enough)
  have length := ended.length_le
  have listed := List.toFinset_card_of_nodup (by simpa using ended.distinct : done.Nodup)
  have inside : done.toFinset ⊆ nodes := fun v member => ended.inside v (by simpa using member)
  simp only [List.length_nil,Nat.add_zero] at count length
  constructor
  · intro all v cycle
    obtain ⟨u,edge,_⟩ := TransGen.head'_iff.mp cycle
    have whole : done.toFinset = nodes := Finset.eq_of_subset_of_card_le inside (by omega)
    have visited : v ∈ done := by
      rw [← List.mem_toFinset,whole]
      exact (closed v u edge).1
    exact ended.clear v visited cycle
  · intro acyclic
    have whole : nodes ⊆ done.toFinset := fun v member => List.mem_toFinset.mpr (ended.complete acyclic member)
    have := Finset.card_le_card whole
    omega

end Traversal

end TgsRl.Kahn
