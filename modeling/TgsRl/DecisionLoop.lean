import TgsRl.Loops
import TgsRl.Messages
import TgsRl.Outcomes

/-!
The decision loop of the operator's worker. `RunOnce` resumes the decision stream from the saved
cursor or from the delivery in flight, and `handleDecision` moves the cursor past a decision only at
its end. A crash is an operation that fails: before it took place, or after (`Write.late`).
-/
namespace TgsRl.DecisionLoop
open Messages Loops
open Outcomes (Write)

structure Action where
  actionId : String
  actionType : ActionType
  deriving DecidableEq, Repr

structure ActionResult where
  actionId : String
  status : ActionResultStatus
  deriving DecidableEq, Repr

/-- `expiresAt`: none if it is missing or not valid. -/
structure PlacementPlan where
  actions : List Action
  bindings : List String
  expiresAt : Option Int
  deriving DecidableEq, Repr

/-- A decision of the scheduler's log, which numbers its decisions from one. -/
structure Decision where
  decisionId : String
  sequence : Nat
  numbered : 0 < sequence
  cursor : String
  fallback : Bool
  selectedPlan : Option PlacementPlan
  actionResults : List ActionResult
  deriving DecidableEq, Repr

structure DecisionLog where
  decisions : List Decision
  increasing : decisions.Pairwise (fun earlier later => earlier.sequence < later.sequence)

def Action.isRelease (action : Action) : Bool := decide (action.actionType = .release)

def Action.isBindingMutation (action : Action) : Bool :=
  decide (action.actionType = .bind ∨ action.actionType = .rebind ∨ action.actionType = .recreate)

def shouldProcess (decision : Decision) : Bool :=
  match decision.selectedPlan with
  | none => false
  | some plan =>
    !decision.fallback && !plan.actions.isEmpty &&
    decision.actionResults.all (fun result => decide (result.actionId ≠ "")) &&
    decide (decision.actionResults.map (·.actionId)).Nodup &&
    plan.actions.all (fun action =>
      (decision.actionResults.find? (fun result => decide (result.actionId = action.actionId))).any (fun result =>
        decide (result.status = .succeeded))) &&
    (plan.actions.any Action.isRelease || plan.actions.any Action.isBindingMutation && !plan.bindings.isEmpty)

structure Cursor where
  decisionId : String
  sequence : Nat
  cursor : String
  deriving DecidableEq, Repr

structure DeliveryRecord where
  decisionId : String
  sequence : Nat
  cursor : String
  phase : String
  deriving DecidableEq, Repr

/-- What the worker has brought about for the decision of a sequence number: its releases accepted, its plan compiled to
    bundles of these keys, a bundle applied, durably registered for observation, or its manifest or job run reported as
    NOT_FOUND at a time. -/
inductive Effect where
  | released (sequence : Nat)
  | compiled (sequence : Nat) (bundles : List String)
  | applied (sequence : Nat) (bundle : String)
  | registered (sequence : Nat) (bundle : String)
  | missing (sequence : Nat) (now : Int)
  deriving DecidableEq, Repr

/-- The cursor file, the delivery record, and the effects so far. -/
structure World where
  cursor : Cursor
  delivery : Option DeliveryRecord
  effects : List Effect

def World.empty : World := ⟨⟨"",0,""⟩,none,[]⟩

def World.write (w : World) (write : Write) (change : World → World) : Except World World :=
  match write with
  | .done => .ok (change w)
  | .failed => .error w
  | .late => .error (change w)

def World.record (effect : Effect) (w : World) : World := { w with effects := effect :: w.effects }

inductive Lookup where
  | found | notFound | failed
  deriving DecidableEq, Repr

/-- How the operations for one decision end. `compiled` is none if the plan does not compile; `applied` and `registered`
    go bundle by bundle, and an operation without an answer fails. -/
structure Answers where
  loaded : Bool
  started : Write
  manifest : Lookup
  jobRun : Lookup
  now : Int
  compiled : Option (List String)
  released : Write
  applied : List Write
  reconciled : Write
  registered : List Write
  saved : Write
  cleared : Write

def startOrResumeDelivery (d : Decision) (a : Answers) (w : World) : Except World World :=
  if a.loaded = false then .error w
  else match w.delivery with
    | some record => if record.decisionId = d.decisionId ∧ record.sequence = d.sequence then .ok w else .error w
    | none => w.write a.started (fun w => { w with delivery := some ⟨d.decisionId,d.sequence,d.cursor,"reconciling"⟩ })

def completeDelivery (d : Decision) (a : Answers) (w : World) : Except World World := do
  let w ← w.write a.saved (fun w => { w with cursor := ⟨d.decisionId,d.sequence,d.cursor⟩ })
  w.write a.cleared (fun w => { w with delivery := none })

def expired (d : Decision) (now : Int) : Bool :=
  ((d.selectedPlan.bind (·.expiresAt)).any (fun expiresAt => decide (expiresAt ≤ now)))

def handleMissingDependency (d : Decision) (a : Answers) (w : World) : Except World World :=
  if expired d a.now then completeDelivery d a (w.record (.missing d.sequence a.now)) else .error w

def eachBundle (effect : String → Effect) : List String → List Write → World → Except World World
  | [],_,w => .ok w
  | _ :: _,[],w => .error w
  | bundle :: bundles,write :: writes,w => do
    let w ← w.write write (World.record (effect bundle))
    eachBundle effect bundles writes w

def compile (plan : PlacementPlan) (a : Answers) (w : World) : Except World (List String) :=
  if plan.bindings.isEmpty then .ok [] else match a.compiled with
    | none => .error w
    | some bundles => .ok bundles

def release (d : Decision) (plan : PlacementPlan) (a : Answers) (w : World) : Except World World :=
  if plan.actions.any Action.isRelease then w.write a.released (World.record (.released d.sequence)) else .ok w

/-- `Reconcile`: the bundles of the plan's bindings are compiled, its releases made, and the bundles applied. -/
def reconcile (d : Decision) (plan : PlacementPlan) (a : Answers) (w : World) : Except World (World × List String) := do
  let bundles ← compile plan a w
  let w ← release d plan a (w.record (.compiled d.sequence bundles))
  let w ← eachBundle (Effect.applied d.sequence) bundles a.applied w
  .ok (w,bundles)

/-- What `handleDecision` does once it has the manifest and the job run. -/
def materialize (d : Decision) (plan : PlacementPlan) (a : Answers) (w : World) : Except World World := do
  let (w,bundles) ← reconcile d plan a w
  let w ← w.write a.reconciled (fun w => { w with delivery := w.delivery.map ({ · with phase := "reconciled" }) })
  let w ← eachBundle (Effect.registered d.sequence) bundles a.registered w
  completeDelivery d a w

def handleDecision (d : Decision) (a : Answers) (w : World) : Except World World := do
  let w ← startOrResumeDelivery d a w
  match d.selectedPlan with
  | none => completeDelivery d a w
  | some plan =>
    if shouldProcess d = false then completeDelivery d a w
    else match a.manifest,a.jobRun with
      | .found,.found => materialize d plan a w
      | .notFound,_ => handleMissingDependency d a w
      | .found,.notFound => handleMissingDependency d a w
      | _,_ => .error w

/-- The decisions of the stream, as long as each is handled; the stream ends, or fails, where the answers do. -/
def consume : List Decision → List Answers → World → World
  | d :: rest,a :: answers,w => match handleDecision d a w with
    | .ok w => consume rest answers w
    | .error w => w
  | _,_,w => w

def World.resumePoint (w : World) : Nat :=
  match w.delivery with
  | some record => if w.cursor.sequence < record.sequence then record.sequence - 1 else w.cursor.sequence
  | none => w.cursor.sequence

def World.resumed (log : DecisionLog) (w : World) : List Decision :=
  log.decisions.filter (fun d => decide (w.resumePoint < d.sequence))

/-- One call of `RunOnce`: whether the files are loaded, the write that clears a delivery the cursor has passed, and the
    answers for the decisions it comes to. -/
structure Attempt where
  loaded : Bool
  cleared : Write
  answers : List Answers

/-- A delivery that the cursor has passed is cleared before the stream is opened. -/
def clearPassed (write : Write) (w : World) : Except World World :=
  match w.delivery with
  | none => .ok w
  | some record =>
    if 0 < record.sequence ∧ record.sequence ≤ w.cursor.sequence then w.write write (fun w => { w with delivery := none }) else .ok w

def runOnce (log : DecisionLog) (w : World) (attempt : Attempt) : World :=
  if attempt.loaded = false then w
  else match clearPassed attempt.cleared w with
    | .error w => w
    | .ok w => consume (w.resumed log) attempt.answers w

/-- Its releases were accepted, its bundles applied and durably registered; or its plan had expired and its manifest or job
    run was reported as NOT_FOUND. -/
def Settled (effects : List Effect) (d : Decision) : Prop :=
  (∃ bundles, .compiled d.sequence bundles ∈ effects ∧
    (∀ plan, d.selectedPlan = some plan → plan.actions.any Action.isRelease = true → .released d.sequence ∈ effects) ∧
    ∀ bundle ∈ bundles, .applied d.sequence bundle ∈ effects ∧ .registered d.sequence bundle ∈ effects) ∨
  ∃ now, expired d now = true ∧ .missing d.sequence now ∈ effects

variable {d : Decision} {P : World → Prop} {w start : World} {log : DecisionLog} {a : Answers}

theorem Settled.mono {effects effects' : List Effect} (grown : effects ⊆ effects') (settled : Settled effects d) :
    Settled effects' d := by
  rcases settled with ⟨bundles,compiled,released,done⟩ | ⟨now,late,missing⟩
  · exact .inl ⟨bundles,grown compiled,fun plan chosen releases => grown (released plan chosen releases),
      fun bundle member => ⟨grown (done bundle member).1,grown (done bundle member).2⟩⟩
  · exact .inr ⟨now,late,grown missing⟩

/-- Every decision up to the cursor is settled, and a delivery in flight is of the first decision above it. -/
structure Inv (log : DecisionLog) (w : World) : Prop where
  settled : ∀ d ∈ log.decisions, d.sequence ≤ w.cursor.sequence → shouldProcess d = true → Settled w.effects d
  first : ∀ record, w.delivery = some record → ∀ d ∈ log.decisions, w.cursor.sequence < d.sequence → record.sequence ≤ d.sequence

/-- How a computation ends: in a world where it failed, or with the world it goes on with. -/
def Ends {α : Type} (P : World → Prop) (Q : α → Prop) : Except World α → Prop
  | .ok a => Q a
  | .error w => P w

theorem Ends.bind {α β : Type} {R : α → Prop} {Q : β → Prop} {first : Except World α} {next : α → Except World β}
    (before : Ends P R first) (after : ∀ a, R a → Ends P Q (next a)) : Ends P Q (first >>= next) := by
  cases first with
  | error w => exact before
  | ok a => exact after a before

theorem Ends.mono {α : Type} {P' : World → Prop} {Q Q' : α → Prop} {result : Except World α} (ends : Ends P Q result)
    (failed : ∀ w, P w → P' w) (done : ∀ a, Q a → Q' a) : Ends P' Q' result := by
  cases result with
  | error w => exact failed w ends
  | ok a => exact done a ends

theorem write_ends {write : Write} {change : World → World} {Q : World → Prop} (before : P w) (after : P (change w))
    (goes : Q (change w)) : Ends P Q (w.write write change) := by
  cases write with
  | done => exact goes
  | failed => exact before
  | late => exact after

/-- While a decision is handled its predecessors are settled, the cursor stands and the effects only grow. -/
structure Handling (log : DecisionLog) (start : World) (w : World) : Prop where
  cursor : w.cursor = start.cursor
  delivery : w.delivery.map (·.sequence) = start.delivery.map (·.sequence)
  effects : start.effects ⊆ w.effects

theorem Handling.refl (log : DecisionLog) (w : World) : Handling log w w := ⟨rfl,rfl,List.Subset.refl _⟩

theorem Handling.trans {middle : World} (first : Handling log start middle) (second : Handling log middle w) :
    Handling log start w :=
  ⟨second.cursor.trans first.cursor,second.delivery.trans first.delivery,fun _ held => second.effects (first.effects held)⟩

theorem Handling.inv (same : Handling log start w) (inv : Inv log start) : Inv log w where
  settled d member passed processed := (inv.settled d member (same.cursor ▸ passed) processed).mono same.effects
  first record held d member above := by
    have sequences := same.delivery
    rw [held] at sequences
    obtain ⟨old,held',eq⟩ := Option.map_eq_some_iff.mp sequences.symm
    have bound := inv.first old held' d member (same.cursor ▸ above)
    rw [eq] at bound
    exact bound

theorem handling_record (log : DecisionLog) (w : World) (effect : Effect) : Handling log w (w.record effect) :=
  ⟨rfl,rfl,List.subset_cons_self _ _⟩

theorem eachBundle_ends (log : DecisionLog) (effect : String → Effect) (bundles : List String) (writes : List Write) (w : World) :
    Ends (Handling log w) (fun w' => Handling log w w' ∧ ∀ bundle ∈ bundles, effect bundle ∈ w'.effects)
      (eachBundle effect bundles writes w) := by
  induction bundles generalizing w writes with
  | nil => exact ⟨.refl log w,nofun⟩
  | cons bundle bundles ih =>
    cases writes with
    | nil => exact .refl log w
    | cons write writes =>
      have recorded := handling_record log w (effect bundle)
      refine Ends.bind (write_ends (Q := (· = w.record (effect bundle))) (.refl log w) recorded rfl) ?_
      rintro _ rfl
      refine (ih writes (w.record (effect bundle))).mono (fun _ rest => recorded.trans rest) ?_
      rintro w' ⟨rest,all⟩
      refine ⟨recorded.trans rest,fun other member => ?_⟩
      rcases List.mem_cons.mp member with rfl | member
      · exact rest.effects List.mem_cons_self
      · exact all other member

/-- The decision is above the cursor and no other one stands between. -/
structure Next (log : DecisionLog) (w : World) (d : Decision) : Prop where
  member : d ∈ log.decisions
  above : w.cursor.sequence < d.sequence
  first : ∀ other ∈ log.decisions, w.cursor.sequence < other.sequence → d.sequence ≤ other.sequence

theorem sequence_injective {other : Decision} (member : d ∈ log.decisions) (member' : other ∈ log.decisions)
    (same : d.sequence = other.sequence) : d = other := by
  have distinct : (log.decisions.map (·.sequence)).Nodup := (List.pairwise_map.mpr log.increasing).imp (fun less => Nat.ne_of_lt less)
  exact List.inj_on_of_nodup_map distinct member member' same

theorem completeDelivery_ends (inv : Inv log w) (next : Next log w d) (settled : shouldProcess d = true → Settled w.effects d) :
    Ends (Inv log) (fun w' => Inv log w' ∧ w'.cursor.sequence = d.sequence) (completeDelivery d a w) := by
  have moved : Inv log { w with cursor := ⟨d.decisionId,d.sequence,d.cursor⟩ } := by
    refine ⟨fun other member passed processed => ?_,fun record held other member above => ?_⟩
    · by_cases before : other.sequence ≤ w.cursor.sequence
      · exact inv.settled other member before processed
      · have least := next.first other member (by omega)
        have same : d = other := sequence_injective next.member member (Nat.le_antisymm least passed)
        subst same
        exact settled processed
    · have beyond : d.sequence < other.sequence := above
      have later := next.above
      exact inv.first record held other member (by omega)
  refine Ends.bind (write_ends (Q := (· = { w with cursor := ⟨d.decisionId,d.sequence,d.cursor⟩ })) inv moved rfl) ?_
  rintro _ rfl
  have cleared : Inv log { w with cursor := ⟨d.decisionId,d.sequence,d.cursor⟩, delivery := none } := ⟨moved.settled,nofun⟩
  exact write_ends moved cleared ⟨cleared,rfl⟩

theorem startOrResumeDelivery_ends (inv : Inv log w) (next : Next log w d) :
    Ends (Inv log) (fun w' => Inv log w' ∧ Next log w' d) (startOrResumeDelivery d a w) := by
  unfold startOrResumeDelivery
  split
  · exact inv
  split
  · split
    · exact ⟨inv,next⟩
    · exact inv
  · have started : Inv log { w with delivery := some ⟨d.decisionId,d.sequence,d.cursor,"reconciling"⟩ } := by
      refine ⟨inv.settled,fun record held other member above => ?_⟩
      cases held
      exact next.first other member above
    exact write_ends inv started ⟨started,next.member,next.above,next.first⟩

theorem Handling.next (same : Handling log start w) (next : Next log start d) : Next log w d :=
  ⟨next.member,same.cursor ▸ next.above,fun other member above => next.first other member (same.cursor ▸ above)⟩

theorem handleMissingDependency_ends (inv : Inv log w) (next : Next log w d) :
    Ends (Inv log) (fun w' => Inv log w' ∧ w'.cursor.sequence = d.sequence) (handleMissingDependency d a w) := by
  unfold handleMissingDependency
  split
  next late =>
    have missed := handling_record log w (.missing d.sequence a.now)
    exact completeDelivery_ends (missed.inv inv) (missed.next next) (fun _ => .inr ⟨a.now,late,List.mem_cons_self⟩)
  · exact inv

theorem compile_ends (log : DecisionLog) (plan : PlacementPlan) (a : Answers) (w : World) :
    Ends (Handling log w) (fun _ => True) (compile plan a w) := by
  unfold compile
  split
  · trivial
  · split
    · exact .refl log w
    · trivial

theorem release_ends (log : DecisionLog) (d : Decision) (plan : PlacementPlan) (a : Answers) (w : World) :
    Ends (Handling log w) (fun w' => Handling log w w' ∧
      (plan.actions.any Action.isRelease = true → .released d.sequence ∈ w'.effects)) (release d plan a w) := by
  unfold release
  split
  · have released := handling_record log w (.released d.sequence)
    exact write_ends (.refl log w) released ⟨released,fun _ => List.mem_cons_self⟩
  next none => exact ⟨.refl log w,fun releases => absurd releases none⟩

theorem reconcile_ends (log : DecisionLog) (d : Decision) (plan : PlacementPlan) (a : Answers) (w : World) :
    Ends (Handling log w) (fun result => Handling log w result.1 ∧ .compiled d.sequence result.2 ∈ result.1.effects ∧
      (plan.actions.any Action.isRelease = true → .released d.sequence ∈ result.1.effects) ∧
      ∀ bundle ∈ result.2, .applied d.sequence bundle ∈ result.1.effects) (reconcile d plan a w) := by
  unfold reconcile
  refine Ends.bind (compile_ends log plan a w) (fun bundles _ => ?_)
  have compiled := handling_record log w (.compiled d.sequence bundles)
  refine Ends.bind ((release_ends log d plan a _).mono (fun _ rest => compiled.trans rest) (fun _ => id)) ?_
  rintro w' ⟨same,released⟩
  have started := compiled.trans same
  refine Ends.bind ((eachBundle_ends log _ bundles a.applied w').mono (fun _ rest => started.trans rest) (fun _ => id)) ?_
  rintro w'' ⟨grown,applied⟩
  exact ⟨started.trans grown,grown.effects (same.effects List.mem_cons_self),fun releases => grown.effects (released releases),applied⟩

theorem materialize_ends {plan : PlacementPlan} (inv : Inv log w) (next : Next log w d) (chosen : d.selectedPlan = some plan) :
    Ends (Inv log) (fun w' => Inv log w' ∧ w'.cursor.sequence = d.sequence) (materialize d plan a w) := by
  unfold materialize
  refine Ends.bind ((reconcile_ends log d plan a w).mono (fun _ same => same.inv inv) (fun _ => id)) ?_
  rintro ⟨w',bundles⟩ ⟨same,compiled,released,applied⟩
  dsimp only at same compiled released applied ⊢
  have phased : Handling log w' { w' with delivery := w'.delivery.map ({ · with phase := "reconciled" }) } :=
    ⟨rfl,by cases w'.delivery <;> rfl,List.Subset.refl _⟩
  have saved := same.trans phased
  refine Ends.bind (write_ends (Q := (· = { w' with delivery := w'.delivery.map ({ · with phase := "reconciled" }) }))
    (same.inv inv) (saved.inv inv) rfl) ?_
  rintro _ rfl
  refine Ends.bind ((eachBundle_ends log _ bundles a.registered _).mono (fun _ rest => (saved.trans rest).inv inv) (fun _ => id)) ?_
  rintro w'' ⟨grown,registered⟩
  have whole := saved.trans grown
  refine completeDelivery_ends (whole.inv inv) (whole.next next) (fun _ => .inl ⟨bundles,grown.effects compiled,?_,?_⟩)
  · intro plan' chosen' releases
    cases chosen.symm.trans chosen'
    exact grown.effects (released releases)
  · exact fun bundle member => ⟨grown.effects (applied bundle member),registered bundle member⟩

theorem handleDecision_ends (inv : Inv log w) (next : Next log w d) :
    Ends (Inv log) (fun w' => Inv log w' ∧ w'.cursor.sequence = d.sequence) (handleDecision d a w) := by
  unfold handleDecision
  refine Ends.bind (startOrResumeDelivery_ends inv next) ?_
  rintro w ⟨inv,next⟩
  split
  next none =>
    refine completeDelivery_ends inv next (fun processed => ?_)
    rw [shouldProcess,none] at processed
    cases processed
  next plan chosen =>
    split
    next skipped => exact completeDelivery_ends inv next (fun processed => absurd (skipped.symm.trans processed) Bool.false_ne_true)
    · split
      · exact materialize_ends inv next chosen
      · exact handleMissingDependency_ends inv next
      · exact handleMissingDependency_ends inv next
      · exact inv

theorem consume_inv (rest : List Decision) (answers : List Answers) (inv : Inv log w)
    (sorted : rest.Pairwise (fun earlier later => earlier.sequence < later.sequence)) (inside : ∀ d ∈ rest, d ∈ log.decisions)
    (above : ∀ d ∈ rest, w.cursor.sequence < d.sequence) (all : ∀ d ∈ log.decisions, w.cursor.sequence < d.sequence → d ∈ rest) :
    Inv log (consume rest answers w) := by
  induction rest generalizing answers w with
  | nil => cases answers <;> exact inv
  | cons d rest ih =>
    cases answers with
    | nil => exact inv
    | cons a answers =>
      obtain ⟨first,sorted⟩ := List.pairwise_cons.mp sorted
      have next : Next log w d := by
        refine ⟨inside d List.mem_cons_self,above d List.mem_cons_self,fun other member later => ?_⟩
        rcases List.mem_cons.mp (all other member later) with rfl | member
        · exact Nat.le_refl _
        · exact Nat.le_of_lt (first other member)
      have handled := handleDecision_ends (a := a) inv next
      simp only [consume]
      cases result : handleDecision d a w with
      | error w' =>
        rw [result] at handled
        exact handled
      | ok w' =>
        rw [result] at handled
        obtain ⟨inv,moved⟩ := handled
        refine ih answers inv sorted (fun other member => inside other (List.mem_cons_of_mem _ member)) ?_ ?_
        · exact fun other member => by rw [moved]; exact first other member
        · intro other member later
          rw [moved] at later
          have passed := next.above
          rcases List.mem_cons.mp (all other member (by omega)) with rfl | member
          · omega
          · exact member

theorem resumed_iff (inv : Inv log w) (d : Decision) :
    d ∈ w.resumed log ↔ d ∈ log.decisions ∧ w.cursor.sequence < d.sequence := by
  rw [World.resumed,List.mem_filter]
  refine and_congr_right (fun member => decide_eq_true_iff.trans ?_)
  unfold World.resumePoint
  split
  next record held =>
    have first := inv.first record held d member
    split
    next flying => exact ⟨fun later => by omega,fun later => by have := first later; omega⟩
    · exact Iff.rfl
  · exact Iff.rfl

theorem runOnce_inv (log : DecisionLog) (w : World) (attempt : Attempt) (inv : Inv log w) : Inv log (runOnce log w attempt) := by
  have cleared : Ends (Inv log) (Inv log) (clearPassed attempt.cleared w) := by
    unfold clearPassed
    split
    · exact inv
    split
    · exact write_ends inv ⟨inv.settled,nofun⟩ ⟨inv.settled,nofun⟩
    · exact inv
  unfold runOnce
  split
  · exact inv
  cases result : clearPassed attempt.cleared w with
  | error w' =>
    rw [result] at cleared
    exact cleared
  | ok w' =>
    rw [result] at cleared
    have inv : Inv log w' := cleared
    refine consume_inv _ _ inv (log.increasing.filter _) ?_ ?_ ?_
    · exact fun d member => ((resumed_iff inv d).mp member).1
    · exact fun d member => ((resumed_iff inv d).mp member).2
    · exact fun d member above => (resumed_iff inv d).mpr ⟨member,above⟩

theorem empty_inv (log : DecisionLog) : Inv log World.empty :=
  ⟨fun d _ passed => absurd d.numbered (Nat.not_lt.mpr passed),nofun⟩

/-- After any calls of `RunOnce`, each cut short anywhere, the decisions up to the saved cursor are settled, and the stream
    that the next call resumes holds every decision above it. -/
theorem cursor_after_work (log : DecisionLog) (attempts : List Attempt) :
    (∀ d ∈ log.decisions, d.sequence ≤ (run (runOnce log) World.empty attempts).cursor.sequence → shouldProcess d = true →
      Settled (run (runOnce log) World.empty attempts).effects d) ∧
    ∀ d ∈ log.decisions, (run (runOnce log) World.empty attempts).cursor.sequence < d.sequence →
      d ∈ (run (runOnce log) World.empty attempts).resumed log := by
  have inv := run_keeps (runOnce_inv log) (empty_inv log) attempts
  exact ⟨inv.settled,fun d member above => (resumed_iff inv d).mpr ⟨member,above⟩⟩

end TgsRl.DecisionLoop
