import Mathlib.Data.List.AList
import Mathlib.Tactic.Common

/-!
Loops that stop at the first error, and runs of guarded steps. A loop over a list is a monadic fold
in `Except`; what every iteration that succeeds keeps holds after it (`foldlM_keeps`). A run applies
a list of actions, each under a guard on the state it starts from; what every guarded step keeps
holds of every state a guarded run reaches (`guarded_keeps`).
-/
namespace TgsRl.Loops

section Fold
variable {ε σ α : Type} {step : σ → α → Except ε σ} {start stop : σ} {items : List α}

theorem foldlM_cons_ok {a : α} {rest : List α} (run : (a :: rest).foldlM step start = .ok stop) :
    ∃ next, step start a = .ok next ∧ rest.foldlM step next = .ok stop := by
  rw [List.foldlM_cons] at run
  cases taken : step start a with
  | error e => rw [taken] at run; cases run
  | ok next => rw [taken] at run; exact ⟨next,rfl,run⟩

theorem foldlM_keeps {P : σ → Prop} (init : P start) (keeps : ∀ s a s', a ∈ items → P s → step s a = .ok s' → P s')
    (run : items.foldlM step start = .ok stop) : P stop := by
  induction items generalizing start with
  | nil => cases run; exact init
  | cons a rest ih =>
    obtain ⟨next,taken,later⟩ := foldlM_cons_ok run
    exact ih (keeps start a next (by simp) init taken)
      (fun s b s' member => keeps s b s' (by simp [member])) later

theorem foldlM_error {e : ε} (run : items.foldlM step start = .error e) : ∃ s, ∃ a ∈ items, step s a = .error e := by
  induction items generalizing start with
  | nil => cases run
  | cons a rest ih =>
    rw [List.foldlM_cons] at run
    cases taken : step start a with
    | error e' =>
      rw [taken] at run
      cases run
      exact ⟨start,a,by simp,taken⟩
    | ok next =>
      rw [taken] at run
      obtain ⟨s,b,member,failed⟩ := ih run
      exact ⟨s,b,by simp [member],failed⟩

/-- The same with a statement about the items already read. -/
theorem foldlM_prefix {P : List α → σ → Prop} (init : P [] start)
    (keeps : ∀ before s a s', a ∈ items → P before s → step s a = .ok s' → P (before ++ [a]) s')
    (run : items.foldlM step start = .ok stop) : P items stop := by
  have general : ∀ (rest before : List α) (s : σ), (∀ a ∈ rest, a ∈ items) → P before s →
      rest.foldlM step s = .ok stop → P (before ++ rest) stop := by
    intro rest
    induction rest with
    | nil => intro before s _ holds run; cases run; simpa using holds
    | cons a rest ih =>
      intro before s members holds run
      obtain ⟨next,taken,later⟩ := foldlM_cons_ok run
      have := ih (before ++ [a]) next (fun b member => members b (by simp [member]))
        (keeps before s a next (members a (by simp)) holds taken) later
      simpa using this
  exact general items [] start (fun _ member => member) init run

theorem bind_eq_ok {β : Type} {x : Except ε α} {f : α → Except ε β} {b : β} (done : x >>= f = .ok b) :
    ∃ a, x = .ok a ∧ f a = .ok b := by
  cases x with
  | error message => cases done
  | ok a => exact ⟨a,rfl,done⟩

theorem mapM_eq_ok {β : Type} {f : α → Except ε β} {items : List α} {made : List β} (done : items.mapM f = .ok made) :
    List.Forall₂ (fun a b => f a = .ok b) items made := by
  induction items generalizing made with
  | nil => cases done; exact .nil
  | cons a rest ih =>
    rw [List.mapM_cons] at done
    obtain ⟨b,first,done⟩ := bind_eq_ok done
    obtain ⟨later,others,done⟩ := bind_eq_ok done
    cases done
    exact .cons first (ih others)

theorem mapM_ok {β : Type} {f : α → Except ε β} {g : α → β} {items : List α} (each : ∀ a ∈ items, f a = .ok (g a)) :
    items.mapM f = .ok (items.map g) := by
  induction items with
  | nil => rfl
  | cons a rest ih =>
    rw [List.mapM_cons,each a (by simp),ih (fun b member => each b (by simp [member]))]
    rfl

theorem exists_of_forall₂ {β : Type} {Made : α → β → Prop} {made : List β} (each : List.Forall₂ Made items made) {b : β}
    (member : b ∈ made) : ∃ a ∈ items, Made a b := by
  induction each with
  | nil => cases member
  | cons first _ ih =>
    rcases List.mem_cons.mp member with rfl | later
    · exact ⟨_,by simp,first⟩
    · obtain ⟨a,among,here⟩ := ih later
      exact ⟨a,by simp [among],here⟩

end Fold

section Checks
variable {ε α : Type}

/-- The checks of a list, up to the first that fails. -/
def checkEach (check : α → Except ε Unit) : List α → Except ε Unit
  | [] => .ok ()
  | a :: rest => match check a with
    | .error e => .error e
    | .ok () => checkEach check rest

variable {check : α → Except ε Unit} {items : List α}

theorem checkEach_ok_iff : checkEach check items = .ok () ↔ ∀ a ∈ items, check a = .ok () := by
  induction items with
  | nil => simp [checkEach]
  | cons a rest ih =>
    cases tested : check a with
    | error e => simp [checkEach,tested]
    | ok _ => simp [checkEach,tested,ih]

theorem checkEach_error_iff : (∃ e, checkEach check items = .error e) ↔ ∃ a ∈ items, ∃ e, check a = .error e := by
  induction items with
  | nil => simp [checkEach]
  | cons a rest ih =>
    cases tested : check a with
    | error e => simp [checkEach,tested]
    | ok _ => simp [checkEach,tested,ih]

theorem checkEach_error {e : ε} (run : checkEach check items = .error e) : ∃ a ∈ items, check a = .error e := by
  induction items with
  | nil => cases run
  | cons a rest ih =>
    cases tested : check a with
    | error e' =>
      simp only [checkEach,tested] at run
      cases run
      exact ⟨a,by simp,tested⟩
    | ok _ =>
      simp only [checkEach,tested] at run
      obtain ⟨b,member,failed⟩ := ih run
      exact ⟨b,by simp [member],failed⟩

theorem ok_of_any {result : Except ε α} {test : α → Bool} (passes : result.toOption.any test = true) :
    ∃ value, result = .ok value ∧ test value = true := by
  cases result with
  | error err => cases passes
  | ok value => exact ⟨value,rfl,passes⟩

end Checks

section Runs
variable {σ ι : Type} (step : σ → ι → σ) (guard : σ → ι → Prop)

def run (start : σ) (actions : List ι) : σ := actions.foldl step start

/-- Every action of the list meets the guard in the state it starts from. -/
def Guarded : σ → List ι → Prop
  | _, [] => True
  | s, a :: rest => guard s a ∧ Guarded (step s a) rest

instance Guarded.decidable [∀ s a, Decidable (guard s a)] : ∀ s actions, Decidable (Guarded step guard s actions)
  | _, [] => .isTrue trivial
  | s, a :: rest => @instDecidableAnd _ _ _ (Guarded.decidable (step s a) rest)

variable {step guard}

@[simp] theorem run_nil (s : σ) : run step s [] = s := rfl
@[simp] theorem run_cons (s : σ) (a : ι) (rest : List ι) : run step s (a :: rest) = run step (step s a) rest := rfl

theorem run_append (s : σ) (first second : List ι) : run step s (first ++ second) = run step (run step s first) second := by
  simp [run]

variable {s : σ}

theorem guarded_append {first second : List ι} :
    Guarded step guard s (first ++ second) ↔ Guarded step guard s first ∧ Guarded step guard (run step s first) second := by
  induction first generalizing s with
  | nil => simp [Guarded]
  | cons a rest ih => simp [Guarded,ih,and_assoc]

theorem guarded_keeps {P : σ → Prop} (keeps : ∀ s a, P s → guard s a → P (step s a)) {actions : List ι} (init : P s)
    (guarded : Guarded step guard s actions) : P (run step s actions) := by
  induction actions generalizing s with
  | nil => exact init
  | cons a rest ih => exact ih (keeps s a init guarded.1) guarded.2

/-- The same with a statement about the actions already taken. -/
theorem run_prefix {P : List ι → σ → Prop} {actions : List ι} (init : P [] s)
    (keeps : ∀ before s a, a ∈ actions → (∀ b ∈ before, b ∈ actions) → P before s → P (before ++ [a]) (step s a)) :
    P actions (run step s actions) := by
  have general : ∀ (rest before : List ι) (s : σ), (∀ a ∈ before ++ rest, a ∈ actions) → P before s →
      P (before ++ rest) (run step s rest) := by
    intro rest
    induction rest with
    | nil => intro before s _ holds; simpa using holds
    | cons a rest ih =>
      intro before s members holds
      have next := keeps before s a (members a (by simp)) (fun b member => members b (by simp [member])) holds
      have := ih (before ++ [a]) (step s a) (by simpa using members) next
      simpa using this
  exact general actions [] s (fun _ member => member) init

theorem run_keeps {Inv : σ → Prop} (keeps : ∀ s a, Inv s → Inv (step s a)) {s : σ} (init : Inv s) (actions : List ι) :
    Inv (run step s actions) := by
  induction actions generalizing s with
  | nil => exact init
  | cons a rest ih => exact ih (keeps s a init)

/-- Where the guard says exactly which steps are good in the states of an invariant, the good runs are the guarded ones. -/
theorem along_iff_guarded {Inv : σ → Prop} {good : σ → ι → Prop} (exactly : ∀ s a, Inv s → (good s a ↔ guard s a))
    (keeps : ∀ s a, Inv s → guard s a → Inv (step s a)) (init : Inv s) (actions : List ι) :
    (∀ before a after, actions = before ++ a :: after → good (run step s before) a) ↔ Guarded step guard s actions := by
  induction actions generalizing s with
  | nil => simp [Guarded]
  | cons a rest ih =>
    constructor
    · intro along
      have first := (exactly s a init).mp (along [] a rest rfl)
      refine ⟨first,(ih (keeps s a init first)).mp ?_⟩
      intro before b after split
      exact along (a :: before) b after (by rw [split]; rfl)
    · rintro ⟨first,later⟩ before b after split
      cases before with
      | nil =>
        cases split
        exact (exactly s _ init).mpr first
      | cons c before =>
        cases split
        exact (ih (keeps s _ init first)).mpr later before b after rfl

end Runs

end TgsRl.Loops
