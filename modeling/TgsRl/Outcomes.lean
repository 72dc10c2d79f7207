import Mathlib.Logic.Basic
import Mathlib.Tactic.Common

/-!
Actions that change a state and may fail, with the state they fail in. `Ends P Q` says that
`P` holds of the state where an action fails and `Q` of its value and the state where it
returns; it composes along `bind` (`Ends.bind`). A `Write` is how a write to a file ends.
-/
namespace TgsRl.Outcomes
variable {ε σ α β : Type}

/-- How a write to a file ends; a `late` one has replaced the file and fails all the same. -/
inductive Write where
  | done | failed | late
  deriving DecidableEq, Repr

def Write.stores {α : Type} (write : Write) (old new : α) : α := if write = .failed then old else new

def Write.ok (write : Write) : Bool := decide (write = .done)

def after : EStateM.Result ε σ α → σ
  | .ok _ s => s
  | .error _ s => s

/-- `P` holds where the action fails and `Q` where it returns. -/
def Ends (P : σ → Prop) (Q : α → σ → Prop) : EStateM.Result ε σ α → Prop
  | .ok a s => Q a s
  | .error _ s => P s

section Ends
variable {P : σ → Prop} {Q : α → σ → Prop} {R : β → σ → Prop}

theorem Ends.bind {x : EStateM ε σ α} {f : α → EStateM ε σ β} {s : σ} (first : Ends P Q (x s))
    (next : ∀ a s', Q a s' → Ends P R (f a s')) : Ends P R ((x >>= f) s) := by
  show Ends P R (EStateM.bind x f s)
  unfold EStateM.bind
  cases ran : x s with
  | ok a s' => rw [ran] at first; exact next a s' first
  | error e s' => rw [ran] at first; exact first

variable {result : EStateM.Result ε σ α}

theorem Ends.mono {P' : σ → Prop} {Q' : α → σ → Prop} (ends : Ends P Q result) (failing : ∀ s, P s → P' s)
    (returning : ∀ a s, Q a s → Q' a s) : Ends P' Q' result := by
  cases result with
  | ok a s => exact returning a s ends
  | error e s => exact failing s ends

theorem Ends.after (ends : Ends P (fun _ => P) result) : P (after result) := by
  cases result with
  | ok a s => exact ends
  | error e s => exact ends

end Ends

variable {x : EStateM ε σ α} {f : α → EStateM ε σ β} {s s' : σ}

theorem bind_ok {a : α} (ran : x s = .ok a s') : (x >>= f) s = f a s' := by
  show EStateM.bind x f s = _
  unfold EStateM.bind
  rw [ran]

theorem bind_error {failure : ε} (ran : x s = .error failure s') : (x >>= f) s = .error failure s' := by
  show EStateM.bind x f s = _
  unfold EStateM.bind
  rw [ran]

end TgsRl.Outcomes
