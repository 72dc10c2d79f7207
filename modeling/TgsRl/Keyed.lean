import Mathlib.Data.List.Nodup
import Mathlib.Tactic.Common

/-!
Lists whose items carry a key, read and changed through the first item with a
key. A change that keeps the keys keeps their order (`modify_keys`), and a changed
list holds what it held and the image of one item (`mem_modify`).
-/
namespace TgsRl.Keyed

variable {α κ : Type} [DecidableEq κ]

def find (key : α → κ) (k : κ) (items : List α) : Option α := items.find? (fun a => decide (key a = k))

def modify (key : α → κ) (k : κ) (f : α → α) : List α → List α
  | [] => []
  | a :: rest => if key a = k then f a :: rest else a :: modify key k f rest

/-- The list with the first item of each key changed, key after key. -/
def modifyAll (key : α → κ) (ks : List κ) (f : α → α) (items : List α) : List α :=
  ks.foldl (fun items k => modify key k f items) items

def remove (key : α → κ) (ks : List κ) (items : List α) : List α := items.filter (fun a => decide (key a ∉ ks))

variable {key : α → κ} {k : κ} {f : α → α} {items : List α}

@[simp] theorem find_nil : find key k [] = none := rfl

theorem find_cons (a : α) : find key k (a :: items) = if key a = k then some a else find key k items := by
  by_cases same : key a = k <;> simp [find,same]

theorem find_some {a : α} (found : find key k items = some a) : a ∈ items ∧ key a = k := by
  refine ⟨List.mem_of_find?_eq_some found,?_⟩
  simpa using List.find?_some found

theorem find_isSome_iff : (find key k items).isSome ↔ k ∈ items.map key := by
  simp [find]

theorem find_none_iff : find key k items = none ↔ k ∉ items.map key := by
  rw [← find_isSome_iff,Option.not_isSome_iff_eq_none]

theorem map_modify {β : Type} {read : α → β} (keep : ∀ a, read (f a) = read a) :
    (modify key k f items).map read = items.map read := by
  induction items with
  | nil => rfl
  | cons a rest ih =>
    by_cases same : key a = k
    · simp [modify,same,keep]
    · simp [modify,same,ih]

theorem modify_keys (keep : ∀ a, key (f a) = key a) : (modify key k f items).map key = items.map key := map_modify keep

theorem modify_fixed (fixed : ∀ a ∈ items, f a = a) : modify key k f items = items := by
  induction items with
  | nil => rfl
  | cons a rest ih =>
    have here := fixed a (by simp)
    have later := ih (fun b member => fixed b (by simp [member]))
    by_cases same : key a = k
    · simp [modify,same,here]
    · simp [modify,same,later]

theorem modifyAll_fixed (fixed : ∀ a ∈ items, f a = a) (ks : List κ) : modifyAll key ks f items = items := by
  induction ks with
  | nil => rfl
  | cons k ks ih =>
    rw [modifyAll,List.foldl_cons,modify_fixed fixed]
    exact ih

theorem mem_modify {b : α} (member : b ∈ modify key k f items) :
    b ∈ items ∨ ∃ a ∈ items, key a = k ∧ b = f a := by
  induction items with
  | nil => simp [modify] at member
  | cons a rest ih =>
    by_cases same : key a = k
    · simp only [modify,same,if_true,List.mem_cons] at member
      rcases member with image | later
      · exact .inr ⟨a,by simp,same,image⟩
      · exact .inl (by simp [later])
    · simp only [modify,same,if_false,List.mem_cons] at member
      rcases member with here | later
      · exact .inl (by simp [here])
      · rcases ih later with old | ⟨c,held,named,image⟩
        · exact .inl (by simp [old])
        · exact .inr ⟨c,by simp [held],named,image⟩

/-- Where the item with the key stands, the list changes there and nowhere else. -/
theorem modify_append_cons {before after : List α} {a : α} (fresh : key a ∉ before.map key) :
    modify key (key a) f (before ++ a :: after) = before ++ f a :: after := by
  induction before with
  | nil => simp [modify]
  | cons b before ih =>
    have other : key b ≠ key a := fun same => fresh (by simp [same])
    have later : key a ∉ before.map key := fun member => fresh (List.mem_cons_of_mem _ member)
    rw [List.cons_append,modify,if_neg other,ih later,List.cons_append]

theorem modifyAll_keys (keep : ∀ a, key (f a) = key a) (ks : List κ) :
    (modifyAll key ks f items).map key = items.map key := by
  induction ks generalizing items with
  | nil => rfl
  | cons k ks ih => exact ih.trans (modify_keys keep)

end TgsRl.Keyed
