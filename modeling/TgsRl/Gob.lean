import Mathlib.Tactic.Common

/-!
What the package `encoding/gob` makes of Go values. A value shows the kind of its type: scalars are
texts, with "" for the zero value, slices and maps are lists, nil or empty alike. Fields with the
zero value and pointers to one are omitted, fields that are not exported (`hidden`) are not sent,
and an interface value is refused unless its dynamic type has been registered.
-/
namespace TgsRl.Gob

mutual
inductive Value where
  | scalar (text : String)
  /-- A nil pointer, or a nil interface. -/
  | null
  | pointer (target : Value)
  | interface (type : String) (content : Value)
  | struct (fields : Values) (hidden : String)
  | list (items : Values)
  deriving DecidableEq, Repr

inductive Values where
  | nil
  | cons (first : Value) (rest : Values)
  deriving DecidableEq, Repr
end

def Values.ofList : List Value → Values
  | [] => .nil
  | first :: rest => .cons first (ofList rest)

/-- The value is not sent as a field of a struct. -/
def Value.omitted : Value → Bool
  | .scalar text => decide (text = "")
  | .null | .list .nil => true
  | .pointer target => target.omitted
  | _ => false

def Value.zero : Value → Value
  | .pointer _ => .null
  | v => v

mutual
/-- The decoded value of one that is sent. -/
def Value.arrives : Value → Value
  | .scalar text => .scalar text
  | .null => .null
  | .pointer target => .pointer target.arrives
  | .interface type content => .interface type content.arrives
  | .struct fields _ => .struct fields.fieldsArrive ""
  | .list items => .list items.itemsArrive

def Values.fieldsArrive : Values → Values
  | .nil => .nil
  | .cons first rest => .cons (if first.omitted then first.zero else first.arrives) rest.fieldsArrive

def Values.itemsArrive : Values → Values
  | .nil => .nil
  | .cons first rest => .cons first.arrives rest.itemsArrive
end

section Errors
variable (registered : List String)

mutual
/-- Why a value cannot be encoded. -/
def Value.encodeError : Value → Option String
  | .scalar _ => none
  | .null => some "gob: encodeReflectValue: nil element"
  | .pointer target => target.encodeError
  | .interface type content =>
    if type ∈ registered then content.encodeError else some ("gob: type not registered for interface: " ++ type)
  | .struct fields _ => fields.fieldsError
  | .list items => items.itemsError

def Values.fieldsError : Values → Option String
  | .nil => none
  | .cons first rest => (if first.omitted then none else first.encodeError).or rest.fieldsError

def Values.itemsError : Values → Option String
  | .nil => none
  | .cons first rest => first.encodeError.or rest.itemsError
end

end Errors

mutual
/-- No field is a pointer to a zero value, and nothing is hidden. -/
def Value.lossless : Value → Bool
  | .scalar _ | .null => true
  | .pointer target => target.lossless
  | .interface _ content => content.lossless
  | .struct fields hidden => decide (hidden = "") && fields.losslessFields
  | .list items => items.losslessItems

def Values.losslessFields : Values → Bool
  | .nil => true
  | .cons first rest => (if first.omitted then decide (first.zero = first) else first.lossless) && rest.losslessFields

def Values.losslessItems : Values → Bool
  | .nil => true
  | .cons first rest => first.lossless && rest.losslessItems
end

mutual
theorem arrives_iff : ∀ v : Value, v.arrives = v ↔ v.lossless = true
  | .scalar _ => by simp [Value.arrives,Value.lossless]
  | .null => by simp [Value.arrives,Value.lossless]
  | .pointer target => by simpa [Value.arrives,Value.lossless] using arrives_iff target
  | .interface type content => by simpa [Value.arrives,Value.lossless] using arrives_iff content
  | .struct fields hidden => by
    rw [Value.arrives,Value.lossless,Value.struct.injEq,fieldsArrive_iff fields,Bool.and_eq_true,decide_eq_true_eq,and_comm,
      eq_comm (a := hidden)]
  | .list items => by simpa [Value.arrives,Value.lossless] using itemsArrive_iff items

theorem fieldsArrive_iff : ∀ fields : Values, fields.fieldsArrive = fields ↔ fields.losslessFields = true
  | .nil => by simp [Values.fieldsArrive,Values.losslessFields]
  | .cons first rest => by
    rw [Values.fieldsArrive,Values.losslessFields,Values.cons.injEq,fieldsArrive_iff rest,Bool.and_eq_true]
    refine and_congr_left (fun _ => ?_)
    by_cases skipped : first.omitted = true
    · simp [skipped]
    · simp [skipped,arrives_iff first]

theorem itemsArrive_iff : ∀ items : Values, items.itemsArrive = items ↔ items.losslessItems = true
  | .nil => by simp [Values.itemsArrive,Values.losslessItems]
  | .cons first rest => by
    rw [Values.itemsArrive,Values.losslessItems,Values.cons.injEq,arrives_iff first,itemsArrive_iff rest,Bool.and_eq_true]
end

section Types
variable (types : List String)

mutual
/-- Interfaces hold values of these types only, and no item of a list is nil. -/
def Value.typed : Value → Bool
  | .scalar _ => true
  | .null => false
  | .pointer target => target.typed
  | .interface type content => decide (type ∈ types) && content.typed
  | .struct fields _ => fields.typedFields
  | .list items => items.typedItems

def Values.typedFields : Values → Bool
  | .nil => true
  | .cons first rest => (first.omitted || first.typed) && rest.typedFields

def Values.typedItems : Values → Bool
  | .nil => true
  | .cons first rest => first.typed && rest.typedItems
end

end Types

mutual
def Value.unset : Value → Bool
  | .scalar _ | .null => true
  | .pointer target => target.unset
  | .interface _ _ => false
  | .struct fields _ => fields.unsetAll
  | .list items => items.unsetAll

def Values.unsetAll : Values → Bool
  | .nil => true
  | .cons first rest => first.unset && rest.unsetAll
end

theorem unset_of_omitted : ∀ {v : Value}, v.omitted = true → v.unset = true
  | .scalar _,_ => rfl
  | .null,_ => rfl
  | .pointer target,skipped => by
    rw [Value.unset]
    exact unset_of_omitted (v := target) (by rwa [Value.omitted] at skipped)
  | .list .nil,_ => rfl

section Encodable
variable {registered types : List String}

mutual
theorem encodeError_iff (foreign : ∀ type ∈ types, type ∉ registered) :
    ∀ v : Value, v.typed types = true → (v.encodeError registered = none ↔ v.unset = true)
  | .scalar _,_ => by simp [Value.encodeError,Value.unset]
  | .pointer target,typed => by
    rw [Value.encodeError,Value.unset]
    exact encodeError_iff foreign target (by rwa [Value.typed] at typed)
  | .interface type content,typed => by
    rw [Value.typed,Bool.and_eq_true,decide_eq_true_eq] at typed
    simp [Value.encodeError,Value.unset,foreign type typed.1]
  | .struct fields hidden,typed => by
    rw [Value.encodeError,Value.unset]
    exact fieldsError_iff foreign fields (by rwa [Value.typed] at typed)
  | .list items,typed => by
    rw [Value.encodeError,Value.unset]
    exact itemsError_iff foreign items (by rwa [Value.typed] at typed)

theorem fieldsError_iff (foreign : ∀ type ∈ types, type ∉ registered) :
    ∀ fields : Values, fields.typedFields types = true → (fields.fieldsError registered = none ↔ fields.unsetAll = true)
  | .nil,_ => by simp [Values.fieldsError,Values.unsetAll]
  | .cons first rest,typed => by
    rw [Values.typedFields,Bool.and_eq_true] at typed
    rw [Values.fieldsError,Values.unsetAll,Option.or_eq_none_iff,Bool.and_eq_true,
      fieldsError_iff foreign rest typed.2]
    refine and_congr_left (fun _ => ?_)
    by_cases skipped : first.omitted = true
    · simp [skipped,unset_of_omitted skipped]
    · rw [if_neg skipped]
      exact encodeError_iff foreign first (by simpa [skipped] using typed.1)

theorem itemsError_iff (foreign : ∀ type ∈ types, type ∉ registered) :
    ∀ items : Values, items.typedItems types = true → (items.itemsError registered = none ↔ items.unsetAll = true)
  | .nil,_ => by simp [Values.itemsError,Values.unsetAll]
  | .cons first rest,typed => by
    rw [Values.typedItems,Bool.and_eq_true] at typed
    rw [Values.itemsError,Values.unsetAll,Option.or_eq_none_iff,Bool.and_eq_true,
      encodeError_iff foreign first typed.1,itemsError_iff foreign rest typed.2]
end

end Encodable

end TgsRl.Gob
