import Mathlib.Data.List.Lex
import Mathlib.Data.String.Basic
import TgsRl.Loops

/-!
Retention in the runtime's SQLite store. Times are kept as the text of `stamp_utc`, and
`prune_before` deletes the rows whose text is less than that of the cutoff. The text leaves out a
fraction of zero, and the `Z` that then stands in its place is greater than the point, so the text
of a full second is greater than that of any later time in the second (`later_record_deleted`,
`prune_exact_iff`).
-/
namespace TgsRl.Retention

/-- A `datetime` in UTC. -/
structure Datetime where
  year : Nat
  month : Nat
  day : Nat
  hour : Nat
  minute : Nat
  second : Nat
  microsecond : Nat
  year_lt : year < 10 ^ 4
  month_lt : month < 10 ^ 2
  day_lt : day < 10 ^ 2
  hour_lt : hour < 10 ^ 2
  minute_lt : minute < 10 ^ 2
  second_lt : second < 10 ^ 2
  microsecond_lt : microsecond < 10 ^ 6

def Datetime.clock (t : Datetime) : List Nat := [t.year,t.month,t.day,t.hour,t.minute,t.second]

/-- The order of the class: field by field. -/
def Datetime.before (left right : Datetime) : Bool := decide (left.clock ++ [left.microsecond] < right.clock ++ [right.microsecond])

/-- A number of so many digits, with leading zeros. -/
def digits : Nat → Nat → List Char
  | 0,_ => []
  | width + 1,n => Char.ofNat (48 + n / 10 ^ width % 10) :: digits width n

/-- `isoformat` after the second, with the `Z` that replaces the offset. -/
def fraction (microsecond : Nat) : List Char :=
  if microsecond = 0 then ['Z'] else '.' :: (digits 6 microsecond ++ ['Z'])

def stampUtc (t : Datetime) : String :=
  String.ofList (digits 4 t.year ++ '-' :: (digits 2 t.month ++ '-' :: (digits 2 t.day ++ 'T' :: (digits 2 t.hour ++
    ':' :: (digits 2 t.minute ++ ':' :: (digits 2 t.second ++ fraction t.microsecond))))))

section Text
variable {width n m : Nat}

theorem digit_lt_iff {d e : Nat} (small : d < 10) (small' : e < 10) : Char.ofNat (48 + d) < Char.ofNat (48 + e) ↔ d < e := by
  have each : ∀ d < 10, ∀ e < 10, (Char.ofNat (48 + d) < Char.ofNat (48 + e) ↔ d < e) := by decide
  exact each d small e small'

theorem digit_inj {d e : Nat} (small : d < 10) (small' : e < 10) : Char.ofNat (48 + d) = Char.ofNat (48 + e) ↔ d = e := by
  have each : ∀ d < 10, ∀ e < 10, (Char.ofNat (48 + d) = Char.ofNat (48 + e) ↔ d = e) := by decide
  exact each d small e small'

/-- The digits decide first, and what follows them if the numbers are the same. -/
theorem digits_append_lt (s t : List Char) : digits width n ++ s < digits width m ++ t ↔
    n % 10 ^ width < m % 10 ^ width ∨ n % 10 ^ width = m % 10 ^ width ∧ s < t := by
  induction width with
  | zero => simp [digits,Nat.mod_one]
  | succ width ih =>
    have left : n / 10 ^ width % 10 < 10 := Nat.mod_lt _ (by decide)
    have right : m / 10 ^ width % 10 < 10 := Nat.mod_lt _ (by decide)
    have split (k : Nat) : k % 10 ^ (width + 1) = k % 10 ^ width + 10 ^ width * (k / 10 ^ width % 10) := Nat.mod_pow_succ
    have lower (k : Nat) : k % 10 ^ width < 10 ^ width := Nat.mod_lt _ (Nat.pow_pos (by decide))
    rw [digits,digits,List.cons_append,List.cons_append,List.cons_lt_cons_iff,digit_lt_iff left right,digit_inj left right,ih,
      split n,split m]
    have low := lower n
    have low' := lower m
    rcases lt_trichotomy (n / 10 ^ width % 10) (m / 10 ^ width % 10) with less | same | more
    · have := Nat.mul_le_mul_left (10 ^ width) (Nat.succ_le_of_lt less)
      rw [Nat.mul_succ] at this
      simp only [less,true_or,true_iff]
      omega
    · rw [same]
      simp only [lt_irrefl,false_or,true_and,Nat.add_lt_add_iff_right,Nat.add_right_cancel_iff]
    · have := Nat.mul_le_mul_left (10 ^ width) (Nat.succ_le_of_lt more)
      rw [Nat.mul_succ] at this
      simp only [not_lt_of_gt more,ne_of_gt more,false_and,or_self,false_iff]
      omega

theorem field_append_lt (small : n < 10 ^ width) (small' : m < 10 ^ width) (s t : List Char) :
    digits width n ++ s < digits width m ++ t ↔ n < m ∨ n = m ∧ s < t := by
  rw [digits_append_lt,Nat.mod_eq_of_lt small,Nat.mod_eq_of_lt small']

theorem fraction_lt_iff (small : n < 10 ^ 6) (small' : m < 10 ^ 6) : fraction n < fraction m ↔ n ≠ 0 ∧ (m = 0 ∨ n < m) := by
  rw [fraction,fraction]
  have point : '.' < 'Z' := by decide
  split_ifs with zero zero' zero'
  · simp [zero]
  · rw [List.cons_lt_cons_iff]
    simp [zero,not_lt_of_gt point]
  · rw [List.cons_lt_cons_iff]
    simp [zero,zero',point]
  · rw [List.cons_lt_cons_iff,field_append_lt small small']
    simp [zero,zero']

theorem stampUtc_lt_iff (left right : Datetime) : stampUtc left < stampUtc right ↔
    left.clock < right.clock ∨ left.clock = right.clock ∧ left.microsecond ≠ 0 ∧
      (right.microsecond = 0 ∨ left.microsecond < right.microsecond) := by
  rw [stampUtc,stampUtc,String.lt_iff_toList_lt,String.toList_ofList,String.toList_ofList,field_append_lt left.year_lt right.year_lt]
  simp only [List.cons_lt_cons_iff,field_append_lt left.month_lt right.month_lt,field_append_lt left.day_lt right.day_lt,
    field_append_lt left.hour_lt right.hour_lt,field_append_lt left.minute_lt right.minute_lt,
    field_append_lt left.second_lt right.second_lt,fraction_lt_iff left.microsecond_lt right.microsecond_lt,Datetime.clock,
    lt_irrefl,false_or,true_and,List.cons.injEq,and_true]
  tauto

theorem before_iff (left right : Datetime) : left.before right = true ↔
    left.clock < right.clock ∨ left.clock = right.clock ∧ left.microsecond < right.microsecond := by
  simp only [Datetime.before,decide_eq_true_eq,Datetime.clock,List.cons_append,List.nil_append,List.cons_lt_cons_iff,
    List.cons.injEq,and_true,List.lt_irrefl,and_false,or_false]
  tauto

/-- Two times of one second, of which just one is the full second. -/
def Straddle (left right : Datetime) : Prop :=
  left.clock = right.clock ∧ ¬(left.microsecond = 0 ↔ right.microsecond = 0)

/-- Then, and only then, the texts are in the wrong order. -/
theorem stamp_order_iff (left right : Datetime) :
    (stampUtc left < stampUtc right ↔ left.before right = true) ↔ ¬Straddle left right := by
  rw [stampUtc_lt_iff,before_iff,Straddle]
  by_cases same : left.clock = right.clock
  · rw [same]
    simp only [List.lt_irrefl,false_or,true_and]
    omega
  · simp only [same,false_and,or_false,not_false_eq_true]

end Text

/-- The tables with a retention scope. -/
inductive Scope where
  | traceEvents | runtimeEvents | replays | experiments | componentStatuses
  deriving DecidableEq, Repr

def Scope.name : Scope → String
  | .traceEvents => "trace_events"
  | .runtimeEvents => "runtime_events"
  | .replays => "replays"
  | .experiments => "experiments"
  | .componentStatuses => "component_statuses"

def Scope.ofName (name : String) : Option Scope :=
  [traceEvents,runtimeEvents,replays,experiments,componentStatuses].find? (fun scope => decide (scope.name = name))

/-- A row with the time that it was stamped with, in `occurred_at` or `updated_at`. -/
structure Row (P : Type) where
  id : String
  time : Datetime
  payload : P

def Row.stamp {P : Type} (row : Row P) : String := stampUtc row.time

structure ScheduleStep (P : Type) where
  replayId : String
  payload : P

structure DeleteAudit where
  scope : String
  cutoff : String
  deletedCount : Nat
  createdAt : String
  deriving DecidableEq, Repr

structure Store (P : Type) where
  rows : Scope → List (Row P)
  replayScheduleSteps : List (ScheduleStep P)
  deleteAudit : List DeleteAudit

variable {P : Type}

/-- What the statements for a table leave: its old rows are deleted, for replays their steps before them. The steps are
deleted by one statement with a parameter for each old replay; above SQLite's limit of parameters it fails, and with it
the call, which is left out. -/
def afterDelete (cutoffStamp createdAt : String) (store : Store P) (table : Scope) : Store P :=
  let old := (store.rows table).filter (fun row => decide (row.stamp < cutoffStamp))
  let replayIDs := if table = .replays then old.map Row.id else []
  { rows := fun other => if other = table then (store.rows other).filter (fun row => !decide (row.stamp < cutoffStamp))
      else store.rows other
    replayScheduleSteps := if replayIDs = [] then store.replayScheduleSteps
      else store.replayScheduleSteps.filter (fun step => decide (step.replayId ∉ replayIDs))
    deleteAudit := store.deleteAudit ++ [⟨table.name,cutoffStamp,old.length,createdAt⟩] }

/-- The body of the loop over the scopes. -/
def pruneScope (cutoffStamp createdAt : String) (store : Store P) (scope : String) : Except String (Store P) :=
  match Scope.ofName scope with
  | none => .error ("unsupported retention scope: " ++ scope)
  | some table => .ok (afterDelete cutoffStamp createdAt store table)

/-- `prune_before`: one transaction for all scopes. -/
def pruneBefore (cutoff : Datetime) (createdAt : String) (scopes : List String) (store : Store P) : Except String (Store P) :=
  scopes.foldlM (pruneScope (stampUtc cutoff) createdAt) store

/-- The rows of the scope that are before the cutoff are deleted, for replays also their steps, and counted. -/
structure Pruned (cutoff : Datetime) (scope : Scope) (store pruned : Store P) : Prop where
  rows : ∀ table, pruned.rows table =
    if table = scope then (store.rows table).filter (fun row => !row.time.before cutoff) else store.rows table
  steps : ∀ step, step ∈ pruned.replayScheduleSteps ↔ step ∈ store.replayScheduleSteps ∧
    ¬(scope = .replays ∧ ∃ replay ∈ store.rows .replays, replay.time.before cutoff = true ∧ replay.id = step.replayId)
  count : ∃ audit, pruned.deleteAudit = store.deleteAudit ++ [audit] ∧
    audit.deletedCount = ((store.rows scope).filter (fun row => row.time.before cutoff)).length

theorem ofName_name (scope : Scope) : Scope.ofName scope.name = some scope := by
  cases scope <;> decide

theorem pruneBefore_single (cutoff : Datetime) (createdAt : String) (scope : Scope) (store : Store P) :
    pruneBefore cutoff createdAt [scope.name] store = .ok (afterDelete (stampUtc cutoff) createdAt store scope) := by
  rw [pruneBefore,List.foldlM_cons,pruneScope,ofName_name]
  rfl

section Exact
variable {cutoff : Datetime} {createdAt : String} {scope : Scope} {store : Store P}

/-- A row that is deleted although it is not old, or kept although it is, is a row that straddles a full second. -/
theorem apart_of_pruned (pruned : Pruned cutoff scope store (afterDelete (stampUtc cutoff) createdAt store scope)) (row : Row P)
    (member : row ∈ store.rows scope) : ¬Straddle row.time cutoff := by
  have kept := pruned.rows scope
  simp only [afterDelete,if_true] at kept
  have here : (row ∈ (store.rows scope).filter fun row => !decide (row.stamp < stampUtc cutoff)) ↔
      row ∈ (store.rows scope).filter fun row => !row.time.before cutoff := by rw [kept]
  simp only [List.mem_filter,member,true_and,Bool.not_eq_true',Row.stamp] at here
  rw [← stamp_order_iff,← not_iff_not,Bool.not_eq_true,← here]
  exact decide_eq_false_iff_not.symm

theorem pruned_of_apart (apart : ∀ row ∈ store.rows scope, ¬Straddle row.time cutoff) :
    Pruned cutoff scope store (afterDelete (stampUtc cutoff) createdAt store scope) := by
  have agree (row : Row P) (member : row ∈ store.rows scope) :
      decide (row.stamp < stampUtc cutoff) = row.time.before cutoff := by
    rw [Bool.eq_iff_iff,decide_eq_true_eq]
    exact (stamp_order_iff _ _).mpr (apart row member)
  have old : (store.rows scope).filter (fun row => decide (row.stamp < stampUtc cutoff)) =
      (store.rows scope).filter (fun row => row.time.before cutoff) := List.filter_congr agree
  constructor
  case count => exact ⟨_,rfl,by rw [old]⟩
  case rows =>
    intro table
    simp only [afterDelete]
    split_ifs with same
    · subst same
      refine List.filter_congr fun row member => ?_
      rw [agree row member]
    · rfl
  case steps =>
    intro step
    simp only [afterDelete,old]
    by_cases replays : scope = .replays
    · subst replays
      simp only [if_true,true_and]
      split_ifs with none
      · -- no replay is old
        have nothing : ¬∃ replay ∈ store.rows .replays, replay.time.before cutoff = true ∧ replay.id = step.replayId := by
          rintro ⟨replay,member,early,_⟩
          have : replay ∈ (store.rows .replays).filter fun row => row.time.before cutoff := List.mem_filter.mpr ⟨member,early⟩
          rw [List.map_eq_nil_iff.mp none] at this
          cases this
        simp only [nothing,not_false_eq_true,and_true]
      · simp only [List.mem_filter,decide_eq_true_eq,List.mem_map,and_assoc]
    · simp only [replays,if_false,if_true,false_and,not_false_eq_true,and_true]

end Exact

/-- Exactly the old rows of the scope are deleted if and only if none of its rows straddles a full second with the cutoff. -/
theorem prune_exact_iff (cutoff : Datetime) (createdAt : String) (scope : Scope) (store : Store P) :
    (∃ pruned, pruneBefore cutoff createdAt [scope.name] store = .ok pruned ∧ Pruned cutoff scope store pruned) ↔
      ∀ row ∈ store.rows scope, ¬Straddle row.time cutoff := by
  rw [pruneBefore_single]
  constructor
  · rintro ⟨_,⟨⟩,pruned⟩
    exact apart_of_pruned pruned
  · intro apart
    exact ⟨_,rfl,pruned_of_apart apart⟩

/-- Noon of a day, and so many microseconds after it. -/
def noon (microsecond : Nat) (small : microsecond < 10 ^ 6) : Datetime :=
  ⟨2026,8,27,12,0,0,microsecond,by decide,by decide,by decide,by decide,by decide,by decide,small⟩

/-- One row in every table. -/
def oneRow (time : Datetime) : Store Unit := ⟨fun _ => [⟨"replay-1",time,()⟩],[⟨"replay-1",()⟩],[]⟩

/-- A record of half a second after the cutoff is deleted. -/
theorem later_record_deleted :
    (noon 0 (by decide)).before (noon 500000 (by decide)) = true ∧
      (pruneBefore (noon 0 (by decide)) "" ["trace_events"] (oneRow (noon 500000 (by decide)))).map
        (fun pruned => (pruned.rows .traceEvents).length) = .ok 0 ∧
      ¬∃ pruned, pruneBefore (noon 0 (by decide)) "" ["trace_events"] (oneRow (noon 500000 (by decide))) = .ok pruned ∧
        Pruned (noon 0 (by decide)) .traceEvents (oneRow (noon 500000 (by decide))) pruned := by
  refine ⟨by decide,by decide +kernel,?_⟩
  rintro ⟨pruned,done,exactly⟩
  have kept := congrArg List.length (exactly.rows .traceEvents)
  have gone : (pruneBefore (noon 0 (by decide)) "" ["trace_events"] (oneRow (noon 500000 (by decide)))).map
      (fun pruned => (pruned.rows .traceEvents).length) = .ok 0 := by decide +kernel
  rw [done] at gone
  have empty : (pruned.rows .traceEvents).length = 0 := Except.ok.inj gone
  rw [empty] at kept
  exact absurd kept (by decide)

end TgsRl.Retention
