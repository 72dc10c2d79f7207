import TgsRl.Loops
import TgsRl.State

/-!
The guard of `protection/protection.go`: cooldown, hysteresis, an action budget for each window, and
a circuit breaker, kept for each key in one record that every operation brings up to date first. A
time is the number of nanoseconds from the zero time, which stands for "not set"
(`zero_time_no_cooldown`); the code's differences stop at the longest `Duration` and so compare with
a configured one as exact differences do.
-/
namespace TgsRl.Protection
open State Loops

variable {F : Type}

/-- `Config`. Scores are of any type that is compared and added. -/
structure Config (F : Type) where
  enabled : Bool
  cooldown : Int
  hysteresis : F
  maxActionsPerWindow : Int
  window : Int
  breakerThreshold : Int
  breakerResetAfter : Int

structure Decision where
  allowed : Bool
  reason : String
  deriving DecidableEq, Repr

/-- `actionState`, which is also what `StateEntry` keeps. -/
structure ActionState (F : Type) where
  lastAction : Int
  lastScore : F
  windowStart : Int
  windowCount : Int
  breakerCount : Int
  breakerOpened : Int

structure Guard (F : Type) where
  cfg : Config F
  state : Map String (ActionState F)

def newGuard (cfg : Config F) : Guard F :=
  let minute : Int := 60 * 10 ^ 9
  ⟨if cfg.enabled then
      { cfg with
        maxActionsPerWindow := if cfg.maxActionsPerWindow = 0 then 1 else cfg.maxActionsPerWindow
        window := if cfg.window ≤ 0 then minute else cfg.window
        breakerThreshold := if cfg.breakerThreshold = 0 then 3 else cfg.breakerThreshold
        breakerResetAfter := if cfg.breakerResetAfter ≤ 0 then 5 * minute else cfg.breakerResetAfter }
    else cfg,∅⟩

def normalizeLocked (cfg : Config F) (st : ActionState F) (now : Int) : ActionState F :=
  let st := if st.breakerOpened ≠ 0 ∧ cfg.breakerResetAfter ≤ now - st.breakerOpened then
    { st with breakerOpened := 0, breakerCount := 0 } else st
  if st.windowStart ≠ 0 ∧ cfg.window ≤ now - st.windowStart then { st with windowStart := 0, windowCount := 0 } else st

section Evaluate
variable [Zero F] [Add F] [LT F] [DecidableLT F]

def ActionState.zero : ActionState F := ⟨0,0,0,0,0,0⟩

def Guard.entry (g : Guard F) (key : String) : ActionState F := (g.state.lookup key).getD .zero

def evaluateLocked (cfg : Config F) (st : ActionState F) (now : Int) (score : F) (actionCount : Int) :
    Decision × ActionState F :=
  let st := normalizeLocked cfg st now
  if st.breakerOpened ≠ 0 ∧ now - st.breakerOpened < cfg.breakerResetAfter then (⟨false,"CIRCUIT_OPEN"⟩,st)
  else if 0 < cfg.cooldown ∧ st.lastAction ≠ 0 ∧ now - st.lastAction < cfg.cooldown then (⟨false,"COOLDOWN"⟩,st)
  else if 0 < cfg.hysteresis ∧ 0 < st.lastScore ∧ score < st.lastScore + cfg.hysteresis then (⟨false,"HYSTERESIS"⟩,st)
  else
    let st := if st.windowStart = 0 ∨ cfg.window ≤ now - st.windowStart then { st with windowStart := now, windowCount := 0 }
      else st
    if cfg.maxActionsPerWindow - st.windowCount < actionCount then (⟨false,"BUDGET_EXHAUSTED"⟩,st)
    else (⟨true,""⟩,{ st with lastAction := now, lastScore := score, windowCount := st.windowCount + actionCount })

def Guard.checkN (g : Guard F) (key : String) (now : Int) (score : F) (actionCount : Int) : Decision :=
  if !g.cfg.enabled then ⟨true,""⟩
  else if key = "" then ⟨false,"EMPTY_KEY"⟩
  else if actionCount < 1 then ⟨false,"EMPTY_ACTION_SET"⟩
  else (evaluateLocked g.cfg (g.entry key) now score actionCount).1

def Guard.commitN (g : Guard F) (key : String) (now : Int) (score : F) (actionCount : Int) : Decision × Guard F :=
  if !g.cfg.enabled then (⟨true,""⟩,g)
  else if key = "" then (⟨false,"EMPTY_KEY"⟩,g)
  else if actionCount < 1 then (⟨false,"EMPTY_ACTION_SET"⟩,g)
  else
    let (decision,next) := evaluateLocked g.cfg (g.entry key) now score actionCount
    (decision,if decision.allowed then { g with state := g.state.insert key next } else g)

def rejected (cfg : Config F) (st : ActionState F) (now : Int) : ActionState F :=
  let st := normalizeLocked cfg st now
  let st := { st with breakerCount := st.breakerCount + 1 }
  if cfg.breakerThreshold ≤ st.breakerCount then { st with breakerOpened := now } else st

def Guard.reject (g : Guard F) (key : String) (now : Int) : Guard F :=
  if !g.cfg.enabled || decide (key = "") then g
  else { g with state := g.state.insert key (rejected g.cfg (g.entry key) now) }

def accepted (cfg : Config F) (st : ActionState F) (now : Int) : ActionState F :=
  let st := normalizeLocked cfg st now
  let st := if 0 < st.breakerCount then { st with breakerCount := st.breakerCount - 1 } else st
  if st.breakerCount = 0 then { st with breakerOpened := 0 } else st

def Guard.accept (g : Guard F) (key : String) (now : Int) : Guard F :=
  if !g.cfg.enabled || decide (key = "") then g
  else { g with state := g.state.insert key (accepted g.cfg (g.entry key) now) }

def Guard.exportState (g : Guard F) : Map String (ActionState F) := g.state.mapValues (fun _ st => st)

def Guard.restoreState (g : Guard F) (snapshot : Map String (ActionState F)) : Guard F :=
  { g with state := snapshot.mapValues (fun _ st => st) }

inductive Call (F : Type) where
  | commitN (key : String) (score : F) (actionCount : Int)
  | checkN (key : String) (score : F) (actionCount : Int)
  | accept (key : String)
  | reject (key : String)
  | restore

def Call.concerns (key : String) : Call F → Bool
  | .commitN k _ _ | .checkN k _ _ | .accept k | .reject k => decide (k = key)
  | .restore => false

/-- The guard after a call at the time read from the clock. -/
def Guard.call (g : Guard F) (timed : Int × Call F) : Guard F := match timed.2 with
  | .commitN key score actionCount => (g.commitN key timed.1 score actionCount).2
  | .checkN _ _ _ => g
  | .accept key => g.accept key timed.1
  | .reject key => g.reject key timed.1
  | .restore => g.restoreState g.exportState

/-- How many actions of the key the call allows. -/
def granted (g : Guard F) (key : String) (timed : Int × Call F) : Int := match timed.2 with
  | .commitN k score actionCount =>
    if k = key ∧ (g.commitN k timed.1 score actionCount).1.allowed = true then actionCount else 0
  | _ => 0

/-- How many actions of the key the calls made at certain times allow. -/
def grantedIn (g : Guard F) (key : String) (inside : Int → Bool) : List (Int × Call F) → Int
  | [] => 0
  | timed :: rest => (if inside timed.1 then granted g key timed else 0) + grantedIn (g.call timed) key inside rest

/-- The call allows actions of the key and starts a window for them. -/
def opensWindow (g : Guard F) (key : String) (timed : Int × Call F) : Prop :=
  0 < granted g key timed ∧ ((g.entry key).windowStart = 0 ∨ g.cfg.window ≤ timed.1 - (g.entry key).windowStart)

section Record
variable {cfg : Config F} {st : ActionState F} {now : Int}

omit [Zero F] [Add F] [LT F] [DecidableLT F] in
theorem normalizeLocked_lastAction (cfg : Config F) (st : ActionState F) (now : Int) :
    (normalizeLocked cfg st now).lastAction = st.lastAction := by
  simp only [normalizeLocked]
  split_ifs <;> rfl

omit [Zero F] [Add F] [LT F] [DecidableLT F] in
theorem normalizeLocked_window (cfg : Config F) (st : ActionState F) (now : Int) :
    (st.windowStart ≠ 0 ∧ cfg.window ≤ now - st.windowStart ∧ (normalizeLocked cfg st now).windowStart = 0 ∧
      (normalizeLocked cfg st now).windowCount = 0) ∨
    ((st.windowStart = 0 ∨ now - st.windowStart < cfg.window) ∧
      (normalizeLocked cfg st now).windowStart = st.windowStart ∧ (normalizeLocked cfg st now).windowCount = st.windowCount) := by
  simp only [normalizeLocked]
  split_ifs <;> simp_all <;> omega

omit [Zero F] [Add F] [LT F] [DecidableLT F] in
theorem normalizeLocked_breaker (cfg : Config F) (st : ActionState F) (now : Int) :
    (st.breakerOpened ≠ 0 ∧ cfg.breakerResetAfter ≤ now - st.breakerOpened ∧ (normalizeLocked cfg st now).breakerOpened = 0 ∧
      (normalizeLocked cfg st now).breakerCount = 0) ∨
    ((st.breakerOpened = 0 ∨ now - st.breakerOpened < cfg.breakerResetAfter) ∧
      (normalizeLocked cfg st now).breakerOpened = st.breakerOpened ∧
      (normalizeLocked cfg st now).breakerCount = st.breakerCount) := by
  simp only [normalizeLocked]
  split_ifs <;> simp_all <;> omega

/-- What holds where actions are allowed, and what becomes of the record. -/
structure Grants (cfg : Config F) (st : ActionState F) (now actionCount : Int) (next : ActionState F) : Prop where
  closed : st.breakerOpened = 0 ∨ cfg.breakerResetAfter ≤ now - st.breakerOpened
  cooled : 0 < cfg.cooldown → st.lastAction = 0 ∨ cfg.cooldown ≤ now - st.lastAction
  action : next.lastAction = now
  window : (st.windowStart ≠ 0 ∧ now - st.windowStart < cfg.window ∧ next.windowStart = st.windowStart ∧
      next.windowCount = st.windowCount + actionCount ∧ next.windowCount ≤ cfg.maxActionsPerWindow) ∨
    ((st.windowStart = 0 ∨ cfg.window ≤ now - st.windowStart) ∧ next.windowStart = now ∧
      next.windowCount = actionCount ∧ actionCount ≤ cfg.maxActionsPerWindow)

theorem grants_of_allowed {score : F} {actionCount : Int}
    (allowed : (evaluateLocked cfg st now score actionCount).1.allowed = true) :
    Grants cfg st now actionCount (evaluateLocked cfg st now score actionCount).2 := by
  have window := normalizeLocked_window cfg st now
  have breaker := normalizeLocked_breaker cfg st now
  have action := normalizeLocked_lastAction cfg st now
  simp only [evaluateLocked] at allowed ⊢
  generalize normalizeLocked cfg st now = normal at *
  split_ifs at allowed ⊢ with opened cooling low starts exhausted exhausted
  · refine ⟨?_,?_,rfl,.inr ⟨?_,rfl,?_,?_⟩⟩ <;> simp_all <;> omega
  · refine ⟨?_,?_,rfl,.inl ⟨?_,?_,?_,?_,?_⟩⟩ <;> simp_all <;> omega

/-- The record of a key after a call, with the number of actions that the call allows. -/
inductive Move (cfg : Config F) (key : String) (timed : Int × Call F) (st : ActionState F) : Int → ActionState F → Prop
  | idle : Move cfg key timed st 0 st
  | commit {actionCount : Int} {next : ActionState F} (some : 1 ≤ actionCount)
    (grants : Grants cfg st timed.1 actionCount next) : Move cfg key timed st actionCount next
  | accept (call : timed.2 = .accept key) : Move cfg key timed st 0 (accepted cfg st timed.1)
  | reject (call : timed.2 = .reject key) : Move cfg key timed st 0 (rejected cfg st timed.1)

end Record

section Calls
variable {g : Guard F} {key : String} {timed : Int × Call F}

omit [Add F] [LT F] [DecidableLT F] in
theorem entry_insert {other : String} {st : ActionState F} :
    Guard.entry { g with state := g.state.insert other st } key = if key = other then st else g.entry key := by
  by_cases same : key = other
  · subst same
    simp [Guard.entry]
  · simp [Guard.entry,same,AList.lookup_insert_ne same]

theorem call_cfg : (g.call timed).cfg = g.cfg := by
  obtain ⟨now,call⟩ := timed
  cases call <;> simp only [Guard.call,Guard.commitN,Guard.accept,Guard.reject,Guard.restoreState] <;> split_ifs <;> rfl

omit [Add F] [LT F] [DecidableLT F] in
theorem entry_restore : (g.restoreState g.exportState).entry key = g.entry key := by
  simp [Guard.entry,Guard.restoreState,Guard.exportState,Map.lookup_mapValues]

/-- The record of the key after the call and the number of actions allowed, from the record before. -/
def recordAfter (cfg : Config F) (key : String) (timed : Int × Call F) (st : ActionState F) : ActionState F × Int :=
  match timed.2 with
  | .commitN k score actionCount =>
    if k = key ∧ key ≠ "" ∧ 1 ≤ actionCount ∧ (evaluateLocked cfg st timed.1 score actionCount).1.allowed = true then
      ((evaluateLocked cfg st timed.1 score actionCount).2,actionCount) else (st,0)
  | .accept k => if k = key ∧ key ≠ "" then (accepted cfg st timed.1,0) else (st,0)
  | .reject k => if k = key ∧ key ≠ "" then (rejected cfg st timed.1,0) else (st,0)
  | _ => (st,0)

theorem call_recordAfter (enabled : g.cfg.enabled = true) :
    (g.call timed).entry key = (recordAfter g.cfg key timed (g.entry key)).1 ∧
      granted g key timed = (recordAfter g.cfg key timed (g.entry key)).2 := by
  obtain ⟨now,call⟩ := timed
  cases call with
  | commitN k score actionCount =>
    simp only [Guard.call,granted,recordAfter,Guard.commitN,enabled]
    by_cases same : k = key
    · subst same
      by_cases empty : k = ""
      · simp [empty]
      by_cases few : actionCount < 1
      · simp [empty,few,not_le.mpr few]
      · by_cases allowed : (evaluateLocked g.cfg (g.entry k) now score actionCount).1.allowed = true
        · simp [empty,few,not_lt.mp few,allowed,entry_insert]
        · simp [empty,few,allowed]
    · simp only [same,false_and,if_false]
      split_ifs <;> simp [entry_insert,Ne.symm same]
  | checkN k score actionCount => exact ⟨rfl,rfl⟩
  | accept k =>
    refine ⟨?_,by simp only [granted,recordAfter]; split_ifs <;> rfl⟩
    simp only [Guard.call,recordAfter,Guard.accept,enabled]
    by_cases same : k = key <;> by_cases empty : k = "" <;> simp_all [entry_insert]
    exact fun equal => absurd equal.symm same
  | reject k =>
    refine ⟨?_,by simp only [granted,recordAfter]; split_ifs <;> rfl⟩
    simp only [Guard.call,recordAfter,Guard.reject,enabled]
    by_cases same : k = key <;> by_cases empty : k = "" <;> simp_all [entry_insert]
    exact fun equal => absurd equal.symm same
  | restore => exact ⟨entry_restore,rfl⟩

theorem move_call (key : String) (timed : Int × Call F) (enabled : g.cfg.enabled = true) :
    Move g.cfg key timed (g.entry key) (granted g key timed) ((g.call timed).entry key) := by
  rw [(call_recordAfter enabled).1,(call_recordAfter enabled).2]
  obtain ⟨now,call⟩ := timed
  cases call with
  | commitN k score actionCount =>
    simp only [recordAfter]
    split_ifs with committed
    · exact .commit committed.2.2.1 (grants_of_allowed committed.2.2.2)
    · exact .idle
  | checkN k score actionCount => exact .idle
  | accept k =>
    simp only [recordAfter]
    split_ifs with here
    · exact .accept (by rw [here.1])
    · exact .idle
  | reject k =>
    simp only [recordAfter]
    split_ifs with here
    · exact .reject (by rw [here.1])
    · exact .idle
  | restore => exact .idle

theorem entry_call_of_not_concerns (enabled : g.cfg.enabled = true) (other : timed.2.concerns key = false) :
    (g.call timed).entry key = g.entry key := by
  rw [(call_recordAfter enabled).1]
  obtain ⟨now,call⟩ := timed
  cases call <;> simp_all [recordAfter,Call.concerns]

end Calls

section Moves
omit [Zero F] [Add F] [LT F] [DecidableLT F]
variable {cfg : Config F} {key : String} {timed : Int × Call F} {st next : ActionState F} {now count : Int}

theorem accepted_keeps : (accepted cfg st now).lastAction = st.lastAction ∧
    (accepted cfg st now).windowStart = (normalizeLocked cfg st now).windowStart ∧
    (accepted cfg st now).windowCount = (normalizeLocked cfg st now).windowCount := by
  simp only [accepted]
  split_ifs <;> simp [normalizeLocked_lastAction]

theorem rejected_keeps : (rejected cfg st now).lastAction = st.lastAction ∧
    (rejected cfg st now).windowStart = (normalizeLocked cfg st now).windowStart ∧
    (rejected cfg st now).windowCount = (normalizeLocked cfg st now).windowCount := by
  simp only [rejected]
  split_ifs <;> simp [normalizeLocked_lastAction]

theorem Move.window (move : Move cfg key timed st count next) :
    (count = 0 ∧ (next.windowStart = st.windowStart ∧ next.windowCount = st.windowCount ∨
      st.windowStart ≠ 0 ∧ cfg.window ≤ timed.1 - st.windowStart ∧ next.windowStart = 0)) ∨
    (1 ≤ count ∧ ((st.windowStart ≠ 0 ∧ timed.1 - st.windowStart < cfg.window ∧ next.windowStart = st.windowStart ∧
        next.windowCount = st.windowCount + count ∧ next.windowCount ≤ cfg.maxActionsPerWindow) ∨
      ((st.windowStart = 0 ∨ cfg.window ≤ timed.1 - st.windowStart) ∧ next.windowStart = timed.1 ∧ next.windowCount = count ∧
        count ≤ cfg.maxActionsPerWindow))) := by
  have normal := normalizeLocked_window cfg st timed.1
  cases move with
  | idle => exact .inl ⟨rfl,.inl ⟨rfl,rfl⟩⟩
  | commit some grants => exact .inr ⟨some,grants.window⟩
  | accept call =>
    rw [accepted_keeps.2.1,accepted_keeps.2.2]
    exact .inl ⟨rfl,by omega⟩
  | reject call =>
    rw [rejected_keeps.2.1,rejected_keeps.2.2]
    exact .inl ⟨rfl,by omega⟩

theorem Move.action (move : Move cfg key timed st count next) :
    (count = 0 ∧ next.lastAction = st.lastAction) ∨
    (1 ≤ count ∧ next.lastAction = timed.1 ∧ (0 < cfg.cooldown → st.lastAction = 0 ∨ cfg.cooldown ≤ timed.1 - st.lastAction)) := by
  cases move with
  | idle => exact .inl ⟨rfl,rfl⟩
  | commit some grants => exact .inr ⟨some,grants.action,grants.cooled⟩
  | accept call => exact .inl ⟨rfl,accepted_keeps.1⟩
  | reject call => exact .inl ⟨rfl,rejected_keeps.1⟩

/-- As long as the breaker is open, nothing is allowed, and it is closed only by an `Accept` that empties the count. -/
theorem Move.opened {since : Int} (move : Move cfg key timed st count next)
    (opened : st.breakerOpened ≠ 0 ∧ since ≤ st.breakerOpened) (recent : since ≤ timed.1 ∧ timed.1 < since + cfg.breakerResetAfter)
    (set : timed.1 ≠ 0) : count = 0 ∧ (next.breakerOpened ≠ 0 ∧ since ≤ next.breakerOpened ∨
      timed.2 = .accept key ∧ next.breakerCount = 0) := by
  have normal := normalizeLocked_breaker cfg st timed.1
  cases move with
  | idle => exact ⟨rfl,.inl opened⟩
  | commit some grants =>
    have := grants.closed
    omega
  | accept call =>
    refine ⟨rfl,?_⟩
    simp only [accepted]
    split_ifs <;> simp_all
    omega
  | reject call =>
    refine ⟨rfl,.inl ?_⟩
    simp only [rejected]
    split_ifs <;> simp_all
    omega

end Moves

section Sequences
variable {g : Guard F} {key : String}

theorem run_call_cfg (calls : List (Int × Call F)) : (run Guard.call g calls).cfg = g.cfg := by
  induction calls generalizing g with
  | nil => rfl
  | cons timed rest ih => rw [run_cons,ih,call_cfg]

variable {calls : List (Int × Call F)} {spent : Int}

theorem lastAction_later {first : Int} (enabled : g.cfg.enabled = true)
    (after : first ≤ (g.entry key).lastAction ∧ (g.entry key).lastAction ≠ 0)
    (later : ∀ timed ∈ calls, first ≤ timed.1 ∧ timed.1 ≠ 0) :
    first ≤ ((run Guard.call g calls).entry key).lastAction ∧ ((run Guard.call g calls).entry key).lastAction ≠ 0 := by
  induction calls generalizing g with
  | nil => exact after
  | cons timed rest ih =>
    have here := later timed (by simp)
    refine ih (by rw [call_cfg]; exact enabled) ?_ fun timed member => later timed (by simp [member])
    rcases (move_call key timed enabled).action with ⟨_,same⟩ | ⟨_,new,_⟩
    · exact same ▸ after
    · exact new ▸ here

theorem grantedIn_le (enabled : g.cfg.enabled = true)
    (counted : spent ≤ g.cfg.maxActionsPerWindow ∧ ((g.entry key).windowStart ≠ 0 → spent ≤ (g.entry key).windowCount))
    (closed : ∀ before timed after, calls = before ++ timed :: after → ¬opensWindow (run Guard.call g before) key timed) :
    spent + grantedIn g key (fun _ => true) calls ≤ g.cfg.maxActionsPerWindow := by
  induction calls generalizing g spent with
  | nil => simpa [grantedIn] using counted.1
  | cons timed rest ih =>
    have none := closed [] timed rest rfl
    simp only [run_nil,opensWindow,not_and,not_or,not_le] at none
    have moved := (move_call key timed enabled).window
    have later : spent + granted g key timed + grantedIn (g.call timed) key (fun _ => true) rest ≤
        (g.call timed).cfg.maxActionsPerWindow :=
      ih (by rw [call_cfg]; exact enabled) (by rw [call_cfg]; omega)
        fun before other after equal => closed (timed :: before) other after (by simp [equal])
    rw [call_cfg] at later
    simp only [grantedIn,if_true]
    omega

/-- What the record says of the actions allowed in an interval of one window's length, where the clock has come to. -/
structure Spent (cfg : Config F) (st : ActionState F) (start latest spent : Int) : Prop where
  nonneg : 0 ≤ spent
  reached : 0 < spent → start ≤ latest
  bound : spent < 2 * cfg.maxActionsPerWindow
  count : st.windowStart ≠ 0 → 1 ≤ st.windowCount ∧ st.windowCount ≤ cfg.maxActionsPerWindow ∧ st.windowStart ≤ latest
  /-- The interval is over, or no window is open, or the open one was started before the interval or in it. -/
  windows : start + cfg.window ≤ latest ∨ (st.windowStart = 0 ∧ spent < cfg.maxActionsPerWindow) ∨
    (st.windowStart ≠ 0 ∧ st.windowStart < start ∧ spent < st.windowCount) ∨
    (st.windowStart ≠ 0 ∧ start ≤ st.windowStart ∧ spent < cfg.maxActionsPerWindow + st.windowCount)

variable {start latest : Int}

omit [Zero F] [Add F] [LT F] [DecidableLT F] in
theorem Spent.move {cfg : Config F} {timed : Int × Call F} {st next : ActionState F} {count : Int}
    (so : Spent cfg st start latest spent) (move : Move cfg key timed st count next) (later : latest ≤ timed.1)
    (set : timed.1 ≠ 0) (positive : 0 < cfg.window) :
    Spent cfg next start timed.1 (spent + if start ≤ timed.1 ∧ timed.1 < start + cfg.window then count else 0) := by
  obtain ⟨nonneg,reached,bound,count',windows⟩ := so
  have moved := move.window
  split_ifs with inside
  · refine ⟨?_,?_,?_,?_,?_⟩ <;> omega
  · refine ⟨?_,?_,?_,?_,?_⟩ <;> omega

theorem grantedIn_lt (enabled : g.cfg.enabled = true) (positive : 0 < g.cfg.window)
    (so : Spent g.cfg (g.entry key) start latest spent) (ordered : calls.Pairwise (fun earlier later => earlier.1 ≤ later.1))
    (later : ∀ timed ∈ calls, latest ≤ timed.1 ∧ timed.1 ≠ 0) :
    spent + grantedIn g key (fun now => decide (start ≤ now ∧ now < start + g.cfg.window)) calls <
      2 * g.cfg.maxActionsPerWindow := by
  induction calls generalizing g latest spent with
  | nil => simpa [grantedIn] using so.bound
  | cons timed rest ih =>
    obtain ⟨first,ordered⟩ := List.pairwise_cons.mp ordered
    obtain ⟨now,set⟩ := later timed (by simp)
    have next := so.move (move_call key timed enabled) now set positive
    rw [← @call_cfg _ _ _ _ _ g timed] at next
    have rest := ih (by rw [call_cfg]; exact enabled) (by rw [call_cfg]; exact positive) next ordered
      fun other member => ⟨first other member,(later other (by simp [member])).2⟩
    simp only [call_cfg] at rest
    simp only [grantedIn,decide_eq_true_eq]
    omega

/-- After the breaker has opened and until it is reset, it stays open or an `Accept` has emptied the count. -/
theorem run_opened {since : Int} (enabled : g.cfg.enabled = true)
    (opened : (g.entry key).breakerOpened ≠ 0 ∧ since ≤ (g.entry key).breakerOpened)
    (recent : ∀ timed ∈ calls, since ≤ timed.1 ∧ timed.1 < since + g.cfg.breakerResetAfter ∧ timed.1 ≠ 0) :
    (((run Guard.call g calls).entry key).breakerOpened ≠ 0 ∧
      since ≤ ((run Guard.call g calls).entry key).breakerOpened) ∨
    ∃ before now after, calls = before ++ (now,.accept key) :: after ∧
      ((run Guard.call g (before ++ [(now,.accept key)])).entry key).breakerCount = 0 := by
  induction calls generalizing g with
  | nil => exact .inl opened
  | cons timed rest ih =>
    obtain ⟨early,late,set⟩ := recent timed (by simp)
    rcases ((move_call key timed enabled).opened opened ⟨early,late⟩ set).2 with still | ⟨call,emptied⟩
    · rcases ih (by rw [call_cfg]; exact enabled) still
        (fun other member => by rw [call_cfg]; exact recent other (by simp [member])) with stays | ⟨before,now,after,rfl,emptied⟩
      · exact .inl stays
      · exact .inr ⟨timed :: before,now,after,rfl,emptied⟩
    · obtain ⟨now,_⟩ := timed
      cases call
      exact .inr ⟨[],now,rest,rfl,emptied⟩

theorem entry_run_filter {other : Guard F} (calls : List (Int × Call F)) (enabled : g.cfg.enabled = true)
    (cfg : g.cfg = other.cfg) (same : g.entry key = other.entry key) :
    (run Guard.call g calls).entry key =
      (run Guard.call other (calls.filter (fun timed => timed.2.concerns key))).entry key := by
  induction calls generalizing g other with
  | nil => exact same
  | cons timed rest ih =>
    rw [List.filter_cons]
    split_ifs with concerns
    · rw [run_cons,run_cons]
      refine ih (by rw [call_cfg]; exact enabled) (by rw [call_cfg,call_cfg,cfg]) ?_
      rw [(call_recordAfter enabled).1,(call_recordAfter (cfg ▸ enabled)).1,cfg,same]
    · rw [run_cons]
      refine ih (by rw [call_cfg]; exact enabled) (by rw [call_cfg,cfg]) ?_
      rw [entry_call_of_not_concerns enabled (by simpa using concerns),same]

end Sequences

/-- An enabled configuration with positive limits. -/
structure Limits (cfg : Config F) : Prop where
  enabled : cfg.enabled = true
  cooldown : 0 < cfg.cooldown
  budget : 0 < cfg.maxActionsPerWindow
  window : 0 < cfg.window
  threshold : 0 < cfg.breakerThreshold
  reset : 0 < cfg.breakerResetAfter

/-- The limits hold throughout the calls made to a new guard. -/
structure Enforced (cfg : Config F) (calls : List (Int × Call F)) : Prop where
  cooldown : ∀ key before first middle second after, calls = before ++ first :: middle ++ second :: after →
    0 < granted (run Guard.call (newGuard cfg) before) key first →
    0 < granted (run Guard.call (newGuard cfg) (before ++ first :: middle)) key second →
    first.1 + cfg.cooldown ≤ second.1
  budget : ∀ key start, grantedIn (newGuard cfg) key (fun now => decide (start ≤ now ∧ now < start + cfg.window)) calls <
    2 * cfg.maxActionsPerWindow
  windows : ∀ key before opening between after, calls = before ++ opening :: between ++ after →
    opensWindow (run Guard.call (newGuard cfg) before) key opening →
    (∀ early timed late, between = early ++ timed :: late →
      ¬opensWindow (run Guard.call (newGuard cfg) (before ++ opening :: early)) key timed) →
    grantedIn (run Guard.call (newGuard cfg) before) key (fun _ => true) (opening :: between) ≤ cfg.maxActionsPerWindow
  breaker : ∀ key before since middle timed after, calls = before ++ (since,.reject key) :: middle ++ timed :: after →
    cfg.breakerThreshold ≤ ((run Guard.call (newGuard cfg) (before ++ [(since,.reject key)])).entry key).breakerCount →
    timed.1 < since + cfg.breakerResetAfter →
    0 < granted (run Guard.call (newGuard cfg) (before ++ (since,.reject key) :: middle)) key timed →
    ∃ early now late, middle = early ++ (now,.accept key) :: late ∧
      ((run Guard.call (newGuard cfg) (before ++ (since,.reject key) :: early ++ [(now,.accept key)])).entry key).breakerCount = 0
  separate : ∀ key now score actionCount,
    let filtered := run Guard.call (newGuard cfg) (calls.filter (fun timed => timed.2.concerns key))
    ((run Guard.call (newGuard cfg) calls).commitN key now score actionCount).1 = (filtered.commitN key now score actionCount).1 ∧
      (run Guard.call (newGuard cfg) calls).checkN key now score actionCount = filtered.checkN key now score actionCount
  check : ∀ key now score actionCount, (run Guard.call (newGuard cfg) calls).checkN key now score actionCount =
    ((run Guard.call (newGuard cfg) calls).commitN key now score actionCount).1

section Enforce
variable {cfg : Config F} {g : Guard F} {key : String}

omit [Zero F] [Add F] [LT F] [DecidableLT F] in
theorem newGuard_cfg (limits : Limits cfg) : (newGuard cfg).cfg = cfg := by
  have most : cfg.maxActionsPerWindow ≠ 0 := (ne_of_gt limits.budget)
  have threshold : cfg.breakerThreshold ≠ 0 := (ne_of_gt limits.threshold)
  simp only [newGuard,if_pos limits.enabled,if_neg most,if_neg threshold,if_neg (not_le.mpr limits.window),
    if_neg (not_le.mpr limits.reset)]

variable {now actionCount since : Int} {score : F} {timed : Int × Call F} {middle : List (Int × Call F)}

theorem checkN_eq_commitN : g.checkN key now score actionCount = (g.commitN key now score actionCount).1 := by
  simp only [Guard.checkN,Guard.commitN]
  split_ifs <;> rfl

theorem commitN_congr {other : Guard F} (cfg : g.cfg = other.cfg) (same : g.entry key = other.entry key) :
    (g.commitN key now score actionCount).1 = (other.commitN key now score actionCount).1 := by
  simp only [Guard.commitN,cfg,same]
  split_ifs <;> rfl

theorem key_ne_of_granted (enabled : g.cfg.enabled = true) (some : 0 < granted g key timed) : key ≠ "" := by
  rw [(call_recordAfter enabled).2] at some
  obtain ⟨now,call⟩ := timed
  cases call with
  | commitN k score actionCount =>
    simp only [recordAfter] at some
    split_ifs at some with committed
    · exact committed.2.1
    · simp at some
  | checkN k score actionCount => simp [recordAfter] at some
  | accept k =>
    simp only [recordAfter] at some
    split_ifs at some <;> simp at some
  | reject k =>
    simp only [recordAfter] at some
    split_ifs at some <;> simp at some
  | restore => simp [recordAfter] at some

theorem opened_of_reject (enabled : g.cfg.enabled = true) (named : key ≠ "")
    (reached : g.cfg.breakerThreshold ≤ ((g.call (since,.reject key)).entry key).breakerCount) :
    ((g.call (since,.reject key)).entry key).breakerOpened = since := by
  have record : (g.call (since,.reject key)).entry key = rejected g.cfg (g.entry key) since := by
    rw [(call_recordAfter enabled).1]
    simp [recordAfter,named]
  rw [record] at reached ⊢
  simp only [rejected] at reached ⊢
  split_ifs at reached ⊢ with full
  · rfl
  · exact absurd reached full

theorem configured (limits : Limits cfg) (calls : List (Int × Call F)) : (run Guard.call (newGuard cfg) calls).cfg = cfg := by
  rw [run_call_cfg,newGuard_cfg limits]

theorem enabled (limits : Limits cfg) (calls : List (Int × Call F)) :
    (run Guard.call (newGuard cfg) calls).cfg.enabled = true := by
  rw [configured limits,limits.enabled]

variable {before : List (Int × Call F)}

theorem enforced_cooldown {first second : Int × Call F} (limits : Limits cfg)
    (later : ∀ timed ∈ first :: middle, first.1 ≤ timed.1 ∧ timed.1 ≠ 0)
    (one : 0 < granted (run Guard.call (newGuard cfg) before) key first)
    (two : 0 < granted (run Guard.call (newGuard cfg) (before ++ first :: middle)) key second) :
    first.1 + cfg.cooldown ≤ second.1 := by
  have acted : (((run Guard.call (newGuard cfg) before).call first).entry key).lastAction = first.1 := by
    rcases (move_call key first (enabled limits before)).action with ⟨none,_⟩ | ⟨_,acted,_⟩
    · omega
    · exact acted
  let g := (run Guard.call (newGuard cfg) before).call first
  have after : first.1 ≤ ((run Guard.call g middle).entry key).lastAction ∧ ((run Guard.call g middle).entry key).lastAction ≠ 0 :=
    lastAction_later (by rw [call_cfg]; exact enabled limits before) (by rw [acted]; exact later first (by simp))
      fun timed member => later timed (by simp [member])
  have moved := (move_call key second (enabled limits (before ++ first :: middle))).action
  rw [configured limits] at moved
  rw [← run_cons,← run_append] at after
  have := limits.cooldown
  omega

theorem enforced_budget {calls : List (Int × Call F)} (limits : Limits cfg)
    (ordered : calls.Pairwise (fun earlier later => earlier.1 ≤ later.1)) (set : ∀ timed ∈ calls, timed.1 ≠ 0) (start : Int) :
    grantedIn (newGuard cfg) key (fun now => decide (start ≤ now ∧ now < start + cfg.window)) calls <
      2 * cfg.maxActionsPerWindow := by
  have bound := limits.budget
  cases calls with
  | nil =>
    simp only [grantedIn]
    omega
  | cons timed rest =>
    have fresh : Spent (newGuard cfg).cfg ((newGuard cfg).entry key) start timed.1 0 := by
      rw [newGuard_cfg limits]
      exact ⟨le_refl _,fun some => by omega,by omega,fun opened => absurd rfl opened,.inr (.inl ⟨rfl,bound⟩)⟩
    have later : ∀ other ∈ timed :: rest, timed.1 ≤ other.1 ∧ other.1 ≠ 0 := by
      intro other member
      refine ⟨?_,set other member⟩
      rcases List.mem_cons.mp member with rfl | later
      · exact le_refl _
      · exact (List.pairwise_cons.mp ordered).1 other later
    have := grantedIn_lt (enabled limits []) (by rw [configured limits]; exact limits.window) fresh ordered later
    simpa [newGuard_cfg limits] using this

theorem enforced_windows {between : List (Int × Call F)} {opening : Int × Call F} (limits : Limits cfg)
    (opens : opensWindow (run Guard.call (newGuard cfg) before) key opening)
    (closed : ∀ early timed late, between = early ++ timed :: late →
      ¬opensWindow (run Guard.call (newGuard cfg) (before ++ opening :: early)) key timed) :
    grantedIn (run Guard.call (newGuard cfg) before) key (fun _ => true) (opening :: between) ≤ cfg.maxActionsPerWindow := by
  obtain ⟨some,fresh⟩ := opens
  have moved := (move_call key opening (enabled limits before)).window
  rw [configured limits] at moved fresh
  have rest : granted (run Guard.call (newGuard cfg) before) key opening +
      grantedIn ((run Guard.call (newGuard cfg) before).call opening) key (fun _ => true) between ≤
        ((run Guard.call (newGuard cfg) before).call opening).cfg.maxActionsPerWindow :=
    grantedIn_le (by rw [call_cfg]; exact enabled limits before) (by rw [call_cfg,configured limits]; omega)
      (by simpa only [run_append,run_cons] using closed)
  rw [call_cfg,configured limits] at rest
  simpa [grantedIn] using rest

theorem enforced_breaker (limits : Limits cfg)
    (later : ∀ other ∈ middle ++ [timed], since ≤ other.1 ∧ other.1 ≤ timed.1 ∧ other.1 ≠ 0) (set : since ≠ 0)
    (reached : cfg.breakerThreshold ≤
      ((run Guard.call (newGuard cfg) (before ++ [(since,.reject key)])).entry key).breakerCount)
    (recent : timed.1 < since + cfg.breakerResetAfter)
    (some : 0 < granted (run Guard.call (newGuard cfg) (before ++ (since,.reject key) :: middle)) key timed) :
    ∃ early now late, middle = early ++ (now,.accept key) :: late ∧
      ((run Guard.call (newGuard cfg)
        (before ++ (since,.reject key) :: early ++ [(now,.accept key)])).entry key).breakerCount = 0 := by
  have named : key ≠ "" := key_ne_of_granted (enabled limits _) some
  let g := (run Guard.call (newGuard cfg) before).call (since,.reject key)
  have cfgs : g.cfg = cfg := call_cfg.trans (configured limits before)
  have opened : (g.entry key).breakerOpened = since := by
    refine opened_of_reject (enabled limits before) named ?_
    rw [configured limits]
    simpa only [run_append,run_cons,run_nil] using reached
  rcases run_opened (by rw [cfgs]; exact limits.enabled) (show (g.entry key).breakerOpened ≠ 0 ∧ since ≤ (g.entry key).breakerOpened
    by rw [opened]; exact ⟨set,le_refl _⟩) (show ∀ other ∈ middle, _ by
      intro other member
      obtain ⟨early,late,nonzero⟩ := later other (by simp [member])
      rw [cfgs]
      omega) with stays | ⟨early,now,late,rfl,emptied⟩
  · obtain ⟨early,late,nonzero⟩ := later timed (by simp)
    have still : ((run Guard.call (newGuard cfg) (before ++ (since,.reject key) :: middle)).entry key).breakerOpened ≠ 0 ∧
        since ≤ ((run Guard.call (newGuard cfg) (before ++ (since,.reject key) :: middle)).entry key).breakerOpened := by
      simpa only [run_append,run_cons] using stays
    have moved := (move_call key timed (enabled limits (before ++ (since,.reject key) :: middle))).opened still
      (by rw [configured limits]; omega) nonzero
    omega
  · refine ⟨early,now,late,rfl,?_⟩
    simpa [run_append,g] using emptied

end Enforce

/-- Whatever is called in whatever order, the guard keeps to its limits, if its clock does not go back and does not read
    the zero time. -/
theorem guard_enforces (cfg : Config F) (limits : Limits cfg) (calls : List (Int × Call F))
    (ordered : calls.Pairwise (fun earlier later => earlier.1 ≤ later.1)) (set : ∀ timed ∈ calls, timed.1 ≠ 0) :
    Enforced cfg calls := by
  refine ⟨?_,fun _ => enforced_budget limits ordered set,?_,?_,?_,fun _ _ _ _ => checkN_eq_commitN⟩
  · rintro key before first middle second after rfl one two
    refine enforced_cooldown limits ?_ one two
    simp only [List.append_assoc,List.cons_append] at ordered
    have inner := (List.pairwise_cons.mp (List.pairwise_append.mp ordered).2.1).1
    intro timed member
    refine ⟨?_,set timed (by simp at member ⊢; tauto)⟩
    rcases List.mem_cons.mp member with rfl | later
    · exact le_refl _
    · exact inner timed (by simp [later])
  · rintro key before opening between after rfl opens closed
    exact enforced_windows limits opens closed
  · rintro key before since middle timed after rfl reached recent some
    refine enforced_breaker limits ?_ (set (since,.reject key) (by simp)) reached recent some
    simp only [List.append_assoc,List.cons_append] at ordered
    obtain ⟨first,inner⟩ := List.pairwise_cons.mp (List.pairwise_append.mp ordered).2.1
    have last := (List.pairwise_append.mp inner).2.2
    intro other member
    refine ⟨first other ?_,?_,set other ?_⟩
    · simp_all
      tauto
    · rcases List.mem_append.mp member with among | at'
      · exact last other among timed (by simp)
      · simp_all
    · simp_all
      tauto
  · intro key now score actionCount
    have same := @entry_run_filter _ _ _ _ _ (newGuard cfg) key (newGuard cfg) calls (enabled limits []) rfl rfl
    have decided : ((run Guard.call (newGuard cfg) calls).commitN key now score actionCount).1 =
        ((run Guard.call (newGuard cfg) (calls.filter (fun timed => timed.2.concerns key))).commitN key now score actionCount).1 :=
      commitN_congr (by rw [configured limits,configured limits]) same
    exact ⟨decided,by rw [checkN_eq_commitN,checkN_eq_commitN,decided]⟩

/-- The longest time for which the guard refuses whatever the score. -/
def Config.longest (cfg : Config F) : Int := max cfg.cooldown (max cfg.window cfg.breakerResetAfter)

/-- The score that the call admits for the key. -/
def admittedScore (g : Guard F) (key : String) (timed : Int × Call F) : Option F := match timed.2 with
  | .commitN k score actionCount => if k = key ∧ (g.commitN k timed.1 score actionCount).1.allowed = true then some score else none
  | _ => none

/-- The score that was last admitted for the key. -/
def lastAdmitted (g : Guard F) (key : String) : List (Int × Call F) → Option F
  | [] => none
  | timed :: rest => lastAdmitted (g.call timed) key rest <|> admittedScore g key timed

section Waiting
variable {cfg : Config F} {st : ActionState F} {now latest : Int}

/-- The times of a record are not set or are past, and its score is the one last admitted. -/
structure Past (latest : Int) (last : Option F) (st : ActionState F) : Prop where
  action : st.lastAction = 0 ∨ st.lastAction ≤ latest
  window : st.windowStart = 0 ∨ st.windowStart ≤ latest
  breaker : st.breakerOpened = 0 ∨ st.breakerOpened ≤ latest
  score : st.lastScore = last.getD 0

variable {last : Option F}

omit [Add F] [LT F] [DecidableLT F] in
theorem Past.normalize (past : Past latest last st) (cfg : Config F) (now : Int) :
    Past latest last (normalizeLocked cfg st now) := by
  obtain ⟨action,window,breaker,score⟩ := past
  simp only [normalizeLocked]
  split_ifs <;> constructor <;> simp_all

variable {score : F} {g : Guard F} {key : String}

theorem evaluateLocked_past {actionCount : Int} (past : Past latest last st) (here : now ≤ latest)
    (allowed : (evaluateLocked cfg st now score actionCount).1.allowed = true) :
    Past latest (some score) (evaluateLocked cfg st now score actionCount).2 := by
  obtain ⟨action,window,breaker,_⟩ := past.normalize cfg now
  simp only [evaluateLocked] at allowed ⊢
  generalize normalizeLocked cfg st now = normal at *
  split_ifs at allowed ⊢ <;> constructor <;> simp_all

theorem recordAfter_past {timed : Int × Call F} (enabled : g.cfg.enabled = true) (past : Past latest last (g.entry key))
    (here : timed.2.concerns key = true → timed.1 ≤ latest) :
    Past latest (admittedScore g key timed <|> last) ((g.call timed).entry key) := by
  rw [(call_recordAfter enabled).1]
  obtain ⟨now,call⟩ := timed
  have normal := past.normalize g.cfg now
  cases call with
  | commitN k score actionCount =>
    simp only [recordAfter,admittedScore,Guard.commitN,enabled]
    by_cases same : k = key
    · subst same
      have passed : now ≤ latest := here (by simp [Call.concerns])
      by_cases empty : k = ""
      · simpa [empty] using past
      by_cases few : actionCount < 1
      · simpa [empty,few,not_le.mpr few] using past
      by_cases allowed : (evaluateLocked g.cfg (g.entry k) now score actionCount).1.allowed = true
      · simpa [empty,few,not_lt.mp few,allowed] using evaluateLocked_past past passed allowed
      · simpa [empty,few,allowed] using past
    · simpa [same] using past
  | checkN k score actionCount => exact past
  | accept k =>
    simp only [recordAfter,admittedScore,accepted]
    obtain ⟨action,window,breaker,score⟩ := normal
    split_ifs <;> first | exact past | constructor <;> simp_all
  | reject k =>
    simp only [recordAfter,admittedScore,rejected]
    obtain ⟨action,window,breaker,score⟩ := normal
    split_ifs with named
    · constructor <;> simp_all [Call.concerns]
    · constructor <;> simp_all
    · exact past
  | restore => exact past

theorem run_past {calls : List (Int × Call F)} (enabled : g.cfg.enabled = true) (past : Past latest last (g.entry key))
    (before : ∀ timed ∈ calls, timed.2.concerns key = true → timed.1 ≤ latest) :
    Past latest (lastAdmitted g key calls <|> last) ((run Guard.call g calls).entry key) := by
  induction calls generalizing g last with
  | nil => exact past
  | cons timed rest ih =>
    have moved := ih (by rw [call_cfg]; exact enabled) (recordAfter_past enabled past (before timed (by simp)))
      fun other member => before other (by simp [member])
    simp only [Option.orElse_eq_orElse,Option.orElse_eq_or] at moved
    simpa only [run_cons,lastAdmitted,Option.orElse_eq_orElse,Option.orElse_eq_or,Option.or_assoc] using moved

/-- Once cooldown, window and breaker have run out, only the score decides. -/
theorem evaluateLocked_waited (budget : 0 < cfg.maxActionsPerWindow) (past : Past latest last st)
    (waited : latest + cfg.longest ≤ now) : (evaluateLocked cfg st now score 1).1.allowed = true ↔
      ¬(0 < cfg.hysteresis ∧ 0 < last.getD 0 ∧ score < last.getD 0 + cfg.hysteresis) := by
  have cooldown : latest + cfg.cooldown ≤ now := by rw [Config.longest] at waited; omega
  have window : latest + cfg.window ≤ now := by rw [Config.longest] at waited; omega
  have reset : latest + cfg.breakerResetAfter ≤ now := by rw [Config.longest] at waited; omega
  have normal := past.normalize cfg now
  have opened : (normalizeLocked cfg st now).breakerOpened = 0 := by
    have := normalizeLocked_breaker cfg st now
    have := past.breaker
    omega
  have started : (normalizeLocked cfg st now).windowStart = 0 := by
    have := normalizeLocked_window cfg st now
    have := past.window
    omega
  have cooled : ¬(0 < cfg.cooldown ∧ (normalizeLocked cfg st now).lastAction ≠ 0 ∧
      now - (normalizeLocked cfg st now).lastAction < cfg.cooldown) := by
    have := normal.action
    omega
  have room : ¬cfg.maxActionsPerWindow - 0 < 1 := by omega
  have closed : ¬((0 : Int) ≠ 0 ∧ now - 0 < cfg.breakerResetAfter) := fun opened => opened.1 rfl
  simp only [evaluateLocked,opened,started,normal.score,if_neg closed,if_neg cooled,true_or,if_true,if_neg room]
  split_ifs with low
  · exact iff_of_false not_false (not_not_intro low)
  · exact iff_of_true rfl low

end Waiting

/-- Cooldown, window and breaker lock a key out for a time: when the longest of them has passed since the last call for the
    key, one action is allowed unless the hysteresis is not reached, from the score last admitted or from 0. -/
theorem waited_allowed_iff (cfg : Config F) (enabled : cfg.enabled = true) (budget : 0 < cfg.maxActionsPerWindow) (key : String)
    (named : key ≠ "") (calls : List (Int × Call F)) (latest now : Int)
    (before : ∀ timed ∈ calls, timed.2.concerns key = true → timed.1 ≤ latest)
    (waited : latest + (newGuard cfg).cfg.longest ≤ now) (score : F) :
    let last := (lastAdmitted (newGuard cfg) key calls).getD 0
    ((run Guard.call (newGuard cfg) calls).checkN key now score 1).allowed = true ↔
      ¬(0 < cfg.hysteresis ∧ 0 < last ∧ score < last + cfg.hysteresis) := by
  have on : (newGuard cfg).cfg.enabled = true := by simp [newGuard,enabled]
  have some : 0 < (newGuard cfg).cfg.maxActionsPerWindow := by simp [newGuard,enabled,ne_of_gt budget,budget]
  have hysteresis : (newGuard cfg).cfg.hysteresis = cfg.hysteresis := by simp [newGuard,enabled]
  have fresh : Past latest none ((newGuard cfg).entry key) := ⟨.inl rfl,.inl rfl,.inl rfl,rfl⟩
  have past := run_past on fresh before
  have configs := @run_call_cfg _ _ _ _ _ (newGuard cfg) calls
  have checked : ((run Guard.call (newGuard cfg) calls).checkN key now score 1).allowed =
      (evaluateLocked (newGuard cfg).cfg ((run Guard.call (newGuard cfg) calls).entry key) now score 1).1.allowed := by
    simp [Guard.checkN,configs,on,named]
  intro last
  rw [checked,evaluateLocked_waited some past waited,hysteresis]
  simp [last]

end Evaluate

/-- A cooldown of ten and one action for each window of sixty. -/
def tight : Config Int := ⟨true,10,0,1,60,3,300⟩

theorem tight_enforced : Limits tight ∧ Enforced tight [(5,.commitN "key" 1 1),(70,.commitN "key" 1 1)] := by
  have limits : Limits tight := ⟨rfl,by decide,by decide,by decide,by decide,by decide⟩
  exact ⟨limits,guard_enforces tight limits _ (by simp) (by simp)⟩

/-- At the zero time an action leaves no trace of when it was made, so another one is allowed at once. -/
theorem zero_time_no_cooldown :
    granted (newGuard tight) "key" (0,.commitN "key" 1 1) = 1 ∧
      granted (run Guard.call (newGuard tight) [(0,.commitN "key" 1 1)]) "key" (0,.commitN "key" 1 1) = 1 ∧
      ¬Enforced tight [(0,.commitN "key" 1 1),(0,.commitN "key" 1 1)] := by
  have first : granted (newGuard tight) "key" (0,.commitN "key" 1 1) = 1 := by decide
  have second : granted (run Guard.call (newGuard tight) [(0,.commitN "key" 1 1)]) "key" (0,.commitN "key" 1 1) = 1 := by decide
  refine ⟨first,second,fun enforced => ?_⟩
  have apart := enforced.cooldown "key" [] (0,.commitN "key" 1 1) [] (0,.commitN "key" 1 1) [] rfl (by rw [run_nil,first]; decide)
    (by
      rw [List.nil_append,second]
      decide)
  simp [tight] at apart

/-- Hysteresis of two, and enough of everything else. -/
def steady : Config Int := ⟨true,10,2,5,60,3,300⟩

theorem steady_waited : ((run Guard.call (newGuard steady) [(5,.commitN "key" 1 1),(6,.reject "key")]).checkN "key" 400 3 1).allowed =
    true :=
  (waited_allowed_iff steady rfl (by decide) "key" (by decide) _ 6 400 (by simp) (by decide) 3).mpr (by decide)

/-- The score that was admitted is refused forever after. -/
theorem admitted_score_locked_out :
    (newGuard steady).commitN "key" 5 1 1 = (⟨true,""⟩,(newGuard steady).call (5,.commitN "key" 1 1)) ∧
      ¬∃ wait : Int, ∀ now, 5 + wait ≤ now →
        (((newGuard steady).call (5,.commitN "key" 1 1)).checkN "key" now 1 1).allowed = true := by
  refine ⟨rfl,?_⟩
  rintro ⟨wait,allowed⟩
  have waits : (5 : Int) + (newGuard steady).cfg.longest ≤ 5 + max wait 300 := by
    have : (newGuard steady).cfg.longest = 300 := by decide
    omega
  have late := allowed (5 + max wait 300) (by omega)
  have past : Past 5 (some 1) (((newGuard steady).call (5,.commitN "key" 1 1)).entry "key") := by
    constructor <;> decide
  have checked : (((newGuard steady).call (5,.commitN "key" 1 1)).checkN "key" (5 + max wait 300) 1 1) =
      (evaluateLocked (newGuard steady).cfg (((newGuard steady).call (5,.commitN "key" 1 1)).entry "key") (5 + max wait 300) 1 1).1 :=
    rfl
  rw [checked] at late
  exact (evaluateLocked_waited (by decide) past waits).mp late (by decide)

end TgsRl.Protection
