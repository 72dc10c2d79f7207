import TgsRl.Loops
import TgsRl.State

/-!
The lifecycle actions of the runtime executor. An action runs one command for each selected adapter
that supports it; the component results are written to the run's units and, under a nonempty
idempotency key, kept in a cache from which every later call with the key is answered. Only Start is
remembered after its success alone (`complete_start`). States of components and units, command
environments and cursors are left out: nothing here reads them.
-/
namespace TgsRl.LifecycleActions
open State (Map)
open Loops

inductive LifecycleAction
  | validate
  | compile
  | prepare
  | launch
  | status
  | preparePause
  | pause
  | resume
  | checkpoint
  | stop
  | terminate
  | weightUpdate
  | sleep
  | wake
  | recreate
  deriving DecidableEq, Repr

def LifecycleAction.value : LifecycleAction → String
  | .validate => "validate"
  | .compile => "compile"
  | .prepare => "prepare"
  | .launch => "launch"
  | .status => "status"
  | .preparePause => "prepare_pause"
  | .pause => "pause"
  | .resume => "resume"
  | .checkpoint => "checkpoint"
  | .stop => "stop"
  | .terminate => "terminate"
  | .weightUpdate => "weight_update"
  | .sleep => "sleep"
  | .wake => "wake"
  | .recreate => "recreate"

/-- `_state_reason` of the state that `runtime_state_contract` requests. -/
def LifecycleAction.stateReason : LifecycleAction → String
  | .validate => "validating"
  | .compile => "compiling"
  | .prepare => "preparing"
  | .launch | .wake => "starting"
  | .status => "unknown"
  | .preparePause | .pause => "pausing"
  | .resume => "resuming"
  | .checkpoint => "checkpointing"
  | .stop | .sleep => "stopping"
  | .weightUpdate => "running"
  | .recreate | .terminate => "terminating"

/-- The classes of exceptions that `map_runtime_error` tells apart. -/
inductive ErrorClass
  | manifestValidation
  | unavailable
  | unsupportedAction
  | conflict
  | timeout
  | runtime
  | other
  deriving DecidableEq, Repr

structure Failure where
  kind : ErrorClass
  message : String
  deriving DecidableEq, Repr

structure NormalizedActionError where
  kind : String
  retryable : Bool
  summary : String
  exit_code : Option Int
  deriving DecidableEq, Repr

/-- `map_runtime_error` with `_normalize_action_error`. -/
def mapError (failure : Failure) (exit_code : Option Int) : NormalizedActionError :=
  match failure.kind with
  | .manifestValidation => ⟨"INVALID_ARGUMENT",false,failure.message,exit_code⟩
  | .unavailable => ⟨"UNAVAILABLE",false,failure.message,exit_code⟩
  | .unsupportedAction => ⟨"INVALID_ARGUMENT",false,failure.message,exit_code⟩
  | .conflict => ⟨"CONFLICT",false,failure.message,exit_code⟩
  | .timeout => ⟨"TRANSIENT",true,failure.message,exit_code⟩
  | .runtime => ⟨"BACKEND_FAILURE",false,failure.message,exit_code⟩
  | .other => ⟨"INTERNAL",false,failure.message,exit_code⟩

/-- The supported actions of the four selected adapters. -/
structure Bundle where
  framework : List LifecycleAction
  execution : List LifecycleAction
  trainer : List LifecycleAction
  rollout_engine : List LifecycleAction
  deriving DecidableEq, Repr

def componentAdapters (bundle : Bundle) : List (String × List LifecycleAction) :=
  [("framework",bundle.framework),("execution",bundle.execution),("trainer",bundle.trainer),
    ("rollout_engine",bundle.rollout_engine)]

/-- `_components_for_action`, by name. -/
def componentsForAction (bundle : Bundle) (action : LifecycleAction) : List String :=
  let candidates :=
    if action = .sleep ∨ action = .wake ∨ action = .weightUpdate then
      if action ∈ bundle.framework then [("framework",bundle.framework)] else [("rollout_engine",bundle.rollout_engine)]
    else componentAdapters bundle
  (candidates.filter (fun candidate => action ∈ candidate.2)).map Prod.fst

/-- What the environment does with one component's command in one call. -/
inductive CommandOutcome
  | unbuilt (failure : Failure)
  | raised (failure : Failure)
  | exited (code : Int) (detail : String)
  deriving DecidableEq, Repr

abbrev Environment := String → CommandOutcome

structure ComponentActionResult where
  component : String
  action : LifecycleAction
  generation : Nat
  error : Option NormalizedActionError
  deriving DecidableEq, Repr

/-- `_run_component_command`, or the failure result where `lifecycle_call` raised. -/
def runComponentCommand (driver : Bool) (action : LifecycleAction) (generation : Nat) (env : Environment) (component : String) :
    ComponentActionResult :=
  match env component with
  | .unbuilt failure => ⟨component,action,generation,some (mapError failure none)⟩
  | .raised failure =>
    if driver then ⟨component,action,generation,some (mapError failure none)⟩
    else ⟨component,action,generation,some (mapError ⟨.unavailable,"command driver is unavailable"⟩ none)⟩
  | .exited code detail =>
    if driver then
      if code = 0 then ⟨component,action,generation,none⟩
      else ⟨component,action,generation,some (mapError ⟨.runtime,detail⟩ (some code))⟩
    else ⟨component,action,generation,some (mapError ⟨.unavailable,"command driver is unavailable"⟩ none)⟩

/-- The components whose command is handed to the driver. -/
def commandsRun (driver : Bool) (env : Environment) (components : List String) : List String :=
  components.filter (fun component =>
    match env component with
    | .unbuilt _ => false
    | _ => driver)

structure RuntimeUnit where
  runtime_unit_id : String
  generation : Nat
  status_reason : String := ""
  error_code : String := ""
  error_message : String := ""
  exit_code : Int := 0
  deriving DecidableEq, Repr

structure RuntimeExecutionResult where
  runtime_units : List RuntimeUnit
  action : LifecycleAction
  generation : Nat
  component_results : List ComponentActionResult
  idempotent : Bool
  deriving DecidableEq, Repr

def RuntimeExecutionResult.ok (result : RuntimeExecutionResult) : Bool :=
  result.component_results.all (fun item => item.error.isNone)

/-- What the executor reads of a manifest: whether it names a managed workload, and the adapters the registry has for it. -/
structure Manifest where
  managed : Bool
  bundle : Option Bundle

structure Executor where
  driver : Bool
  manifests : Map String Manifest
  generations : Map String Nat
  runtime_units : Map String (List RuntimeUnit)
  idempotency_cache : Map (String × LifecycleAction × String) RuntimeExecutionResult

/-- `_apply_unit_state` for one unit. -/
def applyUnitState (action : LifecycleAction) (generation : Nat) (results : List ComponentActionResult) (unit : RuntimeUnit) :
    RuntimeUnit :=
  let placed := if action = .launch then { unit with generation := generation } else unit
  match results.findSome? ComponentActionResult.error with
  | none => { placed with status_reason := action.stateReason, error_code := "", error_message := "", exit_code := 0 }
  | some error =>
    { placed with
      status_reason := action.stateReason
      error_code := error.kind
      error_message := error.summary
      exit_code := error.exit_code.getD 0 }

/-- What one call did: the executor after it, its result or the exception it raised, and the commands it ran. -/
structure Reply where
  executor : Executor
  result : Except String RuntimeExecutionResult
  ran : List String

/-- `_finalize`: the result is cached under a nonempty key, with or without an error. -/
def Executor.finalize (x : Executor) (run_id : String) (action : LifecycleAction) (key : String)
    (results : List ComponentActionResult) : Executor × RuntimeExecutionResult :=
  let generation := (x.generations.lookup run_id).getD 0
  let units := ((x.runtime_units.lookup run_id).getD []).map (applyUnitState action generation results)
  let result : RuntimeExecutionResult := ⟨units,action,generation,results,false⟩
  let updated := { x with runtime_units := x.runtime_units.insert run_id units }
  if key ≠ "" ∧ action ≠ .launch then
    ({ updated with idempotency_cache := x.idempotency_cache.insert (run_id,action,key) result },result)
  else (updated,result)

def Executor.cached (x : Executor) (run_id : String) (action : LifecycleAction) (key : String) : Option RuntimeExecutionResult :=
  if key = "" then none
  else (x.idempotency_cache.lookup (run_id,action,key)).map (fun result => { result with idempotent := true })

/-- The components an attempt goes through; none for an action that runs no command, an exception where none is found. -/
def Executor.components (x : Executor) (run_id : String) (action : LifecycleAction) : Except String (List String) :=
  match x.manifests.lookup run_id with
  | none => .error ("unknown run_id: " ++ run_id)
  | some manifest =>
    if action = .launch ∨ action = .prepare ∧ manifest.managed = true then .ok []
    else match manifest.bundle with
      | none => .error "adapter is not registered"
      | some bundle =>
        match componentsForAction bundle action with
        | [] => .error ("no selected runtime adapter supports lifecycle action " ++ action.value)
        | component :: rest => .ok (component :: rest)

def Executor.applyAction (x : Executor) (run_id : String) (action : LifecycleAction) (key : String) (env : Environment) : Reply :=
  match x.manifests.lookup run_id with
  | none => ⟨x,.error ("unknown run_id: " ++ run_id),[]⟩
  | some _ =>
    match x.cached run_id action key with
    | some result => ⟨x,.ok result,[]⟩
    | none =>
      match x.components run_id action with
      | .error message => ⟨x,.error message,[]⟩
      | .ok components =>
        let generation := (x.generations.lookup run_id).getD 0
        let results := components.map (runComponentCommand x.driver action generation env)
        let done := x.finalize run_id action key results
        ⟨done.1,.ok done.2,commandsRun x.driver env components⟩

section Calls
variable (x : Executor) (run_id : String) (action : LifecycleAction) (key : String)

def Executor.call (x : Executor) (env : Environment) : Executor := (x.applyAction run_id action key env).executor

/-- The reply to the call that follows the given ones. -/
def replyAfter (before : List Environment) (env : Environment) : Reply :=
  (run (Executor.call run_id action key) x before).applyAction run_id action key env

/-- The commands that an attempt runs in an environment. -/
def due (env : Environment) : List String :=
  match x.components run_id action with
  | .error _ => []
  | .ok components => commandsRun x.driver env components

/-- Every component of the action succeeds in an environment. -/
def Succeeds (env : Environment) : Prop :=
  ∃ components, x.components run_id action = .ok components ∧
    ∀ component ∈ components, x.driver = true ∧ ∃ detail, env component = .exited 0 detail

def Reply.Failed (reply : Reply) : Prop := ∃ result, reply.result = .ok result ∧ result.ok = false

def Reply.Succeeded (reply : Reply) : Prop := ∃ result, reply.result = .ok result ∧ result.ok = true

/-- After a call whose result carries an error the next call runs its commands. -/
def Retried (envs : List Environment) : Prop :=
  ∀ before first next after, envs = before ++ first :: next :: after →
    (replyAfter x run_id action key before first).Failed →
    (replyAfter x run_id action key (before ++ [first]) next).ran = due x run_id action next

/-- After a call without error no later call runs a command. -/
def Quiet (envs : List Environment) : Prop :=
  ∀ before first between later after, envs = before ++ first :: between ++ later :: after →
    (replyAfter x run_id action key before first).Succeeded →
    (replyAfter x run_id action key (before ++ first :: between) later).ran = []

/-- A call without error stands for one attempt in which every command succeeded. -/
def Genuine (envs : List Environment) : Prop :=
  ∀ before env after, envs = before ++ env :: after → (replyAfter x run_id action key before env).Succeeded →
    ∃ attempt ∈ before ++ [env], Succeeds x run_id action attempt

/-- With a key: the first call succeeds or no later call has a command to run. Without one: no call after a success has. -/
def RetrySafe (envs : List Environment) : Prop :=
  if key = "" then
    ∀ before env after, envs = before ++ env :: after → Succeeds x run_id action env →
      ∀ later ∈ after, due x run_id action later = []
  else
    ∀ first rest, envs = first :: rest → ¬ Succeeds x run_id action first → ∀ later ∈ rest, due x run_id action later = []

end Calls

variable {x : Executor} {run_id : String} {action : LifecycleAction} {key : String} {env : Environment}

theorem known_of_components {components : List String} (found : x.components run_id action = .ok components) :
    ∃ manifest, x.manifests.lookup run_id = some manifest := by
  cases known : x.manifests.lookup run_id with
  | none => simp [Executor.components,known] at found
  | some manifest => exact ⟨manifest,rfl⟩

theorem results_ok {components : List String} {generation : Nat} {driver : Bool} :
    (components.map (runComponentCommand driver action generation env)).all (fun item => item.error.isNone) = true ↔
      ∀ component ∈ components, driver = true ∧ ∃ detail, env component = .exited 0 detail := by
  simp only [List.all_map,List.all_eq_true,Function.comp_apply]
  refine forall₂_congr (fun component _ => ?_)
  unfold runComponentCommand
  cases outcome : env component with
  | unbuilt failure => simp
  | raised failure => cases driver <;> simp
  | exited code detail =>
    cases driver with
    | false => simp
    | true => by_cases zero : code = 0 <;> simp [zero]

theorem succeeds_iff {components : List String} (found : x.components run_id action = .ok components) :
    Succeeds x run_id action env ↔ ∀ component ∈ components, x.driver = true ∧ ∃ detail, env component = .exited 0 detail := by
  simp [Succeeds,found]

/-- A call that the cache does not answer is an attempt, and under a key its result is cached. -/
theorem applyAction_attempt {components : List String} (found : x.components run_id action = .ok components)
    (fresh : x.cached run_id action key = none) (kept : action ≠ .launch) (env : Environment) :
    ∃ result, (x.applyAction run_id action key env).result = .ok result ∧
      (result.ok = true ↔ Succeeds x run_id action env) ∧
      (x.applyAction run_id action key env).ran = due x run_id action env ∧
      (key ≠ "" → (x.call run_id action key env).cached run_id action key = some { result with idempotent := true }) := by
  obtain ⟨manifest,known⟩ := known_of_components found
  unfold Executor.call Executor.applyAction
  simp only [known,fresh,found]
  refine ⟨_,rfl,?_,?_,?_⟩
  · rw [succeeds_iff found]
    unfold Executor.finalize
    split
    · exact results_ok
    · exact results_ok
  · simp [due,found]
  · intro named
    simp [Executor.cached,Executor.finalize,named,kept]

variable {message : String} {result : RuntimeExecutionResult} {y : Executor}

theorem applyAction_raises (raises : x.components run_id action = .error message) (fresh : x.cached run_id action key = none) :
    x.applyAction run_id action key env = ⟨x,.error message,[]⟩ := by
  unfold Executor.applyAction
  cases known : x.manifests.lookup run_id with
  | none =>
    have : "unknown run_id: " ++ run_id = message := by simpa [Executor.components,known] using raises
    simp [this]
  | some manifest => simp [fresh,raises]

theorem applyAction_cached {components : List String} (found : x.components run_id action = .ok components)
    (cached : x.cached run_id action key = some result) : x.applyAction run_id action key env = ⟨x,.ok result,[]⟩ := by
  obtain ⟨manifest,known⟩ := known_of_components found
  simp [Executor.applyAction,known,cached]

/-- What a call reads besides units and cache is never written. -/
structure SameSetting (x y : Executor) : Prop where
  driver : y.driver = x.driver
  manifests : y.manifests = x.manifests

theorem call_setting (x : Executor) (run_id : String) (action : LifecycleAction) (key : String) (env : Environment) :
    SameSetting x (x.call run_id action key env) := by
  unfold Executor.call Executor.applyAction Executor.finalize
  constructor
  all_goals
    repeat' split
    all_goals rfl

theorem run_setting (x : Executor) (run_id : String) (action : LifecycleAction) (key : String) (before : List Environment) :
    SameSetting x (run (Executor.call run_id action key) x before) := by
  induction before generalizing x with
  | nil => exact ⟨rfl,rfl⟩
  | cons env rest ih =>
    have first := call_setting x run_id action key env
    have later := ih (x.call run_id action key env)
    exact ⟨later.driver.trans first.driver,later.manifests.trans first.manifests⟩

theorem SameSetting.components (same : SameSetting x y) : y.components run_id action = x.components run_id action := by
  simp [Executor.components,same.manifests]

theorem SameSetting.due (same : SameSetting x y) : due y run_id action env = due x run_id action env := by
  simp [LifecycleActions.due,same.components,same.driver]

theorem SameSetting.succeeds (same : SameSetting x y) : Succeeds y run_id action env ↔ Succeeds x run_id action env := by
  simp [Succeeds,same.components,same.driver]

theorem run_cached {components : List String} (found : x.components run_id action = .ok components)
    (cached : x.cached run_id action key = some result) (before : List Environment) :
    run (Executor.call run_id action key) x before = x := by
  induction before with
  | nil => rfl
  | cons env rest ih =>
    have unchanged : x.call run_id action key env = x := by simp [Executor.call,applyAction_cached found cached]
    rw [run_cons,unchanged,ih]

theorem run_raises (raises : x.components run_id action = .error message) (fresh : x.cached run_id action key = none)
    (before : List Environment) : run (Executor.call run_id action key) x before = x := by
  induction before with
  | nil => rfl
  | cons env rest ih =>
    have unchanged : x.call run_id action key env = x := by simp [Executor.call,applyAction_raises raises fresh]
    rw [run_cons,unchanged,ih]

section Attempts
variable {components : List String} (found : x.components run_id action = .ok components) (kept : action ≠ .launch)
include found kept

theorem replyAfter_unnamed (before : List Environment) (env : Environment) :
    (replyAfter x run_id action "" before env).ran = due x run_id action env ∧
    ((replyAfter x run_id action "" before env).Succeeded ↔ Succeeds x run_id action env) := by
  have same := run_setting x run_id action "" before
  have unnamed : (run (Executor.call run_id action "") x before).cached run_id action "" = none := by simp [Executor.cached]
  obtain ⟨result,replied,ok,ran,_⟩ := applyAction_attempt (same.components.trans found) unnamed kept env
  refine ⟨ran.trans same.due,?_⟩
  rw [← same.succeeds,← ok]
  simp [Reply.Succeeded,replyAfter,replied]

theorem replyAfter_first (fresh : x.cached run_id action key = none) (env : Environment) :
    (replyAfter x run_id action key [] env).ran = due x run_id action env ∧
    ((replyAfter x run_id action key [] env).Succeeded ↔ Succeeds x run_id action env) ∧
    ((replyAfter x run_id action key [] env).Failed ↔ ¬ Succeeds x run_id action env) := by
  obtain ⟨result,replied,ok,ran,_⟩ := applyAction_attempt found fresh kept env
  refine ⟨ran,?_,?_⟩
  · simp [Reply.Succeeded,replyAfter,replied,ok]
  · simp [Reply.Failed,replyAfter,replied,← ok]

/-- Every later call with the key repeats the first one's result and runs nothing. -/
theorem replyAfter_later (fresh : x.cached run_id action key = none) (named : key ≠ "") (first : Environment)
    (before : List Environment) (env : Environment) :
    (replyAfter x run_id action key (first :: before) env).ran = [] ∧
    ((replyAfter x run_id action key (first :: before) env).Succeeded ↔ Succeeds x run_id action first) ∧
    ((replyAfter x run_id action key (first :: before) env).Failed ↔ ¬ Succeeds x run_id action first) := by
  obtain ⟨result,_,ok,_,cached⟩ := applyAction_attempt found fresh kept first
  have same := call_setting x run_id action key first
  have reply : replyAfter x run_id action key (first :: before) env =
      ⟨x.call run_id action key first,.ok { result with idempotent := true },[]⟩ := by
    unfold replyAfter
    rw [run_cons,run_cached (same.components.trans found) (cached named)]
    exact applyAction_cached (same.components.trans found) (cached named)
  rw [reply]
  have again : ({ result with idempotent := true } : RuntimeExecutionResult).ok = result.ok := rfl
  refine ⟨rfl,?_,?_⟩
  · simp [Reply.Succeeded,again,ok]
  · simp [Reply.Failed,again,← ok]

theorem retry_unnamed (envs : List Environment) :
    (Retried x run_id action "" envs ∧ Quiet x run_id action "" envs ∧ Genuine x run_id action "" envs) ↔
      RetrySafe x run_id action "" envs := by
  have reply := replyAfter_unnamed found kept
  unfold RetrySafe
  rw [if_pos rfl]
  constructor
  · rintro ⟨-,quiet,-⟩ before env after split succeeds later member
    obtain ⟨between,rest,rfl⟩ := List.append_of_mem member
    rw [← (reply (before ++ env :: between) later).1]
    exact quiet before env between later rest (by simp [split]) ((reply before env).2.mpr succeeds)
  · intro safe
    refine ⟨?_,?_,?_⟩
    · intro before first next after split failed
      exact (reply (before ++ [first]) next).1
    · intro before first between later after split succeeded
      rw [(reply _ _).1]
      exact safe before first (between ++ later :: after) (by simp [split]) ((reply before first).2.mp succeeded) later
        (by simp)
    · intro before env after split succeeded
      exact ⟨env,by simp,(reply before env).2.mp succeeded⟩

theorem retry_named (fresh : x.cached run_id action key = none) (named : key ≠ "") (envs : List Environment) :
    (Retried x run_id action key envs ∧ Quiet x run_id action key envs ∧ Genuine x run_id action key envs) ↔
      RetrySafe x run_id action key envs := by
  have initial := replyAfter_first found kept fresh
  have later := replyAfter_later found kept fresh named
  unfold RetrySafe
  rw [if_neg named]
  constructor
  · rintro ⟨retried,-,-⟩ first rest rfl failed next member
    obtain ⟨before,after,rfl⟩ := List.append_of_mem member
    -- the call before this one repeats the first one's error
    rcases List.eq_nil_or_concat before with rfl | ⟨earlier,last,rfl⟩
    · rw [← retried [] first next after (by simp) ((initial first).2.2.mpr failed)]
      exact (later first [] next).1
    · rw [← retried (first :: earlier) last next after (by simp) ((later first earlier last).2.2.mpr failed)]
      exact (later first (earlier ++ [last]) next).1
  · intro safe
    refine ⟨?_,?_,?_⟩
    · intro before previous next after split failed
      cases before with
      | nil =>
        rw [List.nil_append,(later previous [] next).1]
        exact (safe previous (next :: after) split ((initial previous).2.2.mp failed) next (by simp)).symm
      | cons first before =>
        have missed := (later first before previous).2.2.mp failed
        rw [List.cons_append,(later first (before ++ [previous]) next).1]
        exact (safe first (before ++ previous :: next :: after) split missed next (by simp)).symm
    · intro before first between next after split succeeded
      cases before with
      | nil => exact (later first between next).1
      | cons start before => exact (later start (before ++ first :: between) next).1
    · intro before env after split succeeded
      cases before with
      | nil => exact ⟨env,by simp,(initial env).2.1.mp succeeded⟩
      | cons first before => exact ⟨first,by simp,(later first before env).2.1.mp succeeded⟩

end Attempts

theorem retry_raises (raises : x.components run_id action = .error message) (fresh : x.cached run_id action key = none)
    (envs : List Environment) :
    (Retried x run_id action key envs ∧ Quiet x run_id action key envs ∧ Genuine x run_id action key envs) ↔
      RetrySafe x run_id action key envs := by
  have reply : ∀ before env, replyAfter x run_id action key before env = ⟨x,.error message,[]⟩ := by
    intro before env
    unfold replyAfter
    rw [run_raises raises fresh,applyAction_raises raises fresh]
  have idle : ∀ env, due x run_id action env = [] := fun env => by simp [due,raises]
  constructor
  · intro _
    unfold RetrySafe
    split <;> simp [idle]
  · intro _
    refine ⟨?_,?_,?_⟩
    · intro before first next after split failed
      simp [reply,idle]
    · intro before first between later after split succeeded
      simp [reply]
    · intro before env after split succeeded
      simp [reply,Reply.Succeeded] at succeeded

/-- For which sequences of calls with one key a failed action is retried, a finished one is not repeated and a success is
genuine. -/
theorem action_retry_iff (x : Executor) (run_id : String) (action : LifecycleAction) (key : String) (envs : List Environment)
    (kept : action ≠ .launch) (unused : (run_id,action,key) ∉ x.idempotency_cache) :
    (Retried x run_id action key envs ∧ Quiet x run_id action key envs ∧ Genuine x run_id action key envs) ↔
      RetrySafe x run_id action key envs := by
  have fresh : x.cached run_id action key = none := by
    simp [Executor.cached,AList.lookup_eq_none.mpr unused]
  cases found : x.components run_id action with
  | error message => exact retry_raises found fresh envs
  | ok components =>
    by_cases named : key = ""
    · subst named
      exact retry_unnamed found kept envs
    · exact retry_named found kept fresh named envs

/-- An executor whose framework adapter alone knows PREPARE_PAUSE. -/
def demoExecutor : Executor where
  driver := true
  manifests := (∅ : Map String Manifest).insert "run" ⟨false,some ⟨[.preparePause],[],[],[]⟩⟩
  generations := ∅
  runtime_units := ∅
  idempotency_cache := ∅

/-- A command that fails at first and then succeeds: a key that saw the failure never runs it again. -/
theorem failed_prepare_pause_cached :
    let failing : Environment := fun _ => .raised ⟨.timeout,"timed out"⟩
    let working : Environment := fun _ => .exited 0 ""
    let second := replyAfter demoExecutor "run" .preparePause "key" [failing] working
    second.ran = [] ∧ second.result.toOption.map (·.ok) = some false ∧
      due demoExecutor "run" .preparePause working = ["framework"] ∧
      ¬ Retried demoExecutor "run" .preparePause "key" [failing,working] := by
  intro failing working second
  have idle : second.ran = [] := by decide
  have runs : due demoExecutor "run" .preparePause working = ["framework"] := by decide
  refine ⟨idle,by decide,runs,fun retried => ?_⟩
  have again := retried [] failing working [] rfl ⟨_,rfl,by decide⟩
  have : second.ran = ["framework"] := again.trans runs
  rw [idle] at this
  cases this

/-- With one key a PREPARE_PAUSE that succeeds at once keeps the property over any number of calls. -/
theorem prepare_pause_retry_demo :
    let working : Environment := fun _ => .exited 0 ""
    Retried demoExecutor "run" .preparePause "key" [working,working] ∧
      Quiet demoExecutor "run" .preparePause "key" [working,working] ∧
      Genuine demoExecutor "run" .preparePause "key" [working,working] := by
  intro working
  refine (action_retry_iff demoExecutor "run" .preparePause "key" [working,working] (by decide) (by decide)).mpr ?_
  unfold RetrySafe
  rw [if_neg (by decide)]
  rintro first rest split failed
  cases split
  exact absurd ⟨["framework"],by decide,fun component _ => ⟨rfl,"",rfl⟩⟩ failed

end TgsRl.LifecycleActions
