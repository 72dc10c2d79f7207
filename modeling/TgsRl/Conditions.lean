import TgsRl.State

/-!
The conditions of an execution contract, as `semantics/evaluator.go` and `semantics/freshness.go`
evaluate them: a tree of AND, OR, NOT, EXISTS and comparisons over a registry of facts, where a fact
that is missing or stale under its observation policy gives the disposition of that policy. The
disposition decides first whether a clause blocks, and an AND takes the disposition of one predicate
together with the failure of another, so that a predicate whose policy only degrades hides a
failure.

Left out: the evidence and the observations that a result carries along, and the identifier of an
evaluation. Times are nanoseconds, and a double is its rational value, or none where it is not
finite.
-/

namespace TgsRl.Conditions
open State

inductive ContractEvaluationStatus where
  | unknown | satisfied | violated | indeterminate | notApplicable
  deriving DecidableEq, Repr, Inhabited

inductive ObservationDisposition where
  | unknown | block | hold | degrade | notApplicable
  deriving DecidableEq, Repr, Inhabited

inductive ConditionOperator where
  | unknown | eq | ne | gt | ge | lt | le | isIn | notIn | exist | and | or | not
  deriving DecidableEq, Repr, Inhabited

inductive ValidityFailureMode where
  | unknown | reject | pause | abort
  deriving DecidableEq, Repr, Inhabited

inductive ContractDecisionAction where
  | unknown | allow | reject | pauseRequired | abortRequired | blockProducerRequired | shedOldestRequired
  | shedNewestRequired | scaleOutRequested | waitForSafePoint
  deriving DecidableEq, Repr, Inhabited

/-- The message `SemanticValue`; `nil` is the nil pointer and `unset` a value without a kind. -/
inductive SemanticValue where
  | nil
  | unset
  | string (value : String)
  | bool (value : Bool)
  | int64 (value : Int)
  | uint64 (value : UInt64)
  | double (value : Option Rat)
  | bytes (value : List UInt8)
  | object
  | list (values : List SemanticValue)

/-- The message `Condition`; `nil` is the nil pointer. -/
inductive Condition where
  | nil
  | mk (conditionId : String) (operator : ConditionOperator) (factPath comparisonFactPath : String)
      (operands : List SemanticValue) (predicates : List Condition)

def Condition.conditionId : Condition → String
  | .nil => ""
  | .mk conditionId _ _ _ _ _ => conditionId

structure ObservationPolicy where
  maximumAge : Option Int
  missing : ObservationDisposition
  stale : ObservationDisposition
  deriving DecidableEq, Repr

structure ObservationMetadata where
  observedAt : Int
  present : Bool
  deriving DecidableEq, Repr, Inhabited

/-- The fact registry; an issue stands as its reason. -/
structure FactRegistry where
  values : Map String SemanticValue
  metadata : Map String ObservationMetadata
  issues : Map String String
  policies : Map String ObservationPolicy
  evaluationTime : Int

structure ConditionResult where
  status : ContractEvaluationStatus := .unknown
  missing : List String := []
  detail : String := ""
  disposition : ObservationDisposition := .unknown
  deriving DecidableEq, Repr, Inhabited

mutual

def finiteSemanticValue : SemanticValue → Bool
  | .nil => false
  | .double value => value.isSome
  | .list values => finiteSemanticValues values
  | _ => true

def finiteSemanticValues : List SemanticValue → Bool
  | [] => true
  | value :: rest => finiteSemanticValue value && finiteSemanticValues rest

end

/-- The comparison of two ordered values; the functions below differ in the type and in its name. -/
def compareOrdered {α : Type} [DecidableEq α] [LT α] [LE α] [DecidableLT α] [DecidableLE α] (kind : String)
    (op : ConditionOperator) (left right : α) : Except String Bool :=
  match op with
  | .eq => .ok (left = right)
  | .ne => .ok (left ≠ right)
  | .gt => .ok (right < left)
  | .ge => .ok (right ≤ left)
  | .lt => .ok (left < right)
  | .le => .ok (left ≤ right)
  | _ => .error ("unsupported operator for " ++ kind)

def compareOrderedStrings (op : ConditionOperator) (left right : String) : Except String Bool :=
  compareOrdered "string" op left right

def compareOrderedInts (op : ConditionOperator) (left right : Int) : Except String Bool :=
  compareOrdered "int64" op left right

def compareOrderedUints (op : ConditionOperator) (left right : UInt64) : Except String Bool :=
  compareOrdered "uint64" op left right

def compareOrderedFloats (op : ConditionOperator) (left right : Rat) : Except String Bool :=
  compareOrdered "double" op left right

/-- Booleans are not ordered. -/
def compareOrderedBools (op : ConditionOperator) (left right : Bool) : Except String Bool :=
  match op with
  | .eq => .ok (left = right)
  | .ne => .ok (left ≠ right)
  | _ => .error "unsupported operator for bool"

/-- `compareValues` for the operators other than `IN` and `NOT_IN`. -/
def compareKinds (op : ConditionOperator) : SemanticValue → SemanticValue → Except String Bool
  | .nil,_ => .error "nil comparison value"
  | _,.nil => .error "nil comparison value"
  | .unset,_ => .error "missing typed value"
  | _,.unset => .error "missing typed value"
  | .string left,.string right => compareOrderedStrings op left right
  | .string _,_ => .error "type mismatch"
  | .bool left,.bool right => compareOrderedBools op left right
  | .bool _,_ => .error "type mismatch"
  | .int64 left,.int64 right => compareOrderedInts op left right
  | .int64 _,_ => .error "type mismatch"
  | .uint64 left,.uint64 right => compareOrderedUints op left right
  | .uint64 _,_ => .error "type mismatch"
  | .double (some left),.double (some right) => compareOrderedFloats op left right
  | .double _,_ => .error "invalid double comparison"
  -- the bytes are compared as strings, and named so in an error
  | .bytes left,.bytes right => compareOrdered "string" op left right
  | .bytes _,_ => .error "type mismatch"
  | .object,_ => .error "unsupported semantic type"
  | .list _,_ => .error "unsupported semantic type"

/-- The loop of `IN`: the first candidate that is equal ends it, and so does the first that cannot be compared. -/
def memberOf (left : SemanticValue) : List SemanticValue → Except String Bool
  | [] => .ok false
  | candidate :: rest => do
    let equal ← compareKinds .eq left candidate
    if equal then .ok true else memberOf left rest

def compareMembers (op : ConditionOperator) (left : SemanticValue) : SemanticValue → Except String Bool
  | .list values => do
    let found ← memberOf left values
    .ok (if op = .notIn then !found else found)
  | _ => .error "IN/NOT_IN requires list operand"

def compareValues (op : ConditionOperator) (left right : SemanticValue) : Except String Bool :=
  match left,right with
  | .nil,_ => .error "nil comparison value"
  | _,.nil => .error "nil comparison value"
  | left,right => if op = .isIn ∨ op = .notIn then compareMembers op left right else compareKinds op left right

inductive ObservationState where
  | fresh | missing | stale
  deriving DecidableEq, Repr

def maxDuration : Int := 9223372036854775807
def minDuration : Int := -9223372036854775808

/-- `Time.Sub`, which stops at the largest and at the smallest duration. -/
def timeSub (later earlier : Int) : Int := max minDuration (min maxDuration (later - earlier))

def observationState (facts : FactRegistry) (path : String) (policy : ObservationPolicy) : ObservationState × String :=
  match facts.values.lookup path with
  | none => (.missing,(facts.issues.lookup path).getD "required fact is missing")
  | some _ =>
    let metadata := (facts.metadata.lookup path).getD default
    let age := timeSub facts.evaluationTime metadata.observedAt
    if metadata.present ∧ age < 0 then (.stale,"fact observation time is after evaluation time")
    else match policy.maximumAge with
      | none => (.fresh,"fact is present and no maximum age is configured")
      | some maximumAge =>
        if ¬metadata.present then (.stale,"fact observation time is missing")
        else if maximumAge < age then (.stale,"fact observation exceeded maximum age")
        else (.fresh,"fact observation is fresh")

def statusForObservationDisposition : ObservationDisposition → ContractEvaluationStatus
  | .notApplicable => .notApplicable
  | .degrade => .indeterminate
  | .hold => .indeterminate
  | .block => .violated
  | .unknown => .indeterminate

def actionForObservationDisposition : ObservationDisposition → ContractDecisionAction
  | .notApplicable => .allow
  | .degrade => .allow
  | .hold => .pauseRequired
  | _ => .reject

/-- The rank inside `strongerDisposition`. -/
def ObservationDisposition.priority : ObservationDisposition → Nat
  | .block => 4
  | .hold => 3
  | .degrade => 2
  | .notApplicable => 1
  | .unknown => 0

def strongerDisposition (left right : ObservationDisposition) : ObservationDisposition :=
  if left.priority < right.priority then right else left

/-- Without a policy there is no guard; a fresh fact has a guard of status `unknown`, and its reader goes on. -/
def observationGuard (facts : FactRegistry) (path : String) : ConditionResult × Bool :=
  match facts.policies.lookup path with
  | none => ({},false)
  | some policy => match observationState facts path policy with
    | (.fresh,_) => ({},true)
    | (.missing,detail) =>
      ({ status := statusForObservationDisposition policy.missing, missing := [path], detail := detail,
         disposition := policy.missing },true)
    | (.stale,detail) =>
      ({ status := statusForObservationDisposition policy.stale, detail := detail, disposition := policy.stale },true)

/-- What the guard of a fact puts in place of the predicate that reads it. -/
def guardResult (facts : FactRegistry) (path : String) : Option ConditionResult :=
  let (guard,guarded) := observationGuard facts path
  if guarded ∧ guard.status ≠ .unknown then some guard else none

def evalExists (facts : FactRegistry) (factPath : String) : ConditionResult :=
  match guardResult facts factPath with
  | some guard => guard
  | none => match facts.values.lookup factPath,facts.issues.lookup factPath with
    | some _,_ => { status := .satisfied, detail := "fact exists" }
    | none,some reason => { status := .indeterminate, missing := [factPath], detail := reason }
    | none,none => { status := .violated, missing := [factPath], detail := "fact does not exist" }

/-- The second value of a comparison, or what is missing for it and why. -/
def comparisonValue (facts : FactRegistry) (comparisonFactPath : String) (operands : List SemanticValue) :
    Except (List String × String) SemanticValue :=
  if comparisonFactPath ≠ "" then
    match facts.values.lookup comparisonFactPath with
    | some value => .ok value
    | none => .error ([comparisonFactPath],(facts.issues.lookup comparisonFactPath).getD "missing comparison fact")
  else match operands with
    | [value] => match value with
      | .nil => .error ([],"operand is nil")
      | value => if finiteSemanticValue value then .ok value else .error ([],"operand is not finite")
    | _ => .error ([],"expected exactly one operand")

/-- The part of `evalBinaryCondition` after the two guards. -/
def compareFacts (facts : FactRegistry) (op : ConditionOperator) (factPath comparisonFactPath : String)
    (operands : List SemanticValue) : ConditionResult :=
  match facts.values.lookup factPath with
  | none =>
    { status := .indeterminate, missing := [factPath],
      detail := (facts.issues.lookup factPath).getD "missing fact" }
  | some left => match comparisonValue facts comparisonFactPath operands with
    | .error (missing,reason) => { status := .indeterminate, missing := missing, detail := reason }
    | .ok right => match compareValues op left right with
      | .error reason => { status := .indeterminate, detail := reason }
      | .ok true => { status := .satisfied, detail := "predicate satisfied" }
      | .ok false => { status := .violated, detail := "predicate violated" }

def evalBinaryCondition (facts : FactRegistry) (op : ConditionOperator) (factPath comparisonFactPath : String)
    (operands : List SemanticValue) : ConditionResult :=
  match guardResult facts factPath with
  | some guard => guard
  | none => match if comparisonFactPath ≠ "" then guardResult facts comparisonFactPath else none with
    | some guard => guard
    | none => compareFacts facts op factPath comparisonFactPath operands

/-- The result so far together with the one of a further predicate. -/
def ConditionResult.join (combined res : ConditionResult) : ConditionResult :=
  { combined with
    missing := combined.missing ++ res.missing
    disposition := strongerDisposition combined.disposition res.disposition }

/-- The loop of `evalLogicalAND` over the results of its predicates: the first violated one ends it. -/
def andLoop : ConditionResult → Bool → List ConditionResult → ConditionResult
  | combined,indeterminate,[] =>
    if indeterminate then { combined with status := .indeterminate, detail := "AND predicate indeterminate" }
    else combined
  | combined,indeterminate,res :: rest => match res.status with
    | .violated =>
      { combined.join res with
        status := .violated, detail := "AND predicate violated", disposition := res.disposition }
    | .indeterminate => andLoop (combined.join res) true rest
    | _ => andLoop (combined.join res) indeterminate rest

def evalLogicalAND (results : List ConditionResult) : ConditionResult :=
  andLoop { status := .satisfied } false results

/-- The loop of `evalLogicalOR`: the first satisfied predicate ends it and drops the dispositions met before. -/
def orLoop : ConditionResult → Bool → List ConditionResult → ConditionResult
  | combined,indeterminate,[] =>
    if indeterminate then { combined with status := .indeterminate, detail := "OR predicate indeterminate" }
    else combined
  | combined,indeterminate,res :: rest => match res.status with
    | .satisfied =>
      { combined.join res with status := .satisfied, detail := "OR predicate satisfied", disposition := .unknown }
    | .indeterminate => orLoop (combined.join res) true rest
    | _ => orLoop (combined.join res) indeterminate rest

def evalLogicalOR (results : List ConditionResult) : ConditionResult :=
  orLoop { status := .violated } false results

def evalLogicalNOT : List ConditionResult → ConditionResult
  | [res] =>
    if res.disposition ≠ .unknown then
      { res with detail := "NOT predicate observation unavailable: " ++ res.detail }
    else match res.status with
      | .satisfied => { res with status := .violated, detail := "NOT predicate evaluated" }
      | .violated => { res with status := .satisfied, detail := "NOT predicate evaluated" }
      | _ => { res with detail := "NOT predicate evaluated" }
  | _ => { status := .indeterminate, detail := "NOT requires exactly one predicate" }

mutual

def evalCondition (facts : FactRegistry) : Condition → ConditionResult
  | .nil => { status := .indeterminate, detail := "missing predicate" }
  | .mk _ operator factPath comparisonFactPath operands predicates => match operator with
    | .and => evalLogicalAND (evalEach facts predicates)
    | .or => evalLogicalOR (evalEach facts predicates)
    | .not => evalLogicalNOT (evalEach facts predicates)
    | .exist => evalExists facts factPath
    | .unknown => { status := .indeterminate, detail := "unknown condition operator" }
    | op => evalBinaryCondition facts op factPath comparisonFactPath operands

/-- The results of the predicates; a loop that ends early leaves the later ones unread. -/
def evalEach (facts : FactRegistry) : List Condition → List ConditionResult
  | [] => []
  | predicate :: rest => evalCondition facts predicate :: evalEach facts rest

end

theorem evalEach_eq_map (facts : FactRegistry) (predicates : List Condition) :
    evalEach facts predicates = predicates.map (evalCondition facts) := by
  induction predicates with
  | nil => rw [evalEach,List.map_nil]
  | cons predicate rest ih => rw [evalEach,List.map_cons,ih]

inductive ContractClauseKind where
  | unknown | validityRule | condition | versionConstraint | backpressurePolicy | safePointPolicy | sampleFreshness
  | policyLag | effectiveSampleSize | sampleCoverage
  deriving DecidableEq, Repr, Inhabited

structure ContractEvaluation where
  clauseKind : ContractClauseKind
  clauseId : String
  failureMode : ValidityFailureMode
  status : ContractEvaluationStatus := .unknown
  missingKeys : List String := []
  detail : String := ""
  observationDisposition : ObservationDisposition := .unknown
  recommendedAction : ContractDecisionAction := .unknown
  deriving DecidableEq, Repr, Inhabited

def stableStrings (values : List String) : List String := sortedStrings (values.filter (· ≠ ""))

def actionFor (status : ContractEvaluationStatus) (mode : ValidityFailureMode) : ContractDecisionAction :=
  if status = .satisfied ∨ status = .notApplicable then .allow
  else match mode with
    | .abort => .abortRequired
    | .pause => .pauseRequired
    | _ => .reject

def applyConditionResult (eval : ContractEvaluation) (result : ConditionResult) : ContractEvaluation :=
  { eval with
    status := result.status
    missingKeys := stableStrings result.missing
    observationDisposition := result.disposition }

def finalizeEvaluation (eval : ContractEvaluation) : ContractEvaluation :=
  { eval with missingKeys := stableStrings eval.missingKeys }

def evaluateConditionClause (facts : FactRegistry) (cond : Condition) : ContractEvaluation :=
  let result := evalCondition facts cond
  let base := applyConditionResult { clauseKind := .condition, clauseId := cond.conditionId, failureMode := .reject } result
  finalizeEvaluation
    { base with
      detail := result.detail
      recommendedAction :=
        if result.disposition = .unknown then actionFor base.status base.failureMode
        else actionForObservationDisposition result.disposition }

def isBlocking (eval : ContractEvaluation) : Bool :=
  match eval.observationDisposition with
  | .block | .hold => true
  | .degrade | .notApplicable => false
  | .unknown => match eval.recommendedAction with
    | .abortRequired | .pauseRequired | .reject | .waitForSafePoint | .blockProducerRequired | .shedOldestRequired
    | .shedNewestRequired | .scaleOutRequested => true
    | _ => false

def dispositionPriority : ObservationDisposition → Nat
  | .block => 2
  | .hold => 1
  | _ => 0

def actionPriority : ContractDecisionAction → Nat
  | .abortRequired => 3
  | .pauseRequired | .waitForSafePoint => 2
  | .reject | .blockProducerRequired | .shedOldestRequired | .shedNewestRequired | .scaleOutRequested => 1
  | _ => 0

def aggregatePriorityGreater (candidate current : ContractEvaluation) : Bool :=
  if dispositionPriority candidate.observationDisposition ≠ dispositionPriority current.observationDisposition then
    dispositionPriority current.observationDisposition < dispositionPriority candidate.observationDisposition
  else actionPriority current.recommendedAction < actionPriority candidate.recommendedAction

def blockingAction : ContractDecisionAction → String
  | .abortRequired => "ABORT"
  | .pauseRequired | .waitForSafePoint => "PAUSE"
  | .reject | .blockProducerRequired | .shedOldestRequired | .shedNewestRequired | .scaleOutRequested => "REJECT"
  | _ => ""

/-- What the clauses come to; the text of the reason is made of the clause that is named here. -/
structure AggregateResult where
  blocking : Bool := false
  action : ContractDecisionAction := .allow
  blockingAction : String := ""
  reason : Option (ContractClauseKind × String × ContractEvaluationStatus) := none
  deriving DecidableEq, Repr

/-- One clause in the loop of `Aggregate`; `best` is the blocking clause of the highest priority so far. -/
def better (best : Option ContractEvaluation) (eval : ContractEvaluation) : Option ContractEvaluation :=
  if isBlocking eval then
    match best with
    | none => some eval
    | some current => if aggregatePriorityGreater eval current then some eval else some current
  else best

def aggregate (evals : List ContractEvaluation) : AggregateResult :=
  match evals.foldl better none with
  | none => {}
  | some best =>
    { blocking := true
      action := best.recommendedAction
      blockingAction := blockingAction best.recommendedAction
      reason := some (best.clauseKind,best.clauseId,best.status) }

theorem foldl_better_isSome (evals : List ContractEvaluation) (best : Option ContractEvaluation) :
    (evals.foldl better best).isSome = (best.isSome || evals.any isBlocking) := by
  induction evals generalizing best with
  | nil => simp
  | cons eval rest ih =>
    rw [List.foldl_cons,ih,List.any_cons,← Bool.or_assoc]
    congr 1
    by_cases blocks : isBlocking eval
    · cases best with
      | none => simp [better,blocks]
      | some current =>
        by_cases greater : aggregatePriorityGreater eval current <;> simp [better,blocks,greater]
    · simp [better,blocks]

/-- The contract is blocked as soon as one of its clauses is, whatever the order of the clauses. -/
theorem aggregate_blocking (evals : List ContractEvaluation) : (aggregate evals).blocking = evals.any isBlocking := by
  have some := foldl_better_isSome evals none
  rw [Option.isSome_none,Bool.false_or] at some
  rw [← some]
  cases best : evals.foldl better none <;> simp [aggregate,best]

/-- The dispositions that block whatever the status is. -/
def ObservationDisposition.stops : ObservationDisposition → Bool
  | .block | .hold => true
  | _ => false

/-- The dispositions that let a clause pass whatever the status is. -/
def ObservationDisposition.waives : ObservationDisposition → Bool
  | .degrade | .notApplicable => true
  | _ => false

theorem waives_of_stops {disposition : ObservationDisposition} (stops : disposition.stops) : ¬disposition.waives := by
  cases disposition <;> simp_all [ObservationDisposition.stops,ObservationDisposition.waives]

/-- Whether the clause made of this result alone blocks. -/
def ConditionResult.blocks (result : ConditionResult) : Prop :=
  result.disposition.stops ∨
    ¬result.disposition.waives ∧ result.status ≠ .satisfied ∧ result.status ≠ .notApplicable

theorem isBlocking_clause (facts : FactRegistry) (cond : Condition) :
    isBlocking (evaluateConditionClause facts cond) = true ↔ (evalCondition facts cond).blocks := by
  cases disposition : (evalCondition facts cond).disposition with
  | unknown =>
    cases status : (evalCondition facts cond).status <;>
      simp [isBlocking,evaluateConditionClause,applyConditionResult,finalizeEvaluation,ConditionResult.blocks,actionFor,
        ObservationDisposition.stops,ObservationDisposition.waives,disposition,status]
  | _ =>
    simp [isBlocking,evaluateConditionClause,applyConditionResult,finalizeEvaluation,ConditionResult.blocks,
      ObservationDisposition.stops,ObservationDisposition.waives,disposition]

theorem strongerDisposition_stops (left right : ObservationDisposition) :
    (strongerDisposition left right).stops = (left.stops || right.stops) := by
  cases left <;> cases right <;> rfl

theorem strongerDisposition_waives {left right : ObservationDisposition} (calm : ¬left.stops) (calm' : ¬right.stops) :
    (strongerDisposition left right).waives = (left.waives || right.waives) := by
  cases left <;> cases right <;> simp_all [strongerDisposition,ObservationDisposition.priority,
    ObservationDisposition.stops,ObservationDisposition.waives]

theorem join_status (combined res : ConditionResult) : (combined.join res).status = combined.status := rfl

theorem join_disposition (combined res : ConditionResult) :
    (combined.join res).disposition = strongerDisposition combined.disposition res.disposition := rfl

def firstViolated (results : List ConditionResult) : Option ConditionResult :=
  results.find? (·.status = .violated)

variable {res : ConditionResult} {results : List ConditionResult}

theorem firstViolated_cons_of_ne (rest : List ConditionResult) (fine : res.status ≠ .violated) :
    firstViolated (res :: rest) = firstViolated rest := by
  rw [firstViolated,List.find?_cons_of_neg (by simpa using fine)]
  rfl

/-- A predicate that is not violated joins the result so far, and at most raises the flag. -/
theorem andLoop_cons (fine : res.status ≠ .violated) (combined : ConditionResult) (indeterminate : Bool)
    (rest : List ConditionResult) :
    andLoop combined indeterminate (res :: rest) =
      andLoop (combined.join res) (indeterminate || decide (res.status = .indeterminate)) rest := by
  rw [andLoop]
  cases status : res.status <;> simp_all

theorem andLoop_violated {first : ConditionResult} (found : firstViolated results = some first) (combined : ConditionResult)
    (indeterminate : Bool) :
    (andLoop combined indeterminate results).status = .violated ∧
      (andLoop combined indeterminate results).disposition = first.disposition := by
  induction results generalizing combined indeterminate with
  | nil => cases found
  | cons res rest ih =>
    by_cases violated : res.status = .violated
    · have same : res = first := by simpa [firstViolated,violated] using found
      rw [← same,andLoop,violated]
      exact ⟨rfl,rfl⟩
    · rw [andLoop_cons violated]
      rw [firstViolated_cons_of_ne rest violated] at found
      exact ih found (combined.join res) _

theorem andLoop_status (none : firstViolated results = none) (combined : ConditionResult) (indeterminate : Bool) :
    (andLoop combined indeterminate results).status =
      if indeterminate ∨ ∃ res ∈ results, res.status = .indeterminate then .indeterminate else combined.status := by
  induction results generalizing combined indeterminate with
  | nil => cases indeterminate <;> simp [andLoop]
  | cons res rest ih =>
    have fine : res.status ≠ .violated := by simpa using List.find?_eq_none.mp none res List.mem_cons_self
    rw [firstViolated_cons_of_ne rest fine] at none
    rw [andLoop_cons fine,ih none,join_status]
    simp [or_assoc]

theorem andLoop_disposition (none : firstViolated results = none) (combined : ConditionResult) (indeterminate : Bool) :
    (andLoop combined indeterminate results).disposition =
      (results.map ConditionResult.disposition).foldl strongerDisposition combined.disposition := by
  induction results generalizing combined indeterminate with
  | nil => cases indeterminate <;> simp [andLoop]
  | cons res rest ih =>
    have fine : res.status ≠ .violated := by simpa using List.find?_eq_none.mp none res List.mem_cons_self
    rw [firstViolated_cons_of_ne rest fine] at none
    rw [andLoop_cons fine,ih none,join_disposition,List.map_cons,List.foldl_cons]

theorem foldl_strongerDisposition_stops (dispositions : List ObservationDisposition) (start : ObservationDisposition) :
    (dispositions.foldl strongerDisposition start).stops = (start.stops || dispositions.any (·.stops)) := by
  induction dispositions generalizing start with
  | nil => simp
  | cons disposition rest ih =>
    rw [List.foldl_cons,ih,strongerDisposition_stops,List.any_cons,Bool.or_assoc]

theorem foldl_strongerDisposition_waives {dispositions : List ObservationDisposition} {start : ObservationDisposition}
    (calm : ¬start.stops) (calms : ∀ disposition ∈ dispositions, ¬disposition.stops) :
    (dispositions.foldl strongerDisposition start).waives = (start.waives || dispositions.any (·.waives)) := by
  induction dispositions generalizing start with
  | nil => simp
  | cons disposition rest ih =>
    have here : ¬disposition.stops := calms disposition List.mem_cons_self
    have joined : ¬(strongerDisposition start disposition).stops := by
      rw [strongerDisposition_stops]
      simp [calm,here]
    rw [List.foldl_cons,ih joined (fun later member => calms later (List.mem_cons_of_mem _ member)),
      strongerDisposition_waives calm here,List.any_cons,Bool.or_assoc]

theorem guardResult_status {facts : FactRegistry} {path : String} {guard : ConditionResult}
    (given : guardResult facts path = some guard) : guard.status ≠ .unknown := by
  rw [guardResult] at given
  simp only [Option.ite_none_right_eq_some,Option.some.injEq] at given
  obtain ⟨⟨_,known⟩,rfl⟩ := given
  exact known

theorem compareFacts_status (facts : FactRegistry) (op : ConditionOperator) (factPath comparisonFactPath : String)
    (operands : List SemanticValue) :
    (compareFacts facts op factPath comparisonFactPath operands).status ≠ .unknown := by
  rw [compareFacts]
  repeat' split
  all_goals simp

theorem evalExists_status (facts : FactRegistry) (factPath : String) : (evalExists facts factPath).status ≠ .unknown := by
  rw [evalExists]
  split
  · next given => exact guardResult_status given
  · split <;> simp

theorem evalBinaryCondition_status (facts : FactRegistry) (op : ConditionOperator)
    (factPath comparisonFactPath : String) (operands : List SemanticValue) :
    (evalBinaryCondition facts op factPath comparisonFactPath operands).status ≠ .unknown := by
  rw [evalBinaryCondition]
  split
  · next given => exact guardResult_status given
  · split
    · next given =>
      split at given
      · exact guardResult_status given
      · cases given
    · exact compareFacts_status facts op factPath comparisonFactPath operands

theorem evalLogicalAND_status (results : List ConditionResult) : (evalLogicalAND results).status ≠ .unknown := by
  rw [evalLogicalAND]
  cases found : firstViolated results with
  | some first => simp [andLoop_violated found]
  | none =>
    rw [andLoop_status found]
    split <;> simp

theorem orLoop_status (results : List ConditionResult) {combined : ConditionResult} (known : combined.status ≠ .unknown)
    (indeterminate : Bool) : (orLoop combined indeterminate results).status ≠ .unknown := by
  induction results generalizing combined indeterminate with
  | nil =>
    rw [orLoop]
    split
    · simp
    · exact known
  | cons res rest ih =>
    have joined : (combined.join res).status ≠ .unknown := known
    rw [orLoop]
    split
    · simp
    · exact ih joined true
    · exact ih joined indeterminate

theorem evalLogicalNOT_status (known : ∀ res ∈ results, res.status ≠ .unknown) :
    (evalLogicalNOT results).status ≠ .unknown := by
  rw [evalLogicalNOT.eq_def]
  split
  · next res =>
    have same := known res List.mem_cons_self
    split
    · exact same
    · split <;> simp_all
  · simp

/-- Induction over the tree; only a NOT passes on the status of a predicate that is none of its own. -/
theorem evalCondition_status (facts : FactRegistry) (cond : Condition) : (evalCondition facts cond).status ≠ .unknown := by
  refine @Condition.rec (fun cond => (evalCondition facts cond).status ≠ .unknown)
    (fun predicates => ∀ res ∈ evalEach facts predicates, res.status ≠ .unknown) ?_ ?_ ?_ ?_ cond
  · simp [evalCondition]
  · intro conditionId operator factPath comparisonFactPath operands predicates known
    rw [evalCondition.eq_def]
    cases operator with
    | and => exact evalLogicalAND_status _
    | or => exact orLoop_status _ (by simp) false
    | not => exact evalLogicalNOT_status known
    | exist => exact evalExists_status facts factPath
    | unknown => simp
    | _ => exact evalBinaryCondition_status facts _ factPath comparisonFactPath operands
  · simp [evalEach]
  · intro predicate rest here later res member
    rw [evalEach] at member
    rcases List.mem_cons.mp member with rfl | member
    · exact here
    · exact later res member

/-- The AND of these results does not take a waiving disposition: that of its first violated predicate if it has one,
and the strongest of all otherwise. -/
def Unwaived (results : List ConditionResult) : Prop :=
  match firstViolated results with
  | some first => ¬first.disposition.waives
  | none => (∃ res ∈ results, res.disposition.stops) ∨ ∀ res ∈ results, ¬res.disposition.waives

theorem evalLogicalAND_waives_iff (results : List ConditionResult) :
    ¬(evalLogicalAND results).disposition.waives ↔ Unwaived results := by
  rw [evalLogicalAND,Unwaived]
  cases found : firstViolated results with
  | some first => simp [andLoop_violated found]
  | none =>
    rw [andLoop_disposition found]
    by_cases stopped : ∃ res ∈ results, res.disposition.stops
    · have stops : ((results.map ConditionResult.disposition).foldl strongerDisposition .unknown).stops := by
        rw [foldl_strongerDisposition_stops]
        simpa [ObservationDisposition.stops] using stopped
      exact iff_of_true (waives_of_stops stops) (Or.inl stopped)
    · have calms : ∀ disposition ∈ results.map ConditionResult.disposition, ¬disposition.stops := by
        simpa using stopped
      rw [foldl_strongerDisposition_waives (by simp [ObservationDisposition.stops]) calms]
      simp [ObservationDisposition.waives,stopped]

/-- A predicate that blocks alone fails, waits or stops: an AND that is not waived blocks with it. -/
theorem evalLogicalAND_blocks (known : ∀ res ∈ results, res.status ≠ .unknown) (unwaived : Unwaived results)
    (member : res ∈ results) (blocks : res.blocks) : (evalLogicalAND results).blocks := by
  have kept := (evalLogicalAND_waives_iff results).mpr unwaived
  cases found : firstViolated results with
  | some first =>
    refine Or.inr ⟨kept,?_⟩
    rw [evalLogicalAND,(andLoop_violated found _ _).1]
    simp
  | none =>
    rcases blocks with stops | ⟨_,notSatisfied,applicable⟩
    · left
      rw [evalLogicalAND,andLoop_disposition found,foldl_strongerDisposition_stops]
      simp only [List.any_map,Bool.or_eq_true,List.any_eq_true]
      exact Or.inr ⟨res,member,stops⟩
    · -- no predicate is violated, so this one is indeterminate, and the AND with it
      have fine : res.status ≠ .violated := by simpa using List.find?_eq_none.mp found res member
      have indeterminate : res.status = .indeterminate := by
        have recognized := known res member
        cases status : res.status <;> simp_all
      refine Or.inr ⟨kept,?_⟩
      rw [evalLogicalAND,andLoop_status found,if_pos (Or.inr ⟨res,member,indeterminate⟩)]
      simp

theorem blocks_not_waives {result : ConditionResult} (blocks : result.blocks) : ¬result.disposition.waives := by
  rcases blocks with stops | ⟨kept,_⟩
  · exact waives_of_stops stops
  · exact kept

def andClause (conditionId : String) (predicates : List Condition) : Condition :=
  .mk conditionId .and "" "" [] predicates

/-- No failing predicate is hidden: a clause that blocks alone leaves the AND blocked, and the contract with it,
whatever the other clauses of the contract are. -/
def NoneHidden (facts : FactRegistry) (cond : Condition) (predicates : List Condition) : Prop :=
  ∀ predicate ∈ predicates,
    (isBlocking (evaluateConditionClause facts predicate) → isBlocking (evaluateConditionClause facts cond)) ∧
    ∀ before after, (aggregate (before ++ evaluateConditionClause facts predicate :: after)).blocking →
      (aggregate (before ++ evaluateConditionClause facts cond :: after)).blocking

theorem noneHidden_iff (facts : FactRegistry) (cond : Condition) (predicates : List Condition) :
    NoneHidden facts cond predicates ↔
      ∀ predicate ∈ predicates, (evalCondition facts predicate).blocks → (evalCondition facts cond).blocks := by
  constructor
  · intro hidden predicate member
    rw [← isBlocking_clause,← isBlocking_clause]
    exact (hidden predicate member).1
  · intro shown predicate member
    have clause := shown predicate member
    rw [← isBlocking_clause,← isBlocking_clause] at clause
    refine ⟨clause,fun before after => ?_⟩
    rw [aggregate_blocking,aggregate_blocking]
    simp only [List.any_append,List.any_cons,Bool.or_eq_true]
    exact Or.imp_right (Or.imp_left clause)

/-- An AND hides no failing predicate exactly when none of its predicates fails alone, or it does not take a waiving
disposition from them. The identifier, the paths and the operands of the AND play no part. -/
theorem and_blocks_iff (facts : FactRegistry) (conditionId factPath comparisonFactPath : String)
    (operands : List SemanticValue) (predicates : List Condition) :
    NoneHidden facts (.mk conditionId .and factPath comparisonFactPath operands predicates) predicates ↔
      (∀ predicate ∈ predicates, ¬isBlocking (evaluateConditionClause facts predicate)) ∨
        Unwaived (predicates.map (evalCondition facts)) := by
  have tree : evalCondition facts (.mk conditionId .and factPath comparisonFactPath operands predicates) =
      evalLogicalAND (predicates.map (evalCondition facts)) := by
    rw [evalCondition.eq_def]
    simp only [evalEach_eq_map]
  rw [noneHidden_iff,tree]
  constructor
  · intro shown
    by_cases quiet : ∀ predicate ∈ predicates, ¬isBlocking (evaluateConditionClause facts predicate)
    · exact Or.inl quiet
    · push Not at quiet
      obtain ⟨predicate,member,blocks⟩ := quiet
      rw [isBlocking_clause] at blocks
      have blocked := shown predicate member blocks
      exact Or.inr ((evalLogicalAND_waives_iff _).mp (blocks_not_waives blocked))
  · rintro (quiet | unwaived) predicate member blocks
    · exact absurd ((isBlocking_clause facts predicate).mpr blocks) (quiet predicate member)
    · refine evalLogicalAND_blocks ?_ unwaived (List.mem_map_of_mem member) blocks
      intro res listed
      obtain ⟨inner,_,rfl⟩ := List.mem_map.mp listed
      exact evalCondition_status facts inner

/-- No fact is observed; the age of a sample may be missing, which only degrades. -/
def bareRegistry : FactRegistry :=
  { values := ∅
    metadata := ∅
    issues := ∅
    policies := (∅ : Map String ObservationPolicy).insert "sample.age_ms"
      { maximumAge := none, missing := .degrade, stale := .block }
    evaluationTime := 0 }

def lagBound : Condition := .mk "lag" .le "sample.policy_lag" "" [.uint64 3] []
def ageBound : Condition := .mk "age" .le "sample.age_ms" "" [.uint64 100] []

/-- The lag is not observed and its clause alone is rejected; next to the degraded age it passes. -/
theorem degraded_predicate_hides_failure :
    isBlocking (evaluateConditionClause bareRegistry lagBound) ∧
      ¬isBlocking (evaluateConditionClause bareRegistry (andClause "both" [lagBound,ageBound])) ∧
      (aggregate [evaluateConditionClause bareRegistry lagBound]).blocking ∧
      ¬(aggregate [evaluateConditionClause bareRegistry (andClause "both" [lagBound,ageBound])]).blocking := by
  decide +kernel

end TgsRl.Conditions
