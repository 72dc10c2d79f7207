import TgsRl.Texts
import TgsRl.Validation

/-!
The records of the job controller, after `control.proto` and the packages `state`, `status`,
`lifecycle` and `compiler` of `job-controller-go`. A job's fields besides its ID and its state are
one text, and an operation's time is hashed as a number. The observations that an aggregate holds as
annotations are printed and read back as texts (`parse_lookup`).
-/
namespace TgsRl.Jobs
open Messages State Texts Validation

inductive JobState where
  | unknown | pending | running | paused | succeeded | failed | cancelled
  deriving DecidableEq, Repr, Inhabited

inductive JobRunState where
  | unknown | validating | admitted | preparing | running | paused | stopped | succeeded | failed | terminated
  | waiting | admitting | starting | pausing | resuming | stopping | terminating | retrying
  deriving DecidableEq, Repr, Inhabited

inductive OperationType where
  | unknown | validate | admission | start | pause | resume | stop | retry | terminate
  deriving DecidableEq, Repr, Inhabited

inductive OperationState where
  | unknown | pending | running | succeeded | failed | cancelled
  deriving DecidableEq, Repr, Inhabited

inductive JobCommandType where
  | unknown | start | pause | resume | stop | retry | terminate
  deriving DecidableEq, Repr, Inhabited

inductive ComponentHealth where
  | unknown | healthy | degraded | failed | progressing
  deriving DecidableEq, Repr, Inhabited

def JobState.text : JobState → String
  | .unknown => "UNKNOWN" | .pending => "PENDING" | .running => "RUNNING" | .paused => "PAUSED"
  | .succeeded => "SUCCEEDED" | .failed => "FAILED" | .cancelled => "CANCELLED"

def JobRunState.text : JobRunState → String
  | .unknown => "UNKNOWN" | .validating => "VALIDATING" | .admitted => "ADMITTED" | .preparing => "PREPARING"
  | .running => "RUNNING" | .paused => "PAUSED" | .stopped => "STOPPED" | .succeeded => "SUCCEEDED"
  | .failed => "FAILED" | .terminated => "TERMINATED" | .waiting => "WAITING" | .admitting => "ADMITTING"
  | .starting => "STARTING" | .pausing => "PAUSING" | .resuming => "RESUMING" | .stopping => "STOPPING"
  | .terminating => "TERMINATING" | .retrying => "RETRYING"

def OperationType.text : OperationType → String
  | .unknown => "UNKNOWN" | .validate => "VALIDATE" | .admission => "ADMIT" | .start => "START" | .pause => "PAUSE"
  | .resume => "RESUME" | .stop => "STOP" | .retry => "RETRY" | .terminate => "TERMINATE"

def JobCommandType.text : JobCommandType → String
  | .unknown => "UNKNOWN" | .start => "START" | .pause => "PAUSE" | .resume => "RESUME" | .stop => "STOP"
  | .retry => "RETRY" | .terminate => "TERMINATE"

def ComponentHealth.text : ComponentHealth → String
  | .unknown => "COMPONENT_HEALTH_UNKNOWN" | .healthy => "COMPONENT_HEALTH_HEALTHY"
  | .degraded => "COMPONENT_HEALTH_DEGRADED" | .failed => "COMPONENT_HEALTH_FAILED"
  | .progressing => "COMPONENT_HEALTH_PROGRESSING"

/-- The names of `RuntimeState`, in the order of their numbers. -/
def runtimeStates : List (RuntimeState × String) :=
  [(.unknown,"UNKNOWN"),(.requested,"REQUESTED"),(.bound,"BOUND"),(.running,"RUNNING"),(.paused,"PAUSED"),
    (.sleeping,"SLEEPING"),(.failed,"FAILED"),(.terminated,"TERMINATED"),(.validating,"VALIDATING"),
    (.compiling,"COMPILING"),(.preparing,"PREPARING"),(.starting,"STARTING"),(.pausing,"PAUSING"),(.resuming,"RESUMING"),
    (.checkpointing,"CHECKPOINTING"),(.stopping,"STOPPING"),(.terminating,"TERMINATING")]

/-- The message `RLTrainingJob`; `content` stands for its other fields. -/
structure Job where
  jobId : String
  state : JobState
  content : String
  deriving DecidableEq, Repr, Inhabited

/-- The message `Operation`; `dispatchAccepted` is what `commandDispatchAccepted` reads in its annotations. -/
structure Operation where
  operationId : String
  type : OperationType
  state : OperationState
  actor : String
  reason : String
  createdAt : Int
  completedAt : Option Int
  errorCode : String
  errorMessage : String
  jobId : String
  runId : String
  requestId : String
  idempotencyKey : String
  dispatchAccepted : Bool
  deriving DecidableEq, Repr, Inhabited

/-- What one source has observed of a component. -/
structure Observation where
  health : ComponentHealth
  detail : String
  revision : UInt64
  observedAt : Int
  state : RuntimeState
  converged : Bool
  deriving DecidableEq, Repr, Inhabited

/-- A reported `ComponentStatus`; `stated` and `statedConverged` are its annotations `runtime.state` and
    `runtime.converged`, where these can be read. -/
structure ComponentStatus extends Observation where
  component : String
  source : String
  jobId : String
  runId : String
  stated : Option RuntimeState
  statedConverged : Option Bool
  deriving DecidableEq, Repr, Inhabited

/-- A `ComponentStatus` of a run: an observation, the annotation `runtime.source`, and the annotations
    `observation.<source>.<field>`. Its other annotations are not read again. -/
structure Aggregate extends Observation where
  component : String
  runtimeSource : String
  annotations : List (String × String)
  deriving DecidableEq, Repr, Inhabited

/-- The message `JobRun`, without what is compiled into it from the job. -/
structure JobRun where
  runId : String
  jobId : String
  state : JobState
  runState : JobRunState
  attempt : UInt64
  createdAt : Int
  startedAt : Option Int
  completedAt : Option Int
  operations : List Operation
  componentStatus : List Aggregate
  deriving DecidableEq, Repr, Inhabited

structure IdempotencyRecord where
  scope : String
  key : String
  requestHash : String
  operationID : String
  jobID : String
  runID : String
  deriving DecidableEq, Repr, Inhabited

/-- The hash of some texts, each ended by a NUL. -/
def digest (parts : List String) : List Char := hexDigest (parts.flatMap (fun part => bytes part ++ [0]))

def hashStrings (parts : List String) : String := String.ofList (digest parts)

/-- An ID has the first 16 digits of the hash. -/
def deterministicID (kind : String) (parts : List String) : String := kind ++ "-" ++ String.ofList ((digest parts).take 16)

theorem trimSpace_ne {text : String} {c : Char} (member : c ∈ text.toList) (solid : isSpace c = false) : trimSpace text ≠ "" := by
  intro blank
  have none := congrArg String.toList blank
  simp only [trimSpace,String.toList_ofList,String.toList_empty,List.reverse_eq_nil_iff,List.dropWhile_eq_nil_iff,
    List.mem_reverse] at none
  -- what is left without the spaces in front begins with a letter
  cases rest : text.toList.dropWhile isSpace with
  | nil =>
    have space := List.dropWhile_eq_nil_iff.mp rest c member
    rw [solid] at space
    cases space
  | cons first others =>
    have space := none first (by simp [rest])
    have letter := List.head_dropWhile_not isSpace (l := text.toList) (by simp [rest])
    simp [rest,space] at letter

theorem ne_of_trimSpace {text : String} (named : trimSpace text ≠ "") : text ≠ "" := by
  rintro rfl
  exact named rfl

theorem trimSpace_deterministicID {kind : String} {parts : List String} : trimSpace (deterministicID kind parts) ≠ "" :=
  trimSpace_ne (c := '-') (by simp [deterministicID]) (by decide)

theorem toString_injective {m n : Nat} (same : (toString m).toList = (toString n).toList) : m = n := by
  simp only [Nat.toString_eq_repr,Nat.toList_repr] at same
  have number := congrArg (Nat.ofDigitChars 10 · 0) same
  simpa only [Nat.ofDigitChars_ten_toDigits] using number

/-- `deterministicProtoHash` of a job, of which three texts are left. -/
def deterministicProtoHash (job : Job) : String := hashStrings [job.jobId,job.state.text,job.content]

def stateFromRun : JobRunState → JobState
  | .running => .running
  | .paused => .paused
  | .succeeded => .succeeded
  | .failed => .failed
  | .stopped | .terminated => .cancelled
  | _ => .pending

def isTerminalRunState : JobRunState → Bool
  | .stopped | .succeeded | .failed | .terminated => true
  | _ => false

def runIDOf (job : Job) (attempt : UInt64) : String :=
  deterministicID "run" [job.jobId,toString attempt.toNat,deterministicProtoHash job]

def newRun (job : Job) (attempt : UInt64) (runState : JobRunState) (now : Int) : JobRun :=
  { runId := runIDOf job attempt, jobId := job.jobId, state := stateFromRun runState, runState, attempt, createdAt := now
    startedAt := none, completedAt := none, operations := [], componentStatus := [] }

/-- `sequence` is the number the controller's counter gives an operation without a key. -/
def newOperation (type : OperationType) (jobId runId actor reason requestId idempotencyKey : String) (now : Int)
    (sequence : Nat) : Operation :=
  let identity := ["OPERATION_TYPE_" ++ type.text,jobId,runId,requestId,idempotencyKey,actor,reason]
  { operationId := deterministicID "op" (if trimSpace idempotencyKey = "" then identity ++ [toString now,toString sequence]
      else identity)
    type, state := .succeeded, actor := trimSpace actor, reason := trimSpace reason, createdAt := now, completedAt := some now
    errorCode := "", errorMessage := "", jobId, runId, requestId, idempotencyKey, dispatchAccepted := false }

/-- The operation takes the place of the one with its ID, or is added at the end. -/
def appendOperation (existing : List Operation) (operation : Operation) : List Operation :=
  if existing.any (fun current => decide (current.operationId = operation.operationId)) then
    existing.map (fun current => if current.operationId = operation.operationId then operation else current)
  else existing ++ [operation]

/-- The part of the repository that the controller's callbacks read and write. -/
structure Store where
  jobs : Map String Job
  runs : Map (String × String) JobRun
  operations : Map String Operation
  idempotency : Map (String × String) IdempotencyRecord

def Store.empty : Store := ⟨∅,∅,∅,∅⟩

/-- The item of a list that no later one is newer than. -/
def latestBy {α : Type} (newer : α → α → Bool) (items : List α) : Option α :=
  items.foldl (fun latest item => match latest with
    | none => some item
    | some best => if newer item best then some item else latest) none

def Store.getLatestRun (s : Store) (jobID : String) : Option JobRun :=
  latestBy (fun run latest => decide (latest.attempt < run.attempt) ||
    (decide (run.attempt = latest.attempt) && decide (latest.runId < run.runId)))
    ((s.runs.pairs.filter (fun entry => decide (entry.1.1 = jobID))).map Prod.snd)

def Store.getLatestOperation (s : Store) (jobID runID : String) (type : OperationType) : Option Operation :=
  latestBy (fun operation latest => decide (latest.createdAt < operation.createdAt) ||
    (decide (operation.createdAt = latest.createdAt) && decide (latest.operationId < operation.operationId)))
    (s.operations.values.filter (fun operation => decide (operation.type = type) && decide (operation.jobId = jobID) &&
      decide (operation.runId = runID)))

/-- What a callback of `Update` puts into the store. -/
structure Write where
  job : Option Job := none
  run : Option JobRun := none
  operation : Option Operation := none
  record : Option IdempotencyRecord := none
  deriving DecidableEq, Repr

def Store.put (s : Store) (w : Write) : Store where
  jobs := w.job.elim s.jobs (fun job => s.jobs.insert job.jobId job)
  runs := w.run.elim s.runs (fun run => s.runs.insert (run.jobId,run.runId) run)
  operations := w.operation.elim s.operations (fun operation => s.operations.insert operation.operationId operation)
  idempotency := w.record.elim s.idempotency (fun record => s.idempotency.insert (record.scope,record.key) record)

def authoritativeRuntimeObservationSource : String := "runtime-observation"

def healthRank : ComponentHealth → Nat
  | .failed => 5
  | .degraded => 4
  | .progressing => 3
  | .healthy => 2
  | .unknown => 1

def isObservationNewer (candidate current : Observation) : Bool :=
  if candidate.revision ≠ current.revision then decide (current.revision < candidate.revision)
  else decide (current.observedAt < candidate.observedAt)

def normalizeRuntimeSignal (status : ComponentStatus) : ComponentStatus :=
  if status.component ≠ "runtime" ∨ status.state ≠ .unknown then status
  else match status.stated with
    | none => status
    | some state => { status with state, converged := status.statedConverged.getD status.converged }

def observationFields (o : Observation) : List (String × String) :=
  [("health",o.health.text),("detail",o.detail),("revision",toString o.revision.toNat),
    ("observed_at",formatTime o.observedAt)] ++
  if o.state = .unknown then [] else
    [("runtime_state","RUNTIME_STATE_" ++ ((runtimeStates.find? (fun entry => decide (entry.1 = o.state))).elim "" Prod.snd)),
      ("runtime_converged",toString o.converged)]

def observationAnnotations (source : String) (o : Observation) : List (String × String) :=
  (observationFields o).map (fun field => ("observation." ++ source ++ "." ++ field.1,field.2))

/-- `fmt.Sscanf` of a number: the digits at the start, or 0 if they are too many. -/
def scanUint (text : String) : UInt64 :=
  let number := Nat.ofDigitChars 10 (text.toList.takeWhile Char.isDigit) 0
  if number < 2 ^ 64 then UInt64.ofNat number else 0

def parseBool (text : String) : Option Bool :=
  if text ∈ ["1","t","T","true","TRUE","True"] then some true
  else if text ∈ ["0","f","F","false","FALSE","False"] then some false else none

/-- The observation with one more field; a text that cannot be read changes nothing. -/
def readField (o : Observation) (field : String × String) : Observation :=
  match field.1 with
  | "health" => { o with health := ([.unknown,.healthy,.degraded,.failed,.progressing].find? (fun health : ComponentHealth =>
      decide (health.text = field.2))).getD o.health }
  | "detail" => { o with detail := field.2 }
  | "revision" => { o with revision := scanUint field.2 }
  | "observed_at" => { o with observedAt := (parseTime field.2).getD o.observedAt }
  | "runtime_state" => { o with state := (runtimeStates.find? (fun entry =>
      decide ("RUNTIME_STATE_" ++ entry.2 = field.2))).elim o.state Prod.fst }
  | "runtime_converged" => { o with converged := (parseBool field.2).getD o.converged }
  | _ => o

/-- The source and the field of a key with three parts. -/
def annotationPlace (key : String) : Option (String × String) :=
  match key.toList.splitOn '.' with
  | [first,source,field] =>
    if String.ofList first = "observation" then some (String.ofList source,String.ofList field) else none
  | _ => none

/-- An observation of which nothing is read yet; a missing time counts as 1970. -/
def unread : Observation := ⟨.unknown,"",0,0,.unknown,false⟩

def readPair (held : Map String Observation) (pair : String × String) : Map String Observation :=
  match annotationPlace pair.1 with
  | none => held
  | some (source,field) => held.insert source (readField ((held.lookup source).getD unread) (field,pair.2))

def parseObservationAnnotations (annotations : List (String × String)) : Map String Observation :=
  annotations.foldl readPair ∅

def Aggregate.observations (status : Aggregate) : Map String Observation := parseObservationAnnotations status.annotations

/-- The observations that the run's statuses of the component hold. -/
def parseObservations (existing : List Aggregate) (component : String) : Map String Observation :=
  ((existing.filter (fun status => decide (status.component = component))).flatMap
    (fun status => status.observations.pairs)).foldl (fun held entry => held.insert entry.1 entry.2) ∅

def sourceOf (incoming : ComponentStatus) : String := if incoming.source = "" then "unknown" else incoming.source

/-- The latest observation of each source, the incoming one included. -/
def observationsBySource (existing : List Aggregate) (incoming : ComponentStatus) : Map String Observation :=
  let held := parseObservations existing incoming.component
  let source := sourceOf incoming
  let observation := (normalizeRuntimeSignal incoming).toObservation
  if (held.lookup source).all (isObservationNewer observation) then held.insert source observation else held

def mergeAggregatedStatus (existing : List Aggregate) (incoming : ComponentStatus) : Aggregate :=
  let held := observationsBySource existing incoming
  let sorted := held.pairs.insertionSort (fun first second => first.1 ≤ second.1)
  let signal := (held.lookup authoritativeRuntimeObservationSource).filter (fun o => decide (o.state ≠ .unknown))
  { component := incoming.component
    health := sorted.foldl (fun health o => if healthRank health < healthRank o.2.health then o.2.health else health) .unknown
    detail := "; ".intercalate (sorted.map (fun o =>
      o.1 ++ "=" ++ (if trimSpace o.2.detail = "" then o.2.health.text else trimSpace o.2.detail)))
    revision := sorted.foldl (fun revision o => max revision o.2.revision) incoming.revision
    observedAt := sorted.foldl (fun latest o => max latest o.2.observedAt) incoming.observedAt
    state := signal.elim .unknown Observation.state
    converged := signal.elim false Observation.converged
    runtimeSource := if signal.isSome then authoritativeRuntimeObservationSource else ""
    annotations := sorted.flatMap (fun o => observationAnnotations o.1 o.2) }

def upsertAggregatedStatus (existing : List Aggregate) (aggregated : Aggregate) : List Aggregate :=
  let replaced := existing.map (fun status => if status.component = aggregated.component then aggregated else status)
  (if existing.any (fun status => decide (status.component = aggregated.component)) then replaced
    else replaced ++ [aggregated]).insertionSort (fun first second => first.component ≤ second.component)

/-- The state and whether it has converged; an aggregate with the source annotation always has a state, so the other
    readings of `observedRuntimeState` are never made. -/
def authoritativeRuntimeSignal (aggregated : Aggregate) : Option (RuntimeState × Bool) :=
  if trimSpace aggregated.runtimeSource ≠ authoritativeRuntimeObservationSource then none
  else if aggregated.state ≠ .unknown then some (aggregated.state,aggregated.converged) else none

/-- An observation as it is read back: whether a state has converged is written with the state only, and a time outside the
    years 0 to 9999 is lost. -/
def reread (o : Observation) : Observation :=
  { o with converged := o.converged && decide (o.state ≠ .unknown), observedAt := (parseTime (formatTime o.observedAt)).getD 0 }

def Timed (t : Int) : Prop := -62167219200000000000 ≤ t ∧ t < 253402300800000000000

instance (t : Int) : Decidable (Timed t) := inferInstanceAs (Decidable (_ ∧ _))

variable {source : String} {held : Map String Observation} {o : Observation}

theorem reread_timed (timed : Timed o.observedAt) :
    reread o = { o with converged := o.converged && decide (o.state ≠ .unknown) } := by
  rw [reread,parseTime_formatTime timed.1 timed.2]
  rfl

theorem scanUint_toString (n : UInt64) : scanUint (toString n.toNat) = n := by
  have digits : (toString n.toNat).toList.takeWhile Char.isDigit = Nat.toDigits 10 n.toNat := by
    rw [Nat.toString_eq_repr,Nat.toList_repr]
    exact List.takeWhile_eq_self_iff.mpr (fun c member => Nat.isDigit_of_mem_toDigits (by decide) (by decide) member)
  rw [scanUint,digits,Nat.ofDigitChars_ten_toDigits]
  simp [n.toNat_lt]

theorem readFields (o : Observation) : (observationFields o).foldl readField unread = reread o := by
  obtain ⟨health,detail,revision,observedAt,state,converged⟩ := o
  have first : ([("health",health.text),("detail",detail),("revision",toString revision.toNat),
      ("observed_at",formatTime observedAt)] : List (String × String)).foldl readField unread =
      ⟨health,detail,revision,(parseTime (formatTime observedAt)).getD 0,.unknown,false⟩ := by
    simp only [List.foldl_cons,List.foldl_nil,readField,scanUint_toString,unread]
    cases health <;> rfl
  rw [observationFields,List.foldl_append,first,reread]
  generalize (parseTime (formatTime observedAt)).getD 0 = time
  cases state <;> cases converged <;> rfl

theorem annotationPlace_key (field : String) (plain : '.' ∉ field.toList) :
    annotationPlace ("observation." ++ source ++ "." ++ field) = if '.' ∈ source.toList then none else some (source,field) := by
  have parts : ("observation." ++ source ++ "." ++ field).toList.splitOn '.' =
      "observation".toList :: (source.toList.splitOn '.' ++ [field.toList]) := by
    have whole : ("observation." ++ source ++ "." ++ field).toList =
        "observation".toList ++ '.' :: (source.toList ++ '.' :: field.toList) := by simp [String.toList_append]
    rw [whole,List.splitOn_append_cons_self,List.splitOn_append_cons_self,List.splitOn_eq_singleton plain]
    rfl
  rw [annotationPlace,parts]
  by_cases dotted : '.' ∈ source.toList
  · -- a dot cuts the source into two parts at least
    obtain ⟨before,after,cut⟩ := List.append_of_mem dotted
    obtain ⟨first,_,one⟩ := List.exists_cons_of_ne_nil (List.splitOn_ne_nil '.' before)
    obtain ⟨second,_,two⟩ := List.exists_cons_of_ne_nil (List.splitOn_ne_nil '.' after)
    rw [if_pos dotted,cut,List.splitOn_append_cons_self,one,two]
    split
    · next same =>
      have count := congrArg List.length same
      simp at count
      omega
    · rfl
  · rw [if_neg dotted,List.splitOn_eq_singleton dotted]
    simp

/-- The annotations of a source are read into its observation, unless its name has a dot. -/
theorem lookup_readAnnotations (fields : List (String × String)) (plain : ∀ field ∈ fields, '.' ∉ field.1.toList)
    (other : String) :
    ((fields.map (fun field => ("observation." ++ source ++ "." ++ field.1,field.2))).foldl readPair held).lookup other =
      if other = source ∧ '.' ∉ source.toList ∧ fields ≠ [] then
        some (fields.foldl readField ((held.lookup source).getD unread)) else held.lookup other := by
  induction fields generalizing held with
  | nil => simp
  | cons field fields ih =>
    rw [List.map_cons,List.foldl_cons,ih (fun f member => plain f (by simp [member])),readPair,
      annotationPlace_key _ (plain field (by simp))]
    by_cases dotted : '.' ∈ source.toList
    · simp [dotted]
    · by_cases own : other = source
      · subst own
        by_cases last : fields = [] <;> simp [dotted,last]
      · simp [dotted,own,AList.lookup_insert_ne]

theorem parse_lookup {entries : List (String × Observation)} (distinct : (entries.map Prod.fst).Nodup) :
    (parseObservationAnnotations (entries.flatMap (fun entry => observationAnnotations entry.1 entry.2))).lookup source =
      some o ↔ '.' ∉ source.toList ∧ ∃ kept, (source,kept) ∈ entries ∧ o = reread kept := by
  have plain : ∀ o, ∀ field ∈ observationFields o, '.' ∉ field.1.toList := by
    intro o field member
    have named : field.1 ∈ ["health","detail","revision","observed_at","runtime_state","runtime_converged"] := by
      rw [observationFields] at member
      split at member <;> simp at member <;> rcases member with rfl | rfl | rfl | rfl | rfl | rfl <;> simp
    revert named
    generalize field.1 = name
    revert name
    decide
  have general : ∀ (entries : List (String × Observation)) (held : Map String Observation), (entries.map Prod.fst).Nodup →
      (∀ entry ∈ entries, held.lookup entry.1 = none) →
      (((entries.flatMap (fun entry => observationAnnotations entry.1 entry.2)).foldl readPair held).lookup source =
        some o ↔ ('.' ∉ source.toList ∧ ∃ kept, (source,kept) ∈ entries ∧ o = reread kept) ∨ held.lookup source = some o) := by
    intro entries
    induction entries with
    | nil => simp
    | cons entry entries ih =>
      intro held distinct absent
      obtain ⟨new,distinct⟩ := List.nodup_cons.mp distinct
      have later : ∀ e ∈ entries, e.1 ≠ entry.1 := fun e there same => new (same ▸ List.mem_map_of_mem there)
      have step : ∀ other, ((observationAnnotations entry.1 entry.2).foldl readPair held).lookup other =
          if other = entry.1 ∧ '.' ∉ entry.1.toList then some (reread entry.2) else held.lookup other := by
        intro other
        have filled : observationFields entry.2 ≠ [] := by simp [observationFields]
        rw [observationAnnotations,lookup_readAnnotations _ (plain entry.2)]
        simp [filled,absent entry (by simp),readFields]
      rw [List.flatMap_cons,List.foldl_append,ih _ distinct,step]
      · by_cases own : source = entry.1
        · have none : held.lookup source = none := own ▸ absent entry (by simp)
          have away : ∀ kept, (source,kept) ∉ entries := fun kept there => later _ there own
          by_cases dotted : '.' ∈ source.toList
          · simp [← own,dotted]
          · simp [← own,dotted,none,away,Prod.ext_iff,eq_comm]
        · simp [own,Prod.ext_iff]
      · intro e member
        rw [step,if_neg (fun here => later e member here.1)]
        exact absent e (by simp [member])
  rw [parseObservationAnnotations,general _ _ distinct (by simp)]
  simp

variable {existing : List Aggregate} {incoming : ComponentStatus}

theorem mem_observationsBySource {entry : String × Observation} :
    entry ∈ (observationsBySource existing incoming).pairs.insertionSort (fun first second => first.1 ≤ second.1) ↔
      (observationsBySource existing incoming).lookup entry.1 = some entry.2 :=
  (List.mem_insertionSort _).trans Map.mem_pairs_iff

theorem merged_lookup : (mergeAggregatedStatus existing incoming).observations.lookup source = some o ↔
    '.' ∉ source.toList ∧ ∃ kept, (observationsBySource existing incoming).lookup source = some kept ∧ o = reread kept := by
  have sorted := (List.perm_insertionSort (fun first second : String × Observation => first.1 ≤ second.1)
    (observationsBySource existing incoming).pairs).map Prod.fst
  refine (parse_lookup (sorted.nodup_iff.mpr ?_)).trans ?_
  · rw [Map.pairs,List.map_map]
    exact (observationsBySource existing incoming).nodupKeys
  · simp only [mem_observationsBySource]

end TgsRl.Jobs
