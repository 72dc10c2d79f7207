import TgsRl.TraceIngest

/-!
The latest observation of a stage. Each trace event is turned into one contract observation; the
aggregator sorts a stage's events by sequence, time and event ID and folds their facts over that
order, the last reporter of a fact winning. The generation is not part of the order, and sequences
start again with every worker process, so that a late event of an old generation may overrule a
newer one.
-/
namespace TgsRl.TraceSummaries
open State (Map)
open TraceIngest Loops

/-- The sequence, or the largest number for an event without one, with time and ID: `_causal_key`. -/
def causalKey (e : TraceEvent) : Nat ×ₗ Nat ×ₗ String :=
  toLex (if e.sequence = 0 then 2 ^ 64 - 1 else e.sequence,toLex (e.time,e.event_id))

/-- The scalar fields that are bound to one fact each, with the default value of their kind. -/
def scalarBindings : List (ScalarField × String × SemanticValue) :=
  [(.policyLag,"sample.policy_lag",.uint64 0),(.sampleStale,"sample.stale",.bool false),
    (.bufferLevel,"buffer.level.current",.uint64 0),(.effectiveSampleSize,"batch.effective_sample_size",.double 0),
    (.safePoint,"runtime.safe_point",.bool false),(.sampleCount,"sample.sample_count",.uint64 0),
    (.effectiveSampleSizeRatio,"batch.effective_sample_size_ratio",.double 0)]

/-- The field's name in a message. -/
def scalarName : ScalarField → String
  | .policyLag => "policy_lag"
  | .sampleStale => "sample_stale"
  | .bufferLevel => "buffer_level"
  | .effectiveSampleSize => "effective_sample_size"
  | .safePoint => "safe_point"
  | .sampleCount => "sample_count"
  | .effectiveSampleSizeRatio => "effective_sample_size_ratio"
  | .acceptedSamples => "accepted_samples"
  | .expectedSamples => "expected_samples"

def sameKind : SemanticValue → SemanticValue → Bool
  | .uint64 _, .uint64 _ => true
  | .bool _, .bool _ => true
  | .double _, .double _ => true
  | _, _ => false

/-- The value of a fact, where it has the kind of the sample. -/
def factOfKind (facts : Map String SemanticValue) (sample : SemanticValue) (path : String) : Option SemanticValue :=
  (facts.lookup path).filter (sameKind sample)

def explicitFacts (observations : List ObservedFact) : Except String (Map String ObservedFact) :=
  observations.foldlM (fun facts item =>
    if item.key ∈ facts then
      .error ("contract observation fact_observations contains duplicate key '" ++ item.key ++ "'")
    else .ok (facts.insert item.key item)) ∅

/-- The typed facts with the explicit ones. -/
def withExplicit (typed : List (String × SemanticValue)) (observations : List ObservedFact) :
    Except String (Map String SemanticValue) :=
  let legacy := typed.foldl (fun facts item => facts.insert item.1 item.2) (∅ : Map String SemanticValue)
  observations.foldlM (fun facts item =>
    match facts.lookup item.key with
    | none => .ok (facts.insert item.key item.value)
    | some value =>
      if value = item.value then .ok facts
      else .error ("contract observation fact_observations " ++ item.key ++ " conflicts with typed_facts")) legacy

/-- The scalar fields of an observation agree with its explicit facts. -/
def checkScalars (o : ContractObservation) (explicit : Map String ObservedFact) : Except String Unit :=
  let differs (field : ScalarField) (path : String) : Bool :=
    match explicit.lookup path, o.scalars.lookup field with
    | some observed, some value => observed.value ≠ value
    | _, _ => false
  match scalarBindings.find? (fun (field,path,_) => differs field path) with
  | some (field,path,_) =>
    .error ("contract observation fact_observations " ++ path ++ " conflicts with " ++ scalarName field)
  | none =>
    if differs .acceptedSamples "batch.accepted_samples" || differs .acceptedSamples "group.accepted_samples" then
      .error "contract observation fact_observations conflicts with accepted_samples"
    else if differs .expectedSamples "group.expected_samples" then
      .error "contract observation fact_observations group.expected_samples conflicts with expected_samples"
    else .ok ()

/-- The facts an event reports; buffer level and safe point default to the event's own fields. -/
def rebuiltFacts (e : TraceEvent) (facts : Map String SemanticValue) : List (String × SemanticValue) :=
  let optional (path : String) (sample : SemanticValue) : List (String × SemanticValue) :=
    ((factOfKind facts sample path).map (fun value => (path,value))).toList
  let accepted :=
    (factOfKind facts (.uint64 0) "batch.accepted_samples").or (factOfKind facts (.uint64 0) "group.accepted_samples")
  let acceptedKey := if "batch.accepted_samples" ∈ facts then "batch.accepted_samples" else "group.accepted_samples"
  let rebuilt :=
    optional "sample.policy_lag" (.uint64 0) ++ optional "sample.stale" (.bool false) ++
      [("buffer.level.current",(factOfKind facts (.uint64 0) "buffer.level.current").getD (.uint64 e.buffer_level))] ++
      optional "batch.effective_sample_size" (.double 0) ++ (accepted.map (fun value => (acceptedKey,value))).toList ++
      optional "group.expected_samples" (.uint64 0) ++
      [("runtime.safe_point",(factOfKind facts (.bool false) "runtime.safe_point").getD (.bool e.safe_point))] ++
      optional "sample.sample_count" (.uint64 0) ++ optional "batch.effective_sample_size_ratio" (.double 0)
  rebuilt.insertionSort (fun a b => a.1 ≤ b.1)

def sourceRevision (e : TraceEvent) : Except String Nat :=
  match e.source_revision.getD (some (e.sequence : Int)) with
  | none => .error ("source_revision must be an integer for event " ++ e.event_id)
  | some revision =>
    if revision < 0 then .error ("source_revision must be non-negative for event " ++ e.event_id)
    else .ok (max revision.toNat 1)

/-- The scalar fields that facts give; a fact of another kind gives the default. -/
def scalarsOf (facts : List (String × SemanticValue)) : List (ScalarField × SemanticValue) :=
  let read (field : ScalarField) (path : String) (default : SemanticValue) : List (ScalarField × SemanticValue) :=
    ((facts.lookup path).map (fun value => (field,if sameKind default value then value else default))).toList
  let accepted := read .acceptedSamples "batch.accepted_samples" (.uint64 0) ++ read .acceptedSamples "group.accepted_samples" (.uint64 0)
  scalarBindings.flatMap (fun (field,path,default) => read field path default) ++
    (if accepted.length = 1 then accepted else []) ++ read .expectedSamples "group.expected_samples" (.uint64 0)

section Validated
variable (validate : ContractObservation → Except String Unit) (casefold : String → String)

/-- `_latest_observation_from_event`; `validate` is `validate_contract_observation`. -/
def latestObservationFromEvent (e : TraceEvent) : Except String ContractObservation := do
  let o := e.contract_observation.getD {}
  let explicit ← explicitFacts o.fact_observations
  let facts ← withExplicit o.typed_facts o.fact_observations
  checkScalars o explicit
  let source := if o.source = "" then "trace-summary" else o.source
  let rebuilt := rebuiltFacts e facts
  let observed ← rebuilt.mapM (fun (path,value) =>
    match explicit.lookup path with
    | some item => Except.ok item
    | none => (sourceRevision e).map (fun revision => ⟨path,value,o.observed_at.getD e.time,source,revision⟩))
  let latest := { o with
    source
    event_id := e.event_id
    phase_id := e.phase_id
    policy_version := e.policy_version
    observed_at := some e.time
    scalars := scalarsOf rebuilt
    typed_facts := rebuilt
    fact_observations := observed }
  validate latest
  return latest

/-- The facts of one observation written over those before it. -/
def writeFacts (facts : Map String ObservedFact) (o : ContractObservation) : Map String ObservedFact :=
  o.fact_observations.foldl (fun facts fact => facts.insert fact.key fact) facts

/-- The versions by kind and folded name, the last one of each: listed by them. -/
def mergedVersions (observations : List ContractObservation) : List ComponentVersion :=
  let key (version : ComponentVersion) : Nat ×ₗ String := toLex (version.kind,casefold version.name)
  let versions := (observations.flatMap ContractObservation.component_versions).foldl
    (fun versions version => versions.insert (key version) version) (∅ : Map (Nat ×ₗ String) ComponentVersion)
  versions.values.insertionSort (fun a b => key a ≤ key b)

def mergedObservationFromEvents (events : List TraceEvent) : Except String ContractObservation := do
  let ordered := events.insertionSort (fun a b => causalKey a ≤ causalKey b)
  let observations ← ordered.mapM (latestObservationFromEvent validate)
  match observations.getLast? with
  | none => .error "at least one trace event is required"
  | some latest =>
    let facts := observations.foldl writeFacts (∅ : Map String ObservedFact)
    let listed := facts.values.insertionSort (fun a b => a.key ≤ b.key)
    let typed := listed.map (fun fact => (fact.key,fact.value))
    let merged := { latest with
      fact_observations := listed
      typed_facts := typed
      scalars := scalarsOf typed
      component_versions := mergedVersions casefold observations }
    validate merged
    return merged

/-- The merged observations of normalized events, by stage. -/
def latestObservationsByStage (normalized : List TraceEvent) : Except String (List (String × ContractObservation)) :=
  let stages := (normalized.map TraceEvent.stage_id).dedup.insertionSort (· ≤ ·)
  stages.mapM (fun stage => do
    let merged ← mergedObservationFromEvents validate casefold (normalized.filter (fun e => e.stage_id = stage))
    return (stage,merged))

/-- `TraceAggregator.summarize`, its `latest_observations_by_stage`. -/
def summarize (events : List TraceEvent) : Except String (List (String × ContractObservation)) := do
  let normalized ← normalize events
  latestObservationsByStage validate casefold normalized

def factOf (key : String) (o : ContractObservation) : Option ObservedFact :=
  o.fact_observations.reverse.find? (fun fact => fact.key = key)

def reported (e : TraceEvent) (key : String) : Option ObservedFact :=
  ((latestObservationFromEvent validate e).toOption).bind (factOf key)

/-- The event that reports a fact of a stage and comes last in the causal order of those that do. -/
structure LastReporter (events : List TraceEvent) (stage key : String) (e : TraceEvent) : Prop where
  member : e ∈ events
  stage_eq : e.stage_id = stage
  reports : (reported validate e key).isSome
  last : ∀ other ∈ events, other.stage_id = stage → (reported validate other key).isSome → causalKey other ≤ causalKey e

structure LastEvent (events : List TraceEvent) (stage : String) (e : TraceEvent) : Prop where
  member : e ∈ events
  stage_eq : e.stage_id = stage
  last : ∀ other ∈ events, other.stage_id = stage → causalKey other ≤ causalKey e

/-- A value of a fact is reported by an event of the newest generation that reports the fact. -/
def NewestReports (events : List TraceEvent) (stage key : String) (value : SemanticValue) : Prop :=
  ∃ newest ∈ events, newest.stage_id = stage ∧ (reported validate newest key).map ObservedFact.value = some value ∧
    ∀ other ∈ events, other.stage_id = stage → (reported validate other key).isSome → other.generation ≤ newest.generation

/-- A phase and policy version are those of an event of the newest generation. -/
def NewestPhase (events : List TraceEvent) (stage phase_id policy_version : String) : Prop :=
  ∃ newest ∈ events, newest.stage_id = stage ∧ newest.phase_id = phase_id ∧ newest.policy_version = policy_version ∧
    ∀ other ∈ events, other.stage_id = stage → other.generation ≤ newest.generation

/-- The observations of a summary come from the newest generations. -/
def NewestWins (events : List TraceEvent) (summary : List (String × ContractObservation)) : Prop :=
  ∀ stage o, (stage,o) ∈ summary →
    (∀ fact ∈ o.fact_observations, NewestReports validate events stage fact.key fact.value) ∧
    NewestPhase events stage o.phase_id o.policy_version

/-- The causally last event of each stage and fact is of the newest generation, or agrees with one that is. -/
def NewestLast (events : List TraceEvent) : Prop :=
  (∀ stage key e fact, LastReporter validate events stage key e → reported validate e key = some fact →
    NewestReports validate events stage key fact.value) ∧
  ∀ stage e, LastEvent events stage e → NewestPhase events stage e.phase_id e.policy_version

variable {validate casefold} {e : TraceEvent} {o : ContractObservation} {fact : ObservedFact}

theorem newestLast_of_ordered {events : List TraceEvent}
    (ordered : ∀ a ∈ events, ∀ b ∈ events, causalKey a ≤ causalKey b → a.generation ≤ b.generation) :
    NewestLast validate events := by
  constructor
  · intro stage key e fact reporter told
    refine ⟨e,reporter.member,reporter.stage_eq,by simp [told],fun other member there reports => ?_⟩
    exact ordered other member e reporter.member (reporter.last other member there reports)
  · intro stage e final
    exact ⟨e,final.member,final.stage_eq,rfl,rfl,fun other member there =>
      ordered other member e final.member (final.last other member there)⟩

theorem latest_fields (made : latestObservationFromEvent validate e = .ok o) :
    o.phase_id = e.phase_id ∧ o.policy_version = e.policy_version := by
  unfold latestObservationFromEvent at made
  obtain ⟨_,-,made⟩ := bind_eq_ok made
  obtain ⟨_,-,made⟩ := bind_eq_ok made
  obtain ⟨_,-,made⟩ := bind_eq_ok made
  obtain ⟨_,-,made⟩ := bind_eq_ok made
  obtain ⟨_,-,made⟩ := bind_eq_ok made
  cases made
  exact ⟨rfl,rfl⟩

theorem factOf_key {key : String} (found : factOf key o = some fact) : fact.key = key := by
  simpa using List.find?_some found

theorem lookup_writeFacts (facts : Map String ObservedFact) (o : ContractObservation) (key : String) :
    (writeFacts facts o).lookup key = (factOf key o).or (facts.lookup key) := by
  unfold writeFacts factOf
  generalize o.fact_observations = written
  induction written generalizing facts with
  | nil => simp
  | cons fact rest ih =>
    rw [List.foldl_cons,ih,List.reverse_cons,List.find?_append,Option.or_assoc]
    by_cases same : fact.key = key
    · subst same
      simp
    · simp [same,AList.lookup_insert_ne (Ne.symm same)]

theorem lookup_foldl_writeFacts (observations : List ContractObservation) (facts : Map String ObservedFact) (key : String) :
    (observations.foldl writeFacts facts).lookup key =
      (observations.reverse.findSome? (factOf key)).or (facts.lookup key) := by
  induction observations generalizing facts with
  | nil => simp
  | cons o rest ih =>
    rw [List.foldl_cons,ih,lookup_writeFacts,List.reverse_cons,List.findSome?_append,Option.or_assoc]
    cases said : factOf key o <;> simp [said]

variable {events : List TraceEvent}

/-- What the merge of a stage's events is made of. -/
theorem merged_parts {merged : ContractObservation} (done : mergedObservationFromEvents validate casefold events = .ok merged) :
    ∃ observations latest,
      List.Forall₂ (fun e o => latestObservationFromEvent validate e = .ok o)
        (events.insertionSort (fun a b => causalKey a ≤ causalKey b)) observations ∧
      observations.getLast? = some latest ∧ merged.phase_id = latest.phase_id ∧
      merged.policy_version = latest.policy_version ∧
      ∀ fact, fact ∈ merged.fact_observations ↔ observations.reverse.findSome? (factOf fact.key) = some fact := by
  unfold mergedObservationFromEvents at done
  obtain ⟨observations,made,done⟩ := bind_eq_ok done
  cases ending : observations.getLast? with
  | none => simp only [ending] at done; cases done
  | some latest =>
    simp only [ending] at done
    obtain ⟨_,-,done⟩ := bind_eq_ok done
    cases done
    refine ⟨observations,latest,mapM_eq_ok made,ending,rfl,rfl,fun fact => ?_⟩
    have looked := lookup_foldl_writeFacts observations ∅
    simp only [List.mem_insertionSort,AList.lookup_empty,Option.or_none] at looked ⊢
    constructor
    · intro member
      obtain ⟨⟨key,held⟩,entry,rfl⟩ := List.mem_map.mp member
      have found := (looked key).symm.trans (State.Map.mem_entries_iff.mp entry)
      obtain ⟨o,-,said⟩ := List.exists_of_findSome?_eq_some found
      rw [factOf_key said]
      exact found
    · intro found
      exact List.mem_map.mpr ⟨⟨fact.key,fact⟩,State.Map.mem_entries_iff.mpr ((looked fact.key).trans found),rfl⟩

theorem findSome_reported {ordered : List TraceEvent} {observations : List ContractObservation} (key : String)
    (made : List.Forall₂ (fun e o => latestObservationFromEvent validate e = .ok o) ordered observations) :
    observations.reverse.findSome? (factOf key) = ordered.reverse.findSome? (fun e => reported validate e key) := by
  induction made with
  | nil => rfl
  | @cons e o _ _ first _ ih =>
    have said : reported validate e key = factOf key o := by simp [reported,first,Except.toOption]
    simp [List.findSome?_append,ih,said]

/-- The event a search from the end of the causal order finds is the last one of those it looks for. -/
theorem last_of_findSome {report : TraceEvent → Option ObservedFact}
    (found : (events.insertionSort (fun a b => causalKey a ≤ causalKey b)).reverse.findSome? report = some fact) :
    ∃ e ∈ events, report e = some fact ∧ ∀ other ∈ events, (report other).isSome → causalKey other ≤ causalKey e := by
  obtain ⟨after,e,before,split,here,none_after⟩ := List.findSome?_eq_some_iff.mp found
  have members : ∀ a, a ∈ events ↔ a ∈ after ++ e :: before := by
    intro a
    rw [← split,List.mem_reverse,List.mem_insertionSort]
  have sorted := List.pairwise_reverse.mpr (List.pairwise_insertionSort (fun a b => causalKey a ≤ causalKey b) events)
  rw [split] at sorted
  refine ⟨e,(members e).mpr (by simp),here,fun other member told => ?_⟩
  rcases List.mem_append.mp ((members other).mp member) with later | same | earlier
  · simp [none_after other later] at told
  · exact le_refl _
  · exact (List.pairwise_cons.mp (List.pairwise_append.mp sorted).2.1).1 other ‹_›

theorem last_of_getLast (ending : (events.insertionSort (fun a b => causalKey a ≤ causalKey b)).getLast? = some e) :
    e ∈ events ∧ ∀ other ∈ events, causalKey other ≤ causalKey e := by
  obtain ⟨before,split⟩ := List.getLast?_eq_some_iff.mp ending
  have members : ∀ a, a ∈ events ↔ a ∈ before ++ [e] := by
    intro a
    rw [← split,List.mem_insertionSort]
  have sorted := List.pairwise_insertionSort (fun a b => causalKey a ≤ causalKey b) events
  rw [split] at sorted
  refine ⟨(members e).mpr (by simp),fun other member => ?_⟩
  rcases List.mem_append.mp ((members other).mp member) with earlier | same
  · exact (List.pairwise_append.mp sorted).2.2 other earlier e (by simp)
  · rw [List.mem_singleton.mp same]

/-- A summary has one observation for each stage, the merge of the stage's events. -/
theorem summary_stage {summary : List (String × ContractObservation)} (done : summarize validate casefold events = .ok summary) :
    ∃ normalized, Kept validated id events normalized ∧
      (∀ stage o, (stage,o) ∈ summary →
        mergedObservationFromEvents validate casefold (normalized.filter (fun e => e.stage_id = stage)) = .ok o) ∧
      ∀ e ∈ events, ∃ o, (e.stage_id,o) ∈ summary := by
  unfold summarize latestObservationsByStage at done
  obtain ⟨normalized,kept,done⟩ := bind_eq_ok done
  have so := normalize_ok kept
  have each := mapM_eq_ok done
  refine ⟨normalized,so,?_,?_⟩
  · intro stage o held
    obtain ⟨named,-,made⟩ := exists_of_forall₂ each held
    obtain ⟨merged,merge,same⟩ := bind_eq_ok made
    cases same
    exact merge
  · intro e member
    have listed : e.stage_id ∈ (normalized.map TraceEvent.stage_id).dedup.insertionSort (· ≤ ·) := by
      rw [List.mem_insertionSort,List.mem_dedup]
      exact List.mem_map_of_mem ((so.same e).mpr member)
    obtain ⟨⟨stage,o⟩,held,made⟩ := exists_of_forall₂ each.flip listed
    obtain ⟨merged,-,same⟩ := bind_eq_ok made
    cases same
    exact ⟨_,held⟩

section Summary
variable {summary : List (String × ContractObservation)} {stage : String} {a b : TraceEvent}

theorem causalKey_injective (done : summarize validate casefold events = .ok summary) (first : a ∈ events) (second : b ∈ events)
    (same : causalKey a = causalKey b) : a = b := by
  obtain ⟨normalized,so,-,-⟩ := summary_stage done
  apply so.one ((so.same a).mpr first) ((so.same b).mpr second)
  have inner := congrArg (fun key => (ofLex (ofLex key).2).2) same
  exact inner

theorem LastReporter.unique (done : summarize validate casefold events = .ok summary) {key : String}
    (first : LastReporter validate events stage key a) (second : LastReporter validate events stage key b) : a = b :=
  causalKey_injective done first.member second.member
    (le_antisymm (second.last a first.member first.stage_eq first.reports) (first.last b second.member second.stage_eq second.reports))

theorem LastEvent.unique (done : summarize validate casefold events = .ok summary) (first : LastEvent events stage a)
    (second : LastEvent events stage b) : a = b :=
  causalKey_injective done first.member second.member
    (le_antisymm (second.last a first.member first.stage_eq) (first.last b second.member second.stage_eq))

theorem summary_fact (done : summarize validate casefold events = .ok summary) (held : (stage,o) ∈ summary) (fact : ObservedFact) :
    fact ∈ o.fact_observations ↔
      ∃ e, LastReporter validate events stage fact.key e ∧ reported validate e fact.key = some fact := by
  obtain ⟨normalized,so,merges,-⟩ := summary_stage done
  obtain ⟨observations,latest,made,-,-,-,facts⟩ := merged_parts (merges stage o held)
  have of_stage : ∀ e, e ∈ normalized.filter (fun e => e.stage_id = stage) ↔ e ∈ events ∧ e.stage_id = stage := by
    intro e
    simp [so.same]
  have found_last : ∀ said, (observations.reverse.findSome? (factOf fact.key) = some said) →
      ∃ e, LastReporter validate events stage fact.key e ∧ reported validate e fact.key = some said := by
    intro said found
    rw [findSome_reported fact.key made] at found
    obtain ⟨e,member,told,last⟩ := last_of_findSome found
    obtain ⟨inside,staged⟩ := (of_stage e).mp member
    refine ⟨e,⟨inside,staged,by simp [told],?_⟩,told⟩
    intro other among there told_other
    exact last other ((of_stage other).mpr ⟨among,there⟩) told_other
  rw [facts fact]
  constructor
  · exact found_last fact
  · rintro ⟨e,reporter,told⟩
    -- something is found, since `e` reports the fact, and what is found is what `e` says
    cases found : observations.reverse.findSome? (factOf fact.key) with
    | none =>
      rw [findSome_reported fact.key made,List.findSome?_eq_none_iff] at found
      have silent := found e (by
        rw [List.mem_reverse,List.mem_insertionSort]
        exact (of_stage e).mpr ⟨reporter.member,reporter.stage_eq⟩)
      rw [told] at silent
      cases silent
    | some said =>
      obtain ⟨e',reporter',told'⟩ := found_last said found
      rw [reporter'.unique done reporter,told] at told'
      rw [Option.some.inj told']

theorem summary_phase (done : summarize validate casefold events = .ok summary) (held : (stage,o) ∈ summary) :
    ∃ e, LastEvent events stage e ∧ o.phase_id = e.phase_id ∧ o.policy_version = e.policy_version := by
  obtain ⟨normalized,so,merges,-⟩ := summary_stage done
  obtain ⟨observations,latest,made,ending,phase,policy,-⟩ := merged_parts (merges stage o held)
  have backwards := List.forall₂_reverse_iff.mpr made
  rw [List.getLast?_eq_head?_reverse] at ending
  obtain ⟨later,split⟩ := List.head?_eq_some_iff.mp ending
  rw [split] at backwards
  cases ordered : ((normalized.filter (fun e => e.stage_id = stage)).insertionSort (fun a b => causalKey a ≤ causalKey b)).reverse with
  | nil => rw [ordered] at backwards; cases backwards
  | cons e rest =>
    rw [ordered] at backwards
    have first := (List.forall₂_cons.mp backwards).1
    have final := last_of_getLast ((List.getLast?_eq_head?_reverse).trans (congrArg List.head? ordered))
    obtain ⟨inside,staged⟩ : e ∈ events ∧ e.stage_id = stage := by simpa [so.same] using final.1
    obtain ⟨samePhase,samePolicy⟩ := latest_fields first
    refine ⟨e,⟨inside,staged,?_⟩,phase.trans samePhase,policy.trans samePolicy⟩
    intro other among there
    exact final.2 other (by simp [so.same,among,there])

end Summary

/-- A summary takes its facts, phases and policy versions from the newest generations exactly where the causally last events
are of the newest generation or agree with it. -/
theorem newest_generation_iff (validate : ContractObservation → Except String Unit) (casefold : String → String)
    (run_id : String) (batches : List (List TraceEvent)) (summary : List (String × ContractObservation))
    (done : summarize validate casefold (accepted run_id batches) = .ok summary) :
    NewestWins validate (accepted run_id batches) summary ↔ NewestLast validate (accepted run_id batches) := by
  generalize accepted run_id batches = events at done
  obtain ⟨normalized,so,merges,every⟩ := summary_stage done
  constructor
  · intro wins
    constructor
    · intro stage key e fact reporter told
      obtain ⟨o,held⟩ := every e reporter.member
      rw [reporter.stage_eq] at held
      have named : fact.key = key := by
        cases made : latestObservationFromEvent validate e with
        | error message => simp [reported,made,Except.toOption] at told
        | ok latest => exact factOf_key (by simpa [reported,made,Except.toOption] using told)
      subst named
      exact (wins stage o held).1 fact ((summary_fact done held fact).mpr ⟨e,reporter,told⟩)
    · intro stage e lastEvent
      obtain ⟨o,held⟩ := every e lastEvent.member
      rw [lastEvent.stage_eq] at held
      obtain ⟨e',lastEvent',phase,policy⟩ := summary_phase done held
      rw [lastEvent.unique done lastEvent',← phase,← policy]
      exact (wins stage o held).2
  · intro last stage o held
    constructor
    · intro fact member
      obtain ⟨e,reporter,told⟩ := (summary_fact done held fact).mp member
      exact last.1 stage fact.key e fact reporter told
    · obtain ⟨e,lastEvent,phase,policy⟩ := summary_phase done held
      rw [phase,policy]
      exact last.2 stage e lastEvent

end Validated

/-- An event of a worker generation, with its sequence, time and policy version. -/
def demoEvent (event_id : String) (generation sequence time buffer : Nat) (policy : String) : TraceEvent where
  event_id := event_id
  job_id := "job"
  execution_id := "run"
  phase_id := "train"
  stage_id := "train"
  sandbox_id := "sandbox"
  algorithm := "grpo"
  policy_version := policy
  decision_id := "decision"
  generation := generation
  sequence := sequence
  occurred_at := some time
  event_type := 1
  rollout_mode := 1
  buffer_level := buffer

/-- The first worker sent its ninth event, then a worker of generation 2 sent its first one: the summary reports the buffer
level and the policy version of generation 1. -/
theorem old_generation_overrules :
    let old := demoEvent "old" 1 9 100 64 "policy-1"
    let new := demoEvent "new" 2 1 200 3 "policy-2"
    let events := accepted "run" [[old],[new]]
    events = [old,new] ∧
    (summarize (fun _ => .ok ()) id events).toOption.map (fun summary =>
        summary.map (fun (stage,o) => (stage,o.policy_version,o.typed_facts.lookup "buffer.level.current"))) =
      some [("train","policy-1",some (.uint64 64))] ∧
    ∃ summary, summarize (fun _ => .ok ()) id events = .ok summary ∧ ¬ NewestWins (fun _ => .ok ()) events summary := by
  intro old new events
  have both : events = [old,new] := by decide +kernel
  have told : (summarize (fun _ => .ok ()) id events).toOption.map (fun summary =>
      summary.map (fun (stage,o) => (stage,o.policy_version,o.typed_facts.lookup "buffer.level.current"))) =
      some [("train","policy-1",some (.uint64 64))] := by decide +kernel
  refine ⟨both,told,?_⟩
  cases made : summarize (fun _ => .ok ()) id events with
  | error message => rw [made] at told; cases told
  | ok summary =>
    refine ⟨summary,rfl,fun wins => ?_⟩
    rw [made] at told
    have listed := Option.some.inj told
    obtain ⟨⟨stage,o⟩,held,shown⟩ := List.mem_map.mp (listed ▸ List.mem_cons_self)
    obtain ⟨rfl,policy,-⟩ : stage = "train" ∧ o.policy_version = "policy-1" ∧ _ := by simpa using shown
    obtain ⟨newest,member,-,-,its,bound⟩ := (wins _ o held).2
    rw [both] at member
    rcases List.mem_cons.mp member with rfl | member
    · have : (2 : Nat) ≤ 1 := bound new (by rw [both]; simp) rfl
      omega
    · rw [List.mem_singleton.mp member,policy] at its
      exact absurd its (by decide)

/-- The second worker goes on with the sequence numbers of the first: its event is summarized. -/
theorem two_generations_summarized :
    let events := accepted "run" [[demoEvent "old" 1 1 100 64 "policy-1"],[demoEvent "new" 2 2 200 3 "policy-2"]]
    events.map TraceEvent.generation = [1,2] ∧
    ∃ summary, summarize (fun _ => .ok ()) id events = .ok summary ∧ NewestWins (fun _ => .ok ()) events summary := by
  intro events
  have both : events = [demoEvent "old" 1 1 100 64 "policy-1",demoEvent "new" 2 2 200 3 "policy-2"] := by decide +kernel
  have ordered : ∀ a ∈ events, ∀ b ∈ events, causalKey a ≤ causalKey b → a.generation ≤ b.generation := by
    rw [both]
    decide +kernel
  have succeeds : (summarize (fun _ => .ok ()) id events).toOption.isSome := by decide +kernel
  refine ⟨by rw [both]; rfl,?_⟩
  cases made : summarize (fun _ => .ok ()) id events with
  | error message => rw [made] at succeeds; cases succeeds
  | ok summary => exact ⟨summary,rfl,(newest_generation_iff _ _ _ _ summary made).mpr (newestLast_of_ordered ordered)⟩

end TgsRl.TraceSummaries
