import Mathlib.Data.Prod.Lex
import Mathlib.Data.String.Basic
import TgsRl.Loops
import TgsRl.Validation

/-!
Trace events and their ingestion. The normalizer labels and validates events, drops repeated ones
and refuses two payloads under one event ID; the ingestor keeps the events of a run and refuses a
batch in which a sequence number of one incarnation has two owners. The events the ingestor is given
here have the label of their phase already. Times are nanoseconds since the year one, the beginning
of the range that is accepted.
-/
namespace TgsRl.TraceIngest
open Loops

/-- A value of a semantic field; doubles by their bits, the kinds no function here reads by their wire form. -/
inductive SemanticValue
  | uint64 (value : Nat)
  | bool (value : Bool)
  | double (bits : Nat)
  | other (wire : String)
  deriving DecidableEq, Repr

structure ObservedFact where
  key : String
  value : SemanticValue
  observed_at : Nat
  source : String
  revision : Nat
  deriving DecidableEq, Repr

/-- The optional scalar fields of a contract observation. -/
inductive ScalarField
  | policyLag
  | sampleStale
  | bufferLevel
  | effectiveSampleSize
  | safePoint
  | sampleCount
  | effectiveSampleSizeRatio
  | acceptedSamples
  | expectedSamples
  deriving DecidableEq, Repr

structure ComponentVersion where
  kind : Nat
  name : String
  wire : String
  deriving DecidableEq, Repr

structure ContractObservation where
  source : String := ""
  event_id : String := ""
  phase_id : String := ""
  policy_version : String := ""
  observed_at : Option Nat := none
  oldest_sample_at : Option Nat := none
  backpressure_started_at : Option Nat := none
  scalars : List (ScalarField × SemanticValue) := []
  typed_facts : List (String × SemanticValue) := []
  fact_observations : List ObservedFact := []
  component_versions : List ComponentVersion := []
  deriving DecidableEq, Repr

/-- A trace event. The `source_revision` attribute is `some none` where it is no integer. -/
structure TraceEvent where
  event_id : String
  run_id : String := ""
  trace_id : String := ""
  job_id : String
  execution_id : String
  phase_id : String
  stage_id : String
  sandbox_id : String := ""
  algorithm : String
  policy_version : String
  decision_id : String
  generation : Nat := 0
  sequence : Nat := 0
  occurred_at : Option Nat
  source_revision : Option (Option Int) := none
  event_type : Nat
  rollout_mode : Nat
  data_kind : Nat := 0
  buffer_level : Nat := 0
  safe_point : Bool := false
  contract_observation : Option ContractObservation := none
  payload : String := ""
  deriving DecidableEq, Repr

def TraceEvent.requiredFields (e : TraceEvent) : List (String × String) :=
  [("event_id",e.event_id),("job_id",e.job_id),("execution_id",e.execution_id),("phase_id",e.phase_id),
    ("stage_id",e.stage_id),("algorithm",e.algorithm),("policy_version",e.policy_version),("decision_id",e.decision_id)]

def TraceEvent.time (e : TraceEvent) : Nat := e.occurred_at.getD 0

/-- The end of the year 9999. -/
def endOfTime : Nat := 3652059 * 86400 * 10 ^ 9

def validate (e : TraceEvent) : Except String Unit :=
  let missing := (e.requiredFields.filter (fun item => item.2 = "")).map Prod.fst
  if missing ≠ [] then .error ("missing required trace fields: " ++ ", ".intercalate missing)
  else if e.occurred_at = none then .error "missing required trace field: occurred_at"
  else if endOfTime ≤ e.time then .error "occurred_at is outside the valid timestamp range"
  else if e.event_type = 0 then .error "event_type must not be UNKNOWN"
  else if e.rollout_mode = 0 then .error "rollout_mode must not be UNKNOWN"
  else .ok ()

def TraceEvent.sortKey (e : TraceEvent) : Nat ×ₗ Int ×ₗ String :=
  toLex (e.time,toLex ((e.source_revision.getD (some (e.sequence : Int))).getD 0,e.event_id))

section Normalizer
variable {E : Type} (label : E → Except String E) (event : E → TraceEvent)

def sorted (events : List E) : List E := events.insertionSort (fun a b => (event a).sortKey ≤ (event b).sortKey)

/-- What the loop has kept of the events it has read. -/
structure Kept (seen kept : List E) : Prop where
  all : ∀ source ∈ seen, ∃ e ∈ kept, label source = .ok e
  only : ∀ e ∈ kept, ∃ source ∈ seen, label source = .ok e
  distinct : (kept.map (fun e => (event e).event_id)).Nodup

variable {label event} {events kept out : List E}

theorem Kept.one (so : Kept label event events kept) {a b : E} (first : a ∈ kept) (second : b ∈ kept)
    (ids : (event a).event_id = (event b).event_id) : a = b :=
  List.inj_on_of_nodup_map so.distinct first second ids

theorem mem_sorted {e : E} : e ∈ sorted event kept ↔ e ∈ kept := List.mem_insertionSort _

theorem Kept.sorted (so : Kept label event events kept) : Kept label event events (sorted event kept) where
  all source member := by
    obtain ⟨e,there,done⟩ := so.all source member
    exact ⟨e,mem_sorted.mpr there,done⟩
  only e member := so.only e (mem_sorted.mp member)
  distinct := ((List.perm_insertionSort _ kept).map _).nodup_iff.mpr so.distinct

variable [DecidableEq E]
variable (label event) in
/-- One turn of the loop of `normalize` over events with a label. -/
def keepEvent (kept : List E) (source : E) : Except String (List E) := do
  let e ← label source
  match kept.find? (fun earlier => decide ((event earlier).event_id = (event e).event_id)) with
  | none => .ok (kept ++ [e])
  | some earlier => if earlier = e then .ok kept else .error ("conflicting duplicate event_id: " ++ (event e).event_id)

variable (label event) in
/-- `TraceNormalizer.normalize`; `label` is `normalize_event`. -/
def normalizeBy (events : List E) : Except String (List E) := do
  let kept ← events.foldlM (keepEvent label event) []
  match kept.find? (fun e => decide ((event e).source_revision = some none)) with
  | some e => .error ("source_revision must be an integer for event " ++ (event e).event_id)
  | none => .ok (sorted event kept)

theorem keepEvent_keeps {seen next : List E} {source : E} (so : Kept label event seen kept)
    (taken : keepEvent label event kept source = .ok next) : Kept label event (seen ++ [source]) next := by
  obtain ⟨e,labelled,taken⟩ := bind_eq_ok taken
  have still (s : E) (member : s ∈ seen ++ [source]) (into : List E) (more : ∀ e ∈ kept, e ∈ into) (here : e ∈ into) :
      ∃ e ∈ into, label s = .ok e := by
    rcases List.mem_append.mp member with old | last
    · obtain ⟨e,there,done⟩ := so.all s old
      exact ⟨e,more e there,done⟩
    · exact ⟨e,here,List.mem_singleton.mp last ▸ labelled⟩
  cases found : kept.find? (fun earlier => decide ((event earlier).event_id = (event e).event_id)) with
  | none =>
    rw [found] at taken
    cases taken
    have new : ∀ earlier ∈ kept, (event earlier).event_id ≠ (event e).event_id := by simpa using found
    refine ⟨fun s member => still s member _ (fun _ => List.mem_append_left _) (by simp),fun e' member => ?_,?_⟩
    · rcases List.mem_append.mp member with old | last
      · obtain ⟨s,there,done⟩ := so.only e' old
        exact ⟨s,List.mem_append_left _ there,done⟩
      · exact ⟨source,by simp,List.mem_singleton.mp last ▸ labelled⟩
    · rw [List.map_append,List.nodup_append]
      refine ⟨so.distinct,List.nodup_singleton _,fun id there id' last same => ?_⟩
      obtain ⟨earlier,member,rfl⟩ := List.mem_map.mp there
      rw [List.map_singleton,List.mem_singleton] at last
      exact new earlier member (same.trans last)
  | some earlier =>
    rw [found] at taken
    by_cases same : earlier = e
    · simp only [same,if_true,Except.ok.injEq] at taken
      subst taken
      have here : e ∈ kept := same ▸ List.mem_of_find?_eq_some found
      refine ⟨fun s member => still s member _ (fun _ => id) here,fun e' member => ?_,so.distinct⟩
      obtain ⟨s,there,done⟩ := so.only e' member
      exact ⟨s,List.mem_append_left _ there,done⟩
    · simp only [same,if_false] at taken
      cases taken

theorem kept_of_loop (loop : events.foldlM (keepEvent label event) [] = .ok kept) : Kept label event events kept :=
  foldlM_prefix (P := Kept label event) ⟨by simp,by simp,by simp⟩ (fun _ _ _ _ _ so taken => keepEvent_keeps so taken) loop

theorem normalizeBy_kept (done : normalizeBy label event events = .ok out) :
    Kept label event events out ∧ (∀ e ∈ out, (event e).source_revision ≠ some none) ∧
      out.Pairwise (fun a b => (event a).sortKey ≤ (event b).sortKey) := by
  obtain ⟨kept,loop,done⟩ := bind_eq_ok done
  cases found : kept.find? (fun e => decide ((event e).source_revision = some none)) with
  | some e =>
    rw [found] at done
    cases done
  | none =>
    rw [found] at done
    cases done
    have fine : ∀ e ∈ kept, (event e).source_revision ≠ some none := by simpa using found
    exact ⟨(kept_of_loop loop).sorted,fun e member => fine e (mem_sorted.mp member),List.pairwise_insertionSort _ _⟩

end Normalizer

/-- `TraceNormalizer.normalize_event` of an event with a label. -/
def validated (e : TraceEvent) : Except String TraceEvent := (validate e).map (fun _ => e)

def normalize : List TraceEvent → Except String (List TraceEvent) := normalizeBy validated id

theorem validated_same {source e : TraceEvent} (done : validated source = .ok e) : e = source := by
  unfold validated at done
  cases checked : validate source <;> rw [checked] at done <;> cases done
  rfl

theorem Kept.same {seen kept : List TraceEvent} (so : Kept validated id seen kept) (e : TraceEvent) : e ∈ kept ↔ e ∈ seen := by
  constructor
  · intro member
    obtain ⟨source,there,done⟩ := so.only e member
    exact validated_same done ▸ there
  · intro member
    obtain ⟨e',there,done⟩ := so.all e member
    exact validated_same done ▸ there

theorem normalize_ok {events out : List TraceEvent} (done : normalize events = .ok out) : Kept validated id events out :=
  (normalizeBy_kept done).1

/-- The incarnation and number under which an event owns its sequence. -/
def TraceEvent.owner (e : TraceEvent) : String × String × String × Nat × Nat :=
  (e.execution_id,e.stage_id,e.sandbox_id,e.generation,e.sequence)

def validateSequenceOwnership (seen : List TraceEvent) : List TraceEvent → Except String Unit
  | [] => .ok ()
  | e :: rest =>
    if e.sequence ≠ 0 ∧ seen.any (fun earlier => earlier.owner = e.owner && earlier.event_id ≠ e.event_id) then
      .error ("sequence " ++ toString e.sequence ++ " is owned by conflicting events")
    else validateSequenceOwnership (seen ++ [e]) rest

/-- The values of a field are the same wherever it is set. -/
def atMostOne {α : Type} [DecidableEq α] (values : List α) : Bool := values.all (fun a => values.all (fun b => a = b))

def validateStream (run_id : String) (events : List TraceEvent) : Except String Unit :=
  if events.any (fun e => e.run_id ≠ "" && e.run_id ≠ run_id) then .error "event run_id does not match ingestion run"
  else if ¬ atMostOne (events.map TraceEvent.execution_id) then
    .error "one ingestion batch may contain only one execution_id"
  else if ¬ atMostOne ((events.map TraceEvent.trace_id).filter (· ≠ "")) then
    .error "one ingestion batch may contain only one trace_id"
  else if ¬ atMostOne ((events.map TraceEvent.data_kind).filter (· ≠ 0)) then
    .error "one ingestion batch may contain only one data_kind"
  else .ok ()

/-- `TraceIngestor.ingest`: the events of the run after the call. -/
def ingest (run_id : String) (current events : List TraceEvent) : Except String (List TraceEvent) :=
  if Validation.trimSpace run_id = "" ∨ run_id ≠ Validation.trimSpace run_id then
    .error "run_id must be nonblank and canonical"
  else match normalize events with
    | .error message => .error message
    | .ok normalized =>
      match validateStream run_id normalized with
      | .error message => .error message
      | .ok _ =>
        match normalize (current ++ normalized) with
        | .error message => .error message
        | .ok candidate =>
          match validateSequenceOwnership [] candidate with
          | .error message => .error message
          | .ok _ => .ok candidate

theorem ingest_ok {run_id : String} {current events out : List TraceEvent} (done : ingest run_id current events = .ok out) :
    (∀ e, e ∈ out ↔ e ∈ current ∨ e ∈ events) ∧ (out.map TraceEvent.event_id).Nodup := by
  unfold ingest at done
  split at done
  · cases done
  split at done
  · cases done
  next normalized first =>
  split at done
  · cases done
  split at done
  · cases done
  next candidate second =>
  split at done
  · cases done
  cases done
  have inner := normalize_ok first
  have outer := normalize_ok second
  refine ⟨fun e => ?_,outer.distinct⟩
  rw [outer.same,List.mem_append,inner.same]

/-- The events a run has accepted: a refused batch leaves them as they were. -/
def accepted (run_id : String) (batches : List (List TraceEvent)) : List TraceEvent :=
  batches.foldl (fun current events => (ingest run_id current events).toOption.getD current) []

theorem accepted_distinct (run_id : String) (batches : List (List TraceEvent)) :
    ((accepted run_id batches).map TraceEvent.event_id).Nodup := by
  unfold accepted
  induction batches using List.reverseRecOn with
  | nil => exact List.nodup_nil
  | append_singleton before events ih =>
    rw [List.foldl_concat]
    cases done : ingest run_id _ events with
    | error message => exact ih
    | ok out => exact (ingest_ok done).2

end TgsRl.TraceIngest
