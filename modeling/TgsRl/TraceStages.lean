import TgsRl.TraceSummaries

/-!
The summary of trace events with its micro-stages. The events of a group, which is a stage of one
sandbox generation, are cut into attempts along their causal order: a start opens an attempt and a
completion closes it. What comes from outside is in `Outside`. Unknown fields of messages are part
of `payload`.
-/
namespace TgsRl.TraceStages
open Loops
open TraceIngest (TraceEvent ContractObservation ScalarField Kept keepEvent keepEvent_keeps kept_of_loop sorted mem_sorted
  normalizeBy normalizeBy_kept validate)
open TraceSummaries (causalKey latestObservationsByStage)

/-- A trace event with the label of its phase. -/
structure Event extends TraceEvent where
  phase_kind : Nat := 0
  raw_phase_label : String := ""
  deriving DecidableEq, Repr

/-- Functions of Python, and `validate_contract_observation`. A duration is in microseconds. -/
structure Outside (F : Type) where
  strippedCasefold : String → String
  casefold : String → String
  sumOfSeconds : List Nat → F
  validateContractObservation : ContractObservation → Except String Unit

def phaseLabels : List (String × Nat) :=
  [("prefill",1),("decode",2),("tool_wait",3),("tool-wait",3),("kv_restore",4),("kv-restore",4),("reference",5),("reward",6),
    ("actor",7),("optimizer",8),("weight_sync",9),("weight-sync",9),("idle",10)]

def phaseStarted : Nat := 1

def phaseCompleted : Nat := 2

def policyPublished : Nat := 5

abbrev GroupKey := String ×ₗ String ×ₗ String ×ₗ String ×ₗ String ×ₗ Nat

def Event.group (e : Event) : GroupKey :=
  toLex (e.run_id,toLex (e.trace_id,toLex (e.execution_id,toLex (e.stage_id,toLex (e.sandbox_id,e.generation)))))

def causal (events : List Event) : List Event :=
  events.insertionSort (fun a b => causalKey a.toTraceEvent ≤ causalKey b.toTraceEvent)

section Summary
variable {F : Type} (env : Outside F)

def normalizeEvent (e : Event) : Except String Event := do
  validate e.toTraceEvent
  if e.phase_kind = 0 then
    let label := if e.raw_phase_label = "" then e.phase_id else e.raw_phase_label
    .ok { e with raw_phase_label := label, phase_kind := (phaseLabels.lookup (env.strippedCasefold label)).getD 0 }
  else .ok e

def normalize : List Event → Except String (List Event) := normalizeBy (normalizeEvent env) Event.toTraceEvent

structure MicroStage where
  group : GroupKey
  attempt : Nat
  phase_id : String
  phase_kind : Nat
  first_sequence : Nat
  last_sequence : Nat
  started_at : Option Nat
  completed_at : Option Nat
  duration : Option Nat
  event_count : Nat
  event_ids : List String
  decision_ids : List String
  policy_versions : List String
  max_buffer_level : Nat
  safe_point_count : Nat
  complete : Bool
  clock_skew : Bool

def MicroStage.key (stage : MicroStage) : GroupKey ×ₗ Nat := toLex (stage.group,stage.attempt)

def stableUnique (values : List String) : List String := (values.filter (fun value => decide (value ≠ ""))).eraseDups

def finalize (group : GroupKey) (attempt : Nat) (events : List Event) : MicroStage :=
  let started := events.find? (fun e => decide (e.event_type = phaseStarted))
  let completed := events.reverse.find? (fun e => decide (e.event_type = phaseCompleted))
  let started_at := started.map (fun e => e.time / 1000)
  let completed_at := completed.map (fun e => e.time / 1000)
  let clock_skew := match started_at, completed_at with
    | some start, some stop => decide (stop < start)
    | _, _ => false
  { group
    attempt
    phase_id := (events.head?.map (fun e => e.phase_id)).getD ""
    phase_kind := (events.head?.map Event.phase_kind).getD 0
    first_sequence := ((events.map (fun e => e.sequence)).min?).getD 0
    last_sequence := ((events.map (fun e => e.sequence)).max?).getD 0
    started_at
    completed_at
    duration := match started_at, completed_at with
      | some start, some stop => if clock_skew then none else some (stop - start)
      | _, _ => none
    event_count := events.length
    event_ids := events.map (fun e => e.event_id)
    decision_ids := stableUnique (events.map (fun e => e.decision_id))
    policy_versions := stableUnique (events.map (fun e => e.policy_version))
    max_buffer_level := ((events.map (fun e => e.buffer_level)).max?).getD 0
    safe_point_count := events.countP (fun e => e.safe_point)
    complete := started.isSome && completed.isSome && !clock_skew
    clock_skew }

/-- The variables of the loop over a group. -/
structure Cut where
  attempt : Nat
  current : List Event
  aggregates : List MicroStage

def Cut.close (group : GroupKey) (c : Cut) : Cut :=
  ⟨c.attempt + 1,[],c.aggregates ++ [finalize group (c.attempt + 1) c.current]⟩

def cutEvent (group : GroupKey) (c : Cut) (e : Event) : Cut :=
  if e.event_type = phaseStarted then
    { (if c.current = [] then c else c.close group) with current := [e] }
  else
    let c := { c with current := if c.current = [] then [e] else c.current ++ [e] }
    if e.event_type = phaseCompleted then c.close group else c

def microStages (group : GroupKey) (events : List Event) : List MicroStage :=
  let c := events.foldl (cutEvent group) ⟨0,[],[]⟩
  if c.current = [] then c.aggregates else (c.close group).aggregates

def aggregateMicroStages (events : List Event) : Except String (List MicroStage) := do
  let normalized ← normalize env events
  let groups := (normalized.map Event.group).dedup.insertionSort (fun a b => a ≤ b)
  let aggregates := groups.flatMap fun group =>
    microStages group (causal (normalized.filter (fun e => decide (e.group = group))))
  .ok (aggregates.insertionSort (fun a b => a.key ≤ b.key))

structure TraceSummary (F : Type) where
  event_count : Nat
  safe_point_count : Nat
  policy_publish_count : Nat
  phase_counts : List (String × Nat)
  max_buffer_level : Nat
  latest_buffer_level : Nat
  latest_safe_point : Bool
  latest_policy_version : String
  latest_phase_id : String
  latest_event_id : String
  latest_observation : Option ContractObservation
  micro_stage_count : Nat
  completed_micro_stage_count : Nat
  incomplete_micro_stage_count : Nat
  total_micro_stage_seconds : F
  micro_stages : List MicroStage
  latest_observations_by_stage : List (String × ContractObservation)

def latestEvent (events : List Event) : Option Event :=
  events.foldl (fun latest e => match latest with
    | none => some e
    | some last => if causalKey last.toTraceEvent ≤ causalKey e.toTraceEvent then some e else some last) none

/-- The summary of normalized events. A dictionary is listed in the order of its keys. -/
def summaryOf (normalized : List Event) : Except String (TraceSummary F) := do
  let observations ← latestObservationsByStage env.validateContractObservation env.casefold (normalized.map Event.toTraceEvent)
  let latest := (latestEvent normalized).bind (fun e => observations.lookup e.stage_id)
  let scalar (field : ScalarField) := latest.bind (fun o => o.scalars.lookup field)
  let micro_stages ← aggregateMicroStages env normalized
  let completed := micro_stages.filter MicroStage.complete
  .ok {
    event_count := normalized.length
    safe_point_count := normalized.countP (fun e => e.safe_point)
    policy_publish_count := normalized.countP (fun e => decide (e.event_type = policyPublished))
    phase_counts := ((normalized.map (fun e => e.phase_id)).dedup.insertionSort (fun a b => a ≤ b)).map
      (fun phase => (phase,normalized.countP (fun e => decide (e.phase_id = phase))))
    max_buffer_level := (normalized.map (fun e => e.buffer_level)).foldl max 0
    latest_buffer_level := match scalar .bufferLevel with
      | some (.uint64 level) => level
      | _ => 0
    latest_safe_point := decide (scalar .safePoint = some (.bool true))
    latest_policy_version := latest.elim "" (fun o => o.policy_version)
    latest_phase_id := latest.elim "" (fun o => o.phase_id)
    latest_event_id := latest.elim "" (fun o => o.event_id)
    latest_observation := latest
    micro_stage_count := micro_stages.length
    completed_micro_stage_count := completed.length
    incomplete_micro_stage_count := micro_stages.length - completed.length
    total_micro_stage_seconds := env.sumOfSeconds (completed.filterMap MicroStage.duration)
    micro_stages
    latest_observations_by_stage := observations }

def summarize (events : List Event) : Except String (TraceSummary F) := do
  let normalized ← normalize env events
  summaryOf env normalized

variable {env} {events other kept out : List Event}

/-- Events that can be labelled and do not conflict: a property of their set. -/
structure Agree (env : Outside F) (events : List Event) : Prop where
  labelled : ∀ source ∈ events, ∃ e, normalizeEvent env source = .ok e
  one : ∀ source ∈ events, ∀ again ∈ events, ∀ e e', normalizeEvent env source = .ok e → normalizeEvent env again = .ok e' →
    e.event_id = e'.event_id → e = e'

theorem agree_of_kept (so : Kept (normalizeEvent env) Event.toTraceEvent events kept) : Agree env events := by
  have unique (source : Event) (member : source ∈ events) (e : Event) (done : normalizeEvent env source = .ok e) : e ∈ kept := by
    obtain ⟨e',there,done'⟩ := so.all source member
    rw [done] at done'
    cases done'
    exact there
  refine ⟨fun source member => ?_,fun source here again there e e' first second ids => ?_⟩
  · obtain ⟨e,-,done⟩ := so.all source member
    exact ⟨e,done⟩
  · exact so.one (unique source here e first) (unique again there e' second) ids

theorem loop_of_agree (agree : Agree env events) : ∃ kept, events.foldlM (keepEvent (normalizeEvent env) Event.toTraceEvent) [] = .ok kept := by
  have go : ∀ (rest seen kept : List Event), (∀ s ∈ seen ++ rest, s ∈ events) → Kept (normalizeEvent env) Event.toTraceEvent seen kept →
      ∃ out, rest.foldlM (keepEvent (normalizeEvent env) Event.toTraceEvent) kept = .ok out := by
    intro rest
    induction rest with
    | nil => exact fun seen kept _ _ => ⟨kept,rfl⟩
    | cons source rest ih =>
      intro seen kept inside so
      have member : source ∈ events := inside source (by simp)
      obtain ⟨e,done⟩ := agree.labelled source member
      have taken : ∃ next, keepEvent (normalizeEvent env) Event.toTraceEvent kept source = .ok next := by
        rw [keepEvent,done]
        simp only [bind,Except.bind]
        cases found : kept.find? (fun earlier => decide (earlier.event_id = e.event_id)) with
        | none => exact ⟨_,rfl⟩
        | some earlier =>
          have ids : earlier.event_id = e.event_id := by simpa using List.find?_some found
          obtain ⟨s,there,made⟩ := so.only earlier (List.mem_of_find?_eq_some found)
          have same := agree.one s (inside s (List.mem_append_left _ there)) source member earlier e made done ids
          exact ⟨kept,if_pos same⟩
      obtain ⟨next,taken⟩ := taken
      obtain ⟨out,later⟩ := ih (seen ++ [source]) next (by simpa using inside) (keepEvent_keeps so taken)
      refine ⟨out,?_⟩
      rw [List.foldlM_cons,taken]
      exact later
  exact go events [] [] (by simp) ⟨by simp,by simp,by simp⟩

structure Normalized (env : Outside F) (events out : List Event) : Prop where
  kept : Kept (normalizeEvent env) Event.toTraceEvent events out
  revisions : ∀ e ∈ out, e.source_revision ≠ some none
  ordered : out.Pairwise (fun a b => a.sortKey ≤ b.sortKey)

theorem normalized_of_ok (done : normalize env events = .ok out) : Normalized env events out :=
  have ⟨kept,revisions,ordered⟩ := normalizeBy_kept done
  ⟨kept,revisions,ordered⟩

theorem sortKey_inj {a b : Event} (same : a.sortKey = b.sortKey) : a.event_id = b.event_id :=
  congrArg (fun key => (ofLex (ofLex key).2).2) same

theorem Normalized.unique {out' : List Event} (so : Normalized env events out) (so' : Normalized env other out')
    (set : ∀ e, e ∈ out ↔ e ∈ out') : out = out' := by
  have perm : out.Perm out' :=
    (List.perm_ext_iff_of_nodup (List.Nodup.of_map _ so.kept.distinct) (List.Nodup.of_map _ so'.kept.distinct)).mpr set
  refine perm.eq_of_pairwise (fun a b here there below above => ?_) so.ordered so'.ordered
  exact List.inj_on_of_nodup_map so'.kept.distinct ((set a).mp here) there (sortKey_inj (le_antisymm below above))

theorem Normalized.ok (so : Normalized env events out) : normalize env events = .ok out := by
  obtain ⟨kept,loop⟩ := loop_of_agree (agree_of_kept so.kept)
  have kept_of := kept_of_loop loop
  have set (e : Event) : e ∈ kept ↔ e ∈ out := by
    constructor
    · intro member
      obtain ⟨s,there,done⟩ := kept_of.only e member
      obtain ⟨e',here,done'⟩ := so.kept.all s there
      rw [done] at done'
      cases done'
      exact here
    · intro member
      obtain ⟨s,there,done⟩ := so.kept.only e member
      obtain ⟨e',here,done'⟩ := kept_of.all s there
      rw [done] at done'
      cases done'
      exact here
  have none : kept.find? (fun e => decide (e.source_revision = some none)) = none := by
    rw [List.find?_eq_none]
    intro e member
    simpa using so.revisions e ((set e).mp member)
  have again : normalize env events = .ok (sorted Event.toTraceEvent kept) := by
    rw [normalize,normalizeBy,loop]
    simp only [bind,Except.bind,none]
  rw [again,(normalized_of_ok again).unique so fun e => mem_sorted.trans (set e)]

theorem Normalized.of_set (so : Normalized env events out) (set : ∀ e, e ∈ events ↔ e ∈ other) :
    Normalized env other out where
  kept := ⟨fun s member => so.kept.all s ((set s).mpr member),
    fun e member => (so.kept.only e member).imp fun s there => ⟨(set s).mp there.1,there.2⟩,so.kept.distinct⟩
  revisions := so.revisions
  ordered := so.ordered

theorem normalize_toOption (set : ∀ e, e ∈ events ↔ e ∈ other) :
    (normalize env events).toOption = (normalize env other).toOption := by
  cases first : normalize env events with
  | ok out => rw [((normalized_of_ok first).of_set set).ok]
  | error message =>
    cases second : normalize env other with
    | error message => rfl
    | ok out =>
      have done := ((normalized_of_ok second).of_set fun e => (set e).symm).ok
      rw [first] at done
      cases done

theorem normalizeEvent_again {source e : Event} (done : normalizeEvent env source = .ok e) : normalizeEvent env e = .ok e := by
  obtain ⟨_,valid,done⟩ := bind_eq_ok done
  have again (label : String) (kind : Nat) : 
      validate { source with raw_phase_label := label, phase_kind := kind : Event }.toTraceEvent = .ok () := valid
  by_cases unknown : source.phase_kind = 0
  · rw [if_pos unknown] at done
    cases done
    generalize made : (if source.raw_phase_label = "" then source.phase_id else source.raw_phase_label) = label
    have kept : (if label = "" then source.phase_id else label) = label := by
      rw [← made]
      split_ifs <;> rfl
    rw [normalizeEvent,again]
    simp only [bind,Except.bind,kept]
    exact ite_self _
  · rw [if_neg unknown] at done
    cases done
    rw [normalizeEvent,valid]
    simp only [bind,Except.bind,if_neg unknown]

theorem Normalized.again (so : Normalized env events out) : Normalized env out out where
  kept := by
    have self (e : Event) (member : e ∈ out) : normalizeEvent env e = .ok e := by
      obtain ⟨s,-,done⟩ := so.kept.only e member
      exact normalizeEvent_again done
    exact ⟨fun e member => ⟨e,member,self e member⟩,fun e member => ⟨e,member,self e member⟩,so.kept.distinct⟩
  revisions := so.revisions
  ordered := so.ordered

end Summary

/-- Consecutive events of a group: a start comes only first, a completion only last. -/
structure Attempt (events : List Event) : Prop where
  filled : events ≠ []
  starts : ∀ e ∈ events.tail, e.event_type ≠ phaseStarted
  completes : ∀ e ∈ events.dropLast, e.event_type ≠ phaseCompleted

def numbered (group : GroupKey) (attempts : List (List Event)) : List MicroStage :=
  attempts.mapIdx (fun index events => finalize group (index + 1) events)

section Cutting
variable {group : GroupKey}

/-- The events read so far are those of the attempts found and of the one that is open. -/
structure Parted (group : GroupKey) (seen : List Event) (attempts : List (List Event)) (c : Cut) : Prop where
  whole : attempts.flatten ++ c.current = seen
  stages : c.aggregates = numbered group attempts
  count : c.attempt = attempts.length
  each : ∀ events ∈ attempts, Attempt events
  starts : ∀ e ∈ c.current.tail, e.event_type ≠ phaseStarted
  running : ∀ e ∈ c.current, e.event_type ≠ phaseCompleted

variable {seen : List Event} {attempts : List (List Event)} {c : Cut}

/-- An attempt is closed; its last event may be a completion. -/
theorem close_parts (filled : c.current ≠ []) (whole : attempts.flatten ++ c.current = seen)
    (stages : c.aggregates = numbered group attempts) (count : c.attempt = attempts.length)
    (each : ∀ events ∈ attempts, Attempt events) (starts : ∀ e ∈ c.current.tail, e.event_type ≠ phaseStarted)
    (completes : ∀ e ∈ c.current.dropLast, e.event_type ≠ phaseCompleted) :
    Parted group seen (attempts ++ [c.current]) (c.close group) where
  whole := by simp [Cut.close,whole]
  stages := by simp [Cut.close,numbered,stages,count,List.mapIdx_append]
  count := by simp [Cut.close,count]
  each events member := by
    rcases List.mem_append.mp member with old | last
    · exact each events old
    · rw [List.mem_singleton.mp last]
      exact ⟨filled,starts,completes⟩
  starts := by simp [Cut.close]
  running := by simp [Cut.close]

theorem Parted.close (parted : Parted group seen attempts c) (filled : c.current ≠ []) :
    Parted group seen (attempts ++ [c.current]) (c.close group) :=
  close_parts filled parted.whole parted.stages parted.count parted.each parted.starts
    fun e member => parted.running e (List.mem_of_mem_dropLast member)

theorem Parted.step (parted : Parted group seen attempts c) (e : Event) :
    ∃ attempts, Parted group (seen ++ [e]) attempts (cutEvent group c e) := by
  rw [cutEvent]
  by_cases start : e.event_type = phaseStarted
  · have other : e.event_type ≠ phaseCompleted := by
      rw [start]
      decide
    rw [if_pos start]
    by_cases idle : c.current = []
    · rw [if_pos idle]
      have whole := parted.whole
      rw [idle,List.append_nil] at whole
      exact ⟨attempts,by rw [whole],parted.stages,parted.count,parted.each,by simp,by simp [other]⟩
    · rw [if_neg idle]
      have closed := parted.close idle
      have whole := closed.whole
      rw [Cut.close,List.append_nil] at whole
      exact ⟨_,by rw [whole],closed.stages,closed.count,closed.each,by simp,by simp [other]⟩
  · rw [if_neg start]
    -- The first event of an attempt is added like any other.
    have added : (if c.current = [] then [e] else c.current ++ [e]) = c.current ++ [e] := by
      split
      · next idle => rw [idle,List.nil_append]
      · rfl
    have starts : ∀ e' ∈ (c.current ++ [e]).tail, e'.event_type ≠ phaseStarted := by
      intro e' member
      rw [List.tail_append] at member
      split at member
      · cases member
      rcases List.mem_append.mp member with old | last
      · exact parted.starts e' old
      · exact List.mem_singleton.mp last ▸ start
    simp only [added]
    by_cases completion : e.event_type = phaseCompleted
    · rw [if_pos completion]
      refine ⟨_,close_parts (by simp) (by rw [← List.append_assoc,parted.whole]) parted.stages parted.count parted.each starts ?_⟩
      simpa using parted.running
    · rw [if_neg completion]
      refine ⟨attempts,by rw [← List.append_assoc,parted.whole],parted.stages,parted.count,parted.each,starts,fun e' member => ?_⟩
      rcases List.mem_append.mp member with old | last
      · exact parted.running e' old
      · exact List.mem_singleton.mp last ▸ completion

theorem parted_foldl (group : GroupKey) (events : List Event) :
    ∃ attempts, Parted group events attempts (events.foldl (cutEvent group) ⟨0,[],[]⟩) := by
  induction events using List.reverseRecOn with
  | nil => exact ⟨[],rfl,rfl,rfl,by simp,by simp,by simp⟩
  | append_singleton seen e ih =>
    obtain ⟨attempts,parted⟩ := ih
    rw [List.foldl_concat]
    exact parted.step e

/-- The micro-stages of a group are the attempts of its events. -/
theorem microStages_parts (group : GroupKey) (events : List Event) :
    ∃ attempts : List (List Event), attempts.flatten = events ∧ (∀ part ∈ attempts, Attempt part) ∧
      microStages group events = numbered group attempts := by
  obtain ⟨attempts,parted⟩ := parted_foldl group events
  rw [microStages]
  by_cases idle : (events.foldl (cutEvent group) ⟨0,[],[]⟩).current = []
  · have whole := parted.whole
    rw [idle,List.append_nil] at whole
    exact ⟨attempts,whole,parted.each,by rw [if_pos idle,parted.stages]⟩
  · have closed := parted.close idle
    have whole := closed.whole
    rw [Cut.close,List.append_nil] at whole
    exact ⟨_,whole,closed.each,by rw [if_neg idle,closed.stages]⟩

theorem numbered_key {stage : MicroStage} (member : stage ∈ numbered group attempts) :
    stage.group = group ∧ ∃ index, stage.attempt = index + 1 ∧ (numbered group attempts)[index]? = some stage := by
  obtain ⟨index,here,rfl⟩ := List.mem_mapIdx.mp member
  refine ⟨rfl,index,rfl,?_⟩
  rw [numbered,List.getElem?_mapIdx,List.getElem?_eq_getElem here]
  rfl

theorem numbered_ordered (group : GroupKey) (attempts : List (List Event)) :
    (numbered group attempts).Pairwise (fun a b => a.key ≤ b.key) := by
  rw [List.pairwise_iff_getElem]
  intro i j first second before
  simp only [numbered,List.getElem_mapIdx,finalize,MicroStage.key]
  exact Prod.Lex.toLex_le_toLex.mpr (Or.inr ⟨rfl,by omega⟩)

theorem numbered_one {a b : MicroStage} (first : a ∈ numbered group attempts) (second : b ∈ numbered group attempts)
    (same : a.key = b.key) : a = b := by
  obtain ⟨-,i,left,here⟩ := numbered_key first
  obtain ⟨-,j,right,there⟩ := numbered_key second
  have attempt : a.attempt = b.attempt := congrArg (fun key => (ofLex key).2) same
  obtain rfl : i = j := by omega
  exact Option.some.inj (here.symm.trans there)

theorem filter_flatMap {groups : List GroupKey} {parts : GroupKey → List MicroStage} (distinct : groups.Nodup)
    (own : ∀ group, ∀ stage ∈ parts group, stage.group = group) :
    (groups.flatMap parts).filter (fun stage => decide (stage.group = group)) = if group ∈ groups then parts group else [] := by
  have kept (other : GroupKey) : (parts other).filter (fun stage => decide (stage.group = group)) =
      if other = group then parts other else [] := by
    split
    · next same => exact List.filter_eq_self.mpr fun stage member => decide_eq_true (own other stage member ▸ same)
    · next different =>
      exact List.filter_eq_nil_iff.mpr fun stage member => by simpa using own other stage member ▸ different
  induction groups with
  | nil => rfl
  | cons other groups ih =>
    obtain ⟨new,distinct⟩ := List.nodup_cons.mp distinct
    rw [List.flatMap_cons,List.filter_append,kept,ih distinct]
    by_cases same : other = group
    · subst same
      simp [new]
    · simp [same,Ne.symm same]

end Cutting

section Summaries
variable {F : Type} {env : Outside F} {events : List Event}

theorem aggregate_parts {normalized : List Event} {stages : List MicroStage} (so : Normalized env events normalized)
    (done : aggregateMicroStages env normalized = .ok stages) (group : GroupKey) :
    stages.filter (fun stage => decide (stage.group = group)) =
      microStages group (causal (normalized.filter (fun e => decide (e.group = group)))) := by
  rw [aggregateMicroStages,so.again.ok] at done
  cases done
  let parts (group : GroupKey) := microStages group (causal (normalized.filter (fun e => decide (e.group = group))))
  obtain ⟨attempts,-,-,listed⟩ := microStages_parts group (causal (normalized.filter (fun e => decide (e.group = group))))
  have own (group : GroupKey) (stage : MicroStage) (member : stage ∈ parts group) : stage.group = group := by
    obtain ⟨attempts,-,-,listed⟩ := microStages_parts group (causal (normalized.filter (fun e => decide (e.group = group))))
    rw [show parts group = numbered group attempts from listed] at member
    exact (numbered_key member).1
  have groups : ((normalized.map Event.group).dedup.insertionSort (fun a b => a ≤ b)).Nodup :=
    (List.perm_insertionSort _ _).nodup_iff.mpr (List.nodup_dedup _)
  have unsorted : (List.flatMap parts ((normalized.map Event.group).dedup.insertionSort (fun a b => a ≤ b))).filter
      (fun stage => decide (stage.group = group)) = parts group := by
    rw [filter_flatMap groups own]
    split
    · rfl
    next absent =>
    have none : normalized.filter (fun e => decide (e.group = group)) = [] := by
      rw [List.filter_eq_nil_iff]
      intro e member same
      refine absent ((List.mem_insertionSort _).mpr (List.mem_dedup.mpr (List.mem_map.mpr ⟨e,member,?_⟩)))
      exact of_decide_eq_true same
    simp only [parts,none]
    rfl
  have perm := ((List.perm_insertionSort (fun a b : MicroStage => a.key ≤ b.key) _).filter
    (fun stage => decide (stage.group = group))).trans (.of_eq unsorted)
  refine perm.eq_of_pairwise (fun a b here there below above => ?_) ((List.pairwise_insertionSort _ _).filter _) ?_
  · exact numbered_one (listed ▸ perm.mem_iff.mp here) (listed ▸ there) (le_antisymm below above)
  · exact listed ▸ numbered_ordered group attempts

theorem causalKey_inj {a b : Event} (same : causalKey a.toTraceEvent = causalKey b.toTraceEvent) : a.event_id = b.event_id :=
  congrArg (fun key => (ofLex (ofLex key).2).2) same

/-- The micro-stages of a group: its events in causal order, cut into attempts. -/
def Attempted (env : Outside F) (events : List Event) (summary : TraceSummary F) (group : GroupKey) : Prop :=
  ∃ attempts : List (List Event),
    (∀ e, e ∈ attempts.flatten ↔ (∃ source ∈ events, normalizeEvent env source = .ok e) ∧ e.group = group) ∧
    attempts.flatten.Pairwise (fun a b => causalKey a.toTraceEvent < causalKey b.toTraceEvent) ∧
    (∀ part ∈ attempts, Attempt part) ∧
    summary.micro_stages.filter (fun stage => decide (stage.group = group)) = numbered group attempts

theorem attempted {summary : TraceSummary F} (done : summarize env events = .ok summary) (group : GroupKey) :
    Attempted env events summary group := by
  obtain ⟨normalized,first,done⟩ := bind_eq_ok done
  have so := normalized_of_ok first
  obtain ⟨observations,-,done⟩ := bind_eq_ok done
  obtain ⟨stages,made,done⟩ := bind_eq_ok done
  cases done
  obtain ⟨attempts,whole,each,listed⟩ :=
    microStages_parts group (causal (normalized.filter (fun e => decide (e.group = group))))
  have perm := List.perm_insertionSort (fun a b : Event => causalKey a.toTraceEvent ≤ causalKey b.toTraceEvent)
    (normalized.filter (fun e => decide (e.group = group)))
  refine ⟨attempts,fun e => ?_,?_,each,(aggregate_parts so made group).trans listed⟩
  · rw [whole,causal,perm.mem_iff,List.mem_filter,decide_eq_true_eq]
    refine and_congr_left fun _ => ⟨so.kept.only e,fun made => ?_⟩
    obtain ⟨source,there,labelled⟩ := made
    obtain ⟨e',here,same⟩ := so.kept.all source there
    rw [labelled] at same
    cases same
    exact here
  · have distinct : (normalized.filter (fun e => decide (e.group = group))).Pairwise (fun a b => a.event_id ≠ b.event_id) :=
      (List.pairwise_map.mp so.kept.distinct).filter _
    have apart := (perm.pairwise_iff fun different => Ne.symm different).mpr distinct
    rw [whole,causal]
    exact (List.pairwise_insertionSort _ _).imp₂ (fun a b below different =>
      lt_of_le_of_ne below fun same => different (causalKey_inj same)) apart

/-- A summary depends only on the set of its events, and the micro-stages of a group are the consecutive attempts of its
events. -/
theorem summary_of_events (env : Outside F) (events : List Event) :
    (∀ other : List Event, (∀ e, e ∈ events ↔ e ∈ other) →
      (summarize env events).toOption = (summarize env other).toOption) ∧
    ∀ summary, summarize env events = .ok summary → ∀ group, Attempted env events summary group := by
  refine ⟨fun other set => ?_,fun summary done group => attempted done group⟩
  have same : (normalize env events).toOption = (normalize env other).toOption := normalize_toOption set
  rw [summarize,summarize]
  cases first : normalize env events <;> cases second : normalize env other <;> rw [first,second] at same <;> cases same <;> rfl

end Summaries

/-- Nothing is checked and labels are taken as they are. -/
def plain : Outside Nat := ⟨id,id,List.sum,fun _ => .ok ()⟩

def stageEvent (event_id : String) (sequence event_type : Nat) : Event :=
  { TraceSummaries.demoEvent event_id 1 sequence sequence 0 "policy" with event_type }

/-- A completed attempt and one that is under way, from two lists of the same events. -/
theorem two_attempts_summarized :
    let events := [stageEvent "a" 1 phaseStarted,stageEvent "b" 2 phaseCompleted,stageEvent "c" 3 phaseStarted]
    let other := [stageEvent "c" 3 phaseStarted,stageEvent "a" 1 phaseStarted,stageEvent "c" 3 phaseStarted,
      stageEvent "b" 2 phaseCompleted]
    (summarize plain events).toOption = (summarize plain other).toOption ∧
    ∃ summary, summarize plain events = .ok summary ∧ Attempted plain events summary (stageEvent "a" 1 phaseStarted).group ∧
      summary.micro_stages.map (fun stage => (stage.attempt,stage.event_ids)) = [(1,["a","b"]),(2,["c"])] := by
  intro events other
  have set : ∀ e, e ∈ events ↔ e ∈ other := by
    intro e
    simp only [events,other,List.mem_cons,List.not_mem_nil,or_false]
    tauto
  refine ⟨(summary_of_events plain events).1 other set,?_⟩
  have shown : (summarize plain events).toOption.map (fun summary =>
      summary.micro_stages.map (fun stage => (stage.attempt,stage.event_ids))) = some [(1,["a","b"]),(2,["c"])] := by
    decide +kernel
  cases done : summarize plain events with
  | error message =>
    rw [done] at shown
    cases shown
  | ok summary =>
    rw [done] at shown
    exact ⟨summary,rfl,(summary_of_events plain events).2 summary done _,Option.some.inj shown⟩

end TgsRl.TraceStages
