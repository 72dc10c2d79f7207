import TgsRl.TraceIngest

/-!
Delivery of worker traces. The sink keeps the events handed to it until a flush is acknowledged and
sends all of them as one batch, under the batch's own digest as idempotency key; the runtime answers
a batch it has recorded from the record and refuses one in which some events are stored and others
are new. So an event handed over after a lost acknowledgement joins the unacknowledged ones in a new
batch, which is refused for ever.
-/
namespace TgsRl.TraceDelivery
open TraceIngest Loops

/-- The runtime as one worker sees it: the run's events and the recorded batches. A batch's key is its digest and its header
is computed from its events, so a record is the list of events. -/
structure Runtime where
  stored : List TraceEvent
  records : List (List TraceEvent) := []

section Runtime
variable (run_id : String) (plan : List TraceEvent → Except String Unit)

/-- The events after a batch that is not recorded yet: it is tried on a copy of the ingestor. Summarizing the candidate and
building and storing its intents is `plan`. -/
def Runtime.candidate (rt : Runtime) (batch : List TraceEvent) : Except String (List TraceEvent) :=
  match ingest run_id [] rt.stored with
  | .error message => .error message
  | .ok current =>
    if batch.any (fun e => e.sequence = 0) then .error "trace batch events require positive sequences"
    else match ingest run_id current batch with
      | .error message => .error message
      | .ok next =>
        match plan next with
        | .error message => .error message
        | .ok _ => .ok next

/-- Some events of the batch are stored and others are not. -/
def Runtime.Mixes (rt : Runtime) (batch : List TraceEvent) : Prop :=
  let known := rt.stored.map TraceEvent.event_id
  (∃ e ∈ batch, e.event_id ∈ known) ∧ ∃ e ∈ batch, e.event_id ∉ known

instance (rt : Runtime) (batch : List TraceEvent) : Decidable (rt.Mixes batch) := inferInstanceAs (Decidable (_ ∧ _))

/-- `_ingest_authenticated_trace` once its identity checks have passed. -/
def Runtime.publish (rt : Runtime) (batch : List TraceEvent) : Runtime × Except String Unit :=
  if ¬ (batch.map TraceEvent.event_id).Nodup then
    (rt,.error "managed-worker trace batch contains duplicate event IDs")
  else if batch ∈ rt.records then (rt,.ok ())
  else if rt.Mixes batch then (rt,.error "trace batch mixes stored and new events")
  else match rt.candidate run_id plan batch with
    | .error message => (rt,.error message)
    | .ok next => (⟨next,batch :: rt.records⟩,.ok ())

end Runtime

/-- What comes of one attempt to send a batch. -/
inductive Attempt
  | unreached
  | unanswered
  | answered
  deriving DecidableEq, Repr

/-- The identity that the events of one batch share. -/
def identity (e : TraceEvent) : String × String × String × String × Nat × Nat :=
  (e.execution_id,e.run_id,e.trace_id,e.sandbox_id,e.generation,e.data_kind)

structure System where
  pending : List TraceEvent
  runtime : Runtime
  dropped : List TraceEvent := []

structure Settings where
  run_id : String
  batch_size : Nat
  max_retries : Nat
  plan : List TraceEvent → Except String Unit

section Sink
variable (c : Settings)

/-- The attempts of one flush. A refusal is final here: the same batch is refused again at every retry. -/
def send (batch : List TraceEvent) : List Attempt → Runtime → Runtime × Except String Unit
  | [], rt => (rt,.error "worker trace delivery outcome is unknown")
  | .unreached :: rest, rt => send batch rest rt
  | .unanswered :: rest, rt => send batch rest (rt.publish c.run_id c.plan batch).1
  | .answered :: _, rt => rt.publish c.run_id c.plan batch

/-- `_flush_locked`. -/
def System.flush (s : System) (attempts : List Attempt) : System × Except String Unit :=
  match s.pending with
  | [] => (s,.ok ())
  | first :: rest =>
    if (first :: rest).any (fun e => identity e ≠ identity first) then
      (s,.error "worker trace batch spans multiple execution identities")
    else
      let sent := send c (first :: rest) (attempts.take (c.max_retries + 1)) s.runtime
      match sent.2 with
      | .error message => ({ s with runtime := sent.1 },.error message)
      | .ok _ => ({ s with pending := [], runtime := sent.1 },.ok ())

/-- The sink appends an event and flushes when it is full. -/
def System.append (s : System) (e : TraceEvent) (attempts : List Attempt) : System × Except String Unit :=
  let kept := { s with pending := s.pending ++ [e] }
  if c.batch_size ≤ kept.pending.length then kept.flush c attempts else (kept,.ok ())

/-- `__call__`: where the sink is full and cannot be flushed the call raises and the event is not kept. -/
def System.hand (s : System) (e : TraceEvent) (before after : List Attempt) : System × Except String Unit :=
  if c.batch_size ≤ s.pending.length then
    let flushed := s.flush c before
    match flushed.2 with
    | .error message => ({ flushed.1 with dropped := e :: flushed.1.dropped },.error message)
    | .ok _ => flushed.1.append c e after
  else s.append c e after

inductive Move
  | hand (e : TraceEvent) (before after : List Attempt)
  | flush (attempts : List Attempt)

def System.step (s : System) : Move → System
  | .hand e before after => (s.hand c e before after).1
  | .flush attempts => (s.flush c attempts).1

def handed (moves : List Move) : List TraceEvent :=
  moves.filterMap (fun
    | .hand e _ _ => some e
    | .flush _ => none)

/-- A new sink, at a runtime that has accepted other batches. -/
def System.opened (batches : List (List TraceEvent)) : System := ⟨[],⟨accepted c.run_id batches,[]⟩,[]⟩

/-- A flush over a working connection succeeds and leaves each of the events stored exactly once. -/
def Delivers (s : System) (events : List TraceEvent) (later : List Attempt) : Prop :=
  (s.flush c (.answered :: later)).2 = .ok () ∧
  ∀ e ∈ events, (s.flush c (.answered :: later)).1.runtime.stored.count e = 1

/-- The runtime takes the pending events: they are recorded as a batch already, or none or all of them are stored and the
batch passes the ingestor and gives intents. -/
structure Acceptable (s : System) : Prop where
  one_worker : ∀ e ∈ s.pending, ∀ e' ∈ s.pending, identity e = identity e'
  distinct : (s.pending.map TraceEvent.event_id).Nodup
  taken : s.pending = [] ∨ s.pending ∈ s.runtime.records ∨
    ¬ s.runtime.Mixes s.pending ∧ ∃ next, s.runtime.candidate c.run_id c.plan s.pending = .ok next

end Sink

variable {c : Settings}

/-- Stored events are distinct, and recorded batches are stored. -/
structure Runtime.Sound (rt : Runtime) : Prop where
  distinct : (rt.stored.map TraceEvent.event_id).Nodup
  recorded : ∀ batch ∈ rt.records, ∀ e ∈ batch, e ∈ rt.stored

variable {rt : Runtime} {batch : List TraceEvent} {s : System}

theorem candidate_stored {run_id : String} {plan : List TraceEvent → Except String Unit} {next : List TraceEvent}
    (done : rt.candidate run_id plan batch = .ok next) :
    (∀ e, e ∈ next ↔ e ∈ rt.stored ∨ e ∈ batch) ∧ (next.map TraceEvent.event_id).Nodup := by
  unfold Runtime.candidate at done
  split at done
  · cases done
  next current copied =>
  split at done
  · cases done
  split at done
  · cases done
  next after taken =>
  split at done
  · cases done
  cases done
  have copy := (ingest_ok copied).1
  have added := ingest_ok taken
  refine ⟨fun e => ?_,added.2⟩
  rw [added.1,copy]
  simp

theorem publish_stored (sound : rt.Sound) (batch : List TraceEvent) :
    (rt.publish c.run_id c.plan batch).1.Sound ∧
    (∀ e ∈ rt.stored, e ∈ (rt.publish c.run_id c.plan batch).1.stored) ∧
    ((rt.publish c.run_id c.plan batch).2 = .ok () → ∀ e ∈ batch, e ∈ (rt.publish c.run_id c.plan batch).1.stored) := by
  unfold Runtime.publish
  split
  · exact ⟨sound,fun _ member => member,by simp⟩
  split
  · next recorded => exact ⟨sound,fun _ member => member,fun _ => sound.recorded batch recorded⟩
  · split
    · exact ⟨sound,fun _ member => member,by simp⟩
    · split
      · exact ⟨sound,fun _ member => member,by simp⟩
      · next next done =>
        obtain ⟨members,distinct⟩ := candidate_stored done
        refine ⟨⟨distinct,?_⟩,fun e member => (members e).mpr (.inl member),fun _ e member => (members e).mpr (.inr member)⟩
        intro other recorded e member
        rcases List.mem_cons.mp recorded with rfl | recorded
        · exact (members e).mpr (.inr member)
        · exact (members e).mpr (.inl (sound.recorded other recorded e member))

theorem send_stored (sound : rt.Sound) (batch : List TraceEvent) (attempts : List Attempt) :
    (send c batch attempts rt).1.Sound ∧ (∀ e ∈ rt.stored, e ∈ (send c batch attempts rt).1.stored) ∧
    ((send c batch attempts rt).2 = .ok () → ∀ e ∈ batch, e ∈ (send c batch attempts rt).1.stored) := by
  induction attempts generalizing rt with
  | nil => exact ⟨sound,fun _ member => member,by simp [send]⟩
  | cons attempt rest ih =>
    cases attempt with
    | unreached => exact ih sound
    | answered => exact publish_stored sound batch
    | unanswered =>
      obtain ⟨after,kept,-⟩ := publish_stored (c := c) sound batch
      obtain ⟨sound',kept',done⟩ := ih after
      exact ⟨sound',fun e member => kept' e (kept e member),done⟩

def System.Has (s : System) (e : TraceEvent) : Prop := e ∈ s.runtime.stored ∨ e ∈ s.pending

theorem flush_has (sound : s.runtime.Sound) (attempts : List Attempt) :
    (s.flush c attempts).1.runtime.Sound ∧ (s.flush c attempts).1.dropped = s.dropped ∧
    (∀ e, s.Has e → (s.flush c attempts).1.Has e) ∧
    ((s.flush c attempts).2 = .ok () → ∀ e, s.Has e → e ∈ (s.flush c attempts).1.runtime.stored) := by
  unfold System.flush System.Has
  cases held : s.pending with
  | nil => simpa [held] using sound
  | cons first rest =>
    simp only
    split
    · simpa [held] using sound
    obtain ⟨sound',kept,done⟩ := send_stored (c := c) sound (first :: rest) (attempts.take (c.max_retries + 1))
    split
    · refine ⟨sound',rfl,?_,by simp⟩
      rintro e (stored | pending)
      · exact .inl (kept e stored)
      · exact .inr (by simpa [held] using pending)
    · next ok =>
      have all : ∀ e, e ∈ s.runtime.stored ∨ e ∈ first :: rest →
          e ∈ (send c (first :: rest) (attempts.take (c.max_retries + 1)) s.runtime).1.stored := by
        rintro e (stored | pending)
        · exact kept e stored
        · exact done ok e pending
      exact ⟨sound',rfl,fun e has => .inl (all e has),fun _ => all⟩

theorem append_has (sound : s.runtime.Sound) (e : TraceEvent) (attempts : List Attempt) :
    (s.append c e attempts).1.runtime.Sound ∧ (s.append c e attempts).1.dropped = s.dropped ∧
    (∀ e', s.Has e' → (s.append c e attempts).1.Has e') ∧ (s.append c e attempts).1.Has e := by
  have more : ∀ e', s.Has e' → ({ s with pending := s.pending ++ [e] } : System).Has e' := by
    rintro e' (stored | pending)
    · exact .inl stored
    · exact .inr (by simp [pending])
  have kept : ({ s with pending := s.pending ++ [e] } : System).Has e := .inr (by simp)
  unfold System.append
  simp only
  split
  · obtain ⟨sound',dropped,has,-⟩ := flush_has (c := c) (s := { s with pending := s.pending ++ [e] }) sound attempts
    exact ⟨sound',dropped,fun e' held => has e' (more e' held),has e kept⟩
  · exact ⟨sound,rfl,more,kept⟩

/-- A call keeps what there is, and the event it hands over unless it is dropped. -/
theorem hand_has (sound : s.runtime.Sound) (e : TraceEvent) (before after : List Attempt) :
    (s.hand c e before after).1.runtime.Sound ∧ (∀ e', s.Has e' → (s.hand c e before after).1.Has e') ∧
    ((s.hand c e before after).1.dropped = e :: s.dropped ∨
      (s.hand c e before after).1.dropped = s.dropped ∧ (s.hand c e before after).1.Has e) := by
  unfold System.hand
  split
  · obtain ⟨sound',dropped,has,-⟩ := flush_has (c := c) sound before
    simp only
    split
    · exact ⟨sound',has,.inl (by rw [dropped])⟩
    · obtain ⟨sound'',dropped',has',here⟩ := append_has (c := c) sound' e after
      exact ⟨sound'',fun e' held => has' e' (has e' held),.inr ⟨dropped'.trans dropped,here⟩⟩
  · obtain ⟨sound',dropped,has,here⟩ := append_has (c := c) sound e after
    exact ⟨sound',has,.inr ⟨dropped,here⟩⟩

/-- What holds of the events handed over so far. -/
structure Accounted (moves : List Move) (s : System) : Prop where
  sound : s.runtime.Sound
  kept : ∀ e ∈ handed moves, s.Has e ∨ e ∈ s.dropped
  refused : ∀ e ∈ s.dropped, e ∈ handed moves

theorem step_accounted {before : List Move} (so : Accounted before s) (m : Move) : Accounted (before ++ [m]) (s.step c m) := by
  cases m with
  | flush attempts =>
    obtain ⟨sound,dropped,has,-⟩ := flush_has (c := c) so.sound attempts
    have same : handed (before ++ [.flush attempts]) = handed before := by simp [handed]
    refine ⟨sound,fun e member => ?_,fun e member => ?_⟩
    · rw [same] at member
      rcases so.kept e member with here | gone
      · exact .inl (has e here)
      · exact .inr (by simpa [System.step,dropped] using gone)
    · rw [same]
      exact so.refused e (by simpa [System.step,dropped] using member)
  | hand e first later =>
    obtain ⟨sound,has,fate⟩ := hand_has (c := c) so.sound e first later
    have more : ∀ e', e' ∈ handed (before ++ [.hand e first later]) ↔ e' ∈ handed before ∨ e' = e := by simp [handed]
    rcases fate with gone | ⟨dropped,here⟩
    · refine ⟨sound,fun e' member => ?_,fun e' member => ?_⟩
      · rcases (more e').mp member with earlier | rfl
        · rcases so.kept e' earlier with held | lost
          · exact .inl (has e' held)
          · exact .inr (by simp [System.step,gone,lost])
        · exact .inr (by simp [System.step,gone])
      · rcases (by simpa [System.step,gone] using member : e' = e ∨ e' ∈ s.dropped) with rfl | lost
        · exact (more e').mpr (.inr rfl)
        · exact (more e').mpr (.inl (so.refused e' lost))
    · refine ⟨sound,fun e' member => ?_,fun e' member => ?_⟩
      · rcases (more e').mp member with earlier | rfl
        · rcases so.kept e' earlier with held | lost
          · exact .inl (has e' held)
          · exact .inr (by simpa [System.step,dropped] using lost)
        · exact .inl here
      · exact (more e').mpr (.inl (so.refused e' (by simpa [System.step,dropped] using member)))

theorem run_accounted (batches : List (List TraceEvent)) (moves : List Move) :
    Accounted moves (run (System.step c) (.opened c batches) moves) := by
  refine run_prefix (P := Accounted) ⟨⟨accepted_distinct c.run_id batches,by simp [System.opened]⟩,by simp [handed],
    by simp [System.opened]⟩ ?_
  intro before s m _ _ so
  exact step_accounted so m

/-- A flush that succeeds has stored each event once, but those whose call raised. -/
theorem flushed_once (c : Settings) (batches : List (List TraceEvent)) (moves : List Move) (attempts : List Attempt) :
    let s := run (System.step c) (.opened c batches) moves
    ((s.flush c attempts).1.runtime.stored.map TraceEvent.event_id).Nodup ∧
      ((s.flush c attempts).2 = .ok () → ∀ e ∈ handed moves, e ∈ (s.flush c attempts).1.runtime.stored ∨ e ∈ s.dropped) := by
  have so := run_accounted (c := c) batches moves
  obtain ⟨sound,_,_,all⟩ := flush_has (c := c) so.sound attempts
  exact ⟨sound.distinct,fun done e member => (so.kept e member).imp_left (all done e)⟩

theorem publish_ok_iff (c : Settings) (rt : Runtime) (batch : List TraceEvent) :
    (rt.publish c.run_id c.plan batch).2 = .ok () ↔
      (batch.map TraceEvent.event_id).Nodup ∧ (batch ∈ rt.records ∨
        ¬ rt.Mixes batch ∧ ∃ next, rt.candidate c.run_id c.plan batch = .ok next) := by
  unfold Runtime.publish
  by_cases distinct : (batch.map TraceEvent.event_id).Nodup
  · by_cases recorded : batch ∈ rt.records
    · simp [distinct,recorded]
    · by_cases mixes : rt.Mixes batch
      · simp [distinct,recorded,mixes]
      · cases tried : rt.candidate c.run_id c.plan batch <;> simp [distinct,recorded,mixes]
  · simp [distinct]

theorem publish_only {e : TraceEvent} (member : e ∈ (rt.publish c.run_id c.plan batch).1.stored) :
    e ∈ rt.stored ∨ e ∈ batch := by
  unfold Runtime.publish at member
  split at member
  · exact .inl member
  split at member
  · exact .inl member
  split at member
  · exact .inl member
  split at member
  · exact .inl member
  · next next done => exact ((candidate_stored done).1 e).mp member

theorem flush_answered (c : Settings) (s : System) (later : List Attempt) :
    ((s.flush c (.answered :: later)).2 = .ok () ↔ Acceptable c s) ∧
    ∀ e ∈ (s.flush c (.answered :: later)).1.runtime.stored, s.Has e := by
  unfold System.flush System.Has
  cases held : s.pending with
  | nil =>
    refine ⟨⟨fun _ => ⟨?_,?_,.inl held⟩,fun _ => rfl⟩,fun e member => .inl member⟩
    · simp [held]
    · simp [held]
  | cons first rest =>
    have alike : (∀ e ∈ s.pending, ∀ e' ∈ s.pending, identity e = identity e') ↔
        ¬ ((first :: rest).any (fun e => identity e ≠ identity first)) = true := by
      simp only [held,List.any_eq_true,decide_eq_true_eq,not_exists,not_and,not_not]
      exact ⟨fun all e member => all e member first (by simp),
        fun all e member e' member' => (all e member).trans (all e' member').symm⟩
    have sent : send c (first :: rest) ((Attempt.answered :: later).take (c.max_retries + 1)) s.runtime =
        s.runtime.publish c.run_id c.plan (first :: rest) := rfl
    simp only [sent]
    split
    · next differs =>
      exact ⟨⟨by simp,fun ready => absurd differs (alike.mp ready.one_worker)⟩,fun e member => .inl member⟩
    · next same =>
      have accepts := publish_ok_iff c s.runtime (first :: rest)
      have ready : (s.runtime.publish c.run_id c.plan (first :: rest)).2 = .ok () ↔ Acceptable c s := by
        rw [accepts]
        constructor
        · rintro ⟨distinct,taken⟩
          exact ⟨alike.mpr same,by rw [held]; exact distinct,.inr (by rw [held]; exact taken)⟩
        · rintro ⟨-,distinct,taken⟩
          rw [held] at distinct taken
          exact ⟨distinct,taken.resolve_left (by simp)⟩
      split
      · next message failed =>
        rw [failed] at ready
        exact ⟨⟨by simp,fun ok => by simpa using ready.mpr ok⟩,fun e member => publish_only member⟩
      · next done =>
        exact ⟨⟨fun _ => ready.mp done,fun _ => rfl⟩,fun e member => publish_only member⟩

/-- After which histories a flush over a working connection succeeds and leaves every event handed over stored exactly
once. -/
theorem flush_delivers_iff (c : Settings) (batches : List (List TraceEvent)) (moves : List Move) (later : List Attempt) :
    Delivers c (run (System.step c) (.opened c batches) moves) (handed moves) later ↔
      Acceptable c (run (System.step c) (.opened c batches) moves) ∧
      ∀ e ∈ (run (System.step c) (.opened c batches) moves).dropped, (run (System.step c) (.opened c batches) moves).Has e := by
  have so := run_accounted (c := c) batches moves
  generalize run (System.step c) (.opened c batches) moves = s at so
  obtain ⟨ready,only⟩ := flush_answered c s later
  obtain ⟨sound,-,-,stored⟩ := flush_has (c := c) so.sound (.answered :: later)
  unfold Delivers
  rw [ready]
  refine and_congr_right (fun acceptable => ?_)
  constructor
  · intro once e lost
    exact only e (List.count_pos_iff.mp (by rw [once e (so.refused e lost)]; exact Nat.one_pos))
  · intro again e member
    have has : s.Has e := (so.kept e member).elim id (again e)
    exact List.count_eq_one_of_mem sound.distinct.of_map (stored (ready.mpr acceptable) e has)

def workerEvent (event_id : String) (sequence : Nat) : TraceEvent where
  event_id := event_id
  run_id := "run"
  job_id := "job"
  execution_id := "run"
  phase_id := "train"
  stage_id := "train"
  sandbox_id := "sandbox"
  algorithm := "grpo"
  policy_version := "policy"
  decision_id := "decision"
  generation := 1
  sequence := sequence
  occurred_at := some sequence
  event_type := 1
  rollout_mode := 1

/-- The first event is accepted and its acknowledgement lost; the second one is handed over; then the connection works. -/
theorem lost_acknowledgement_blocks :
    let c : Settings := ⟨"run",16,3,fun _ => .ok ()⟩
    let moves := [Move.hand (workerEvent "first" 1) [] [],.flush [.unanswered],.hand (workerEvent "second" 2) [] []]
    let s := run (System.step c) (.opened c []) moves
    s.runtime.stored = [workerEvent "first" 1] ∧ s.pending = [workerEvent "first" 1,workerEvent "second" 2] ∧
      (s.flush c [.answered]).2 = .error "trace batch mixes stored and new events" ∧
      (s.flush c [.answered]).1.pending = s.pending ∧ ¬ Delivers c s (handed moves) [] := by
  intro c moves s
  have refused : (s.flush c [.answered]).2 = .error "trace batch mixes stored and new events" := by decide +kernel
  refine ⟨by decide +kernel,by decide +kernel,refused,by decide +kernel,fun delivers => ?_⟩
  have succeeds := delivers.1
  rw [refused] at succeeds
  cases succeeds

end TgsRl.TraceDelivery
