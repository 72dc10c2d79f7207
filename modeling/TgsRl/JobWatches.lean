import TgsRl.Jobs
import TgsRl.Loops

/-!
The event watches of the job repositories (package `state` of `job-controller-go`). A watcher is
sent the backlog after its cursor and then every matching event that is committed, until its
consumer cancels it or falls behind. Nobody compares a delivered event with the cursor, and a
resumption by event ID begins after the first event with that ID, though two events may share one
(`reports_repeated`).
-/
namespace TgsRl.JobWatches
open Jobs State Loops

structure JobEvent where
  eventId : String
  jobId : String
  runId : String
  sequence : Nat
  deriving DecidableEq, Repr

/-- `newEvent`; its sequence is set when it is appended. -/
def newEvent (eventType jobId runId traceID detail : String) (now : Int) : JobEvent :=
  { eventId := deterministicID "event" [eventType,jobId,runId,traceID,detail,toString now], jobId, runId, sequence := 0 }

inductive Ending where
  | cancelled | consumerLagged
  deriving DecidableEq, Repr

/-- `start` is the sequence floor of the watch; the channel holds what is sent and not taken. -/
structure Watcher where
  jobID : String
  runID : String
  start : Nat
  capacity : Nat
  sent : List JobEvent
  taken : Nat
  ended : Option Ending
  deriving DecidableEq, Repr

/-- A file repository encodes a working copy before it commits it: `working` are the events that it appends. With
    every event stand the watchers whose consumers take one while the events are delivered. -/
structure Repository where
  events : List JobEvent
  nextSequence : Nat
  watchers : List Watcher
  working : Option (List (JobEvent × List Nat))
  deriving DecidableEq, Repr

def matchesTarget (event : JobEvent) (jobID runID : String) : Bool :=
  (decide (jobID = "") || decide (event.jobId = jobID)) && (decide (runID = "") || decide (event.runId = runID))

def Repository.sequenceFloor (r : Repository) (afterSequence : Nat) (afterEventID : String) : Except String Nat :=
  if afterEventID = "" then .ok afterSequence
  else match r.events.find? (fun event => decide (event.eventId = afterEventID)) with
    | none => .error ("state: event " ++ quote afterEventID ++ " not found")
    | some event => .ok (max afterSequence event.sequence)

def Repository.filteredEvents (r : Repository) (jobID runID : String) (afterSequence : Nat) : List JobEvent :=
  r.events.filter (fun event => decide (afterSequence < event.sequence) && matchesTarget event jobID runID)

def watchBufferSlack : Nat := 32

def Watcher.receive (w : Watcher) : Watcher := { w with taken := min (w.taken + 1) w.sent.length }

def Watcher.cancel (w : Watcher) : Watcher := if w.ended.isNone then { w with ended := some .cancelled } else w

/-- A full channel ends the watch. -/
def Watcher.deliver (w : Watcher) (event : JobEvent) : Watcher :=
  if w.ended.isSome ∨ matchesTarget event w.jobID w.runID = false then w
  else if w.sent.length - w.taken < w.capacity then { w with sent := w.sent ++ [event] }
  else { w with ended := some .consumerLagged }

def receives (watchers : List Watcher) (ids : List Nat) : List Watcher :=
  ids.foldl (fun watchers id => watchers.modify id Watcher.receive) watchers

/-- One event is appended and delivered. The source appends all events of an update before it delivers the first;
    a watcher gets them in the same order, and nobody else looks meanwhile. -/
def Repository.append (r : Repository) (item : JobEvent × List Nat) : Repository :=
  let event := { item.1 with sequence := r.nextSequence + 1 }
  { r with
    events := r.events ++ [event]
    nextSequence := r.nextSequence + 1
    watchers := (receives r.watchers item.2).map (fun w => w.deliver event) }

inductive Step where
  /-- `Update` of a memory repository. -/
  | update (appended : List (JobEvent × List Nat))
  /-- `Update` of a file repository has run its callback on a copy, and has made it durable or not. -/
  | prepare (appended : List (JobEvent × List Nat))
  | commit (durable : Bool)
  | watch (jobID runID : String) (afterSequence : Nat) (afterEventID : String)
  | cancel (id : Nat)
  | receive (id : Nat)

/-- An update waits while another one holds a working copy. -/
def Repository.step (r : Repository) : Step → Repository
  | .update appended => if r.working.isSome then r else appended.foldl Repository.append r
  | .prepare appended => if r.working.isSome then r else { r with working := some appended }
  | .commit durable => match r.working with
    | none => r
    | some appended => (if durable then appended else []).foldl Repository.append { r with working := none }
  | .watch jobID runID afterSequence afterEventID => match r.sequenceFloor afterSequence afterEventID with
    | .error _ => r
    | .ok start =>
      let backlog := r.filteredEvents jobID runID start
      { r with watchers := r.watchers ++ [⟨jobID,runID,start,backlog.length + watchBufferSlack,backlog,0,none⟩] }
  | .cancel id => { r with watchers := r.watchers.modify id Watcher.cancel }
  | .receive id => { r with watchers := r.watchers.modify id Watcher.receive }

def Repository.empty : Repository := ⟨[],0,[],none⟩

def Placed (r : Repository) : Step → Prop
  | .watch _ _ afterSequence _ => afterSequence ≤ r.nextSequence
  | _ => True

/-- The events a watcher is to get, up to a sequence. -/
def between (events : List JobEvent) (w : Watcher) (upto : Nat) : List JobEvent :=
  events.filter (fun event => decide (w.start < event.sequence ∧ event.sequence ≤ upto) && matchesTarget event w.jobID w.runID)

/-- The watcher has been sent exactly what it is to get, up to some sequence: the last one while it is live. -/
def Exact (r : Repository) (w : Watcher) : Prop :=
  w.start ≤ r.nextSequence ∧ ∃ upto, upto ≤ r.nextSequence ∧ w.sent = between r.events w upto ∧
    (w.ended = none → upto = r.nextSequence)

structure Sound (r : Repository) : Prop where
  numbered : r.events.map JobEvent.sequence = List.range' 1 r.nextSequence
  watchers : ∀ w ∈ r.watchers, Exact r w

variable {r : Repository} {event : JobEvent} {w : Watcher}

theorem Sound.bound (sound : Sound r) (member : event ∈ r.events) : event.sequence ≤ r.nextSequence := by
  have inside : event.sequence ∈ List.range' 1 r.nextSequence := sound.numbered ▸ List.mem_map_of_mem member
  have := List.mem_range'_1.mp inside
  omega

theorem Sound.increasing (sound : Sound r) : r.events.Pairwise (fun first second => first.sequence < second.sequence) := by
  rw [← List.pairwise_map (f := JobEvent.sequence) (R := (· < ·)),sound.numbered]
  exact List.pairwise_lt_range'

theorem between_beyond {events : List JobEvent} {last upto : Nat} (bound : ∀ e ∈ events, e.sequence ≤ last)
    (beyond : last ≤ upto) : between events w upto = between events w last := by
  apply List.filter_congr
  intro event member
  have := bound event member
  congr 1
  simp only [decide_eq_decide]
  omega

theorem between_append (events : List JobEvent) (w : Watcher) (upto : Nat) (event : JobEvent) :
    between (events ++ [event]) w upto = between events w upto ++
      if w.start < event.sequence ∧ event.sequence ≤ upto ∧ matchesTarget event w.jobID w.runID = true then [event] else [] := by
  rw [between,List.filter_append,between,List.filter_cons,List.filter_nil]
  simp only [Bool.and_eq_true,decide_eq_true_eq,and_assoc]

theorem modify_all {P : Watcher → Prop} {f : Watcher → Watcher} (keeps : ∀ w, P w → P (f w)) {watchers : List Watcher}
    (all : ∀ w ∈ watchers, P w) (id : Nat) : ∀ w ∈ watchers.modify id f, P w := by
  intro w member
  obtain ⟨i,inside,rfl⟩ := List.mem_iff_getElem.mp member
  rw [List.getElem_modify]
  split
  · exact keeps _ (all _ (List.getElem_mem _))
  · exact all _ (List.getElem_mem _)

theorem Exact.receive (exact : Exact r w) : Exact r w.receive := exact

theorem Exact.cancel (exact : Exact r w) : Exact r w.cancel := by
  unfold Watcher.cancel
  split
  · obtain ⟨start,upto,below,sent,_⟩ := exact
    exact ⟨start,upto,below,sent,nofun⟩
  · exact exact

theorem receives_all (ids : List Nat) {watchers : List Watcher} (all : ∀ w ∈ watchers, Exact r w) :
    ∀ w ∈ receives watchers ids, Exact r w := by
  induction ids generalizing watchers with
  | nil => exact all
  | cons id rest ih => exact ih (modify_all (fun _ => Exact.receive) all id)

theorem Exact.deliver (sound : Sound r) (exact : Exact r w) (next : event.sequence = r.nextSequence + 1)
    (item : JobEvent × List Nat) (appended : (r.append item).events = r.events ++ [event]) :
    Exact (r.append item) (w.deliver event) := by
  obtain ⟨start,upto,below,sent,live⟩ := exact
  have later : ∀ u, u ≤ r.nextSequence → between (r.append item).events w u = between r.events w u := by
    intro u low
    rw [appended,between_append,if_neg (by omega),List.append_nil]
  have last : (r.append item).nextSequence = r.nextSequence + 1 := rfl
  unfold Watcher.deliver
  split
  · next silent =>
    by_cases ended : w.ended = none
    · have away : matchesTarget event w.jobID w.runID = false := silent.resolve_left (by simp [ended])
      refine ⟨by omega,r.nextSequence + 1,le_rfl,?_,fun _ => rfl⟩
      rw [appended,between_append,if_neg (by simp [away]),List.append_nil,between_beyond (fun _ => sound.bound) (Nat.le_succ _),
        sent,live ended]
    · exact ⟨by omega,upto,by omega,by rw [sent,later upto below],fun free => absurd free ended⟩
  · next active =>
    obtain ⟨free,here⟩ := not_or.mp active
    have open' : w.ended = none := by simpa using free
    obtain rfl := live open'
    split
    · refine ⟨Nat.le_succ_of_le start,r.nextSequence + 1,le_rfl,?_,fun _ => rfl⟩
      show w.sent ++ [event] = between (r.append item).events w (r.nextSequence + 1)
      rw [appended,between_append,if_pos ⟨by omega,by omega,by simpa using here⟩,
        between_beyond (fun _ => sound.bound) (Nat.le_succ _),sent]
    · refine ⟨Nat.le_succ_of_le start,r.nextSequence,Nat.le_succ _,?_,nofun⟩
      show w.sent = between (r.append item).events w r.nextSequence
      rw [sent,later _ le_rfl]

theorem append_sound (sound : Sound r) (item : JobEvent × List Nat) : Sound (r.append item) := by
  refine ⟨?_,?_⟩
  · simp [Repository.append,sound.numbered,List.range'_concat,Nat.add_comm]
  · intro w member
    obtain ⟨old,inside,rfl⟩ := List.mem_map.mp member
    exact (receives_all item.2 sound.watchers old inside).deliver sound rfl item rfl

theorem appends_sound (sound : Sound r) (appended : List (JobEvent × List Nat)) :
    Sound (appended.foldl Repository.append r) := by
  induction appended generalizing r with
  | nil => exact sound
  | cons item rest ih => exact ih (append_sound sound item)

theorem floor_bound {r : Repository} (sound : Sound r) {afterSequence start : Nat} {afterEventID : String}
    (placed : afterSequence ≤ r.nextSequence) (found : r.sequenceFloor afterSequence afterEventID = .ok start) :
    start ≤ r.nextSequence := by
  unfold Repository.sequenceFloor at found
  split at found
  · cases found; exact placed
  split at found
  · cases found
  next event there =>
  cases found
  exact max_le placed (sound.bound (List.mem_of_find?_eq_some there))

theorem backlog_between (sound : Sound r) (w : Watcher) :
    r.filteredEvents w.jobID w.runID w.start = between r.events w r.nextSequence := by
  apply List.filter_congr
  intro event member
  have := sound.bound member
  simp [this]

theorem step_sound (sound : Sound r) (a : Step) (placed : Placed r a) : Sound (r.step a) := by
  cases a with
  | update appended =>
    rw [Repository.step]
    split
    · exact sound
    · exact appends_sound sound appended
  | prepare appended =>
    rw [Repository.step]
    split
    · exact sound
    · exact ⟨sound.1,sound.2⟩
  | commit durable =>
    rw [Repository.step]
    split
    · exact sound
    · exact appends_sound (show Sound { r with working := none } from ⟨sound.1,sound.2⟩) _
  | watch jobID runID afterSequence afterEventID =>
    rw [Repository.step]
    split
    · exact sound
    next start found =>
    refine ⟨sound.1,fun w member => ?_⟩
    rcases List.mem_append.mp member with old | new
    · exact sound.watchers w old
    · obtain rfl := List.mem_singleton.mp new
      exact ⟨floor_bound sound placed found,r.nextSequence,le_rfl,backlog_between sound ⟨_,_,_,_,_,_,_⟩,fun _ => rfl⟩
  | cancel id => exact ⟨sound.1,@modify_all (Exact r) _ (fun _ => Exact.cancel) _ sound.watchers id⟩
  | receive id => exact ⟨sound.1,@modify_all (Exact r) _ (fun _ => Exact.receive) _ sound.watchers id⟩

theorem run_sound {steps : List Step} (placed : Guarded Repository.step Placed .empty steps) :
    Sound (run Repository.step .empty steps) :=
  guarded_keeps (P := Sound) (fun _ a sound placed => step_sound sound a placed) ⟨rfl,fun _ member => nomatch member⟩ placed

def following (r : Repository) (w : Watcher) (event : JobEvent) : List JobEvent :=
  r.filteredEvents w.jobID w.runID event.sequence

/-- A new watch of the same events after a cursor is sent these events at once. -/
def Resumes (r : Repository) (w : Watcher) (afterSequence : Nat) (afterEventID : String) (events : List JobEvent) : Prop :=
  ∃ start, (r.step (.watch w.jobID w.runID afterSequence afterEventID)).watchers = r.watchers ++
    [⟨w.jobID,w.runID,start,events.length + watchBufferSlack,events,0,none⟩]

theorem resumes_iff {afterSequence start : Nat} {afterEventID : String} {events : List JobEvent}
    (found : r.sequenceFloor afterSequence afterEventID = .ok start) :
    Resumes r w afterSequence afterEventID events ↔ r.filteredEvents w.jobID w.runID start = events := by
  unfold Resumes
  rw [Repository.step,found]
  dsimp only
  constructor
  · rintro ⟨other,same⟩
    simpa using congrArg (fun watchers => watchers.getLast?.map Watcher.sent) same
  · rintro rfl
    exact ⟨start,rfl⟩

/-- What follows an event is found from its own sequence and from no earlier one. -/
theorem filtered_exact (member : event ∈ r.events) (mine : matchesTarget event w.jobID w.runID = true) {start : Nat}
    (before : start ≤ event.sequence) :
    r.filteredEvents w.jobID w.runID start = following r w event ↔ start = event.sequence := by
  refine ⟨fun same => ?_,fun same => by rw [same]; rfl⟩
  by_contra other
  have inside : event ∈ r.filteredEvents w.jobID w.runID start :=
    List.mem_filter.mpr ⟨member,by simp [mine]; omega⟩
  rw [same] at inside
  have := (List.mem_filter.mp inside).2
  simp at this

theorem floor_of_id (sound : Sound r) (member : event ∈ r.events) (named : event.eventId ≠ "") :
    ∃ start, r.sequenceFloor 0 event.eventId = .ok start ∧ start ≤ event.sequence ∧
      (start = event.sequence ↔ ∀ earlier ∈ r.events, earlier.sequence < event.sequence → earlier.eventId ≠ event.eventId) := by
  rw [Repository.sequenceFloor,if_neg named]
  obtain ⟨before,after,parts⟩ := List.append_of_mem member
  have order := sound.increasing
  rw [parts] at order
  have ahead : ∀ e ∈ before, e.sequence < event.sequence := fun e inside =>
    (List.pairwise_append.mp order).2.2 e inside event (by simp)
  have behind : ∀ e ∈ after, event.sequence < e.sequence := fun e inside =>
    (List.pairwise_cons.mp (List.pairwise_append.mp order).2.1).1 e inside
  have members : ∀ earlier ∈ r.events, earlier.sequence < event.sequence ↔ earlier ∈ before := by
    intro e there
    rw [parts] at there
    rcases List.mem_append.mp there with inside | inside
    · exact iff_of_true (ahead e inside) inside
    · have late : event.sequence ≤ e.sequence := by
        rcases List.mem_cons.mp inside with rfl | later
        · exact le_rfl
        · exact (behind e later).le
      exact iff_of_false (not_lt.mpr late) (fun low => absurd (ahead e low) (not_lt.mpr late))
  rw [parts,List.find?_append]
  cases first : before.find? (fun e => decide (e.eventId = event.eventId)) with
  | some e =>
    have inside := List.mem_of_find?_eq_some first
    refine ⟨e.sequence,by simp,(ahead e inside).le,iff_of_false (ahead e inside).ne ?_⟩
    intro unique
    exact unique e (by simp [inside]) (ahead e inside) (by simpa using List.find?_some first)
  | none =>
    refine ⟨event.sequence,by simp,le_rfl,iff_of_true rfl ?_⟩
    intro earlier there low same
    rw [← parts] at there
    exact (List.find?_eq_none.mp first) earlier ((members earlier there).mp low) (by simp [same])

/-- Every watcher is sent, in increasing order, exactly the matching events after its starting point up to some sequence,
    which is the last one unless it was cancelled or fell behind. After the event that its consumer took last, a watch
    resumes exactly by that event's sequence; by its ID, exactly if no earlier event has the same. -/
theorem watches_exact {steps : List Step} (placed : Guarded Repository.step Placed .empty steps) :
    let r := run Repository.step .empty steps
    ∀ w ∈ r.watchers,
      (∃ upto, w.sent = between r.events w upto ∧ (w.ended = none → upto = r.nextSequence)) ∧
      w.sent.Pairwise (fun first second => first.sequence < second.sequence) ∧
      ∀ event, (w.sent.take w.taken).getLast? = some event →
        Resumes r w event.sequence "" (following r w event) ∧
        (Resumes r w 0 event.eventId (following r w event) ↔ event.eventId ≠ "" ∧
          ∀ earlier ∈ r.events, earlier.sequence < event.sequence → earlier.eventId ≠ event.eventId) := by
  have sound := run_sound placed
  generalize run Repository.step .empty steps = r at sound
  intro r w member
  obtain ⟨start,upto,below,sent,live⟩ := sound.watchers w member
  refine ⟨⟨upto,sent,live⟩,by rw [sent]; exact sound.increasing.filter _,?_⟩
  intro event last
  have inside : event ∈ between r.events w upto := by
    rw [← sent]
    exact List.mem_of_mem_take (List.mem_of_getLast? last)
  obtain ⟨logged,chosen⟩ := List.mem_filter.mp inside
  obtain ⟨range,mine⟩ := Bool.and_eq_true_iff.mp chosen
  refine ⟨(resumes_iff rfl).mpr rfl,?_⟩
  by_cases named : event.eventId = ""
  · have floor : r.sequenceFloor 0 event.eventId = .ok 0 := by rw [Repository.sequenceFloor,if_pos named]
    rw [resumes_iff floor,filtered_exact logged mine (Nat.zero_le _)]
    have := of_decide_eq_true range
    exact iff_of_false (by omega) (fun unique => unique.1 named)
  · obtain ⟨floor,found,early,unique⟩ := floor_of_id sound logged named
    rw [resumes_iff found,filtered_exact logged mine early,unique]
    exact ⟨fun all => ⟨named,all⟩,fun both => both.2⟩

/-- A status of run r is reported, once and again, and a watcher of job a takes both events. -/
def report (now : Int) : JobEvent × List Nat := (newEvent "COMPONENT_CHANGED" "a" "r" "t" "component status updated" now,[])

def reportedTwice (first second : Int) : List Step :=
  [.watch "a" "" 0 "",.update [report first],.prepare [report second],.commit true,.receive 0,.receive 0]

theorem watches_exact_reports :
    let r := run Repository.step .empty (reportedTwice 1 2)
    ∀ w ∈ r.watchers, ∀ event, (w.sent.take w.taken).getLast? = some event →
      Resumes r w 0 event.eventId (following r w event) := by
  have placed : Guarded Repository.step Placed .empty (reportedTwice 1 2) :=
    ⟨Nat.le_refl 0,trivial,trivial,trivial,trivial,trivial,trivial⟩
  intro r w member event last
  refine ((watches_exact placed w member).2.2 event last).2.mpr ?_
  have only : ∀ w ∈ r.watchers, ∀ event ∈ (w.sent.take w.taken).getLast?, event.eventId ≠ "" ∧
      ∀ earlier ∈ r.events, earlier.sequence < event.sequence → earlier.eventId ≠ event.eventId := by decide +kernel
  exact only w member event last

/-- Two reports of one time have one ID: after the second, a watch resumed by it gets the second again. And a watch after
    sequence 5 gets the first event. -/
theorem reports_repeated :
    ((run Repository.step .empty (reportedTwice 1 1 ++ [.watch "a" "" 0 (report 1).1.eventId])).watchers.map
      (fun w => (w.sent.take w.taken,w.sent)) =
        [([{ (report 1).1 with sequence := 1 },{ (report 1).1 with sequence := 2 }],
          [{ (report 1).1 with sequence := 1 },{ (report 1).1 with sequence := 2 }]),
         ([],[{ (report 1).1 with sequence := 2 }])]) ∧
    ((run Repository.step .empty [.watch "a" "" 5 "",.update [report 1]]).watchers.map Watcher.sent =
      [[{ (report 1).1 with sequence := 1 }]]) := by
  decide +kernel

end TgsRl.JobWatches
