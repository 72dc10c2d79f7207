import TgsRl.Loops
import TgsRl.Validation

/-!
The tick runtime of `eventloop/runtime.go`. Every active key stands in three queues, one for each
frequency; a drain takes a whole queue, reads the active map under the lock for each item, lets the
lock go for the callback, and queues the item again if its generation is still current. The steps
are the sections that hold a lock, and the start of a callback, which holds none. A trigger in
flight is not recalled, so by the start the key may have been forgotten (`forgotten_key_starts`).
-/
namespace TgsRl.Ticks
open Messages State Loops Validation

inductive TickKind where
  | unknown | fast | medium | slow
  deriving DecidableEq, Repr, Inhabited

inductive Frequency where
  | fast | medium | slow
  deriving DecidableEq, Repr

def Frequency.kind : Frequency → TickKind
  | .fast => .fast
  | .medium => .medium
  | .slow => .slow

structure ContractObservation where
  observedAt : Option Timestamp
  eventId : String
  rest : String
  deriving DecidableEq, Repr, Inhabited

structure Trigger where
  executionID : String
  stageID : String
  tickKind : TickKind
  cause : String
  observedRevision : UInt64
  contractObservation : Option ContractObservation
  compatibilityDefaultsApplied : Bool
  deriving DecidableEq, Repr, Inhabited

def observationLess (left right : ContractObservation) : Bool :=
  let leftTime := left.observedAt.getD ⟨0,0⟩
  let rightTime := right.observedAt.getD ⟨0,0⟩
  if leftTime.seconds ≠ rightTime.seconds then decide (leftTime.seconds < rightTime.seconds)
  else if leftTime.nanos ≠ rightTime.nanos then decide (leftTime.nanos < rightTime.nanos)
  else decide (left.eventId < right.eventId)

def mergeCauses (values : List String) : String :=
  let items := (values.flatMap (fun value => (value.splitOn "|").map trimSpace)).filter (fun item => decide (item ≠ ""))
  "|".intercalate (sortedSetValues items)

/-- `MergeTrigger` of two triggers that are there. -/
def mergeTrigger (current incoming : Trigger) : Trigger :=
  let newerRevision := decide (current.observedRevision < incoming.observedRevision)
  { executionID := if current.executionID = "" then incoming.executionID else current.executionID
    stageID := if current.stageID = "" then incoming.stageID else current.stageID
    tickKind := if current.tickKind = .unknown then incoming.tickKind else current.tickKind
    cause := mergeCauses [current.cause,incoming.cause]
    observedRevision := if newerRevision then incoming.observedRevision else current.observedRevision
    contractObservation := match incoming.contractObservation,current.contractObservation with
      | none,kept => kept
      | some observed,none => some observed
      | some observed,some kept => if newerRevision || observationLess kept observed then some observed else some kept
    compatibilityDefaultsApplied := current.compatibilityDefaultsApplied || incoming.compatibilityDefaultsApplied }

def triggerQueueKey (executionID stageID : String) : String :=
  toString executionID.utf8ByteSize ++ (":" ++ (executionID ++ stageID))

structure QueueItem where
  key : String
  generation : UInt64
  deriving DecidableEq, Repr

structure KeyedQueue where
  pending : List String
  items : Map String UInt64

def KeyedQueue.empty : KeyedQueue := ⟨[],∅⟩

def KeyedQueue.push (q : KeyedQueue) (key : String) (generation : UInt64) : KeyedQueue :=
  if key = "" then q
  else match q.items.lookup key with
    | some _ => { q with items := q.items.insert key generation }
    | none => ⟨q.pending ++ [key],q.items.insert key generation⟩

/-- The items of `Drain`; the queue is empty after it. -/
def KeyedQueue.drained (q : KeyedQueue) : List QueueItem :=
  q.pending.filterMap (fun key => (q.items.lookup key).map (fun generation => ⟨key,generation⟩))

structure ActiveTrigger where
  trigger : Trigger
  generation : UInt64
  deriving DecidableEq, Repr

/-- Where the drain of a frequency is: between two items, with an item whose trigger has been read and whose callback
    has not started, or with an item whose callback runs. -/
inductive Drain where
  | idle
  | draining (items : List QueueItem)
  | dispatching (item : QueueItem) (trigger : Trigger) (callback : Bool) (rest : List QueueItem)
  | running (item : QueueItem) (rest : List QueueItem)
  deriving DecidableEq, Repr

structure Runtime where
  /-- A callback is installed. -/
  trigger : Bool
  queues : Frequency → KeyedQueue
  active : Map String ActiveTrigger
  nextGeneration : UInt64
  stopped : Bool
  /-- The context of the loops is done. -/
  cancelled : Bool
  drains : Frequency → Drain

def newRuntime : Runtime := ⟨false,fun _ => .empty,∅,0,false,false,fun _ => .idle⟩

/-- What the threads of a runtime do next; of a drain, what its frequency does next. -/
inductive Step where
  | setTrigger (installed : Bool)
  | enqueue (trigger : Trigger)
  | forget (executionID stageID : String)
  | stop
  | cancel
  | deactivate
  | clear (f : Frequency)
  | drain (f : Frequency)
  | check (f : Frequency)
  | call (f : Frequency)
  | requeue (f : Frequency)
  deriving DecidableEq, Repr

/-- The generation after the given one; zero is left out. -/
def following (generation : UInt64) : UInt64 := if generation + 1 = 0 then generation + 1 + 1 else generation + 1

def accepts (r : Runtime) (trigger : Trigger) : Bool :=
  decide (trigger.executionID ≠ "") && decide (trigger.stageID ≠ "") && !r.stopped

def Runtime.enqueue (r : Runtime) (trigger : Trigger) : Runtime :=
  if accepts r trigger then
    let key := triggerQueueKey trigger.executionID trigger.stageID
    let merged := match r.active.lookup key with
      | some current => mergeTrigger current.trigger trigger
      | none => trigger
    let generation := following r.nextGeneration
    { r with
      nextGeneration := generation
      active := r.active.insert key ⟨merged,generation⟩
      queues := fun f => (r.queues f).push key generation }
  else r

def forgets (executionID stageID : String) : Bool := decide (executionID ≠ "") && decide (stageID ≠ "")

def Runtime.forget (r : Runtime) (executionID stageID : String) : Runtime :=
  if forgets executionID stageID then { r with active := r.active.erase (triggerQueueKey executionID stageID) } else r

/-- The item is of an active key and of its current generation. -/
def current (r : Runtime) (item : QueueItem) : Option ActiveTrigger :=
  if r.stopped then none
  else (r.active.lookup item.key).filter (fun active => decide (active.generation = item.generation))

def Runtime.setDrain (r : Runtime) (f : Frequency) (drain : Drain) : Runtime :=
  { r with drains := Function.update r.drains f drain }

/-- The section of `drain` that reads the active map for the next item. -/
def Runtime.check (r : Runtime) (f : Frequency) : Runtime :=
  match r.drains f with
  | .draining [] => r.setDrain f .idle
  | .draining (item :: rest) => match current r item with
    | none => r.setDrain f (.draining rest)
    | some active =>
      if active.trigger.executionID = "" ∨ active.trigger.stageID = "" then r.setDrain f (.draining rest)
      else r.setDrain f (.dispatching item { active.trigger with tickKind := f.kind } r.trigger rest)
  | _ => r

/-- The section of `drain` that queues a dispatched item again. -/
def Runtime.requeue (r : Runtime) (f : Frequency) : Runtime :=
  match r.drains f with
  | .running item rest =>
    if !r.cancelled && (current r item).isSome then
      { r.setDrain f (.draining rest) with
        queues := Function.update r.queues f ((r.queues f).push item.key item.generation) }
    else r.setDrain f (.draining rest)
  | _ => r

def Runtime.step (r : Runtime) : Step → Runtime
  | .setTrigger installed => { r with trigger := installed }
  | .enqueue trigger => r.enqueue trigger
  | .forget executionID stageID => r.forget executionID stageID
  | .stop => { r with stopped := true, active := ∅ }
  | .cancel => { r with cancelled := true }
  | .deactivate => if r.cancelled then { r with stopped := true, active := ∅ } else r
  | .clear f => if r.stopped then { r with queues := Function.update r.queues f .empty } else r
  | .drain f => match r.drains f with
    | .idle => { r.setDrain f (.draining (r.queues f).drained) with queues := Function.update r.queues f .empty }
    | _ => r
  | .check f => r.check f
  | .call f => match r.drains f with
    -- A done context ends the whole drain; otherwise the callback starts, if there is one.
    | .dispatching item _ _ rest => if r.cancelled then r.setDrain f .idle else r.setDrain f (.running item rest)
    | _ => r
  | .requeue f => r.requeue f

/-- The key and the trigger of the callback that the step starts. -/
def starts (r : Runtime) (f : Frequency) : Option (String × Trigger) :=
  match r.drains f with
  | .dispatching item trigger true _ => if r.cancelled then none else some (item.key,trigger)
  | _ => none

/-- A runtime beside the triggers that each active key was enqueued with since it became active. -/
structure Watched where
  runtime : Runtime
  asked : String → List Trigger

def start : Watched := ⟨newRuntime,fun _ => []⟩

def step (w : Watched) (s : Step) : Watched where
  runtime := w.runtime.step s
  asked := match s with
    | .enqueue trigger =>
      let key := triggerQueueKey trigger.executionID trigger.stageID
      if accepts w.runtime trigger then Function.update w.asked key (w.asked key ++ [trigger]) else w.asked
    | .forget executionID stageID =>
      if forgets executionID stageID then Function.update w.asked (triggerQueueKey executionID stageID) [] else w.asked
    | .stop => fun _ => []
    | .deactivate => if w.runtime.cancelled then fun _ => [] else w.asked
    | _ => w.asked

/-- The triggers of a key, merged in their order. -/
def merged : List Trigger → Option Trigger
  | [] => none
  | first :: rest => some (rest.foldl mergeTrigger first)

/-- The drain has the item before it, or is dispatching it. -/
def Drain.Holds (item : QueueItem) : Drain → Prop
  | .idle => False
  | .draining items => item ∈ items
  | .dispatching dispatched _ _ rest => item = dispatched ∨ item ∈ rest
  | .running dispatched rest => item = dispatched ∨ item ∈ rest

def KeyedQueue.Has (q : KeyedQueue) (item : QueueItem) : Prop :=
  item.key ∈ q.pending ∧ q.items.lookup item.key = some item.generation

/-- Before the runtime ends, every active key is in each queue with its current generation, or held by the drain. -/
def Tracked (r : Runtime) : Prop :=
  r.stopped = false → r.cancelled = false → ∀ key active, r.active.lookup key = some active → ∀ f,
    (r.queues f).Has ⟨key,active.generation⟩ ∨ (r.drains f).Holds ⟨key,active.generation⟩

/-- The key is active, and the trigger is the one all its calls merge to, with the kind of the tick. -/
def Current (w : Watched) (f : Frequency) (key : String) (trigger : Trigger) : Prop :=
  (w.runtime.active.lookup key).isSome = true ∧
    ∃ asked, merged (w.asked key) = some asked ∧ trigger = { asked with tickKind := f.kind }

/-- The step does not enqueue or forget the key, nor end the runtime. -/
def Leaves (key : String) : Step → Prop
  | .enqueue trigger => triggerQueueKey trigger.executionID trigger.stageID ≠ key
  | .forget executionID stageID => triggerQueueKey executionID stageID ≠ key
  | .stop | .deactivate => False
  | _ => True

section Queues
variable {q : KeyedQueue} {key : String} {generation : UInt64}

theorem push_lookup (named : key ≠ "") : (q.push key generation).items.lookup key = some generation := by
  unfold KeyedQueue.push
  rw [if_neg named]
  split <;> exact AList.lookup_insert _

variable {other : String} {item : QueueItem}

theorem push_lookup_ne (differs : other ≠ key) : (q.push key generation).items.lookup other = q.items.lookup other := by
  unfold KeyedQueue.push
  split
  · rfl
  · split <;> exact AList.lookup_insert_ne differs

theorem push_pending (listed : other ∈ q.pending) : other ∈ (q.push key generation).pending := by
  unfold KeyedQueue.push
  split
  · exact listed
  split
  · exact listed
  · exact List.mem_append_left _ listed

/-- Every key with an item is pending. -/
def KeyedQueue.Sound (q : KeyedQueue) : Prop := ∀ key, (q.items.lookup key).isSome = true → key ∈ q.pending

theorem push_sound (sound : q.Sound) : (q.push key generation).Sound := by
  intro other present
  by_cases same : other = key
  · subst same
    unfold KeyedQueue.push at present ⊢
    split
    · rename_i unnamed
      rw [if_pos unnamed] at present
      exact sound other present
    · split
      · rename_i found
        exact sound other (by rw [found]; rfl)
      · simp
  · rw [push_lookup_ne same] at present
    exact push_pending (sound other present)

theorem push_has (sound : q.Sound) (named : key ≠ "") : (q.push key generation).Has ⟨key,generation⟩ :=
  ⟨push_sound sound key (by rw [push_lookup named]; rfl),push_lookup named⟩

theorem push_keeps (differs : item.key ≠ key) (has : q.Has item) : (q.push key generation).Has item :=
  ⟨push_pending has.1,by rw [push_lookup_ne differs]; exact has.2⟩

theorem empty_sound : KeyedQueue.empty.Sound := by
  intro key present
  simp [KeyedQueue.empty] at present

theorem mem_drained (has : q.Has item) : item ∈ q.drained :=
  List.mem_filterMap.mpr ⟨item.key,has.1,by rw [has.2]; rfl⟩

end Queues

theorem triggerQueueKey_ne_empty (executionID stageID : String) : triggerQueueKey executionID stageID ≠ "" := by
  intro empty
  have long := congrArg String.length empty
  simp [triggerQueueKey,String.length_append] at long

theorem merged_append (asked : List Trigger) (trigger : Trigger) :
    merged (asked ++ [trigger]) = some (match merged asked with
      | some earlier => mergeTrigger earlier trigger
      | none => trigger) := by
  cases asked with
  | nil => rfl
  | cons first rest => simp [merged,List.foldl_append]

/-- The active map holds named keys, each with the merged trigger of its calls. -/
structure Recorded (w : Watched) : Prop where
  named : ∀ key active, w.runtime.active.lookup key = some active →
    key ≠ "" ∧ active.trigger.executionID ≠ "" ∧ active.trigger.stageID ≠ ""
  merged : ∀ key, (w.runtime.active.lookup key).map ActiveTrigger.trigger = merged (w.asked key)

variable {r : Runtime} {w : Watched} {item : QueueItem} {q : KeyedQueue} {rest : List QueueItem} {f : Frequency}
  {trigger : Trigger} {callback : Bool} {s : Step}

theorem recorded_cleared (cleared : r.active = ∅) : Recorded ⟨r,fun _ => []⟩ := by
  refine ⟨?_,?_⟩
  · intro key active found
    change r.active.lookup key = some active at found
    rw [cleared] at found
    cases found
  · intro key
    change (r.active.lookup key).map _ = _
    rw [cleared]
    rfl

theorem Recorded.of_same {next : Watched} (recorded : Recorded w) (active : next.runtime.active = w.runtime.active)
    (asked : next.asked = w.asked) : Recorded next := by
  refine ⟨?_,?_⟩
  · rw [active]
    exact recorded.named
  · rw [active,asked]
    exact recorded.merged

theorem Recorded.enqueue (recorded : Recorded w) (trigger : Trigger) : Recorded (step w (.enqueue trigger)) := by
  by_cases accepted : accepts w.runtime trigger = true
  · obtain ⟨⟨execution,stage⟩,_⟩ : (trigger.executionID ≠ "" ∧ trigger.stageID ≠ "") ∧ w.runtime.stopped = false := by
      simpa [accepts] using accepted
    have written : (step w (.enqueue trigger)).runtime.active =
        w.runtime.active.insert (triggerQueueKey trigger.executionID trigger.stageID)
          ⟨match w.runtime.active.lookup (triggerQueueKey trigger.executionID trigger.stageID) with
            | some current => mergeTrigger current.trigger trigger
            | none => trigger,following w.runtime.nextGeneration⟩ := by
      simp only [step,Runtime.step,Runtime.enqueue,if_pos accepted]
    have calls : (step w (.enqueue trigger)).asked =
        Function.update w.asked (triggerQueueKey trigger.executionID trigger.stageID)
          (w.asked (triggerQueueKey trigger.executionID trigger.stageID) ++ [trigger]) := by
      simp only [step,if_pos accepted]
    refine ⟨?_,?_⟩
    · intro key active found
      rw [written] at found
      by_cases same : key = triggerQueueKey trigger.executionID trigger.stageID
      · subst same
        rw [AList.lookup_insert] at found
        cases found
        refine ⟨triggerQueueKey_ne_empty _ _,?_⟩
        cases earlier : w.runtime.active.lookup (triggerQueueKey trigger.executionID trigger.stageID) with
        | none => exact ⟨execution,stage⟩
        | some current =>
          have names := (recorded.named _ _ earlier).2
          simp [mergeTrigger,names.1,names.2]
      · rw [AList.lookup_insert_ne same] at found
        exact recorded.named key active found
    · intro key
      rw [written,calls]
      by_cases same : key = triggerQueueKey trigger.executionID trigger.stageID
      · subst same
        rw [AList.lookup_insert,Function.update_self,merged_append,← recorded.merged]
        cases w.runtime.active.lookup (triggerQueueKey trigger.executionID trigger.stageID) <;> rfl
      · rw [AList.lookup_insert_ne same,Function.update_of_ne same]
        exact recorded.merged key
  · have refused : step w (.enqueue trigger) = w := by
      simp only [step,Runtime.step,Runtime.enqueue,if_neg accepted]
    rw [refused]
    exact recorded

theorem Recorded.forget (recorded : Recorded w) (executionID stageID : String) :
    Recorded (step w (.forget executionID stageID)) := by
  by_cases taken : forgets executionID stageID = true
  · have written : (step w (.forget executionID stageID)).runtime.active =
        w.runtime.active.erase (triggerQueueKey executionID stageID) := by
      simp only [step,Runtime.step,Runtime.forget,if_pos taken]
    have calls : (step w (.forget executionID stageID)).asked =
        Function.update w.asked (triggerQueueKey executionID stageID) [] := by
      simp only [step,if_pos taken]
    refine ⟨?_,?_⟩
    · intro key active found
      rw [written] at found
      by_cases same : key = triggerQueueKey executionID stageID
      · rw [same,AList.lookup_erase] at found
        cases found
      · rw [AList.lookup_erase_ne same] at found
        exact recorded.named key active found
    · intro key
      rw [written,calls]
      by_cases same : key = triggerQueueKey executionID stageID
      · rw [same,AList.lookup_erase,Function.update_self]
        rfl
      · rw [AList.lookup_erase_ne same,Function.update_of_ne same]
        exact recorded.merged key
  · have refused : step w (.forget executionID stageID) = w := by
      simp only [step,Runtime.step,Runtime.forget,if_neg taken]
    rw [refused]
    exact recorded

theorem check_active (r : Runtime) (f : Frequency) : (r.check f).active = r.active := by
  unfold Runtime.check
  split
  · rfl
  · split
    · rfl
    · split <;> rfl
  · rfl

theorem requeue_active (r : Runtime) (f : Frequency) : (r.requeue f).active = r.active := by
  unfold Runtime.requeue
  split
  · split <;> rfl
  · rfl

theorem step_recorded (recorded : Recorded w) (s : Step) : Recorded (step w s) := by
  cases s with
  | setTrigger installed => exact recorded.of_same rfl rfl
  | enqueue trigger => exact recorded.enqueue trigger
  | forget executionID stageID => exact recorded.forget executionID stageID
  | stop => exact recorded_cleared rfl
  | cancel => exact recorded.of_same rfl rfl
  | deactivate =>
    by_cases ended : w.runtime.cancelled = true
    · simp only [step,Runtime.step,if_pos ended]
      exact recorded_cleared rfl
    · simp only [step,Runtime.step,if_neg ended]
      exact recorded
  | clear f =>
    refine recorded.of_same ?_ rfl
    simp only [step,Runtime.step]
    split <;> rfl
  | drain f =>
    refine recorded.of_same ?_ rfl
    simp only [step,Runtime.step]
    split <;> rfl
  | check f => exact recorded.of_same (check_active w.runtime f) rfl
  | call f =>
    refine recorded.of_same ?_ rfl
    simp only [step,Runtime.step]
    split
    · split <;> rfl
    · rfl
  | requeue f => exact recorded.of_same (requeue_active w.runtime f) rfl

variable {active : ActiveTrigger} {g : Frequency} {key : String}

theorem current_some :
    current r item = some active ↔
      r.stopped = false ∧ r.active.lookup item.key = some active ∧ active.generation = item.generation := by
  unfold current
  cases r.stopped <;> simp [Option.filter_eq_some_iff]

/-- The queue or the drain has the item. -/
def Kept (q : KeyedQueue) (d : Drain) (item : QueueItem) : Prop := q.Has item ∨ d.Holds item

theorem Kept.drain (kept : Kept q .idle item) : Kept .empty (.draining q.drained) item := by
  rcases kept with has | held
  · exact Or.inr (mem_drained has)
  · exact absurd held id

theorem Kept.next {first : QueueItem} (kept : Kept q (.draining (first :: rest)) item) (other : item ≠ first) :
    Kept q (.draining rest) item := by
  rcases kept with has | held
  · exact Or.inl has
  · exact Or.inr ((List.mem_cons.mp held).resolve_left other)

def Sound (r : Runtime) : Prop := ∀ f, (r.queues f).Sound

theorem Sound.update {queues : Frequency → KeyedQueue} (sound : ∀ f, (queues f).Sound) (f : Frequency) (new : q.Sound) :
    ∀ g, (Function.update queues f q g).Sound := by
  intro g
  by_cases same : g = f
  · subst same
    rwa [Function.update_self]
  · rw [Function.update_of_ne same]
    exact sound g

theorem step_sound {r : Runtime} (sound : Sound r) (s : Step) : Sound (r.step s) := by
  cases s with
  | setTrigger installed => exact sound
  | enqueue trigger =>
    simp only [Runtime.step,Runtime.enqueue]
    split
    · exact fun f => push_sound (sound f)
    · exact sound
  | forget executionID stageID =>
    simp only [Runtime.step,Runtime.forget]
    split <;> exact sound
  | stop => exact sound
  | cancel => exact sound
  | deactivate =>
    simp only [Runtime.step]
    split <;> exact sound
  | clear f =>
    simp only [Runtime.step]
    split
    · exact Sound.update sound f empty_sound
    · exact sound
  | drain f =>
    simp only [Runtime.step]
    split
    · exact Sound.update sound f empty_sound
    · exact sound
  | check f =>
    simp only [Runtime.step,Runtime.check]
    split
    · exact sound
    · split
      · exact sound
      · split <;> exact sound
    · exact sound
  | call f =>
    simp only [Runtime.step]
    split
    · split <;> exact sound
    · exact sound
  | requeue f =>
    simp only [Runtime.step,Runtime.requeue]
    split
    · split
      · exact Sound.update sound f (push_sound (sound f))
      · exact sound
    · exact sound

/-- A step of one drain leaves the other frequencies as they are. -/
theorem tracked_at {next : Runtime} (f : Frequency) (tracked : Tracked r) (active : next.active = r.active)
    (stopped : next.stopped = r.stopped) (cancelled : next.cancelled = r.cancelled)
    (others : ∀ g, g ≠ f → next.queues g = r.queues g ∧ next.drains g = r.drains g)
    (own : r.stopped = false → r.cancelled = false → ∀ key active, r.active.lookup key = some active →
      Kept (r.queues f) (r.drains f) ⟨key,active.generation⟩ → Kept (next.queues f) (next.drains f) ⟨key,active.generation⟩) :
    Tracked next := by
  intro open' uncancelled key entry found g
  rw [stopped] at open'
  rw [cancelled] at uncancelled
  rw [active] at found
  have before := tracked open' uncancelled key entry found
  by_cases same : g = f
  · subst same
    exact own open' uncancelled key entry found (before g)
  · rw [(others g same).1,(others g same).2]
    exact before g

theorem tracked_enqueue (sound : Sound r) (tracked : Tracked r) (trigger : Trigger) : Tracked (r.enqueue trigger) := by
  unfold Runtime.enqueue
  split
  · intro open' uncancelled key active found f
    dsimp only at found
    by_cases same : key = triggerQueueKey trigger.executionID trigger.stageID
    · subst same
      rw [AList.lookup_insert] at found
      cases found
      exact Or.inl (push_has (sound f) (triggerQueueKey_ne_empty _ _))
    · rw [AList.lookup_insert_ne same] at found
      exact (tracked open' uncancelled key active found f).imp_left (push_keeps same)
  · exact tracked

theorem tracked_forget (tracked : Tracked r) (executionID stageID : String) : Tracked (r.forget executionID stageID) := by
  unfold Runtime.forget
  split
  · intro open' uncancelled key active found f
    dsimp only at found
    by_cases same : key = triggerQueueKey executionID stageID
    · rw [same,AList.lookup_erase] at found
      cases found
    · rw [AList.lookup_erase_ne same] at found
      exact tracked open' uncancelled key active found f
  · exact tracked

theorem setDrain_others (r : Runtime) (f : Frequency) (d : Drain) (g : Frequency) (other : g ≠ f) :
    (r.setDrain f d).queues g = r.queues g ∧ (r.setDrain f d).drains g = r.drains g :=
  ⟨rfl,Function.update_of_ne other ..⟩

theorem setDrain_self (r : Runtime) (f : Frequency) (d : Drain) : (r.setDrain f d).drains f = d :=
  Function.update_self ..

/-- An item that is not of its key's current generation is of no active key: the drain may pass it by. -/
theorem tracked_check (recorded : Recorded w) (tracked : Tracked w.runtime) (f : Frequency) : Tracked (w.runtime.check f) := by
  unfold Runtime.check
  split
  case h_1 at_end =>
    refine tracked_at f tracked rfl rfl rfl (setDrain_others _ f _) ?_
    intro _ _ key active found kept
    rw [at_end] at kept
    exact kept.imp_right (fun held => absurd held List.not_mem_nil)
  case h_2 item rest draining =>
    have passed : (∀ active, current w.runtime item = some active → False) →
        Tracked (w.runtime.setDrain f (.draining rest)) := by
      intro stale
      refine tracked_at f tracked rfl rfl rfl (setDrain_others _ f _) ?_
      intro open' _ key active found kept
      rw [setDrain_self]
      rw [draining] at kept
      refine kept.next ?_
      rintro rfl
      exact stale active (current_some.mpr ⟨open',found,rfl⟩)
    split
    case h_1 absent =>
      refine passed ?_
      intro active found
      rw [absent] at found
      cases found
    case h_2 active present =>
      have names := (recorded.named _ _ (current_some.mp present).2.1).2
      rw [if_neg (not_or.mpr names)]
      refine tracked_at f tracked rfl rfl rfl (setDrain_others _ f _) ?_
      intro _ _ key entry found kept
      rw [draining] at kept
      rw [setDrain_self]
      exact kept.imp_right List.mem_cons.mp
  case h_3 => exact tracked

theorem tracked_requeue (recorded : Recorded w) (sound : Sound w.runtime) (tracked : Tracked w.runtime) (f : Frequency) :
    Tracked (w.runtime.requeue f) := by
  unfold Runtime.requeue
  split
  case h_1 item rest running =>
    split
    case isTrue again =>
      obtain ⟨active,present⟩ := Option.isSome_iff_exists.mp (Bool.and_eq_true_iff.mp again).2
      obtain ⟨_,listed,generation⟩ := current_some.mp present
      refine tracked_at f tracked rfl rfl rfl ?_ ?_
      · intro g other
        exact ⟨Function.update_of_ne other ..,Function.update_of_ne other ..⟩
      intro _ _ key entry found kept
      rw [running] at kept
      dsimp only [Runtime.setDrain]
      rw [Function.update_self,Function.update_self]
      by_cases same : key = item.key
      · -- The queue takes the item's generation, which is the current one.
        subst same
        rw [listed] at found
        cases found
        rw [generation]
        exact Or.inl (push_has (sound f) (recorded.named _ _ listed).1)
      · rcases kept with has | held
        · exact Or.inl (push_keeps same has)
        · refine Or.inr (held.resolve_left ?_)
          rintro rfl
          exact same rfl
    case isFalse dropped =>
      refine tracked_at f tracked rfl rfl rfl (setDrain_others _ f _) ?_
      intro open' uncancelled key entry found kept
      rw [running] at kept
      rw [setDrain_self]
      refine kept.imp_right (fun held => held.resolve_left ?_)
      rintro rfl
      have present : current w.runtime ⟨key,entry.generation⟩ = some entry := current_some.mpr ⟨open',found,rfl⟩
      exact dropped (by rw [uncancelled,present]; rfl)
  case h_2 => exact tracked

theorem step_tracked (recorded : Recorded w) (sound : Sound w.runtime) (tracked : Tracked w.runtime) (s : Step) :
    Tracked (w.runtime.step s) := by
  cases s with
  | setTrigger installed => exact tracked
  | enqueue trigger => exact tracked_enqueue sound tracked trigger
  | forget executionID stageID => exact tracked_forget tracked executionID stageID
  | stop => exact fun open' => nomatch open'
  | cancel => exact fun _ uncancelled => nomatch uncancelled
  | deactivate =>
    simp only [Runtime.step]
    split
    · exact fun open' => nomatch open'
    · exact tracked
  | clear f =>
    simp only [Runtime.step]
    split
    · rename_i ended
      intro open'
      exact absurd (ended.symm.trans open') (by decide)
    · exact tracked
  | drain f =>
    simp only [Runtime.step]
    split
    case h_1 idle =>
      refine tracked_at f tracked rfl rfl rfl ?_ ?_
      · intro g other
        exact ⟨Function.update_of_ne other ..,Function.update_of_ne other ..⟩
      intro _ _ key active found kept
      rw [idle] at kept
      dsimp only [Runtime.setDrain]
      rw [Function.update_self,Function.update_self]
      exact kept.drain
    case h_2 => exact tracked
  | check f => exact tracked_check recorded tracked f
  | call f =>
    simp only [Runtime.step]
    split
    case h_1 item trigger callback rest dispatching =>
      split
      case isTrue ended =>
        intro _ uncancelled
        exact absurd (ended.symm.trans uncancelled) (by decide)
      case isFalse =>
        refine tracked_at f tracked rfl rfl rfl (setDrain_others _ f _) ?_
        intro _ _ key active found kept
        rw [dispatching] at kept
        rw [setDrain_self]
        exact kept
    case h_2 => exact tracked
  | requeue f => exact tracked_requeue recorded sound tracked f

structure Good (w : Watched) : Prop where
  recorded : Recorded w
  sound : Sound w.runtime
  tracked : Tracked w.runtime

theorem good_along (steps : List Step) : Good (run step start steps) := by
  refine run_keeps (fun w s good => ?_) ?_ steps
  · exact ⟨step_recorded good.recorded s,step_sound good.sound s,step_tracked good.recorded good.sound good.tracked s⟩
  · refine ⟨recorded_cleared rfl,fun _ => empty_sound,?_⟩
    intro _ _ key active found
    cases found

/-- An item goes to dispatch in the section that finds its key active with its generation. -/
theorem check_dispatching (after : (r.check f).drains g = .dispatching item trigger callback rest) :
    r.drains g = .dispatching item trigger callback rest ∨
      (g = f ∧ r.drains f = .draining (item :: rest) ∧
        ∃ active, current r item = some active ∧ trigger = { active.trigger with tickKind := f.kind }) := by
  by_cases same : g = f
  · subst same
    unfold Runtime.check at after
    split at after
    case h_1 => rw [setDrain_self] at after; cases after
    case h_2 first others draining =>
      split at after
      case h_1 => rw [setDrain_self] at after; cases after
      case h_2 active present =>
        split at after
        · rw [setDrain_self] at after
          cases after
        · rw [setDrain_self] at after
          cases after
          exact Or.inr ⟨rfl,draining,active,present,rfl⟩
    case h_3 => exact Or.inl after
  · refine Or.inl ?_
    unfold Runtime.check at after
    split at after
    · rwa [(setDrain_others _ f _ g same).2] at after
    · split at after
      · rwa [(setDrain_others _ f _ g same).2] at after
      · split at after <;> rwa [(setDrain_others _ f _ g same).2] at after
    · exact after

theorem setDrain_dispatching {d : Drain} (other : d ≠ .dispatching item trigger callback rest)
    (after : (r.setDrain f d).drains g = .dispatching item trigger callback rest) :
    r.drains g = .dispatching item trigger callback rest := by
  by_cases same : g = f
  · subst same
    rw [setDrain_self] at after
    exact absurd after other
  · rwa [(setDrain_others _ f _ g same).2] at after

theorem step_dispatching (after : (r.step s).drains f = .dispatching item trigger callback rest) :
    r.drains f = .dispatching item trigger callback rest ∨
      (s = .check f ∧ r.drains f = .draining (item :: rest) ∧
        ∃ active, current r item = some active ∧ trigger = { active.trigger with tickKind := f.kind }) := by
  cases s with
  | setTrigger installed => exact Or.inl after
  | enqueue asked =>
    simp only [Runtime.step,Runtime.enqueue] at after
    split at after <;> exact Or.inl after
  | forget executionID stageID =>
    simp only [Runtime.step,Runtime.forget] at after
    split at after <;> exact Or.inl after
  | stop => exact Or.inl after
  | cancel => exact Or.inl after
  | deactivate =>
    simp only [Runtime.step] at after
    split at after <;> exact Or.inl after
  | clear g =>
    simp only [Runtime.step] at after
    split at after <;> exact Or.inl after
  | drain g =>
    simp only [Runtime.step] at after
    split at after
    · exact Or.inl (setDrain_dispatching (by simp) after)
    · exact Or.inl after
  | check g =>
    rcases check_dispatching after with kept | ⟨rfl,taken⟩
    · exact Or.inl kept
    · exact Or.inr ⟨rfl,taken⟩
  | call g =>
    simp only [Runtime.step] at after
    split at after
    · split at after <;> exact Or.inl (setDrain_dispatching (by simp) after)
    · exact Or.inl after
  | requeue g =>
    simp only [Runtime.step,Runtime.requeue] at after
    split at after
    · split at after <;> exact Or.inl (setDrain_dispatching (by simp) after)
    · exact Or.inl after

theorem step_leaves (leaves : Leaves key s) :
    (step w s).runtime.active.lookup key = w.runtime.active.lookup key ∧ (step w s).asked key = w.asked key := by
  cases s with
  | setTrigger installed => exact ⟨rfl,rfl⟩
  | enqueue trigger =>
    have other : key ≠ triggerQueueKey trigger.executionID trigger.stageID := Ne.symm leaves
    simp only [step,Runtime.step,Runtime.enqueue]
    split
    · exact ⟨AList.lookup_insert_ne other,Function.update_of_ne other ..⟩
    · exact ⟨rfl,rfl⟩
  | forget executionID stageID =>
    have other : key ≠ triggerQueueKey executionID stageID := Ne.symm leaves
    simp only [step,Runtime.step,Runtime.forget]
    split
    · exact ⟨AList.lookup_erase_ne other,Function.update_of_ne other ..⟩
    · exact ⟨rfl,rfl⟩
  | stop => exact leaves.elim
  | cancel => exact ⟨rfl,rfl⟩
  | deactivate => exact leaves.elim
  | clear f =>
    refine ⟨?_,rfl⟩
    simp only [step,Runtime.step]
    split <;> rfl
  | drain f =>
    refine ⟨?_,rfl⟩
    simp only [step,Runtime.step]
    split <;> rfl
  | check f => exact ⟨by rw [show (step w (.check f)).runtime.active = _ from check_active w.runtime f],rfl⟩
  | call f =>
    refine ⟨?_,rfl⟩
    simp only [step,Runtime.step]
    split
    · split <;> rfl
    · rfl
  | requeue f => exact ⟨by rw [show (step w (.requeue f)).runtime.active = _ from requeue_active w.runtime f],rfl⟩

theorem Current.leaves (current : Current w f key trigger) (leaves : Leaves key s) : Current (step w s) f key trigger := by
  obtain ⟨entry,calls⟩ := step_leaves (w := w) leaves
  unfold Current
  rw [entry,calls]
  exact current

theorem Recorded.current (recorded : Recorded w) (present : current w.runtime item = some active) :
    Current w f item.key { active.trigger with tickKind := f.kind } := by
  obtain ⟨_,listed,_⟩ := current_some.mp present
  refine ⟨by rw [listed]; rfl,active.trigger,?_,rfl⟩
  rw [← recorded.merged,listed]
  rfl

/-- The run has a section of the drain, the last one before its end, that took the item and read the trigger from a
    key that was current there; and it still is where every step since has left the key alone. -/
def Read (steps : List Step) (f : Frequency) (item : QueueItem) (trigger : Trigger) (callback : Bool)
    (rest : List QueueItem) : Prop :=
  ∃ before after, steps = before ++ .check f :: after ∧
    (run step start before).runtime.drains f = .draining (item :: rest) ∧
    Current (run step start before) f item.key trigger ∧
    (∀ since left, after = since ++ left →
      (run step start (before ++ .check f :: since)).runtime.drains f = .dispatching item trigger callback rest) ∧
    ((∀ s ∈ after, Leaves item.key s) → Current (run step start steps) f item.key trigger)

theorem run_concat (w : Watched) (steps : List Step) (s : Step) :
    run step w (steps ++ [s]) = step (run step w steps) s := run_append w steps [s]

theorem Read.concat {steps : List Step} (read : Read steps f item trigger callback rest)
    (kept : (run step start (steps ++ [s])).runtime.drains f = .dispatching item trigger callback rest) :
    Read (steps ++ [s]) f item trigger callback rest := by
  obtain ⟨before,after,rfl,taken,current,waiting,undisturbed⟩ := read
  refine ⟨before,after ++ [s],by simp,taken,current,?_,?_⟩
  · intro since left split
    rcases List.eq_nil_or_concat left with rfl | ⟨earlier,last,rfl⟩
    · rw [List.append_nil] at split
      subst split
      simpa using kept
    · rw [List.concat_eq_append,← List.append_assoc] at split
      exact waiting since earlier (List.append_inj_left' split rfl)
  · intro leaves
    rw [run_concat]
    refine (undisturbed ?_).leaves (leaves s (by simp))
    intro other listed
    exact leaves other (List.mem_append_left _ listed)

theorem dispatching_read (steps : List Step) : ∀ f item trigger callback rest,
    (run step start steps).runtime.drains f = .dispatching item trigger callback rest →
      Read steps f item trigger callback rest := by
  induction steps using List.reverseRecOn with
  | nil =>
    intro f item trigger callback rest dispatching
    cases dispatching
  | append_singleton steps s ih =>
    intro f item trigger callback rest dispatching
    have last := dispatching
    rw [run_concat] at last
    rcases step_dispatching last with kept | ⟨rfl,taken,active,present,rfl⟩
    · exact (ih f item trigger callback rest kept).concat dispatching
    · -- The section has just read the trigger: no step has come since.
      have current := (good_along steps).recorded.current present (f := f)
      refine ⟨steps,[],rfl,taken,current,?_,?_⟩
      · intro since left split
        obtain ⟨rfl,rfl⟩ := List.append_eq_nil_iff.mp split.symm
        exact dispatching
      · intro _
        rw [run_concat]
        exact current.leaves (s := .check f) trivial

/-- In every run: each active key is queued or held for each frequency with its current generation until the runtime
    ends, and every callback that starts has the trigger that the last section of its drain read. -/
theorem ticks_along (steps : List Step) :
    Tracked (run step start steps).runtime ∧
      ∀ f key trigger, starts (run step start steps).runtime f = some (key,trigger) →
        ∃ item rest, item.key = key ∧ Read steps f item trigger true rest := by
  refine ⟨(good_along steps).tracked,?_⟩
  intro f key trigger started
  unfold starts at started
  split at started
  case h_1 item read rest dispatching =>
    split at started
    · cases started
    · cases started
      exact ⟨item,rest,rfl,dispatching_read steps f item _ true rest dispatching⟩
  case h_2 => cases started

/-- A trigger for the stage `s` of the execution `e`. -/
def asking (cause : String) (revision : UInt64) : Trigger := ⟨"e","s",.unknown,cause,revision,none,false⟩

/-- Two calls for one key, merged; then the fast drain takes the key. -/
def takingTwice : List Step :=
  [.setTrigger true,.enqueue (asking "a" 1),.enqueue (asking "b" 2),.drain .fast,.check .fast]

theorem ticks_along_twice :
    starts (run step start takingTwice).runtime .fast =
        some ("1:es",{ mergeTrigger (asking "a" 1) (asking "b" 2) with tickKind := .fast }) ∧
      ∃ item rest, item.key = "1:es" ∧
        Read takingTwice .fast item { mergeTrigger (asking "a" 1) (asking "b" 2) with tickKind := .fast } true rest :=
  ⟨by rfl,(ticks_along takingTwice).2 .fast "1:es" _ (by rfl)⟩

/-- The key is forgotten after the drain has read its trigger; the callback starts all the same. -/
theorem forgotten_key_starts :
    starts (run step start (takingTwice ++ [.forget "e" "s"])).runtime .fast =
        some ("1:es",{ mergeTrigger (asking "a" 1) (asking "b" 2) with tickKind := .fast }) ∧
      (run step start (takingTwice ++ [.forget "e" "s"])).runtime.active.lookup "1:es" = none ∧
      ¬ ∀ steps f key trigger, starts (run step start steps).runtime f = some (key,trigger) →
        Current (run step start steps) f key trigger := by
  have started : starts (run step start (takingTwice ++ [.forget "e" "s"])).runtime .fast =
      some ("1:es",{ mergeTrigger (asking "a" 1) (asking "b" 2) with tickKind := .fast }) := by rfl
  have forgotten : (run step start (takingTwice ++ [.forget "e" "s"])).runtime.active.lookup "1:es" = none := by rfl
  refine ⟨started,forgotten,?_⟩
  intro always
  have active := (always _ _ _ _ started).1
  rw [forgotten] at active
  cases active

end TgsRl.Ticks
