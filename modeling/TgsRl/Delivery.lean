import TgsRl.Loops
import TgsRl.Projection

/-!
Sandbox events as they are delivered: late, repeated or out of order. An event that the cursor
refuses changes nothing (`deliver_refused`); an event it accepts is what the projection and the
cursor show afterwards (`deliver_accepted`).
-/
namespace TgsRl.Delivery
open Resources Messages State Loops Projection

variable {F : Type}

def sandboxOf (s : Store F) (sandboxID : String) : Option (Sandbox F) := s.providerProjection.sandboxes.lookup sandboxID

def cursorOf (s : Store F) (sandboxID : String) : Option ProviderSandboxCursor :=
  s.providerProjection.sandboxCursors.lookup sandboxID

/-- The event names a sandbox, and its time is absent or valid. -/
def WellFormed (event : SandboxEvent F) : Prop :=
  event.sandboxId ≠ "" ∧ (event.occurredAt.map Timestamp.valid).getD true = true

/-- A cursor lets an event of its sandbox pass. -/
def passes (current : ProviderSandboxCursor) (sandbox : Option (Sandbox F)) (event : SandboxEvent F) : Bool :=
  !decide (event.generation < current.generation) && !duplicateSandboxEvent current event &&
    (decide (event.generation ≠ current.generation) || acceptSameGenerationSandboxEvent current sandbox event)

/-- The Store takes the event for news of its sandbox. -/
def accepts (s : Store F) (event : SandboxEvent F) : Bool :=
  match cursorOf s event.sandboxId with
  | none => true
  | some current => passes current (sandboxOf s event.sandboxId) event

theorem acceptSandboxCursor_eq (s : Store F) (event : SandboxEvent F) :
    acceptSandboxCursor s.providerProjection (sandboxOf s event.sandboxId) event =
      if accepts s event then some { s.providerProjection with
        sandboxCursors := s.providerProjection.sandboxCursors.insert event.sandboxId
          (nextSandboxCursor (cursorOf s event.sandboxId) event) }
      else none := by
  unfold acceptSandboxCursor accepts cursorOf
  dsimp only
  cases s.providerProjection.sandboxCursors.lookup event.sandboxId with
  | none => rfl
  | some current =>
    by_cases older : event.generation < current.generation
    · simp [passes,older]
    · by_cases repeated : duplicateSandboxEvent current event = true
      · simp [passes,older,repeated]
      · by_cases same : event.generation = current.generation
        · cases news : acceptSameGenerationSandboxEvent current (sandboxOf s event.sandboxId) event with
          | false => simp [passes,repeated,same,news]
          | true => simp [passes,repeated,same,news]
        · simp [passes,older,repeated,same]

abbrev Delivered (F : Type) := SandboxEvent F × Int

variable [Platform F] [DecidableEq F]

def deliver (s : Store F) (delivery : Delivered F) : Store F := (applyProviderSandboxEvent s delivery.1 delivery.2).1

variable {s : Store F} {delivery : Delivered F} {sandboxID : String}

theorem deliver_refused (refused : accepts s delivery.1 = false) : deliver s delivery = s := by
  have closed := acceptSandboxCursor_eq s delivery.1
  simp only [refused,Bool.false_eq_true,if_false] at closed
  unfold deliver applyProviderSandboxEvent
  split
  · rfl
  split
  · rfl
  · rw [show s.providerProjection.sandboxes.lookup delivery.1.sandboxId = sandboxOf s delivery.1.sandboxId from rfl]
    simp only [closed]

theorem deliver_malformed (malformed : ¬ WellFormed delivery.1) : deliver s delivery = s := by
  unfold deliver applyProviderSandboxEvent
  split
  · rfl
  rename_i named
  split
  · rfl
  · rename_i timed
    exact absurd ⟨named,by simpa using timed⟩ malformed

/-- The sandbox an accepted event leaves. -/
def sandboxAfter (s : Store F) (event : SandboxEvent F) (now : Int) : Sandbox F :=
  stampSandboxConfirmation (sandboxOf s event.sandboxId)
    (match sandboxOf s event.sandboxId with
      | none => sandboxOfEvent event
      | some current => mergeSandboxEvent current event) now

omit [DecidableEq F] in
theorem sandboxAfter_generation (s : Store F) (event : SandboxEvent F) (now : Int) :
    (sandboxAfter s event now).generation = event.generation := by
  unfold sandboxAfter
  cases sandboxOf s event.sandboxId <;> rfl

omit [DecidableEq F] in
theorem sandboxAfter_state (s : Store F) (event : SandboxEvent F) (now : Int) :
    (sandboxAfter s event now).state = event.state := by
  unfold sandboxAfter
  cases sandboxOf s event.sandboxId <;> rfl

/-- The projection after an accepted delivery: its sandbox and its cursor are new, all others stay. -/
theorem deliver_accepted (formed : WellFormed delivery.1) (accepted : accepts s delivery.1 = true) (sandboxID : String) :
    (sandboxOf (deliver s delivery) sandboxID = if sandboxID = delivery.1.sandboxId then
        some (sandboxAfter s delivery.1 delivery.2) else sandboxOf s sandboxID) ∧
      cursorOf (deliver s delivery) sandboxID = if sandboxID = delivery.1.sandboxId then
        some (nextSandboxCursor (cursorOf s delivery.1.sandboxId) delivery.1) else cursorOf s sandboxID := by
  obtain ⟨event,now⟩ := delivery
  have opened := acceptSandboxCursor_eq s event
  rw [if_pos accepted] at opened
  obtain ⟨named,timed⟩ := formed
  unfold deliver applyProviderSandboxEvent sandboxAfter
  dsimp only at *
  rw [if_neg named,if_neg (by simp [timed]),
    show s.providerProjection.sandboxes.lookup event.sandboxId = sandboxOf s event.sandboxId from rfl,opened]
  dsimp only
  generalize stampSandboxConfirmation (sandboxOf s event.sandboxId) _ now = next
  by_cases here : sandboxID = event.sandboxId
  · subst here
    rw [if_pos rfl,if_pos rfl]
    split
    · exact ⟨AList.lookup_insert _,AList.lookup_insert _⟩
    split
    · rename_i unchanged
      exact ⟨unchanged,AList.lookup_insert _⟩
    · exact ⟨AList.lookup_insert _,AList.lookup_insert _⟩
  · rw [if_neg here,if_neg here]
    split
    · exact ⟨AList.lookup_insert_ne here,AList.lookup_insert_ne here⟩
    split
    · exact ⟨rfl,AList.lookup_insert_ne here⟩
    · exact ⟨AList.lookup_insert_ne here,AList.lookup_insert_ne here⟩

theorem deliver_other (other : delivery.1.sandboxId ≠ sandboxID) :
    sandboxOf (deliver s delivery) sandboxID = sandboxOf s sandboxID ∧
      cursorOf (deliver s delivery) sandboxID = cursorOf s sandboxID := by
  by_cases formed : WellFormed delivery.1
  · cases accepted : accepts s delivery.1 with
    | false =>
      rw [deliver_refused accepted]
      exact ⟨rfl,rfl⟩
    | true =>
      obtain ⟨sandbox,cursor⟩ := deliver_accepted formed accepted sandboxID
      rw [if_neg (Ne.symm other)] at sandbox cursor
      exact ⟨sandbox,cursor⟩
  · rw [deliver_malformed formed]
    exact ⟨rfl,rfl⟩

/-- The first event is not newer than the second: by generation, then by provider revision. -/
def notNewer (event other : SandboxEvent F) : Prop :=
  event.generation < other.generation ∨
    event.generation = other.generation ∧ event.providerRevision ≤ other.providerRevision

instance (event other : SandboxEvent F) : Decidable (notNewer event other) := inferInstanceAs (Decidable (_ ∨ _ ∧ _))

/-- Well-formed events of one sandbox that differ in their names and in their place in the order. -/
structure Sortable (sandboxID : String) (events : List (SandboxEvent F)) : Prop where
  named : ∀ event ∈ events, event.sandboxId = sandboxID
  formed : ∀ event ∈ events, WellFormed event
  identified : ∀ event ∈ events, event.eventId ≠ ""
  positive : ∀ event ∈ events, 0 < event.providerRevision
  distinct : ∀ event ∈ events, ∀ other ∈ events, event.eventId = other.eventId → event = other
  ordered : ∀ event ∈ events, ∀ other ∈ events, event.generation = other.generation →
    event.providerRevision = other.providerRevision → event = other

/-- The projection and the cursor show the newest of the events delivered so far. -/
structure Newest (sandboxID : String) (events : List (SandboxEvent F)) (s : Store F) (event : SandboxEvent F) : Prop where
  member : event ∈ events
  newest : ∀ other ∈ events, notNewer other event
  sandbox : ∃ sandbox, sandboxOf s sandboxID = some sandbox ∧ sandbox.generation = event.generation ∧
    sandbox.state = event.state
  cursor : ∃ cursor, cursorOf s sandboxID = some cursor ∧ cursor.generation = event.generation ∧
    cursor.providerRevision = event.providerRevision ∧ cursor.eventID = event.eventId ∧
    ∀ name ∈ cursor.seenEventIDs, ∃ seen ∈ events, seen.eventId = name

section Order
omit [Platform F] [DecidableEq F]

theorem notNewer_refl (event : SandboxEvent F) : notNewer event event := Or.inr ⟨rfl,UInt64.le_refl _⟩

variable {first second event : SandboxEvent F} {name : String} {current : Option ProviderSandboxCursor}

theorem notNewer_trans {third : SandboxEvent F} (lower : notNewer first second) (upper : notNewer second third) :
    notNewer first third := by
  unfold notNewer at *
  rw [UInt64.lt_iff_toNat_lt,← UInt64.toNat_inj,UInt64.le_iff_toNat_le] at *
  omega

theorem notNewer_antisymm (lower : notNewer first second) (upper : notNewer second first) :
    first.generation = second.generation ∧ first.providerRevision = second.providerRevision := by
  unfold notNewer at *
  rw [UInt64.lt_iff_toNat_lt,← UInt64.toNat_inj,UInt64.le_iff_toNat_le] at *
  rw [← UInt64.toNat_inj]
  omega

/-- Between positive revisions of one generation the cursor follows the revisions. -/
theorem acceptSame_revisions {current : ProviderSandboxCursor} {sandbox : Option (Sandbox F)} {event : SandboxEvent F}
    (known : 0 < current.providerRevision) (positive : 0 < event.providerRevision) :
    (acceptSameGenerationSandboxEvent current sandbox event = true → current.providerRevision ≤ event.providerRevision) ∧
      (acceptSameGenerationSandboxEvent current sandbox event = false →
        event.providerRevision ≤ current.providerRevision) := by
  have nonzero : current.providerRevision ≠ 0 := (UInt64.ne_of_lt known).symm
  unfold acceptSameGenerationSandboxEvent
  simp only [gt_iff_lt,positive,if_true,nonzero,if_false]
  split
  · rename_i smaller
    exact ⟨fun taken => (by cases taken),fun _ => UInt64.le_of_lt smaller⟩
  · rename_i notSmaller
    split
    · rename_i greater
      exact ⟨fun _ => UInt64.le_of_lt greater,fun refused => by cases refused⟩
    · rename_i notGreater
      exact ⟨fun _ => UInt64.not_lt.mp notSmaller,fun _ => UInt64.not_lt.mp notGreater⟩

theorem mem_rememberName {other : String} {seen : List String} (member : other ∈ rememberName name seen) :
    other = name ∨ other ∈ seen := by
  unfold rememberName at member
  split at member
  · exact Or.inr member
  rcases List.mem_append.mp member with old | new
  · exact Or.inr old
  · exact Or.inl (List.mem_singleton.mp new)

theorem seen_nextSandboxCursor (member : name ∈ (nextSandboxCursor current event).seenEventIDs) :
    name = event.eventId ∨ ∃ cursor, current = some cursor ∧ name ∈ cursor.seenEventIDs := by
  rcases mem_rememberName member with new | old
  · exact Or.inl new
  · right
    cases current with
    | none => cases old
    | some cursor =>
      refine ⟨cursor,rfl,?_⟩
      by_cases same : event.generation = cursor.generation
      · simpa [Option.filter,same] using old
      · simp [Option.filter,same] at old

theorem revision_nextSandboxCursor (positive : 0 < event.providerRevision) :
    (nextSandboxCursor current event).providerRevision = event.providerRevision := by
  have nonzero : event.providerRevision ≠ 0 := (UInt64.ne_of_lt positive).symm
  unfold nextSandboxCursor rememberSandboxCursorIdentity
  simp only [nonzero,if_false]
  split <;> rfl

end Order

variable {events before : List (SandboxEvent F)}

theorem newest_of_accepted (sortable : Sortable sandboxID events) (member : delivery.1 ∈ events)
    (accepted : accepts s delivery.1 = true) (older : ∀ other ∈ before, notNewer other delivery.1)
    (seen : ∀ cursor, cursorOf s sandboxID = some cursor → ∀ name ∈ cursor.seenEventIDs, ∃ seen ∈ before, seen.eventId = name) :
    Newest sandboxID (before ++ [delivery.1]) (deliver s delivery) delivery.1 := by
  have formed := sortable.formed _ member
  have named := sortable.named _ member
  obtain ⟨projected,moved⟩ := deliver_accepted formed accepted sandboxID
  rw [if_pos named.symm] at projected moved
  refine ⟨by simp,?_,⟨_,projected,sandboxAfter_generation ..,sandboxAfter_state ..⟩,⟨_,moved,rfl,
    revision_nextSandboxCursor (sortable.positive _ member),rfl,?_⟩⟩
  · intro other known
    rcases List.mem_append.mp known with old | new
    · exact older other old
    · rw [List.mem_singleton.mp new]
      exact notNewer_refl _
  · intro name kept
    rcases seen_nextSandboxCursor kept with new | ⟨cursor,found,old⟩
    · exact ⟨delivery.1,by simp,new.symm⟩
    · obtain ⟨earlier,known,same⟩ := seen cursor (named ▸ found) name old
      exact ⟨earlier,by simp [known],same⟩

theorem newest_deliver {last : SandboxEvent F} (sortable : Sortable sandboxID events)
    (subset : ∀ event ∈ before, event ∈ events) (member : delivery.1 ∈ events) (shown : Newest sandboxID before s last) :
    ∃ next, Newest sandboxID (before ++ [delivery.1]) (deliver s delivery) next := by
  obtain ⟨cursor,found,generation,revision,identity,seen⟩ := shown.cursor
  have named := sortable.named _ member
  have positive := sortable.positive _ member
  have known : 0 < cursor.providerRevision := by
    rw [revision]
    exact sortable.positive _ (subset _ shown.member)
  have verdict : accepts s delivery.1 = passes cursor (sandboxOf s sandboxID) delivery.1 := by
    unfold accepts
    rw [named,found]
  have ranked := @acceptSame_revisions _ _ (sandboxOf s sandboxID) _ known positive
  cases accepted : accepts s delivery.1 with
  | false =>
    rw [verdict] at accepted
    rw [deliver_refused (verdict.trans accepted)]
    refine ⟨last,by simp [shown.member],?_,shown.sandbox,⟨cursor,found,generation,revision,identity,?_⟩⟩
    · have old : notNewer delivery.1 last := by
        by_cases older : delivery.1.generation < cursor.generation
        · exact Or.inl (generation ▸ older)
        · by_cases repeated : duplicateSandboxEvent cursor delivery.1 = true
          · -- The event has been delivered before: it is among those the newest is compared with.
            have earlier : ∃ event ∈ before, event.eventId = delivery.1.eventId := by
              have identified := sortable.identified _ member
              simp only [duplicateSandboxEvent,ne_eq,identified,not_false_eq_true,if_true,Bool.or_eq_true,
                decide_eq_true_eq,List.contains_iff_mem] at repeated
              rcases repeated with here | there
              · exact ⟨last,shown.member,by rw [here,identity]⟩
              · exact seen _ there
            obtain ⟨event,held,same⟩ := earlier
            rw [← sortable.distinct _ (subset _ held) _ member same]
            exact shown.newest event held
          · have refused : delivery.1.generation = cursor.generation ∧
                acceptSameGenerationSandboxEvent cursor (sandboxOf s sandboxID) delivery.1 = false := by
              simpa [passes,older,repeated] using accepted
            exact Or.inr ⟨refused.1.trans generation,revision ▸ ranked.2 refused.2⟩
      intro other held
      rcases List.mem_append.mp held with earlier | new
      · exact shown.newest other earlier
      · rw [List.mem_singleton.mp new]
        exact old
    · intro name kept
      obtain ⟨event,held,same⟩ := seen name kept
      exact ⟨event,by simp [held],same⟩
  | true =>
    refine ⟨delivery.1,newest_of_accepted sortable member accepted ?_ ?_⟩
    · rw [verdict] at accepted
      simp only [passes,Bool.and_eq_true,Bool.not_eq_true',decide_eq_false_iff_not,Bool.or_eq_true,
        decide_eq_true_eq] at accepted
      obtain ⟨⟨notOlder,_⟩,rest⟩ := accepted
      have newer : notNewer last delivery.1 := by
        by_cases same : delivery.1.generation = cursor.generation
        · have taken := rest.resolve_left (not_not_intro same)
          exact Or.inr ⟨by rw [same,generation],revision ▸ ranked.1 taken⟩
        · left
          rw [← generation]
          exact UInt64.lt_of_le_of_ne (UInt64.not_lt.mp notOlder) (Ne.symm same)
      intro other held
      exact notNewer_trans (shown.newest other held) newer
    · intro other there
      rw [found] at there
      cases there
      exact seen

/-- Whatever the order of delivery and however often each event is repeated, the projection and the
    cursor show the newest event. -/
theorem delivered_greatest (s : Store F) (sandboxID : String) (unseen : cursorOf s sandboxID = none)
    (deliveries : List (Delivered F)) (sortable : Sortable sandboxID (deliveries.map Prod.fst))
    (top : SandboxEvent F) (delivered : top ∈ deliveries.map Prod.fst)
    (greatest : ∀ event ∈ deliveries.map Prod.fst, notNewer event top) :
    ∃ sandbox cursor, sandboxOf (run deliver s deliveries) sandboxID = some sandbox ∧
      cursorOf (run deliver s deliveries) sandboxID = some cursor ∧
      sandbox.generation = top.generation ∧ sandbox.state = top.state ∧
      cursor.generation = top.generation ∧ cursor.providerRevision = top.providerRevision := by
  have shown : (deliveries = [] ∧ cursorOf (run deliver s deliveries) sandboxID = none) ∨
      ∃ last, Newest sandboxID (deliveries.map Prod.fst) (run deliver s deliveries) last := by
    refine run_prefix (P := fun before s => (before = [] ∧ cursorOf s sandboxID = none) ∨
      ∃ last, Newest sandboxID (before.map Prod.fst) s last) (Or.inl ⟨rfl,unseen⟩) ?_
    intro before s delivery member subset known
    right
    have listed : delivery.1 ∈ deliveries.map Prod.fst := List.mem_map_of_mem member
    rw [List.map_append,List.map_singleton]
    rcases known with ⟨first,fresh⟩ | ⟨last,shown⟩
    · have accepted : accepts s delivery.1 = true := by
        unfold accepts
        rw [sortable.named _ listed,fresh]
      refine ⟨delivery.1,newest_of_accepted sortable listed accepted ?_ ?_⟩
      · intro other held
        rw [first] at held
        cases held
      · intro cursor found
        rw [fresh] at found
        cases found
    · refine newest_deliver sortable ?_ listed shown
      intro event held
      obtain ⟨earlier,known,rfl⟩ := List.mem_map.mp held
      exact List.mem_map_of_mem (subset earlier known)
  rcases shown with ⟨none,_⟩ | ⟨last,shown⟩
  · rw [none] at delivered
    cases delivered
  · have level := notNewer_antisymm (greatest last shown.member) (shown.newest top delivered)
    have same : last = top := sortable.ordered _ shown.member _ delivered level.1 level.2
    subst same
    obtain ⟨sandbox,projected,generation,state⟩ := shown.sandbox
    obtain ⟨cursor,found,at_,revision,_⟩ := shown.cursor
    exact ⟨sandbox,cursor,projected,found,generation,state,at_,revision⟩

/-- An event about the sandbox "x", in its first generation. -/
def reported (eventID : String) (state : RuntimeState) (revision : UInt64) : SandboxEvent Int :=
  { (default : SandboxEvent Int) with
    eventId := eventID
    sandboxId := "x"
    generation := 1
    state
    providerRevision := revision }

/-- A late event between two deliveries of a newer one. -/
theorem delivered_greatest_late : ∃ sandbox cursor,
    sandboxOf (run deliver (newStore default)
      [(reported "b" .paused 2,0),(reported "a" .running 1,1),(reported "b" .paused 2,2)]) "x" = some sandbox ∧
    cursorOf (run deliver (newStore default)
      [(reported "b" .paused 2,0),(reported "a" .running 1,1),(reported "b" .paused 2,2)]) "x" = some cursor ∧
    sandbox.generation = 1 ∧ sandbox.state = .paused ∧ cursor.generation = 1 ∧ cursor.providerRevision = 2 := by
  have formed : ∀ event ∈ [reported "b" .paused 2,reported "a" .running 1,reported "b" .paused 2],
      event.sandboxId ≠ "" ∧ (event.occurredAt.map Timestamp.valid).getD true = true := by decide
  refine delivered_greatest (newStore default) "x" rfl
    [(reported "b" .paused 2,0),(reported "a" .running 1,1),(reported "b" .paused 2,2)]
    ⟨by decide,formed,by decide,by decide,by decide,by decide⟩ (reported "b" .paused 2) (by decide) (by decide)

/-- An event whose time is malformed is refused, and the older event stays what the projection shows. -/
theorem malformed_time_refused :
    let broken := { reported "b" .terminated 2 with occurredAt := some ⟨0,-1⟩ }
    let events := [reported "a" .running 1,broken]
    (∀ event ∈ events, event.sandboxId = "x" ∧ event.eventId ≠ "" ∧ 0 < event.generation ∧ 0 < event.providerRevision) ∧
      (∀ event ∈ events, ∀ other ∈ events, event.eventId = other.eventId → event = other) ∧
      (∀ event ∈ events, ∀ other ∈ events, event.generation = other.generation →
        event.providerRevision = other.providerRevision → event = other) ∧
      (∀ event ∈ events, notNewer event broken) ∧
      (applyProviderSandboxEvent (newStore default) broken 0).2.2 =
        some (.new "state: sandbox event has invalid occurred_at") ∧
      (sandboxOf (run deliver (newStore default) [(reported "a" .running 1,0),(broken,1)]) "x").map Sandbox.state =
        some .running ∧
      (cursorOf (run deliver (newStore default) [(reported "a" .running 1,0),(broken,1)]) "x").map
        ProviderSandboxCursor.providerRevision = some 1 := by
  decide

end TgsRl.Delivery
