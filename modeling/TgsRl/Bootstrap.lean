import TgsRl.Delivery

/-!
Authoritative lists of sandboxes against late events. A list gives a new sandbox or generation no
revision, so any late event overturns it, and an event with a greater revision brings a dropped
sandbox back.
-/
namespace TgsRl.Bootstrap
open Resources Messages State Loops Projection Delivery

variable {F : Type}

def listed (sandboxes : List (Sandbox F)) (sandboxID : String) : Option (Sandbox F) :=
  Keyed.find Sandbox.sandboxId sandboxID sandboxes.reverse

theorem listed_append (before : List (Sandbox F)) (sandbox : Sandbox F) (sandboxID : String) :
    listed (before ++ [sandbox]) sandboxID =
      if sandbox.sandboxId = sandboxID then some sandbox else listed before sandboxID := by
  unfold listed
  rw [List.reverse_append,List.reverse_singleton,List.singleton_append,Keyed.find_cons]

/-- What the index holds under a name once the entries before have been read. -/
def Indexed (projected : ProviderProjectionState F) (confirmedAt : Int) (sandboxID : String)
    (before : List (Sandbox F)) (index : SandboxIndex F) : Prop :=
  match listed before sandboxID with
  | none => index.sandboxes.lookup sandboxID = none ∧
      index.cursors.lookup sandboxID = projected.sandboxCursors.lookup sandboxID
  | some sandbox => bootstrapTakes projected sandbox = true →
      index.sandboxes.lookup sandboxID = some (stampSandboxConfirmation (projected.sandboxes.lookup sandboxID)
        (mergeDurableSandboxDisposition (projected.sandboxes.lookup sandboxID) sandbox) confirmedAt) ∧
      index.cursors.lookup sandboxID = some (bootstrappedCursor (bootstrapCursor projected sandboxID) sandbox)

variable {projected : ProviderProjectionState F} {sandboxID : String} {sandboxes : List (Sandbox F)} {s after : Store F}
  {now confirmedAt : Int} {changed : Bool} {cursor : ProviderSandboxCursor} {index : SandboxIndex F} {sandbox : Sandbox F}
  {event : SandboxEvent F}

theorem indexSandbox_indexed {before : List (Sandbox F)} {next : SandboxIndex F}
    (known : Indexed projected confirmedAt sandboxID before index)
    (read : indexSandbox projected confirmedAt index sandbox = .ok next) :
    Indexed projected confirmedAt sandboxID (before ++ [sandbox]) next := by
  simp only [indexSandbox] at read
  split at read
  · cases read
  split at read
  · cases read
  by_cases here : sandbox.sandboxId = sandboxID
  · simp only [Indexed,listed_append,here,if_true]
    intro taken
    rw [if_neg (by simp [taken])] at read
    cases read
    rw [here]
    exact ⟨AList.lookup_insert _,AList.lookup_insert _⟩
  · -- An entry of another name leaves both maps alone at this one.
    have others : next.sandboxes.lookup sandboxID = index.sandboxes.lookup sandboxID ∧
        next.cursors.lookup sandboxID = index.cursors.lookup sandboxID := by
      have differs : sandboxID ≠ sandbox.sandboxId := fun same => here same.symm
      split at read
      · split at read
        · cases read
          exact ⟨rfl,rfl⟩
        · cases read
          exact ⟨AList.lookup_insert_ne differs,rfl⟩
      · cases read
        exact ⟨AList.lookup_insert_ne differs,AList.lookup_insert_ne differs⟩
    simp only [Indexed,listed_append,here,if_false] at known ⊢
    rw [others.1,others.2]
    exact known

theorem indexed_of_loop (sandboxID : String)
    (loop : sandboxes.foldlM (indexSandbox projected confirmedAt) ⟨∅,projected.sandboxCursors⟩ = .ok index) :
    Indexed projected confirmedAt sandboxID sandboxes index := by
  apply foldlM_prefix (P := Indexed projected confirmedAt sandboxID) _ _ loop
  · exact ⟨rfl,rfl⟩
  · intro before index sandbox next _ known read
    exact indexSandbox_indexed known read

variable [DecidableEq F]

theorem lookup_of_equalProjectedSandboxes {left right : Map String (Sandbox F)}
    (equal : equalProjectedSandboxes left right = true) (sandboxID : String) :
    left.lookup sandboxID = right.lookup sandboxID := by
  simp only [equalProjectedSandboxes,Bool.and_eq_true,decide_eq_true_eq,List.all_eq_true] at equal
  obtain ⟨size,within⟩ := equal
  cases found : left.lookup sandboxID with
  | some sandbox => exact (within _ (Map.mem_entries_iff.mpr found)).symm
  | none =>
    -- Both maps have as many keys, and every key on the left is on the right.
    have subset : left.keys ⊆ right.keys := by
      intro name member
      obtain ⟨sandbox,there⟩ := Option.isSome_iff_exists.mp (AList.lookup_isSome.mpr member)
      exact AList.lookup_isSome.mp (by rw [within _ (Map.mem_entries_iff.mpr there)]; rfl)
    have same : left.keys.Perm right.keys := by
      refine (List.subperm_of_subset left.nodupKeys subset).perm_of_length_le ?_
      simp only [AList.keys,List.keys,List.length_map]
      omega
    symm
    rw [AList.lookup_eq_none] at found ⊢
    intro member
    exact found (same.mem_iff.mpr member)

theorem replaceProjectedSandboxes_loop (replaced : replaceProjectedSandboxes s sandboxes now = .ok (after,changed)) :
    ∃ index, sandboxes.foldlM (indexSandbox s.providerProjection now) ⟨∅,s.providerProjection.sandboxCursors⟩ = .ok index ∧
      (∀ sandboxID, sandboxOf after sandboxID = index.sandboxes.lookup sandboxID) ∧
      after.providerProjection.sandboxCursors = index.cursors := by
  simp only [replaceProjectedSandboxes] at replaced
  cases loop : sandboxes.foldlM (indexSandbox s.providerProjection now) ⟨∅,s.providerProjection.sandboxCursors⟩ with
  | error err =>
    rw [loop] at replaced
    cases replaced
  | ok index =>
    rw [loop] at replaced
    refine ⟨index,rfl,?_⟩
    simp only [bind,Except.bind] at replaced
    split at replaced
    · rename_i equal
      cases replaced
      exact ⟨lookup_of_equalProjectedSandboxes equal,rfl⟩
    · cases replaced
      exact ⟨fun _ => rfl,rfl⟩

theorem replaceProjectedSandboxes_indexed (replaced : replaceProjectedSandboxes s sandboxes now = .ok (after,changed))
    (sandboxID : String) :
    ∃ index, Indexed s.providerProjection now sandboxID sandboxes index ∧
      sandboxOf after sandboxID = index.sandboxes.lookup sandboxID ∧
      cursorOf after sandboxID = index.cursors.lookup sandboxID := by
  obtain ⟨index,loop,shown,cursors⟩ := replaceProjectedSandboxes_loop replaced
  exact ⟨index,indexed_of_loop sandboxID loop,shown sandboxID,congrArg (AList.lookup sandboxID) cursors⟩

/-- A list leaves a cursor as it was or moves it to one of its entries. -/
theorem replaceProjectedSandboxes_cursor (replaced : replaceProjectedSandboxes s sandboxes now = .ok (after,changed))
    (sandboxID : String) :
    cursorOf after sandboxID = cursorOf s sandboxID ∨ ∃ sandbox, bootstrapTakes s.providerProjection sandbox = true ∧
      sandbox.sandboxId = sandboxID ∧ cursorOf after sandboxID =
        some (bootstrappedCursor (bootstrapCursor s.providerProjection sandboxID) sandbox) := by
  obtain ⟨index,loop,_,cursors⟩ := replaceProjectedSandboxes_loop replaced
  have moved : index.cursors.lookup sandboxID = cursorOf s sandboxID ∨
      ∃ sandbox, bootstrapTakes s.providerProjection sandbox = true ∧ sandbox.sandboxId = sandboxID ∧
        index.cursors.lookup sandboxID =
          some (bootstrappedCursor (bootstrapCursor s.providerProjection sandboxID) sandbox) := by
    refine foldlM_keeps (P := fun index => index.cursors.lookup sandboxID = cursorOf s sandboxID ∨
      ∃ sandbox, bootstrapTakes s.providerProjection sandbox = true ∧ sandbox.sandboxId = sandboxID ∧
        index.cursors.lookup sandboxID =
          some (bootstrappedCursor (bootstrapCursor s.providerProjection sandboxID) sandbox)) (Or.inl rfl) ?_ loop
    intro index sandbox next _ known read
    simp only [indexSandbox] at read
    split at read
    · cases read
    split at read
    · cases read
    split at read
    · split at read
      · cases read
        exact known
      · cases read
        exact known
    · rename_i taken
      cases read
      by_cases here : sandboxID = sandbox.sandboxId
      · subst here
        exact Or.inr ⟨sandbox,by simpa using taken,rfl,AList.lookup_insert _⟩
      · rw [AList.lookup_insert_ne here]
        exact known
  rw [cursorOf,cursors]
  exact moved

def stateOf (s : Store F) (sandboxID : String) : Option RuntimeState := (sandboxOf s sandboxID).map Sandbox.state

/-- The list took its last word about the sandbox, at a generation and a time. -/
def Took (s : Store F) (sandboxes : List (Sandbox F)) (sandboxID : String) (generation : UInt64) (time : Int) : Prop :=
  ∃ sandbox, listed sandboxes sandboxID = some sandbox ∧ bootstrapTakes s.providerProjection sandbox = true ∧
    sandbox.generation = generation ∧ timestampTime sandbox.observedAt = time

/-- The list left out a projected sandbox whose cursor stands at a generation and a time. -/
def Dropped (s : Store F) (sandboxes : List (Sandbox F)) (sandboxID : String) (generation : UInt64) (time : Int) : Prop :=
  listed sandboxes sandboxID = none ∧ (sandboxOf s sandboxID).isSome ∧
    ∃ cursor, cursorOf s sandboxID = some cursor ∧ cursor.generation = generation ∧ cursor.occurredAt = time

/-- The cursor counts its own event among those it has seen. -/
def Remembered (cursor : ProviderSandboxCursor) : Prop :=
  (cursor.eventID ≠ "" → cursor.eventID ∈ cursor.seenEventIDs) ∧
    (cursor.idempotencyKey ≠ "" → cursor.idempotencyKey ∈ cursor.seenIdempotency)

theorem mem_rememberName_self {name : String} (named : name ≠ "") (seen : List String) : name ∈ rememberName name seen := by
  simp only [rememberName,named,false_or]
  split
  · assumption
  · simp

theorem subset_rememberName (name : String) (seen : List String) : seen ⊆ rememberName name seen := by
  intro other member
  simp only [rememberName]
  split
  · exact member
  · simp [member]

theorem remembered (cursor : ProviderSandboxCursor) : Remembered (rememberSandboxCursorIdentity cursor) :=
  ⟨fun named => mem_rememberName_self named _,fun named => mem_rememberName_self named _⟩

omit [DecidableEq F] in
theorem bootstrappedCursor_generation (taken : bootstrapTakes projected sandbox = true) :
    (bootstrappedCursor (bootstrapCursor projected sandbox.sandboxId) sandbox).generation = sandbox.generation := by
  simp only [bootstrapTakes] at taken
  cases known : bootstrapCursor projected sandbox.sandboxId with
  | none => rfl
  | some cursor =>
    rw [known] at taken
    simp only [acceptSandboxBootstrap] at taken
    split at taken
    · cases taken
    rename_i notOlder
    by_cases newer : sandbox.generation > cursor.generation
    · simp [bootstrappedCursor,rememberSandboxCursorIdentity,newer]
    · have same : sandbox.generation = cursor.generation :=
        UInt64.le_antisymm (UInt64.not_lt.mp newer) (UInt64.not_lt.mp notOlder)
      simp [bootstrappedCursor,rememberSandboxCursorIdentity,same]

/-- After the list the cursor stands at the generation and time of its word; a cursor the list moved
    has its own event among those it has seen, and an untouched one belongs to a sandbox that is gone. -/
theorem settled {generation : UInt64} {time : Int} (replaced : replaceProjectedSandboxes s sandboxes now = .ok (after,changed))
    (outcome : Took s sandboxes sandboxID generation time ∨ Dropped s sandboxes sandboxID generation time) :
    ∃ cursor, cursorOf after sandboxID = some cursor ∧ cursor.generation = generation ∧ cursor.occurredAt = time ∧
      (Remembered cursor ∨ stateOf after sandboxID = none) := by
  obtain ⟨index,indexed,sandbox,moved⟩ := replaceProjectedSandboxes_indexed replaced sandboxID
  rcases outcome with ⟨entry,last,taken,rfl,rfl⟩ | ⟨absent,_,cursor,known,rfl,rfl⟩
  · have named : entry.sandboxId = sandboxID := (Keyed.find_some last).2
    simp only [Indexed,last] at indexed
    have told := (indexed taken).2
    rw [← named] at told
    refine ⟨_,moved.trans (named ▸ told),bootstrappedCursor_generation taken,rfl,Or.inl (remembered _)⟩
  · simp only [Indexed,absent] at indexed
    refine ⟨cursor,?_,rfl,rfl,Or.inr ?_⟩
    · rw [moved,indexed.2]
      exact known
    · rw [stateOf,sandbox,indexed.1]
      rfl

/-- The cursor has seen the event, or is ahead of it. -/
def Fenced (cursor : ProviderSandboxCursor) (event : SandboxEvent F) : Prop :=
  event.generation < cursor.generation ∨ duplicateSandboxEvent cursor event = true ∨
    event.generation = cursor.generation ∧ 0 < cursor.providerRevision ∧
      event.providerRevision ≤ cursor.providerRevision

/-- An event of at most the generation and time of a cursor, with a revision of its own. -/
structure Late (generation : UInt64) (time : Int) (event : SandboxEvent F) : Prop where
  generation : event.generation ≤ generation
  occurred : timestampTime event.occurredAt ≤ time
  positive : 0 < event.providerRevision

omit [DecidableEq F] in
theorem passes_late (sandbox : Option (Sandbox F)) (late : Late cursor.generation cursor.occurredAt event) :
    passes cursor sandbox event = false ↔ Fenced cursor event := by
  obtain ⟨notAhead,occurred,positive⟩ := late
  by_cases older : event.generation < cursor.generation
  · exact iff_of_true (by simp [passes,older]) (Or.inl older)
  · have same : event.generation = cursor.generation := UInt64.le_antisymm notAhead (UInt64.not_lt.mp older)
    by_cases seen : duplicateSandboxEvent cursor event = true
    · exact iff_of_true (by simp [passes,seen]) (Or.inr (Or.inl seen))
    · have verdict : acceptSameGenerationSandboxEvent cursor sandbox event = false ↔
          0 < cursor.providerRevision ∧ event.providerRevision ≤ cursor.providerRevision := by
        simp only [acceptSameGenerationSandboxEvent,gt_iff_lt,positive,if_true]
        by_cases none : cursor.providerRevision = 0
        · simp [none]
        · have known : 0 < cursor.providerRevision := UInt64.pos_iff_ne_zero.mpr none
          by_cases smaller : event.providerRevision < cursor.providerRevision
          · simp [none,smaller,known,UInt64.le_of_lt smaller]
          · by_cases greater : cursor.providerRevision < event.providerRevision
            · simp [none,smaller,greater,known]
            · simp [none,smaller,greater,known,occurred,UInt64.not_lt.mp greater]
      simp [passes,Fenced,same,seen,verdict]

/-- A later cursor of the same generation: the same one, or one with a greater revision that has seen as much. -/
structure Follows (cursor later : ProviderSandboxCursor) : Prop where
  generation : later.generation = cursor.generation
  revision : later = cursor ∨ cursor.providerRevision < later.providerRevision
  seen : ∀ event : SandboxEvent F, duplicateSandboxEvent cursor event = true → duplicateSandboxEvent later event = true

section Cursors
variable {later : ProviderSandboxCursor}
omit [DecidableEq F]

theorem duplicate_next (kept : Remembered cursor) (same : event.generation = cursor.generation)
    {other : SandboxEvent F} (seen : duplicateSandboxEvent cursor other = true) :
    duplicateSandboxEvent (nextSandboxCursor (some cursor) event) other = true := by
  have names : (nextSandboxCursor (some cursor) event).seenEventIDs = rememberName event.eventId cursor.seenEventIDs := by
    simp [nextSandboxCursor,rememberSandboxCursorIdentity,Option.filter,same]
  have keys : (nextSandboxCursor (some cursor) event).seenIdempotency =
      rememberName event.idempotencyKey cursor.seenIdempotency := by
    simp [nextSandboxCursor,rememberSandboxCursorIdentity,Option.filter,same]
  simp only [duplicateSandboxEvent,names,keys] at seen ⊢
  split
  · rename_i named
    rw [if_pos named] at seen
    simp only [Bool.or_eq_true,decide_eq_true_eq,List.contains_iff_mem] at seen ⊢
    right
    apply subset_rememberName
    rcases seen with here | there
    · rw [here] at named ⊢
      exact kept.1 named
    · exact there
  · rename_i unnamed
    rw [if_neg unnamed] at seen
    split
    · rename_i keyless
      rw [if_pos keyless] at seen
      exact seen
    · rename_i keyed
      rw [if_neg keyed] at seen
      simp only [Bool.or_eq_true,decide_eq_true_eq,List.contains_iff_mem] at seen ⊢
      right
      apply subset_rememberName
      rcases seen with here | there
      · rw [here] at keyed ⊢
        exact kept.2 keyed
      · exact there

theorem refused_of_follows (follows : Follows (F := F) cursor later) (sandbox : Option (Sandbox F))
    (late : Late cursor.generation cursor.occurredAt event) (fenced : Fenced cursor event) :
    passes later sandbox event = false := by
  rcases follows.revision with same | ahead
  · subst same
    exact (passes_late sandbox late).mpr fenced
  · rcases fenced with older | seen | ⟨level,_,behind⟩
    · simp [passes,follows.generation,older]
    · simp [passes,follows.seen event seen]
    · have below : event.providerRevision < later.providerRevision := UInt64.lt_of_le_of_lt behind ahead
      have known : later.providerRevision ≠ 0 := (UInt64.ne_of_lt (UInt64.lt_trans late.positive below)).symm
      have refused : acceptSameGenerationSandboxEvent later sandbox event = false := by
        simp [acceptSameGenerationSandboxEvent,late.positive,known,below]
      simp [passes,follows.generation,level,refused]

theorem follows_next (follows : Follows (F := F) cursor later) (kept : Remembered later)
    (late : Late cursor.generation cursor.occurredAt event) (free : ¬ Fenced cursor event) :
    Follows (F := F) cursor (nextSandboxCursor (some later) event) := by
  have level : event.generation = cursor.generation := by
    apply UInt64.le_antisymm late.generation
    exact UInt64.not_lt.mp (fun older => free (Or.inl older))
  refine ⟨level,Or.inr ?_,fun other seen => duplicate_next kept (level.trans follows.generation.symm)
    (follows.seen other seen)⟩
  rw [revision_nextSandboxCursor late.positive]
  by_cases none : cursor.providerRevision = 0
  · rw [none]
    exact late.positive
  · have known : 0 < cursor.providerRevision := UInt64.pos_iff_ne_zero.mpr none
    exact UInt64.not_le.mp (fun behind => free (Or.inr (Or.inr ⟨level,known,behind⟩)))

end Cursors

omit [DecidableEq F] in
theorem accepts_of_cursor (found : cursorOf s event.sandboxId = some cursor) :
    accepts s event = passes cursor (sandboxOf s event.sandboxId) event := by
  rw [accepts,found]

variable [Platform F]

/-- The event's sandbox is another one, the event is malformed or fenced, or it reports what is known. -/
def Harmless (after : Store F) (sandboxID : String) (cursor : ProviderSandboxCursor) (event : SandboxEvent F) : Prop :=
  event.sandboxId = sandboxID → WellFormed event → Fenced cursor event ∨ stateOf after sandboxID = some event.state

/-- Between deliveries after a list: its word stands, and the cursor follows the one it left. -/
structure Standing (after : Store F) (sandboxID : String) (cursor : ProviderSandboxCursor) (s : Store F) : Prop where
  cursor : ∃ later, cursorOf s sandboxID = some later ∧ Follows (F := F) cursor later ∧
    (Remembered later ∨ stateOf after sandboxID = none)
  state : stateOf s sandboxID = stateOf after sandboxID

theorem standing_deliver {delivery : Delivered F} (standing : Standing after sandboxID cursor s)
    (late : Late cursor.generation cursor.occurredAt delivery.1) (harmless : Harmless after sandboxID cursor delivery.1) :
    Standing after sandboxID cursor (deliver s delivery) := by
  by_cases named : delivery.1.sandboxId = sandboxID
  · by_cases formed : WellFormed delivery.1
    · obtain ⟨later,found,follows,kept⟩ := standing.cursor
      subst named
      have verdict := accepts_of_cursor found
      cases accepted : accepts s delivery.1 with
      | false =>
        rw [deliver_refused accepted]
        exact standing
      | true =>
        -- An event that passes is not fenced, so it reports the state that is projected already.
        have free : ¬ Fenced cursor delivery.1 := by
          intro fenced
          rw [verdict,refused_of_follows follows _ late fenced] at accepted
          cases accepted
        have same := (harmless rfl formed).resolve_left free
        have own : Remembered later := kept.resolve_right (by simp [same])
        obtain ⟨sandbox,moved⟩ := deliver_accepted formed accepted delivery.1.sandboxId
        rw [if_pos rfl] at sandbox moved
        rw [found] at moved
        refine ⟨⟨_,moved,follows_next follows own late free,Or.inl (remembered _)⟩,?_⟩
        rw [stateOf,sandbox,same,Option.map_some,sandboxAfter_state]
    · rw [deliver_malformed formed]
      exact standing
  · obtain ⟨sandbox,moved⟩ := deliver_other named
    refine ⟨?_,?_⟩
    · rw [moved]
      exact standing.cursor
    · rw [stateOf,sandbox]
      exact standing.state

/-- Whatever late events are delivered after a list, in whatever order and number, they leave its word about a
    sandbox standing exactly when each of them is harmless. -/
theorem bootstrap_stands_iff {s after : Store F} {sandboxes : List (Sandbox F)} {now : Int} {changed : Bool}
    {sandboxID : String} {generation : UInt64} {time : Int}
    (replaced : replaceProjectedSandboxes s sandboxes now = .ok (after,changed))
    (outcome : Took s sandboxes sandboxID generation time ∨ Dropped s sandboxes sandboxID generation time)
    (events : List (SandboxEvent F)) (late : ∀ event ∈ events, Late generation time event) :
    (∀ deliveries : List (Delivered F), (∀ delivery ∈ deliveries, delivery.1 ∈ events) →
      stateOf (run deliver after deliveries) sandboxID = stateOf after sandboxID) ↔
    ∃ cursor, cursorOf after sandboxID = some cursor ∧ ∀ event ∈ events, Harmless after sandboxID cursor event := by
  obtain ⟨cursor,found,rfl,rfl,kept⟩ := settled replaced outcome
  constructor
  · intro stands
    refine ⟨cursor,found,?_⟩
    intro event member named formed
    by_contra harmful
    rw [not_or] at harmful
    subst named
    have accepted : accepts after event = true := by
      rw [accepts_of_cursor found]
      exact Bool.not_eq_false _ ▸ fun refused => harmful.1 ((passes_late _ (late event member)).mp refused)
    have moved := (deliver_accepted (show WellFormed ((event,0) : Delivered F).1 from formed) accepted event.sandboxId).1
    have shown := stands [(event,0)] (by simpa using member)
    rw [run_cons,run_nil,stateOf,moved,if_pos rfl,Option.map_some,sandboxAfter_state] at shown
    exact harmful.2 shown.symm
  · rintro ⟨_,same,harmless⟩ deliveries drawn
    cases found.symm.trans same
    have stands : Standing after sandboxID cursor (run deliver after deliveries) := by
      refine run_prefix (P := fun _ s => Standing after sandboxID cursor s)
        ⟨⟨cursor,found,⟨rfl,Or.inl rfl,fun _ seen => seen⟩,kept⟩,rfl⟩ ?_
      intro _ s delivery member _ standing
      have sent := drawn delivery member
      exact standing_deliver standing (late _ sent) (harmless _ sent)
    exact stands.state

/-- A report about the sandbox "x", with the time at which it was made. -/
def reportedAt (eventID : String) (state : RuntimeState) (revision : UInt64) (nanos : Int) : SandboxEvent Int :=
  { reported eventID state revision with occurredAt := some ⟨0,nanos⟩ }

def listedAt (state : RuntimeState) (nanos : Int) : Sandbox Int :=
  { (default : Sandbox Int) with sandboxId := "x", generation := 1, state, observedAt := some ⟨0,nanos⟩ }

/-- A Store that knows the sandbox "x" from an event of revision 3. -/
def informed : Store Int := deliver (newStore default) (reportedAt "a" .running 3 50,0)

/-- An event with a smaller revision than the cursor's leaves the list's word standing. -/
theorem bootstrap_stands_iff_fenced : ∃ after,
    replaceProjectedSandboxes informed [listedAt .paused 100] 0 = .ok (after,true) ∧
      stateOf after "x" = some .paused ∧
      stateOf (run deliver after [(reportedAt "b" .running 2 60,1),(reportedAt "b" .running 2 60,2)]) "x" =
        stateOf after "x" := by
  have finishes : (replaceProjectedSandboxes informed [listedAt .paused 100] 0).toOption.any (fun result =>
      result.2 && decide (stateOf result.1 "x" = some .paused) &&
        (cursorOf result.1 "x").any (fun cursor => decide (cursor.generation = 1) &&
          decide (cursor.providerRevision = 3))) = true := by decide
  obtain ⟨⟨after,changed⟩,replaced,facts⟩ := ok_of_any finishes
  simp only [Bool.and_eq_true,decide_eq_true_eq,Option.any_eq_true] at facts
  obtain ⟨⟨rfl,shown⟩,cursor,found,first,third⟩ := facts
  refine ⟨after,replaced,shown,?_⟩
  have took : Took informed [listedAt .paused 100] "x" 1 100 := ⟨listedAt .paused 100,by decide,by decide,rfl,rfl⟩
  refine (bootstrap_stands_iff replaced (Or.inl took) [reportedAt "b" .running 2 60] ?_).mpr ?_ _ ?_
  · intro event member
    rw [List.mem_singleton.mp member]
    exact ⟨by decide,by decide,by decide⟩
  · refine ⟨cursor,found,?_⟩
    intro event member _ _
    rw [List.mem_singleton.mp member]
    exact Or.inl (Or.inr (Or.inr ⟨first.symm,by rw [third]; decide,by rw [third]; decide⟩))
  · intro delivery member
    simp only [List.mem_cons,List.not_mem_nil,or_false] at member
    rcases member with rfl | rfl
    · exact List.mem_singleton.mpr rfl
    · exact List.mem_singleton.mpr rfl

/-- A late event overturns what a list says of a new sandbox, and brings back a sandbox that a list has dropped. -/
theorem late_event_overturns :
    (∃ after, replaceProjectedSandboxes (newStore default) [listedAt .terminated 100] 0 = .ok (after,true) ∧
      Took (newStore default) [listedAt .terminated 100] "x" 1 100 ∧ Late 1 100 (reportedAt "b" .running 1 60) ∧
      stateOf after "x" = some .terminated ∧ stateOf (deliver after (reportedAt "b" .running 1 60,1)) "x" = some .running) ∧
    ∃ after, replaceProjectedSandboxes informed [] 0 = .ok (after,true) ∧
      Dropped informed [] "x" 1 50 ∧ Late 1 50 (reportedAt "b" .running 4 40) ∧
      stateOf after "x" = none ∧ stateOf (deliver after (reportedAt "b" .running 4 40,1)) "x" = some .running := by
  constructor
  · have finishes : (replaceProjectedSandboxes (newStore default) [listedAt .terminated 100] 0).toOption.any
        (fun result => result.2 && decide (stateOf result.1 "x" = some .terminated) &&
          decide (stateOf (deliver result.1 (reportedAt "b" .running 1 60,1)) "x" = some .running)) = true := by decide
    obtain ⟨⟨after,changed⟩,replaced,facts⟩ := ok_of_any finishes
    simp only [Bool.and_eq_true,decide_eq_true_eq] at facts
    obtain ⟨⟨rfl,shown⟩,overturned⟩ := facts
    refine ⟨after,replaced,⟨listedAt .terminated 100,by decide,by decide,rfl,rfl⟩,⟨by decide,by decide,by decide⟩,
      shown,overturned⟩
  · have finishes : (replaceProjectedSandboxes informed [] 0).toOption.any
        (fun result => result.2 && decide (stateOf result.1 "x" = none) &&
          decide (stateOf (deliver result.1 (reportedAt "b" .running 4 40,1)) "x" = some .running)) = true := by decide
    obtain ⟨⟨after,changed⟩,replaced,facts⟩ := ok_of_any finishes
    simp only [Bool.and_eq_true,decide_eq_true_eq] at facts
    obtain ⟨⟨rfl,gone⟩,back⟩ := facts
    have cursor : (cursorOf informed "x").any (fun cursor => decide (cursor.generation = 1) &&
        decide (cursor.occurredAt = 50)) = true := by decide
    simp only [Option.any_eq_true,Bool.and_eq_true,decide_eq_true_eq] at cursor
    exact ⟨after,replaced,⟨by decide,by decide,cursor⟩,⟨by decide,by decide,by decide⟩,gone,back⟩

end TgsRl.Bootstrap
