import TgsRl.Projection
import TgsRl.Transactions

/-!
The durable state of a Store, as in `snapshot.go`: what `ExportDurableState` writes and what
`Restore` makes of it. A restored Store knows the idempotency keys of its stored intents only
(`restore_keys`), and its cursors have the names they have seen in another order (`restore_cursor`).
-/
namespace TgsRl.Durable
open Resources Messages State Loops Intents Projection Transactions

variable {F : Type}

/-- The map of a list of pairs; a later pair replaces an earlier one of its key. -/
def mapOf {K V : Type} [DecidableEq K] (pairs : List (K × V)) : Map K V :=
  pairs.foldl (fun m pair => m.insert pair.1 pair.2) ∅

section Maps
variable {K V : Type} [DecidableEq K]

theorem mapOf_append (pairs : List (K × V)) (pair : K × V) :
    mapOf (pairs ++ [pair]) = (mapOf pairs).insert pair.1 pair.2 := by
  simp [mapOf]

theorem lookup_mapOf {pairs : List (K × V)} (distinct : (pairs.map Prod.fst).Nodup) (k : K) (v : V) :
    (mapOf pairs).lookup k = some v ↔ (k,v) ∈ pairs := by
  induction pairs using List.reverseRecOn with
  | nil => simp [mapOf]
  | append_singleton pairs pair ih =>
    rw [List.map_append,List.nodup_append] at distinct
    obtain ⟨before,_,fresh⟩ := distinct
    rw [mapOf_append,List.mem_append,List.mem_singleton]
    by_cases here : k = pair.1
    · subst here
      rw [AList.lookup_insert]
      constructor
      · intro same
        cases same
        exact Or.inr rfl
      · rintro (old | new)
        · exact absurd rfl (fresh pair.1 (List.mem_map.mpr ⟨_,old,rfl⟩) pair.1 (by simp))
        · rw [← new]
    · rw [AList.lookup_insert_ne here,ih before]
      constructor
      · exact Or.inl
      · rintro (old | new)
        · exact old
        · exact absurd (congrArg Prod.fst new) here

def sortedPairs (before : K → K → Prop) [DecidableRel before] (m : Map K V) : List (K × V) :=
  m.pairs.insertionSort (fun left right => before left.1 right.1)

variable {before : K → K → Prop} [DecidableRel before] {m : Map K V}

theorem mem_sortedPairs {k : K} {v : V} : (k,v) ∈ sortedPairs before m ↔ m.lookup k = some v := by
  rw [sortedPairs,(List.perm_insertionSort _ _).mem_iff,Map.mem_pairs_iff]

omit [DecidableEq K] in
theorem sortedPairs_nodup : ((sortedPairs before m).map Prod.fst).Nodup := by
  have keys : (m.pairs.map Prod.fst).Nodup := by
    simpa [Map.pairs,Function.comp_def,List.keys,List.NodupKeys] using m.nodupKeys
  exact ((List.perm_insertionSort _ _).map Prod.fst).nodup_iff.mpr keys

end Maps

/-- `ProviderSandboxCursor` as it is written; the zero time is no timestamp. -/
structure SandboxCursorRecord where
  generation : UInt64
  providerRevision : UInt64
  eventID : String
  idempotencyKey : String
  occurredAt : Option Timestamp
  seenEventIDs : List String
  seenIdempotencyKeys : List String
  deriving DecidableEq, Repr

structure DurableState (F : Type) where
  snapshot : ClusterSnapshot F
  intents : List (SchedulingIntent F)
  resourceCursors : Map String ProviderResourceCursor
  sandboxCursors : Map String SandboxCursorRecord
  projectedSandboxes : List (Sandbox F)
  reservations : List (PlanReservation F)
  transactions : List (TransactionRecord F)

/-- The order of the exported intents: by execution, then by stage. -/
def keyBefore (left right : IntentKey) : Prop :=
  left.executionID < right.executionID ∨ left.executionID = right.executionID ∧ left.stageID ≤ right.stageID

instance : DecidableRel keyBefore := fun _ _ => inferInstanceAs (Decidable (_ ∨ _ ∧ _))

def exportSandboxCursor (cursor : ProviderSandboxCursor) : SandboxCursorRecord where
  generation := cursor.generation
  providerRevision := cursor.providerRevision
  eventID := cursor.eventID
  idempotencyKey := cursor.idempotencyKey
  occurredAt := if cursor.occurredAt = zeroTime then none else some (Timestamp.new cursor.occurredAt)
  seenEventIDs := sortedStrings cursor.seenEventIDs
  seenIdempotencyKeys := sortedStrings cursor.seenIdempotency

def exportDurableState (s : Store F) : DurableState F where
  snapshot := s.snapshot
  intents := (sortedPairs keyBefore s.intents).map Prod.snd
  resourceCursors := s.providerProjection.resourceCursors
  sandboxCursors := mapOf (s.providerProjection.sandboxCursors.pairs.map (fun entry =>
    (entry.1,exportSandboxCursor entry.2)))
  projectedSandboxes := (sortedPairs (· ≤ ·) s.providerProjection.sandboxes).map Prod.snd
  reservations := (sortedPairs (· ≤ ·) s.reservations).map Prod.snd
  transactions := (sortedPairs (· ≤ ·) s.transactions).map Prod.snd

/-- `stringSet`: the non-empty strings, once each. -/
def stringSet (values : List String) : List String := (values.filter (fun value => decide (value ≠ ""))).dedup

def restoreSandboxCursor (record : SandboxCursorRecord) : ProviderSandboxCursor :=
  rememberSandboxCursorIdentity
    { generation := record.generation
      providerRevision := record.providerRevision
      eventID := record.eventID
      idempotencyKey := record.idempotencyKey
      occurredAt := timestampTime record.occurredAt
      seenEventIDs := stringSet record.seenEventIDs
      seenIdempotency := stringSet record.seenIdempotencyKeys }

def restoreSandbox (sandboxes : Map String (Sandbox F)) (sandbox : Sandbox F) : Except Err (Map String (Sandbox F)) :=
  if sandbox.sandboxId = "" then .error (.new "state: restored sandbox projection requires sandbox_id")
  else if (sandboxes.lookup sandbox.sandboxId).isSome then
    .error (.new ("state: duplicate restored sandbox projection " ++ quote sandbox.sandboxId))
  else .ok (sandboxes.insert sandbox.sandboxId sandbox)

def restoreCursor (cursors : Map String ProviderSandboxCursor) (entry : String × SandboxCursorRecord) :
    Except Err (Map String ProviderSandboxCursor) :=
  if entry.1 = "" then .error (.new "state: restored sandbox cursor requires sandbox_id")
  else if (entry.2.occurredAt.map Timestamp.valid).getD true = false then
    .error (.new ("state: restored sandbox cursor " ++ quote entry.1 ++ " has invalid occurred_at"))
  else .ok (cursors.insert entry.1 (restoreSandboxCursor entry.2))

/-- A projected sandbox is not ahead of its cursor, and has one. -/
def settleCursor (cursors : Map String ProviderSandboxCursor) (entry : String × Sandbox F) :
    Except Err (Map String ProviderSandboxCursor) :=
  match cursors.lookup entry.1 with
  | some cursor =>
    if cursor.generation < entry.2.generation then
      .error (.new ("state: restored sandbox cursor " ++ quote entry.1 ++ " generation " ++ toString cursor.generation ++
        " precedes projection generation " ++ toString entry.2.generation))
    else .ok cursors
  | none => .ok (cursors.insert entry.1 ⟨entry.2.generation,0,"","",timestampTime entry.2.observedAt,[],[]⟩)

def validateAndRestoreProviderProjection (durable : DurableState F) : Except Err (ProviderProjectionState F) := do
  let sandboxes ← durable.projectedSandboxes.foldlM restoreSandbox ∅
  let recorded ← durable.sandboxCursors.pairs.foldlM restoreCursor ∅
  let cursors ← sandboxes.pairs.foldlM settleCursor recorded
  .ok ⟨durable.resourceCursors,sandboxes,cursors⟩

/-- The stored intents and the idempotency keys, while `Restore` reads the intents. -/
structure RestoredIntents (F : Type) where
  intents : Map IntentKey (SchedulingIntent F)
  idempotencyKeys : Map String (IntentIdentity F)

def restoreIntent [Platform F] [DecidableEq F] (restored : RestoredIntents F) (intent : SchedulingIntent F) :
    Except Err (RestoredIntents F) :=
  match validateIntentStructure intent with
  | .error err => .error ⟨err.sentinel,"state: restore intent: " ++ err.message⟩
  | .ok () =>
    let key : IntentKey := ⟨intent.executionId,intent.stageId⟩
    .ok ⟨restored.intents.insert key intent,
      restored.idempotencyKeys.insert intent.idempotencyKey ⟨key,intent.version,intent⟩⟩

def restoreReservation (reservations : Map String (PlanReservation F)) (reservation : PlanReservation F) :
    Except Err (Map String (PlanReservation F)) :=
  if reservation.plan.planId = "" then .error (.new "state: restored reservation requires plan_id")
  else .ok (reservations.insert reservation.plan.planId reservation)

def restoreTransaction (transactions : Map String (TransactionRecord F)) (record : TransactionRecord F) :
    Except Err (Map String (TransactionRecord F)) :=
  match validateTransactionRecord record with
  | .error err => .error ⟨err.sentinel,"state: restore transaction: " ++ err.message⟩
  | .ok () => .ok (transactions.insert record.transactionID record)

variable [Platform F] [DecidableEq F]

def restore (durable : DurableState F) : Except Err (Store F) := do
  let projected ← validateAndRestoreProviderProjection durable
  let restored ← durable.intents.foldlM restoreIntent ⟨∅,∅⟩
  let reservations ← durable.reservations.foldlM restoreReservation ∅
  let transactions ← durable.transactions.foldlM restoreTransaction ∅
  .ok
    { snapshot := durable.snapshot
      intents := restored.intents
      providerProjection := projected
      idempotencyKeys := restored.idempotencyKeys
      reservations
      transactions }

variable {durable : DurableState F} {s : Store F} {cursors : Map String ProviderSandboxCursor} {sandboxID : String}

theorem restore_ok (restored : restore durable = .ok s) :
    validateAndRestoreProviderProjection durable = .ok s.providerProjection ∧
      durable.intents.foldlM restoreIntent ⟨∅,∅⟩ = .ok ⟨s.intents,s.idempotencyKeys⟩ ∧
      durable.reservations.foldlM restoreReservation ∅ = .ok s.reservations ∧
      durable.transactions.foldlM restoreTransaction ∅ = .ok s.transactions ∧ s.snapshot = durable.snapshot := by
  simp only [restore,bind,Except.bind] at restored
  split at restored
  · cases restored
  rename_i projected
  split at restored
  · cases restored
  rename_i intents
  split at restored
  · cases restored
  rename_i reservations
  split at restored
  · cases restored
  rename_i transactions
  cases restored
  exact ⟨projected,intents,reservations,transactions,rfl⟩

/-- What the Store knows an intent by. -/
def intentKeyOf (intent : SchedulingIntent F) : IntentKey := ⟨intent.executionId,intent.stageId⟩

def identityOf (intent : SchedulingIntent F) : IntentIdentity F := ⟨intentKeyOf intent,intent.version,intent⟩

/-- Every stored intent stands under its own key, and its idempotency key belongs to it. -/
structure Registered (s : Store F) : Prop where
  keyed : ∀ key intent, s.intents.lookup key = some intent → key = intentKeyOf intent
  recorded : ∀ key intent, s.intents.lookup key = some intent →
    s.idempotencyKeys.lookup intent.idempotencyKey = some (identityOf intent)

theorem restoreIntent_loop {intents : List (SchedulingIntent F)} {restored : RestoredIntents F}
    (loop : intents.foldlM restoreIntent ⟨∅,∅⟩ = .ok restored) :
    restored.intents = mapOf (intents.map (fun intent => (intentKeyOf intent,intent))) ∧
      restored.idempotencyKeys = mapOf (intents.map (fun intent => (intent.idempotencyKey,identityOf intent))) := by
  refine foldlM_prefix (P := fun before restored =>
    restored.intents = mapOf (before.map (fun intent => (intentKeyOf intent,intent))) ∧
      restored.idempotencyKeys = mapOf (before.map (fun intent => (intent.idempotencyKey,identityOf intent))))
    ⟨rfl,rfl⟩ ?_ loop
  intro before restored intent next _ known read
  simp only [restoreIntent] at read
  split at read
  · cases read
  cases read
  simp only [List.map_append,List.map_singleton,mapOf_append,known.1,known.2]
  exact ⟨rfl,rfl⟩

section Registered
variable {restored : Store F} (registered : Registered s) (back : restore (exportDurableState s) = .ok restored)
include registered back

theorem restore_intents (key : IntentKey) : restored.intents.lookup key = s.intents.lookup key := by
  have rebuilt : restored.intents = _ := (restoreIntent_loop (restore_ok back).2.1).1
  have pairs : (exportDurableState s).intents.map (fun intent => (intentKeyOf intent,intent)) =
      sortedPairs keyBefore s.intents := by
    rw [exportDurableState,List.map_map]
    refine (List.map_congr_left ?_).trans (List.map_id _)
    rintro ⟨key,intent⟩ member
    rw [Function.comp_apply,← registered.keyed key intent (mem_sortedPairs.mp member),id]
  apply Option.ext
  intro intent
  rw [rebuilt,pairs,lookup_mapOf sortedPairs_nodup,mem_sortedPairs]

theorem restore_keys (name : String) (identity : IntentIdentity F) :
    restored.idempotencyKeys.lookup name = some identity ↔
      ∃ key intent, s.intents.lookup key = some intent ∧ intent.idempotencyKey = name ∧ identity = identityOf intent := by
  have rebuilt : restored.idempotencyKeys = _ := (restoreIntent_loop (restore_ok back).2.1).2
  have listed : ∀ intent, intent ∈ (exportDurableState s).intents ↔ ∃ key, s.intents.lookup key = some intent := by
    intro intent
    rw [exportDurableState,List.mem_map]
    constructor
    · rintro ⟨⟨key,other⟩,member,rfl⟩
      exact ⟨key,mem_sortedPairs.mp member⟩
    · rintro ⟨key,found⟩
      exact ⟨(key,intent),mem_sortedPairs.mpr found,rfl⟩
  -- No two stored intents share an idempotency key: it belongs to one of them.
  have distinct : ((exportDurableState s).intents.map (fun intent => (intent.idempotencyKey,identityOf intent))).map
      Prod.fst |>.Nodup := by
    rw [List.map_map,exportDurableState,List.map_map]
    refine sortedPairs_nodup.of_map _ |>.map_on ?_
    rintro ⟨key,intent⟩ member ⟨other,second⟩ member' same
    have found := mem_sortedPairs.mp member
    have found' := mem_sortedPairs.mp member'
    have owner := registered.recorded key intent found
    have owner' := registered.recorded other second found'
    simp only [Function.comp_apply] at same
    rw [same,owner'] at owner
    have equal : second = intent := congrArg IntentIdentity.intent (Option.some.inj owner)
    rw [registered.keyed key intent found,registered.keyed other second found',equal]
  rw [rebuilt,lookup_mapOf distinct,List.mem_map]
  constructor
  · rintro ⟨intent,member,same⟩
    obtain ⟨key,found⟩ := (listed intent).mp member
    cases same
    exact ⟨key,intent,found,rfl,rfl⟩
  · rintro ⟨key,intent,found,rfl,rfl⟩
    exact ⟨intent,(listed intent).mpr ⟨key,found⟩,rfl⟩

theorem restore_registered : Registered restored := by
  refine ⟨?_,?_⟩
  · intro key intent found
    rw [restore_intents registered back] at found
    exact registered.keyed key intent found
  · intro key intent found
    rw [restore_intents registered back] at found
    exact (restore_keys registered back _ _).mpr ⟨key,intent,found,rfl,rfl⟩

end Registered

theorem restoreCursor_loop {entries : List (String × SandboxCursorRecord)} (loop : entries.foldlM restoreCursor ∅ = .ok cursors) :
    cursors = mapOf (entries.map (fun entry => (entry.1,restoreSandboxCursor entry.2))) := by
  refine foldlM_prefix (P := fun before cursors =>
    cursors = mapOf (before.map (fun entry => (entry.1,restoreSandboxCursor entry.2)))) rfl ?_ loop
  intro before cursors entry next _ known read
  simp only [restoreCursor] at read
  split at read
  · cases read
  split at read
  · cases read
  · cases read
    rw [known,List.map_append,List.map_singleton,mapOf_append]

omit [Platform F] [DecidableEq F] in
theorem settleCursor_loop {entries : List (String × Sandbox F)} {start : Map String ProviderSandboxCursor}
    (loop : entries.foldlM settleCursor start = .ok cursors) {cursor : ProviderSandboxCursor}
    (found : start.lookup sandboxID = some cursor) : cursors.lookup sandboxID = some cursor := by
  refine foldlM_keeps (P := fun cursors => cursors.lookup sandboxID = some cursor) found ?_ loop
  intro cursors entry next _ found read
  simp only [settleCursor] at read
  split at read
  · split at read
    · cases read
    · cases read
      exact found
  · rename_i absent
    cases read
    have differs : sandboxID ≠ entry.1 := by
      intro same
      rw [same,absent] at found
      cases found
    rw [AList.lookup_insert_ne differs]
    exact found

theorem restore_cursor (back : restore durable = .ok s) {record : SandboxCursorRecord}
    (saved : durable.sandboxCursors.lookup sandboxID = some record) :
    s.providerProjection.sandboxCursors.lookup sandboxID = some (restoreSandboxCursor record) := by
  have projected := (restore_ok back).1
  simp only [validateAndRestoreProviderProjection,bind,Except.bind] at projected
  split at projected
  · cases projected
  split at projected
  · cases projected
  rename_i recorded loop
  split at projected
  · cases projected
  rename_i cursors settled
  rw [← Except.ok.inj projected]
  refine settleCursor_loop settled ?_
  have distinct : ((durable.sandboxCursors.pairs.map (fun entry => (entry.1,restoreSandboxCursor entry.2))).map
      Prod.fst).Nodup := by
    simpa [Map.pairs,Function.comp_def,List.keys,List.NodupKeys] using durable.sandboxCursors.nodupKeys
  rw [restoreCursor_loop loop,lookup_mapOf distinct,List.mem_map]
  exact ⟨(sandboxID,record),Map.mem_pairs_iff.mpr saved,rfl⟩

theorem restore_resourceCursors (back : restore durable = .ok s) :
    s.providerProjection.resourceCursors = durable.resourceCursors := by
  have projected := (restore_ok back).1
  simp only [validateAndRestoreProviderProjection,bind,Except.bind] at projected
  split at projected
  · cases projected
  split at projected
  · cases projected
  split at projected
  · cases projected
  · rw [← Except.ok.inj projected]

end TgsRl.Durable
