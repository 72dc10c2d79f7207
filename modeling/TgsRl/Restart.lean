import TgsRl.Bootstrap
import TgsRl.Bystanders
import TgsRl.Durable

/-!
Publication across restarts. An intent is judged by the stored intent of its execution and stage and
by the idempotency keys of past publications; a restored Store has the first and lost most of the
second. Once an intent has retired, a lower version is accepted, and a restart forgets that it was
published before.
-/
namespace TgsRl.Restart
open Resources Messages State Loops Intents Projection Reservations
open Exclusion Durable Bystanders

variable {F : Type}

/-- A Store and the last state that was exported from it for a rollback. -/
structure World (F : Type) where
  store : Store F
  saved : Option (DurableState F)

inductive Op (F : Type) where
  | publish (intent : SchedulingIntent F)
  | retire (executionID stageID : String) (version : UInt64)
  | reserve (plan : PlacementPlan F)
  | finalize (plan : PlacementPlan F) (succeeded : Bool) (results : List (Option ActionResult))
  | transact (call : Call F)
  | observe (observation : Observation F)
  | list (sandboxes : List (Sandbox F))
  | bootstrap (provider : String) (snapshot : ClusterSnapshot F)
  | resource (event : ResourceEvent F)
  | save
  | rollback
  | restart

variable [Platform F] [DecidableEq F]

/-- The restored Store; a `Restore` that fails is not carried on with. -/
def restoredOr (s : Store F) (durable : DurableState F) : Store F :=
  match restore durable with
  | .ok restored => restored
  | .error _ => s

/-- One operation at the time the clock shows; a failed one leaves the Store as it was. -/
def step (w : World F) (op : Op F × Int) : World F :=
  match op with
  | (.publish intent,now) => { w with store := (publishIntent w.store intent now).1 }
  | (.retire executionID stageID version,now) =>
    { w with store := (retireExpiredIntent w.store executionID stageID version now).1 }
  | (.reserve plan,now) => { w with store := (reservePlan w.store plan now).store }
  | (.finalize plan succeeded results,now) =>
    match finalizePlanResults w.store plan succeeded results now with
    | .ok next => { w with store := next }
    | .error _ => w
  | (.transact call,now) => { w with store := perform w.store (call,now) }
  | (.observe observation,now) => { w with store := Projection.observe w.store (observation,now) }
  | (.list sandboxes,now) => match replaceProjectedSandboxes w.store sandboxes now with
    | .ok (next,_) => { w with store := next }
    | .error _ => w
  | (.bootstrap provider snapshot,now) => { w with store := (bootstrapProviderSnapshot w.store provider snapshot now).1 }
  | (.resource event,now) => { w with store := (applyProviderResourceEvent w.store event now).1 }
  | (.save,_) => { w with saved := some (exportDurableState w.store) }
  | (.rollback,_) => match w.saved with
    | some durable => { w with store := restoredOr w.store durable }
    | none => w
  | (.restart,_) => ⟨restoredOr w.store (exportDurableState w.store),none⟩

def fresh (initial : ClusterSnapshot F) : World F := ⟨newStore initial,none⟩

/-- Intents may go and keys stay, or one newer intent is added with a new key. -/
inductive Change (s next : Store F) : Prop
  | thinned (kept : ∀ key intent, next.intents.lookup key = some intent → s.intents.lookup key = some intent)
      (keys : next.idempotencyKeys = s.idempotencyKeys)
  | published (intent : SchedulingIntent F) (unused : s.idempotencyKeys.lookup intent.idempotencyKey = none)
      (newer : ∀ current, s.intents.lookup (intentKeyOf intent) = some current → current.version < intent.version)
      (stored : next.intents = s.intents.insert (intentKeyOf intent) intent)
      (keys : next.idempotencyKeys = s.idempotencyKeys.insert intent.idempotencyKey (identityOf intent))

section Changes
variable {s next : Store F}
omit [Platform F] [DecidableEq F]

theorem change_of_same (intents : next.intents = s.intents) (keys : next.idempotencyKeys = s.idempotencyKeys) :
    Change s next := by
  refine .thinned ?_ keys
  intro key intent found
  rwa [intents] at found

theorem change_of_agree (agree : Agree s next) : Change s next := change_of_same agree.intents agree.keys

theorem change_refl (s : Store F) : Change s s := change_of_same rfl rfl

theorem change_of_filter (keep : IntentKey → SchedulingIntent F → Bool) (intents : next.intents = s.intents.filter keep)
    (keys : next.idempotencyKeys = s.idempotencyKeys) : Change s next := by
  refine .thinned ?_ keys
  intro key intent found
  rw [intents,Map.lookup_filter,Option.filter_eq_some_iff] at found
  exact found.1

theorem registered_change (change : Change s next) (registered : Registered s) : Registered next := by
  cases change with
  | thinned kept keys =>
    refine ⟨fun key intent found => registered.keyed key intent (kept key intent found),?_⟩
    intro key intent found
    rw [keys]
    exact registered.recorded key intent (kept key intent found)
  | published intent unused newer stored keys =>
    refine ⟨?_,?_⟩
    · intro key other found
      rw [stored] at found
      by_cases here : key = intentKeyOf intent
      · subst here
        rw [AList.lookup_insert] at found
        cases found
        rfl
      · rw [AList.lookup_insert_ne here] at found
        exact registered.keyed key other found
    · intro key other found
      rw [stored] at found
      rw [keys]
      by_cases here : key = intentKeyOf intent
      · subst here
        rw [AList.lookup_insert] at found
        cases found
        exact AList.lookup_insert _
      · rw [AList.lookup_insert_ne here] at found
        have owned := registered.recorded key other found
        have differs : other.idempotencyKey ≠ intent.idempotencyKey := by
          intro same
          rw [same,unused] at owned
          cases owned
        rw [AList.lookup_insert_ne differs]
        exact owned

end Changes

variable {s : Store F} {incoming : SchedulingIntent F}

omit [Platform F] in
/-- The checks of a publication against the stored intent and the past use of its idempotency key. -/
theorem checkPublication_ok (clear : checkPublication s incoming = .ok ()) :
    s.idempotencyKeys.lookup incoming.idempotencyKey = none ∧
      ∀ current, s.intents.lookup (intentKeyOf incoming) = some current → current.version < incoming.version := by
  simp only [checkPublication] at clear
  cases previous : s.idempotencyKeys.lookup incoming.idempotencyKey with
  | none =>
    refine ⟨rfl,?_⟩
    intro current found
    simp only [intentKeyOf] at found
    simp only [previous,found] at clear
    split at clear
    · cases clear
    rename_i notOlder
    split at clear
    · split at clear <;> cases clear
    · rename_i differs
      exact UInt64.lt_of_le_of_ne (UInt64.not_lt.mp notOlder) (Ne.symm differs)
  | some identity =>
    simp only [previous] at clear
    split at clear
    · cases clear
    split at clear
    · split at clear <;> cases clear
    · split at clear
      · split at clear <;> cases clear
      · cases clear

/-- A publication changes nothing, or adds a newer intent under a new key. -/
theorem publishIntent_cases (s : Store F) (incoming : SchedulingIntent F) (now : Int) :
    (publishIntent s incoming now).1 = s ∨
      (s.idempotencyKeys.lookup incoming.idempotencyKey = none ∧
        (∀ current, s.intents.lookup (intentKeyOf incoming) = some current → current.version < incoming.version) ∧
        (publishIntent s incoming now).1.intents = s.intents.insert (intentKeyOf incoming) incoming ∧
        (publishIntent s incoming now).1.idempotencyKeys =
          s.idempotencyKeys.insert incoming.idempotencyKey (identityOf incoming)) := by
  simp only [publishIntent]
  split
  · rename_i prepared accepted
    simp only [preparePublishIntent] at accepted
    split at accepted
    · cases accepted
    split at accepted
    · cases accepted
    rename_i clear
    split at accepted
    · cases accepted
    split at accepted
    · cases accepted
    cases accepted
    obtain ⟨unused,newer⟩ := checkPublication_ok clear
    exact Or.inr ⟨unused,newer,rfl,rfl⟩
  · exact Or.inl rfl

theorem publishIntent_change (s : Store F) (incoming : SchedulingIntent F) (now : Int) :
    Change s (publishIntent s incoming now).1 := by
  rcases publishIntent_cases s incoming now with same | ⟨unused,newer,stored,keys⟩
  · rw [same]
    exact change_refl s
  · exact .published incoming unused newer stored keys

omit [Platform F] [DecidableEq F] in
theorem retireExpiredIntent_change (s : Store F) (executionID stageID : String) (version : UInt64) (now : Int) :
    Change s (retireExpiredIntent s executionID stageID version now).1 := by
  simp only [retireExpiredIntent]
  split
  · exact change_refl s
  split
  · exact change_refl s
  split
  · exact change_refl s
  refine .thinned ?_ rfl
  intro key intent found
  by_cases here : key = ⟨executionID,stageID⟩
  · subst here
    have gone : (s.intents.erase ⟨executionID,stageID⟩).lookup ⟨executionID,stageID⟩ = some intent := found
    rw [AList.lookup_erase] at gone
    cases gone
  · have kept : (s.intents.erase ⟨executionID,stageID⟩).lookup key = some intent := found
    rwa [AList.lookup_erase_ne here] at kept

theorem observe_change (s : Store F) (observation : Observation F × Int) : Change s (Projection.observe s observation) := by
  obtain ⟨observation,now⟩ := observation
  cases observation with
  | event event =>
    simp only [Projection.observe,applyProviderSandboxEvent]
    split
    · exact change_refl s
    split
    · exact change_refl s
    split
    · exact change_refl s
    split
    · exact change_of_filter (fun _ intent => decide (intent.runId ≠ event.runId)) rfl rfl
    generalize stampSandboxConfirmation _ _ now = next
    split
    · exact change_of_same rfl rfl
    · exact change_of_same rfl rfl
  | reconcile sandboxes =>
    simp only [Projection.observe,reconcileProviderSandboxes]
    split
    · exact change_of_filter (fun _ intent => !(retiredRuns s.snapshot.allocations
        (takeInventory s.providerProjection.sandboxes sandboxes)).contains intent.runId) rfl rfl
    · exact change_refl s

section Reports
omit [Platform F]

theorem bootstrapProviderSnapshot_same (s : Store F) (provider : String) (snapshot : ClusterSnapshot F) (now : Int) :
    (bootstrapProviderSnapshot s provider snapshot now).1.intents = s.intents ∧
      (bootstrapProviderSnapshot s provider snapshot now).1.idempotencyKeys = s.idempotencyKeys := by
  simp only [bootstrapProviderSnapshot]
  split
  · exact ⟨rfl,rfl⟩
  · have kept := agree_commitChanged { s with providerProjection := ‹_› } (adoptSnapshot s.snapshot snapshot) now
    exact ⟨kept.intents,kept.keys⟩

theorem applyProviderResourceEvent_same (s : Store F) (event : ResourceEvent F) (now : Int) :
    (applyProviderResourceEvent s event now).1.intents = s.intents ∧
      (applyProviderResourceEvent s event now).1.idempotencyKeys = s.idempotencyKeys := by
  simp only [applyProviderResourceEvent]
  split
  · exact ⟨rfl,rfl⟩
  split
  · exact ⟨rfl,rfl⟩
  · exact ⟨rfl,rfl⟩
  rename_i projected _ _ working _
  have kept := agree_commitChanged { s with providerProjection := projected } working now
  exact ⟨kept.intents,kept.keys⟩

theorem replaceProjectedSandboxes_same {s next : Store F} {sandboxes : List (Sandbox F)} {now : Int} {changed : Bool}
    (replaced : replaceProjectedSandboxes s sandboxes now = .ok (next,changed)) :
    next.intents = s.intents ∧ next.idempotencyKeys = s.idempotencyKeys := by
  simp only [replaceProjectedSandboxes,bind,Except.bind] at replaced
  split at replaced
  · cases replaced
  split at replaced
  · cases replaced
    exact ⟨rfl,rfl⟩
  · cases replaced
    exact ⟨rfl,rfl⟩

end Reports

theorem step_change (w : World F) (op : Op F × Int) (forward : op.1 ≠ .rollback ∧ op.1 ≠ .restart) :
    Change w.store (step w op).store := by
  obtain ⟨op,now⟩ := op
  cases op with
  | publish intent => exact publishIntent_change ..
  | retire executionID stageID version => exact retireExpiredIntent_change ..
  | reserve plan => exact change_of_agree (reservePlan_agree ..)
  | finalize plan succeeded results =>
    simp only [step]
    split
    · rename_i finalized
      exact change_of_agree (finalizePlanResults_agree finalized)
    · exact change_refl _
  | transact call =>
    by_cases plans : isPlanCall call = true
    · exact change_of_agree (perform_bystanders w.store (call,now) plans)
    · cases call with
      | publish intent => exact publishIntent_change ..
      | begin | create | reserve | advance | finalize => exact absurd rfl plans
  | observe observation => exact observe_change ..
  | list sandboxes =>
    simp only [step]
    split
    · rename_i replaced
      obtain ⟨intents,keys⟩ := replaceProjectedSandboxes_same replaced
      exact change_of_same intents keys
    · exact change_refl _
  | bootstrap provider snapshot =>
    obtain ⟨intents,keys⟩ := bootstrapProviderSnapshot_same w.store provider snapshot now
    exact change_of_same intents keys
  | resource event =>
    obtain ⟨intents,keys⟩ := applyProviderResourceEvent_same w.store event now
    exact change_of_same intents keys
  | save => exact change_refl _
  | rollback => exact absurd rfl forward.1
  | restart => exact absurd rfl forward.2

/-- The Store of the world is registered, and what was saved came from one that was. -/
structure Kept (w : World F) : Prop where
  store : Registered w.store
  saved : ∀ durable, w.saved = some durable → ∃ s, Registered s ∧ durable = exportDurableState s

theorem restoredOr_registered {source : Store F} (registered : Registered s) (origin : Registered source) :
    Registered (restoredOr s (exportDurableState source)) := by
  simp only [restoredOr]
  split
  · rename_i back
    exact restore_registered origin back
  · exact registered

theorem step_kept (w : World F) (op : Op F × Int) (kept : Kept w) : Kept (step w op) := by
  by_cases forward : op.1 ≠ .rollback ∧ op.1 ≠ .restart
  · refine ⟨registered_change (step_change w op forward) kept.store,?_⟩
    intro durable saved
    by_cases saves : op.1 = .save
    · obtain ⟨op,now⟩ := op
      cases saves
      cases saved
      exact ⟨w.store,kept.store,rfl⟩
    · refine kept.saved durable ?_
      rw [← saved]
      obtain ⟨op,now⟩ := op
      cases op with
      | save => exact absurd rfl saves
      | rollback => exact absurd rfl forward.1
      | restart => exact absurd rfl forward.2
      | finalize | list => simp only [step]; split <;> rfl
      | publish | retire | reserve | transact | observe | bootstrap | resource => rfl
  · obtain ⟨op,now⟩ := op
    have back : op = .rollback ∨ op = .restart := by
      by_contra neither
      exact forward (not_or.mp neither)
    rcases back with rfl | rfl
    · simp only [step]
      split
      · rename_i durable saved
        obtain ⟨source,origin,rfl⟩ := kept.saved durable saved
        exact ⟨restoredOr_registered kept.store origin,kept.saved⟩
      · exact kept
    · refine ⟨restoredOr_registered kept.store kept.store,?_⟩
      intro durable saved
      cases saved

theorem run_kept (initial : ClusterSnapshot F) (ops : List (Op F × Int)) : Kept (run step (fresh initial) ops) := by
  refine run_keeps step_kept ?_ ops
  refine ⟨⟨?_,?_⟩,?_⟩
  · intro key intent found
    cases found
  · intro key intent found
    cases found
  · intro durable saved
    cases saved

theorem intents_registered (initial : ClusterSnapshot F) (ops : List (Op F × Int)) :
    Registered (run step (fresh initial) ops).store :=
  (run_kept initial ops).store

/-- What a publisher learns: the status and the class of the error. -/
def answer (s : Store F) (incoming : SchedulingIntent F) (now : Int) : IntentPublishStatus × Option Sentinel :=
  ((publishIntent s incoming now).2.1.status,(publishIntent s incoming now).2.2.map Err.sentinel)

/-- The Store knows the intent's idempotency key, but from no intent that it still stores. -/
def Forgotten (s : Store F) (incoming : SchedulingIntent F) : Prop :=
  (s.idempotencyKeys.lookup incoming.idempotencyKey).isSome ∧
    ∀ key stored, s.intents.lookup key = some stored → stored.idempotencyKey ≠ incoming.idempotencyKey

/-- The intent is an earlier publication, word for word, and a newer version is stored. -/
def Repeats (s : Store F) (incoming : SchedulingIntent F) : Prop :=
  ∃ current identity, s.intents.lookup (intentKeyOf incoming) = some current ∧ incoming.version < current.version ∧
    s.idempotencyKeys.lookup incoming.idempotencyKey = some identity ∧ incoming = identity.intent

/-- The answer once the checks against past publications are known. -/
def answerAfter (clear : Except Unpublished Unit) (revision : UInt64) (incoming : SchedulingIntent F) (now : Int) :
    IntentPublishStatus × Option Sentinel :=
  match clear with
  | .error unpublished => (unpublished.1.status,unpublished.2.map Err.sentinel)
  | .ok () =>
    if asTime incoming.validUntil ≤ now then (.rejected,some .intentExpired)
    else if revision = maxUint64 then (.rejected,some .revisionExhausted)
    else (.accepted,none)

theorem answer_eq (s : Store F) (incoming : SchedulingIntent F) (now : Int)
    (valid : validateIntentStructure incoming = .ok ()) :
    answer s incoming now = answerAfter (checkPublication s incoming) s.snapshot.revision incoming now := by
  simp only [answer,publishIntent,preparePublishIntent,valid,answerAfter]
  cases checkPublication s incoming with
  | error unpublished => rfl
  | ok _ =>
    by_cases expired : asTime incoming.validUntil ≤ now
    · simp [expired,rejected,intentResponse,Err.wrap]
    · by_cases full : s.snapshot.revision = maxUint64
      · simp [expired,full,rejected,intentResponse,Err.of]
      · simp [expired,full,intentResponse]

theorem answer_invalid {err : Err} (invalid : validateIntentStructure incoming = .error err) (s : Store F) (now : Int) :
    answer s incoming now = (.rejected,some err.sentinel) := by
  simp only [answer,publishIntent,preparePublishIntent,invalid]
  rfl

omit [Platform F] in
/-- What the checks answer when the key has been used and when it has not, for an intent that is not stored. -/
theorem answerAfter_key {used unused : Store F} {identity : IntentIdentity F}
    (intents : unused.intents.lookup (intentKeyOf incoming) = used.intents.lookup (intentKeyOf incoming))
    (known : used.idempotencyKeys.lookup incoming.idempotencyKey = some identity)
    (unknown : unused.idempotencyKeys.lookup incoming.idempotencyKey = none)
    (other : ∀ current, used.intents.lookup (intentKeyOf incoming) = some current → incoming ≠ current) (revision : UInt64)
    (now : Int) :
    answerAfter (checkPublication unused incoming) revision incoming now =
        answerAfter (checkPublication used incoming) revision incoming now ↔
      ∃ current, used.intents.lookup (intentKeyOf incoming) = some current ∧ incoming.version < current.version ∧
        incoming = identity.intent := by
  have late : ∀ clear : Except Unpublished Unit, clear = .ok () →
      (answerAfter clear revision incoming now).2 ≠ some .idempotencyConflict := by
    rintro _ rfl
    simp only [answerAfter]
    split
    · decide
    · split
      · decide
      · decide
  simp only [intentKeyOf] at *
  cases stored : used.intents.lookup ⟨incoming.executionId,incoming.stageId⟩ with
  | none =>
    rw [stored] at intents
    have conflict : (answerAfter (checkPublication used incoming) revision incoming now).2 =
        some .idempotencyConflict := by
      simp [checkPublication,stored,known,answerAfter,rejected,Err.wrap]
    refine iff_of_false ?_ (by simp)
    intro same
    rw [← same] at conflict
    exact late _ (by simp [checkPublication,intents,unknown]) conflict
  | some current =>
    rw [stored] at intents
    have differs := other current stored
    by_cases older : incoming.version < current.version
    · by_cases repeated : incoming = identity.intent
      · refine iff_of_true ?_ ⟨current,rfl,older,repeated⟩
        simp [checkPublication,stored,intents,known,unknown,older,← repeated]
      · refine iff_of_false ?_ (by simp [repeated])
        simp [checkPublication,stored,intents,known,unknown,older,repeated,answerAfter,rejected,Err.wrap]
    · refine iff_of_false ?_ (by simp [older])
      by_cases level : incoming.version = current.version
      · simp [checkPublication,stored,intents,known,unknown,level,differs,answerAfter,rejected,Err.wrap]
      · have conflict : (answerAfter (checkPublication used incoming) revision incoming now).2 =
            some .idempotencyConflict := by
          simp [checkPublication,stored,known,older,level,answerAfter,rejected,Err.wrap]
        intro same
        rw [← same] at conflict
        exact late _ (by simp [checkPublication,intents,unknown,older,level]) conflict

theorem answer_restored_iff {restored : Store F} (registered : Registered s)
    (back : restore (exportDurableState s) = .ok restored) (incoming : SchedulingIntent F) (now : Int) :
    answer restored incoming now = answer s incoming now ↔
      validateIntentStructure incoming ≠ .ok () ∨ ¬ Forgotten s incoming ∨ Repeats s incoming := by
  cases valid : validateIntentStructure incoming with
  | error err => simp [answer_invalid valid]
  | ok _ =>
    have intents := restore_intents registered back (intentKeyOf incoming)
    have revision : restored.snapshot.revision = s.snapshot.revision := by
      rw [(restore_ok back).2.2.2.2]
      rfl
    rw [answer_eq _ _ _ valid,answer_eq _ _ _ valid,revision]
    simp only [ne_eq,not_true_eq_false,false_or]
    by_cases forgotten : Forgotten s incoming
    · obtain ⟨known,gone⟩ := forgotten
      obtain ⟨identity,known⟩ := Option.isSome_iff_exists.mp known
      have unknown : restored.idempotencyKeys.lookup incoming.idempotencyKey = none := by
        rw [Option.eq_none_iff_forall_ne_some]
        intro other found
        obtain ⟨key,stored,held,same,_⟩ := (restore_keys registered back _ _).mp found
        exact gone key stored held same
      rw [answerAfter_key intents known unknown]
      · constructor
        · rintro ⟨current,found,older,repeated⟩
          exact Or.inr ⟨current,identity,found,older,known,repeated⟩
        · rintro (remembered | ⟨current,other,found,older,owned,repeated⟩)
          · exact absurd ⟨by simp [known],gone⟩ remembered
          · rw [known] at owned
            cases owned
            exact ⟨current,found,older,repeated⟩
      · intro current found same
        exact gone _ current found (by rw [same])
    · refine iff_of_true ?_ (Or.inl forgotten)
      have keys : restored.idempotencyKeys.lookup incoming.idempotencyKey =
          s.idempotencyKeys.lookup incoming.idempotencyKey := by
        cases known : s.idempotencyKeys.lookup incoming.idempotencyKey with
        | none =>
          rw [Option.eq_none_iff_forall_ne_some]
          intro identity found
          obtain ⟨key,stored,held,same,_⟩ := (restore_keys registered back _ _).mp found
          have owned := registered.recorded key stored held
          rw [same,known] at owned
          cases owned
        | some identity =>
          simp only [Forgotten,known,Option.isSome_some,true_and,not_forall,ne_eq,not_not] at forgotten
          obtain ⟨key,stored,held,same⟩ := forgotten
          have owned := registered.recorded key stored held
          rw [same,known] at owned
          cases owned
          exact (restore_keys registered back _ _).mpr ⟨key,stored,held,same,rfl⟩
      simp only [checkPublication,keys,intentKeyOf] at intents ⊢
      rw [intents]

/-- The Store stores the version of the execution and stage, or a newer one. -/
def Shut (key : IntentKey) (version : UInt64) (s : Store F) : Prop :=
  ∃ current, s.intents.lookup key = some current ∧ version ≤ current.version

/-- The intent of the execution and stage does not retire, and no rollback brings back an older one. -/
def Retains (key : IntentKey) (w : World F) (op : Op F × Int) : Prop :=
  match op.1 with
  | .retire .. | .observe _ | .rollback => ∀ current, w.store.intents.lookup key = some current →
      Shut key current.version (step w op).store
  | _ => True

section Shut
variable {key : IntentKey} {version : UInt64}

omit [Platform F] [DecidableEq F] in
theorem shut_of_same {next : Store F} (shut : Shut key version s) (intents : next.intents = s.intents) :
    Shut key version next := by
  rw [Shut,intents]
  exact shut

theorem publishIntent_shut (shut : Shut key version s) (incoming : SchedulingIntent F) (now : Int) :
    Shut key version (publishIntent s incoming now).1 := by
  rcases publishIntent_cases s incoming now with same | ⟨_,newer,stored,_⟩
  · rw [same]
    exact shut
  · obtain ⟨current,found,least⟩ := shut
    rw [Shut,stored]
    by_cases here : key = intentKeyOf incoming
    · subst here
      exact ⟨incoming,AList.lookup_insert _,UInt64.le_of_lt (UInt64.lt_of_le_of_lt least (newer current found))⟩
    · exact ⟨current,by rw [AList.lookup_insert_ne here]; exact found,least⟩

theorem step_shut {w : World F} {op : Op F × Int} (kept : Kept w) (shut : Shut key version w.store)
    (retains : Retains key w op) : Shut key version (step w op).store := by
  have carried : (∀ current, w.store.intents.lookup key = some current → Shut key current.version (step w op).store) →
      Shut key version (step w op).store := by
    intro carries
    obtain ⟨current,found,least⟩ := shut
    obtain ⟨next,there,more⟩ := carries current found
    exact ⟨next,there,UInt64.le_trans least more⟩
  obtain ⟨op,now⟩ := op
  cases op with
  | publish intent => exact publishIntent_shut shut intent now
  | retire | observe | rollback => exact carried retains
  | reserve plan => exact shut_of_same shut (reservePlan_agree ..).intents
  | finalize plan succeeded results =>
    simp only [step]
    split
    · rename_i finalized
      exact shut_of_same shut (finalizePlanResults_agree finalized).intents
    · exact shut
  | transact call =>
    by_cases plans : isPlanCall call = true
    · exact shut_of_same shut (perform_bystanders w.store (call,now) plans).intents
    · cases call with
      | publish intent => exact publishIntent_shut shut intent now
      | begin | create | reserve | advance | finalize => exact absurd rfl plans
  | list sandboxes =>
    simp only [step]
    split
    · rename_i replaced
      exact shut_of_same shut (replaceProjectedSandboxes_same replaced).1
    · exact shut
  | bootstrap provider snapshot => exact shut_of_same shut (bootstrapProviderSnapshot_same ..).1
  | resource event => exact shut_of_same shut (applyProviderResourceEvent_same ..).1
  | save => exact shut
  | restart =>
    simp only [step,restoredOr]
    split
    · rename_i back
      obtain ⟨current,found,least⟩ := shut
      exact ⟨current,by rw [restore_intents kept.store back]; exact found,least⟩
    · exact shut

theorem shut_refuses (shut : Shut (intentKeyOf incoming) version s) (lower : incoming.version < version) (now : Int) :
    (answer s incoming now).1 ≠ .accepted := by
  obtain ⟨current,found,least⟩ := shut
  have older : incoming.version < current.version := UInt64.lt_of_lt_of_le lower least
  cases valid : validateIntentStructure incoming with
  | error err => simp [answer_invalid valid]
  | ok _ =>
    simp only [intentKeyOf] at found
    rw [answer_eq _ _ _ valid]
    simp only [checkPublication,found,older,if_true]
    split
    · split
      · simp [answerAfter,rejected,intentResponse]
      · simp [answerAfter,rejected,intentResponse]
    · simp [answerAfter,rejected,intentResponse]

omit [Platform F] in
theorem checkPublication_error {unpublished : Unpublished} (refused : checkPublication s incoming = .error unpublished) :
    unpublished.1.status ≠ .accepted := by
  simp only [checkPublication] at refused
  split at refused
  · split at refused
    · cases refused
    · cases refused
      simp [rejected,intentResponse]
  · split at refused
    · split at refused
      · split at refused
        · cases refused
          simp [rejected,intentResponse]
        · cases refused
          simp [rejected,intentResponse]
      · cases refused
        simp [rejected,intentResponse]
    · split at refused
      · split at refused
        · cases refused
          simp [intentResponse]
        · split at refused
          · cases refused
            simp [rejected,intentResponse]
          · cases refused
            simp [rejected,intentResponse]
      · split at refused
        · cases refused
        · cases refused
          simp [rejected,intentResponse]

theorem accepted_shut {now : Int} (accepted : (answer s incoming now).1 = .accepted) :
    Shut (intentKeyOf incoming) incoming.version (publishIntent s incoming now).1 := by
  cases valid : validateIntentStructure incoming with
  | error err => simp [answer_invalid valid] at accepted
  | ok _ =>
    rw [answer_eq _ _ _ valid] at accepted
    simp only [answerAfter] at accepted
    split at accepted
    · rename_i refused
      exact absurd accepted (checkPublication_error refused)
    · rename_i clear
      split at accepted
      · cases accepted
      rename_i current
      split at accepted
      · cases accepted
      rename_i room
      simp only [Shut,publishIntent,preparePublishIntent,valid,clear,current,room,if_false]
      exact ⟨incoming,AList.lookup_insert _,UInt64.le_refl _⟩

end Shut

/-- Publication across restarts. In every Store that a run reaches, whatever its restarts and rollbacks: a restored
    Store answers as the exported one does exactly when it has not forgotten the intent's key, or the intent is a
    word for word repetition below the stored version; and once a version is accepted, no lower one is accepted
    for as long as the intent of its execution and stage does not retire and no rollback brings back an older one. -/
theorem publication_across_restarts (initial : ClusterSnapshot F) (ops : List (Op F × Int)) :
    (∀ restored, restore (exportDurableState (run step (fresh initial) ops).store) = .ok restored →
      ∀ incoming now, answer restored incoming now = answer (run step (fresh initial) ops).store incoming now ↔
        validateIntentStructure incoming ≠ .ok () ∨ ¬ Forgotten (run step (fresh initial) ops).store incoming ∨
          Repeats (run step (fresh initial) ops).store incoming) ∧
    ∀ intent now, (answer (run step (fresh initial) ops).store intent now).1 = .accepted →
      ∀ later, Guarded step (Retains (intentKeyOf intent)) (step (run step (fresh initial) ops) (.publish intent,now)) later →
      ∀ lower, intentKeyOf lower = intentKeyOf intent → lower.version < intent.version → ∀ time,
        (answer (run step (fresh initial) (ops ++ (.publish intent,now) :: later)).store lower time).1 ≠ .accepted := by
  have kept := run_kept initial ops
  refine ⟨fun restored back incoming now => answer_restored_iff kept.store back incoming now,?_⟩
  intro intent now accepted later retained lower same less time
  rw [run_append,run_cons]
  have along : Kept (run step (step (run step (fresh initial) ops) (.publish intent,now)) later) ∧
      Shut (intentKeyOf intent) intent.version
        (run step (step (run step (fresh initial) ops) (.publish intent,now)) later).store := by
    refine guarded_keeps (P := fun w => Kept w ∧ Shut (intentKeyOf intent) intent.version w.store) ?_
      ⟨step_kept _ _ kept,accepted_shut accepted⟩ retained
    rintro w op ⟨kept,shut⟩ retains
    exact ⟨step_kept w op kept,step_shut kept shut retains⟩
  exact shut_refuses (same ▸ along.2) less time

/-- `IntentIdempotencyKey` of `validation.go`. -/
def intentIdempotencyKey (F : Type) [Platform F] (executionID stageID : String) (version : UInt64) : String :=
  "intent-sha256-" ++ Platform.digest F [executionID ++ "\x00" ++ stageID ++ "\x00" ++ toString version]

/-- A version of the intent for one execution and stage that is valid for some nanoseconds. -/
def issued (version : UInt64) (nanos : Int) : SchedulingIntent Int :=
  { (default : SchedulingIntent Int) with
    executionId := "e"
    stageId := "s"
    version
    validUntil := some ⟨0,nanos⟩
    ttl := some ⟨0,nanos⟩
    idempotencyKey := intentIdempotencyKey Int "e" "s" version
    submittedAt := some ⟨0,0⟩
    jobId := "j"
    resourcesPerUnit := some ⟨1,0,0,0,0⟩
    unitCount := 1
    policyVersion := "p" }

theorem retains_of_same {key : IntentKey} {w : World F} {op : Op F × Int}
    (same : (step w op).store.intents.lookup key = w.store.intents.lookup key) : Retains key w op := by
  have shut (current : SchedulingIntent F) (found : w.store.intents.lookup key = some current) :
      Shut key current.version (step w op).store := ⟨current,same.trans found,UInt64.le_refl _⟩
  unfold Retains
  split
  · exact shut
  · exact shut
  · exact shut
  · trivial

/-- A retirement before the expiry and a rollback to the same version. -/
def retained : List (Op Int × Int) := [(.save,2),(.retire "e" "s" 2,3),(.rollback,4),(.restart,5)]

/-- After a rollback and a restart a lower version is still refused while the newer one is stored. -/
theorem publication_across_restarts_stored :
    (answer (run step (fresh default) ([(.publish (issued 1 10),0)] ++ (.publish (issued 2 10),1) :: retained)).store
      (issued 1 10) 6).1 ≠ .accepted := by
  have accepted : (answer (run step (fresh default) [(.publish (issued 1 10),0)]).store (issued 2 10) 1).1 = .accepted := by
    decide
  exact (publication_across_restarts default [(.publish (issued 1 10),0)]).2 (issued 2 10) 1 accepted retained
    ⟨trivial,retains_of_same (by decide),retains_of_same (by decide),trivial,trivial⟩ (issued 1 10) rfl (by decide) 6

/-- Once the second version has expired and retired, the Store refuses a new first version by its key, and after a
    restart accepts it. Where the first version was never published, it is accepted at once. -/
theorem retirement_reopens :
    (∃ restored, restore (exportDurableState (run step (fresh default)
        [(.publish (issued 1 10),0),(.publish (issued 2 10),1),(.retire "e" "s" 2,20)]).store) = .ok restored ∧
      answer (run step (fresh default)
        [(.publish (issued 1 10),0),(.publish (issued 2 10),1),(.retire "e" "s" 2,20)]).store (issued 1 100) 30 =
          (.rejected,some .idempotencyConflict) ∧
      answer restored (issued 1 100) 30 = (.accepted,none)) ∧
    (answer (newStore default) (issued 2 10) 0).1 = .accepted ∧
    (answer (run step (fresh default) [(.publish (issued 2 10),0),(.retire "e" "s" 2,20)]).store (issued 1 100) 30).1 =
      .accepted := by
  refine ⟨?_,by decide,by decide⟩
  have finishes : (restore (exportDurableState (run step (fresh default)
      [(.publish (issued 1 10),0),(.publish (issued 2 10),1),(.retire "e" "s" 2,20)]).store)).toOption.any
      (fun restored => decide (answer restored (issued 1 100) 30 = (.accepted,none))) = true := by decide
  obtain ⟨restored,back,accepted⟩ := ok_of_any finishes
  exact ⟨restored,back,by decide,of_decide_eq_true accepted⟩

end TgsRl.Restart
