import Mathlib.Data.String.Basic
import TgsRl.Durable
import TgsRl.Exclusion

/-!
What a failed call of the Store leaves behind. Six of the eight calls work on copies and write only
when nothing can fail any more. `Restore` writes while it still reads, and a resource event moves
its provider's cursor before its body is looked at.
-/
namespace TgsRl.Failures
open Resources Messages State Intents Projection Transactions Reservations Durable

variable {F : Type}

/-- A loop that returns at its first error, and whether it came to its end. -/
def foldUntil {ε σ α : Type} (step : σ → α → Except ε σ) : σ → List α → σ × Bool
  | state,[] => (state,true)
  | state,item :: items => match step state item with
    | .ok next => foldUntil step next items
    | .error _ => (state,false)

section
variable [Platform F] [DecidableEq F]

/-- `Restore` writes into the Store as it reads; only the projection is checked before. -/
def restoreInto (s : Store F) (durable : DurableState F) : Store F :=
  match validateAndRestoreProviderProjection durable with
  | .error _ => s
  | .ok projected =>
    let (intents,intentsRead) := foldUntil restoreIntent ⟨∅,∅⟩ durable.intents
    let s := { s with
      snapshot := durable.snapshot
      intents := intents.intents
      providerProjection := projected
      idempotencyKeys := intents.idempotencyKeys }
    if intentsRead then
      let (reservations,reservationsRead) := foldUntil restoreReservation ∅ durable.reservations
      let s := { s with reservations }
      if reservationsRead then { s with transactions := (foldUntil restoreTransaction ∅ durable.transactions).1 } else s
    else s

theorem foldUntil_ok {ε σ α : Type} {step : σ → α → Except ε σ} {state final : σ} {items : List α}
    (done : items.foldlM step state = .ok final) : foldUntil step state items = (final,true) := by
  induction items generalizing state with
  | nil =>
    cases done
    rfl
  | cons item items ih =>
    rw [List.foldlM_cons] at done
    cases taken : step state item with
    | error err =>
      rw [taken] at done
      cases done
    | ok next =>
      rw [taken] at done
      simp only [foldUntil,taken]
      exact ih done

end

/-- The two Stores hold the same durable state and remember the same idempotency keys. -/
structure Unchanged (before after : Store F) : Prop where
  snapshot : after.snapshot = before.snapshot
  intents : ∀ key, after.intents.lookup key = before.intents.lookup key
  resourceCursors : ∀ provider, after.providerProjection.resourceCursors.lookup provider =
    before.providerProjection.resourceCursors.lookup provider
  sandboxes : ∀ id, after.providerProjection.sandboxes.lookup id = before.providerProjection.sandboxes.lookup id
  sandboxCursors : ∀ id, (after.providerProjection.sandboxCursors.lookup id).map exportSandboxCursor =
    (before.providerProjection.sandboxCursors.lookup id).map exportSandboxCursor
  reservations : ∀ planID, after.reservations.lookup planID = before.reservations.lookup planID
  transactions : ∀ id, after.transactions.lookup id = before.transactions.lookup id
  idempotencyKeys : ∀ key, after.idempotencyKeys.lookup key = before.idempotencyKeys.lookup key

theorem Unchanged.refl (s : Store F) : Unchanged s s :=
  ⟨rfl,fun _ => rfl,fun _ => rfl,fun _ => rfl,fun _ => rfl,fun _ => rfl,fun _ => rfl,fun _ => rfl⟩

variable [Platform F] [DecidableEq F]

/-- The calls with their arguments. An argument that the source takes by pointer may be missing, and so may the snapshot
    of a durable state. -/
inductive Call (F : Type) where
  | restore (snapshotGiven : Bool) (durable : DurableState F)
  | applyProviderResourceEvent (event : Option (ResourceEvent F))
  | applyProviderSandboxEvent (event : Option (SandboxEvent F))
  | reservePlan (plan : Option (PlacementPlan F))
  | finalizePlanResults (plan : Option (PlacementPlan F)) (succeeded : Bool) (results : List (Option ActionResult))
  | beginTransaction (plan : Option (PlacementPlan F)) (generation : UInt64)
  | advanceTransaction (request : TransactionAdvanceRequest)
  | finalizeTransaction (request : TransactionFinalizeRequest)

/-- A call that works on copies: the Store it returns, or the error and the Store as it was. -/
def settle {α : Type} (s : Store F) (store : α → Store F) : Except Err α → Store F × Option Err
  | .error err => (s,some err)
  | .ok done => (store done,none)

def Call.perform (s : Store F) (now : Int) : Call F → Store F × Option Err
  | .restore false _ => (s,some (.new "state: restored snapshot is required"))
  | .restore true durable => (restoreInto s durable,match Durable.restore durable with
    | .error err => some err
    | .ok _ => none)
  | .applyProviderResourceEvent none => (s,some (.new "state: resource event is nil"))
  | .applyProviderResourceEvent (some event) =>
    let (next,_,err) := Projection.applyProviderResourceEvent s event now
    (next,err)
  | .applyProviderSandboxEvent none => (s,some (.new "state: sandbox event is nil"))
  | .applyProviderSandboxEvent (some event) =>
    let (next,_,err) := Projection.applyProviderSandboxEvent s event now
    (next,err)
  | .reservePlan none => (s,some (.wrap .invalidIntent "plan_id is required"))
  | .reservePlan (some plan) => ((Reservations.reservePlan s plan now).store,(Reservations.reservePlan s plan now).err)
  | .finalizePlanResults none _ _ => (s,some (.wrap .planNotReserved "nil plan"))
  | .finalizePlanResults (some plan) succeeded results =>
    settle s id (Reservations.finalizePlanResults s plan succeeded results now)
  | .beginTransaction none _ => (s,some (.wrap .invalidIntent "transaction plan_id is required"))
  | .beginTransaction (some plan) generation => settle s Done.store (Transactions.beginTransaction s plan generation now)
  | .advanceTransaction request => settle s Done.store (Transactions.advanceTransaction s request now)
  | .finalizeTransaction request => settle s Done.store (Transactions.finalizeTransaction s request now)

/-- The checks `Restore` makes of the records it reads. -/
def intentAccepted (intent : SchedulingIntent F) : Bool := (validateIntentStructure intent).toBool
def reservationAccepted (reservation : PlanReservation F) : Bool := decide (reservation.plan.planId ≠ "")
def transactionAccepted (record : TransactionRecord F) : Bool := (validateTransactionRecord record).toBool

def AllAccepted (durable : DurableState F) : Prop :=
  durable.intents.all intentAccepted = true ∧ durable.reservations.all reservationAccepted = true ∧
    durable.transactions.all transactionAccepted = true

/-- The Store holds what the durable state lists before its first refused record. -/
structure HoldsAlready (s : Store F) (durable : DurableState F) (projected : ProviderProjectionState F) : Prop where
  snapshot : durable.snapshot = s.snapshot
  resourceCursors : ∀ provider, projected.resourceCursors.lookup provider =
    s.providerProjection.resourceCursors.lookup provider
  sandboxes : ∀ id, projected.sandboxes.lookup id = s.providerProjection.sandboxes.lookup id
  sandboxCursors : ∀ id, (projected.sandboxCursors.lookup id).map exportSandboxCursor =
    (s.providerProjection.sandboxCursors.lookup id).map exportSandboxCursor
  intents : ∀ key, (mapOf ((durable.intents.takeWhile intentAccepted).map (fun intent =>
    (intentKeyOf intent,intent)))).lookup key = s.intents.lookup key
  idempotencyKeys : ∀ key, (mapOf ((durable.intents.takeWhile intentAccepted).map (fun intent =>
    (intent.idempotencyKey,identityOf intent)))).lookup key = s.idempotencyKeys.lookup key
  reservations : durable.intents.all intentAccepted = true →
    ∀ planID, (mapOf ((durable.reservations.takeWhile reservationAccepted).map (fun reservation =>
      (reservation.plan.planId,reservation)))).lookup planID = s.reservations.lookup planID
  transactions : durable.intents.all intentAccepted = true → durable.reservations.all reservationAccepted = true →
    ∀ id, (mapOf ((durable.transactions.takeWhile transactionAccepted).map (fun record =>
      (record.transactionID,record)))).lookup id = s.transactions.lookup id

/-- A loop whose items are tested one by one stops before the first that fails. -/
theorem foldUntil_eq {ε σ α : Type} {step : σ → α → Except ε σ} (accepted : α → Bool) {next : σ → α → σ}
    (accepts : ∀ s a, accepted a = true → step s a = .ok (next s a))
    (refuses : ∀ s a, accepted a = false → ∃ err, step s a = .error err) (items : List α) (start : σ) :
    foldUntil step start items = ((items.takeWhile accepted).foldl next start,items.all accepted) := by
  induction items generalizing start with
  | nil => rfl
  | cons a rest ih =>
    cases tested : accepted a with
    | true =>
      simp only [foldUntil,accepts start a tested,ih,List.takeWhile_cons,tested,if_true,List.foldl_cons,List.all_cons,
        Bool.true_and]
    | false =>
      obtain ⟨err,failed⟩ := refuses start a tested
      simp [foldUntil,failed,tested]

theorem readIntents (intents : List (SchedulingIntent F)) :
    foldUntil restoreIntent ⟨∅,∅⟩ intents =
      (⟨mapOf ((intents.takeWhile intentAccepted).map (fun intent => (intentKeyOf intent,intent))),
        mapOf ((intents.takeWhile intentAccepted).map (fun intent => (intent.idempotencyKey,identityOf intent)))⟩,
        intents.all intentAccepted) := by
  have general : ∀ (items : List (SchedulingIntent F)) (restored : RestoredIntents F),
      items.foldl (fun restored intent => RestoredIntents.mk (restored.intents.insert (intentKeyOf intent) intent)
        (restored.idempotencyKeys.insert intent.idempotencyKey (identityOf intent))) restored =
      ⟨(items.map (fun intent => (intentKeyOf intent,intent))).foldl (fun m pair => m.insert pair.1 pair.2) restored.intents,
        (items.map (fun intent => (intent.idempotencyKey,identityOf intent))).foldl
          (fun m pair => m.insert pair.1 pair.2) restored.idempotencyKeys⟩ := by
    intro items
    induction items with
    | nil => intro restored; rfl
    | cons intent rest ih => intro restored; exact ih _
  rw [foldUntil_eq intentAccepted]
  · exact congrArg (fun read => (read,intents.all intentAccepted)) (general _ _)
  · intro restored intent accepted
    simp only [intentAccepted,Except.toBool] at accepted
    split at accepted
    · rename_i valid
      simp only [restoreIntent,valid]
      rfl
    · cases accepted
  · intro restored intent refused
    simp only [intentAccepted,Except.toBool] at refused
    split at refused
    · cases refused
    rename_i err invalid
    refine ⟨⟨err.sentinel,"state: restore intent: " ++ err.message⟩,?_⟩
    simp only [restoreIntent,invalid]

omit [Platform F] [DecidableEq F] in
theorem readReservations (reservations : List (PlanReservation F)) :
    foldUntil restoreReservation ∅ reservations =
      (mapOf ((reservations.takeWhile reservationAccepted).map (fun reservation => (reservation.plan.planId,reservation))),
        reservations.all reservationAccepted) := by
  rw [foldUntil_eq reservationAccepted,mapOf,List.foldl_map]
  · intro restored reservation accepted
    simp only [reservationAccepted,decide_eq_true_eq] at accepted
    simp only [restoreReservation,if_neg accepted]
  · intro restored reservation refused
    simp only [reservationAccepted,decide_eq_false_iff_not,not_not] at refused
    exact ⟨.new "state: restored reservation requires plan_id",by simp only [restoreReservation,if_pos refused]⟩

omit [Platform F] [DecidableEq F] in
theorem readTransactions (transactions : List (TransactionRecord F)) :
    foldUntil restoreTransaction ∅ transactions =
      (mapOf ((transactions.takeWhile transactionAccepted).map (fun record => (record.transactionID,record))),
        transactions.all transactionAccepted) := by
  rw [foldUntil_eq transactionAccepted,mapOf,List.foldl_map]
  · intro restored record accepted
    simp only [transactionAccepted,Except.toBool] at accepted
    split at accepted
    · rename_i valid
      simp only [restoreTransaction,valid]
    · cases accepted
  · intro restored record refused
    simp only [transactionAccepted,Except.toBool] at refused
    split at refused
    · cases refused
    rename_i err invalid
    refine ⟨⟨err.sentinel,"state: restore transaction: " ++ err.message⟩,?_⟩
    simp only [restoreTransaction,invalid]

theorem foldlM_of_foldUntil {ε σ α : Type} {step : σ → α → Except ε σ} {items : List α} {start final : σ}
    (read : foldUntil step start items = (final,true)) : items.foldlM step start = .ok final := by
  induction items generalizing start with
  | nil =>
    cases read
    rfl
  | cons a rest ih =>
    rw [List.foldlM_cons]
    cases taken : step start a with
    | error err =>
      simp only [foldUntil,taken] at read
      cases (Prod.mk.inj read).2
    | ok next =>
      simp only [foldUntil,taken] at read
      exact ih read

theorem restore_ok_iff (durable : DurableState F) : (∃ s, Durable.restore durable = .ok s) ↔
    (∃ projected, validateAndRestoreProviderProjection durable = .ok projected) ∧ AllAccepted durable := by
  constructor
  · rintro ⟨s,restored⟩
    obtain ⟨projected,intents,reservations,transactions,_⟩ := restore_ok restored
    have read := foldUntil_ok intents
    have read' := foldUntil_ok reservations
    have read'' := foldUntil_ok transactions
    rw [readIntents] at read
    rw [readReservations] at read'
    rw [readTransactions] at read''
    exact ⟨⟨_,projected⟩,(Prod.mk.inj read).2,(Prod.mk.inj read').2,(Prod.mk.inj read'').2⟩
  · rintro ⟨⟨projected,accepted⟩,intents,reservations,transactions⟩
    have read := readIntents durable.intents
    have read' := readReservations durable.reservations
    have read'' := readTransactions durable.transactions
    rw [intents] at read
    rw [reservations] at read'
    rw [transactions] at read''
    simp only [Durable.restore,bind,Except.bind,accepted,foldlM_of_foldUntil read,foldlM_of_foldUntil read',
      foldlM_of_foldUntil read'']
    exact ⟨_,rfl⟩

theorem restoreInto_unchanged_iff {durable : DurableState F} {projected : ProviderProjectionState F} (s : Store F)
    (accepted : validateAndRestoreProviderProjection durable = .ok projected) :
    Unchanged s (restoreInto s durable) ↔ HoldsAlready s durable projected := by
  simp only [restoreInto,accepted,readIntents,readReservations,readTransactions]
  cases intents : durable.intents.all intentAccepted with
  | false =>
    simp only [Bool.false_eq_true,if_false]
    constructor
    · intro same
      exact ⟨same.snapshot,same.resourceCursors,same.sandboxes,same.sandboxCursors,same.intents,same.idempotencyKeys,
        fun all => absurd (intents.symm.trans all) Bool.false_ne_true,
        fun all => absurd (intents.symm.trans all) Bool.false_ne_true⟩
    · intro held
      exact ⟨held.snapshot,held.intents,held.resourceCursors,held.sandboxes,held.sandboxCursors,fun _ => rfl,fun _ => rfl,
        held.idempotencyKeys⟩
  | true =>
    simp only [if_true]
    cases reservations : durable.reservations.all reservationAccepted with
    | false =>
      simp only [Bool.false_eq_true,if_false]
      constructor
      · intro same
        exact ⟨same.snapshot,same.resourceCursors,same.sandboxes,same.sandboxCursors,same.intents,same.idempotencyKeys,
          fun _ => same.reservations,fun _ all => absurd (reservations.symm.trans all) Bool.false_ne_true⟩
      · intro held
        exact ⟨held.snapshot,held.intents,held.resourceCursors,held.sandboxes,held.sandboxCursors,held.reservations intents,
          fun _ => rfl,held.idempotencyKeys⟩
    | true =>
      simp only [if_true]
      constructor
      · intro same
        exact ⟨same.snapshot,same.resourceCursors,same.sandboxes,same.sandboxCursors,same.intents,same.idempotencyKeys,
          fun _ => same.reservations,fun _ _ => same.transactions⟩
      · intro held
        exact ⟨held.snapshot,held.intents,held.resourceCursors,held.sandboxes,held.sandboxCursors,held.reservations intents,
          held.transactions intents reservations,held.idempotencyKeys⟩

/-- The body of a resource event holds what its type says. -/
def hasBody : ResourceEventBody F → Bool
  | .unknown => true
  | .snapshotPublished reported => reported.isSome
  | .deviceChanged device => device.isSome
  | .allocationChanged allocation => allocation.isSome
  | .pendingUnitChanged unit => unit.isSome
  | .capabilityRefreshed capabilities => capabilities.isSome

/-- The calls whose failure leaves the Store as it was. -/
def KeepsStore (s : Store F) : Call F → Prop
  | .restore true durable => AllAccepted durable ∨
      ∀ projected, validateAndRestoreProviderProjection durable = .ok projected → HoldsAlready s durable projected
  | .applyProviderResourceEvent (some event) => hasBody event.body = true ∨
      acceptResourceCursor s.providerProjection event.provider event.providerRevision event.eventId = none ∨
      s.providerProjection.resourceCursors.lookup event.provider = some ⟨event.providerRevision,event.eventId⟩
  | _ => True

omit [Platform F] [DecidableEq F] in
theorem settle_unchanged {α : Type} (s : Store F) (store : α → Store F) (result : Except Err α)
    (failed : (settle s store result).2 ≠ none) : Unchanged s (settle s store result).1 := by
  cases result with
  | error err => exact Unchanged.refl s
  | ok done => exact absurd rfl failed

theorem reservePlan_unchanged (s : Store F) (plan : PlacementPlan F) (now : Int)
    (failed : (Reservations.reservePlan s plan now).err ≠ none) : (Reservations.reservePlan s plan now).store = s := by
  unfold Reservations.reservePlan at failed ⊢
  split
  · rfl
  rename_i named
  rw [if_neg named] at failed
  unfold reservePlanLocked at failed ⊢
  split
  · split <;> rfl
  · rename_i fresh
    rw [fresh] at failed
    simp only at failed
    split
    · rfl
    rename_i next reserved
    rw [reserved] at failed
    exact absurd rfl failed

theorem applyProviderSandboxEvent_unchanged (s : Store F) (event : SandboxEvent F) (now : Int)
    (failed : (Projection.applyProviderSandboxEvent s event now).2.2 ≠ none) :
    (Projection.applyProviderSandboxEvent s event now).1 = s := by
  unfold Projection.applyProviderSandboxEvent at failed ⊢
  split
  · rfl
  rename_i named
  rw [if_neg named] at failed
  split
  · rfl
  rename_i valid
  rw [if_neg valid] at failed
  simp only at failed ⊢
  split
  · rfl
  rename_i projected accepted
  rw [accepted] at failed
  simp only at failed
  split_ifs at failed
  all_goals exact absurd rfl failed

omit [Platform F] [DecidableEq F] in
theorem projectResourceEvent_error_iff (snapshot : ClusterSnapshot F) (body : ResourceEventBody F) :
    (∃ err, projectResourceEvent snapshot body = .error err) ↔ hasBody body = false := by
  cases body with
  | unknown => simp [projectResourceEvent,hasBody]
  | snapshotPublished reported => cases reported <;> simp [projectResourceEvent,hasBody]
  | deviceChanged device => cases device <;> simp [projectResourceEvent,hasBody]
  | allocationChanged allocation => cases allocation <;> simp [projectResourceEvent,hasBody]
  | pendingUnitChanged unit => cases unit <;> simp [projectResourceEvent,hasBody]
  | capabilityRefreshed capabilities => cases capabilities <;> simp [projectResourceEvent,hasBody]

omit [Platform F] [DecidableEq F] in
theorem acceptResourceCursor_some {projected next : ProviderProjectionState F} {provider eventID : String} {revision : UInt64}
    (accepted : acceptResourceCursor projected provider revision eventID = some next) :
    next = { projected with resourceCursors := projected.resourceCursors.insert provider ⟨revision,eventID⟩ } := by
  simp only [acceptResourceCursor] at accepted
  split at accepted
  · exact (Option.some.inj accepted).symm
  split at accepted
  · cases accepted
  split at accepted
  · cases accepted
  · exact (Option.some.inj accepted).symm

omit [Platform F] in
theorem resourceEvent_unchanged_iff (s : Store F) (event : ResourceEvent F) (now : Int) :
    ((Projection.applyProviderResourceEvent s event now).2.2 ≠ none →
      Unchanged s (Projection.applyProviderResourceEvent s event now).1) ↔
    hasBody event.body = true ∨
      acceptResourceCursor s.providerProjection event.provider event.providerRevision event.eventId = none ∨
      s.providerProjection.resourceCursors.lookup event.provider = some ⟨event.providerRevision,event.eventId⟩ := by
  unfold Projection.applyProviderResourceEvent
  cases accepted : acceptResourceCursor s.providerProjection event.provider event.providerRevision event.eventId with
  | none => simp
  | some projected =>
    obtain rfl := acceptResourceCursor_some accepted
    cases worked : projectResourceEvent s.snapshot event.body with
    | ok working =>
      have body : hasBody event.body = true := by
        rw [← Bool.not_eq_false,← projectResourceEvent_error_iff s.snapshot]
        rintro ⟨err,failed⟩
        rw [worked] at failed
        cases failed
      cases working <;> simp [body]
    | error err =>
      have body : hasBody event.body = false := (projectResourceEvent_error_iff s.snapshot _).mp ⟨err,worked⟩
      simp only [body,Bool.false_eq_true,reduceCtorEq,false_or,ne_eq,not_false_eq_true,true_imp_iff]
      constructor
      · intro same
        have here := same.resourceCursors event.provider
        rw [AList.lookup_insert] at here
        exact here.symm
      · intro same
        refine ⟨rfl,fun _ => rfl,?_,fun _ => rfl,fun _ => rfl,fun _ => rfl,fun _ => rfl,fun _ => rfl⟩
        intro provider
        by_cases here : provider = event.provider
        · subst here
          rw [AList.lookup_insert,same]
        · rw [AList.lookup_insert_ne here]

theorem restore_unchanged_iff (s : Store F) (now : Int) (durable : DurableState F) :
    ((Call.perform s now (.restore true durable)).2 ≠ none → Unchanged s (Call.perform s now (.restore true durable)).1) ↔
      KeepsStore s (.restore true durable) := by
  simp only [Call.perform,KeepsStore]
  cases projection : validateAndRestoreProviderProjection durable with
  | error err =>
    have kept : restoreInto s durable = s := by simp only [restoreInto,projection]
    rw [kept]
    exact iff_of_true (fun _ => Unchanged.refl s) (Or.inr (fun _ accepted => by cases accepted))
  | ok projected =>
    have only : (∀ other, Except.ok projected = (.ok other : Except Err _) → HoldsAlready s durable other) ↔
        HoldsAlready s durable projected := by
      constructor
      · intro all
        exact all projected rfl
      · intro held other same
        cases same
        exact held
    rw [only,← restoreInto_unchanged_iff s projection]
    by_cases all : AllAccepted durable
    · obtain ⟨next,done⟩ := (restore_ok_iff durable).mpr ⟨⟨projected,projection⟩,all⟩
      simp [done,all]
    · have failed : ∃ err, Durable.restore durable = .error err := by
        cases done : Durable.restore durable with
        | error err => exact ⟨err,rfl⟩
        | ok next => exact absurd ((restore_ok_iff durable).mp ⟨next,done⟩).2 all
      obtain ⟨err,failed⟩ := failed
      simp [failed,all]

/-- Which failures leave the Store as it was: all of them, except those of a `Restore` that meets a refused record after
    other content, and those of a resource event without its body at a cursor it moves. -/
theorem failed_call_unchanged_iff (s : Store F) (now : Int) (call : Call F) :
    ((call.perform s now).2 ≠ none → Unchanged s (call.perform s now).1) ↔ KeepsStore s call := by
  cases call with
  | restore snapshotGiven durable =>
    cases snapshotGiven with
    | false => exact iff_of_true (fun _ => Unchanged.refl s) trivial
    | true => exact restore_unchanged_iff s now durable
  | applyProviderResourceEvent event =>
    cases event with
    | none => exact iff_of_true (fun _ => Unchanged.refl s) trivial
    | some event => exact resourceEvent_unchanged_iff s event now
  | applyProviderSandboxEvent event =>
    refine iff_of_true (fun failed => ?_) trivial
    cases event with
    | none => exact Unchanged.refl s
    | some event =>
      rw [show (Call.perform s now (.applyProviderSandboxEvent (some event))).1 = s from
        applyProviderSandboxEvent_unchanged s event now failed]
      exact Unchanged.refl s
  | reservePlan plan =>
    refine iff_of_true (fun failed => ?_) trivial
    cases plan with
    | none => exact Unchanged.refl s
    | some plan =>
      rw [show (Call.perform s now (.reservePlan (some plan))).1 = s from reservePlan_unchanged s plan now failed]
      exact Unchanged.refl s
  | finalizePlanResults plan succeeded results =>
    refine iff_of_true (fun failed => ?_) trivial
    cases plan with
    | none => exact Unchanged.refl s
    | some plan => exact settle_unchanged s id _ failed
  | beginTransaction plan generation =>
    refine iff_of_true (fun failed => ?_) trivial
    cases plan with
    | none => exact Unchanged.refl s
    | some plan => exact settle_unchanged s Done.store _ failed
  | advanceTransaction request => exact iff_of_true (settle_unchanged s Done.store _) trivial
  | finalizeTransaction request => exact iff_of_true (settle_unchanged s Done.store _) trivial

/-- A durable state whose one reservation has no plan ID. -/
def halfRead : DurableState Int where
  snapshot := { (default : ClusterSnapshot Int) with revision := 9 }
  intents := []
  resourceCursors := ∅
  sandboxCursors := ∅
  projectedSandboxes := []
  reservations := [⟨default,none,∅,[],[],false,false,[]⟩]
  transactions := []

def bodiless : ResourceEvent Int := ⟨"event",7,"provider",.deviceChanged none⟩

/-- `Restore` fails at a reservation after it has replaced the snapshot; a resource event fails after it has moved its
    cursor, so that the same event with its body is then taken for a repeated one. -/
theorem failed_calls_write :
    ((Call.restore true halfRead).perform (newStore default) 0).2 =
      some (.new "state: restored reservation requires plan_id") ∧
    ((Call.restore true halfRead).perform (newStore default) 0).1.snapshot.revision = 9 ∧
    (newStore (default : ClusterSnapshot Int)).snapshot.revision = 0 ∧
    ((Call.applyProviderResourceEvent (some bodiless)).perform (newStore default) 0).2 =
      some (.new "state: device event missing device") ∧
    (((Call.applyProviderResourceEvent (some bodiless)).perform (newStore default) 0).1.providerProjection.resourceCursors.lookup
      "provider").map ProviderResourceCursor.revision = some 7 ∧
    (newStore (default : ClusterSnapshot Int)).providerProjection.resourceCursors.lookup "provider" = none ∧
    ((Call.applyProviderResourceEvent (some { bodiless with body := .deviceChanged (some default) })).perform
      ((Call.applyProviderResourceEvent (some bodiless)).perform (newStore default) 0).1 0).1.snapshot.devices = [] := by
  decide +kernel

end TgsRl.Failures
