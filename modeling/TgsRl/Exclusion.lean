import TgsRl.Backing
import TgsRl.Settlements
import TgsRl.Intents

/-!
Exclusion between transactions. Two records that hold a reservation and are not terminal lock each
other out by the allocation names they affect. `ReserveTransaction`, `AdvanceTransaction` and
`FinalizeTransaction` check for such an overlap; `BeginTransaction` does not.
-/
namespace TgsRl.Exclusion
open Resources Messages State Loops Mutations Preemption Reservations Transactions Drafts Settlements Backing Intents

variable {F : Type}

def Exclusive (s : Store F) : Prop :=
  ∀ id₁ id₂ record₁ record₂, id₁ ≠ id₂ → s.transactions.lookup id₁ = some record₁ →
    s.transactions.lookup id₂ = some record₂ → holdsLock record₁ = true → holdsLock record₂ = true →
    ∀ allocation ∈ record₁.affectedAllocationIDs, allocation ∉ record₂.affectedAllocationIDs

variable {s next : Store F} {id : String} {record : TransactionRecord F} {now : Int} {ids : List String}
  {plan : PlacementPlan F} {generation : UInt64}

theorem transactionOverlap_none_iff :
    transactionOverlap s id ids = none ↔ ∀ other record, other ≠ id → s.transactions.lookup other = some record →
      holdsLock record = true → ∀ allocation ∈ ids, allocation ∉ record.affectedAllocationIDs := by
  simp only [transactionOverlap,Option.map_eq_none_iff,List.find?_eq_none,Prod.forall,Map.mem_pairs_iff]
  constructor
  · intro free other record differs found held allocation member shared
    have := free other record found
    simp only [differs,held,ne_eq,not_false_eq_true,decide_true,Bool.true_and,overlapsAllocationIDs,
      List.any_eq_true,not_exists] at this
    exact this allocation ⟨member,by simpa using shared⟩
  · intro free other record found
    simp only [Bool.and_eq_true,decide_eq_true_eq,overlapsAllocationIDs,List.any_eq_true]
    rintro ⟨⟨differs,held⟩,allocation,member,shared⟩
    exact free other record differs found held allocation member (by simpa using shared)

theorem exclusive_insert (exclusive : Exclusive s) (written : next.transactions = s.transactions.insert id record)
    (free : holdsLock record = true → transactionOverlap s id record.affectedAllocationIDs = none) : Exclusive next := by
  intro id₁ id₂ record₁ record₂ differs found₁ found₂ held₁ held₂ allocation member₁ member₂
  rw [written] at found₁ found₂
  by_cases here₁ : id₁ = id
  · subst here₁
    rw [AList.lookup_insert] at found₁
    cases found₁
    rw [AList.lookup_insert_ne differs.symm] at found₂
    exact transactionOverlap_none_iff.mp (free held₁) id₂ record₂ differs.symm found₂ held₂ allocation member₁ member₂
  · rw [AList.lookup_insert_ne here₁] at found₁
    by_cases here₂ : id₂ = id
    · subst here₂
      rw [AList.lookup_insert] at found₂
      cases found₂
      exact transactionOverlap_none_iff.mp (free held₂) id₁ record₁ differs found₁ held₁ allocation member₂ member₁
    · rw [AList.lookup_insert_ne here₂] at found₂
      exact exclusive id₁ id₂ record₁ record₂ differs found₁ found₂ held₁ held₂ allocation member₁ member₂

inductive Call (F : Type) where
  | begin (plan : PlacementPlan F) (generation : UInt64)
  | create (plan : PlacementPlan F) (generation : UInt64)
  | reserve (transactionID : String) (expectedGeneration : UInt64)
  | advance (request : TransactionAdvanceRequest)
  | finalize (request : TransactionFinalizeRequest)
  | publish (intent : SchedulingIntent F)

/-- The Store after a result; a failed call leaves it as it was. -/
def storeAfter (s : Store F) (result : Except Err (Done F)) : Store F :=
  match result with
  | .error _ => s
  | .ok done => done.store

variable [Platform F] [DecidableEq F]

def perform (s : Store F) (call : Call F × Int) : Store F :=
  match call with
  | (.begin plan generation,now) => storeAfter s (beginTransaction s plan generation now)
  | (.create plan generation,now) => storeAfter s (createTransaction s plan generation now)
  | (.reserve id expectedGeneration,now) => storeAfter s (reserveTransaction s id expectedGeneration now)
  | (.advance request,now) => storeAfter s (advanceTransaction s request now)
  | (.finalize request,now) => storeAfter s (finalizeTransaction s request now)
  | (.publish intent,now) => (publishIntent s intent now).1

/-- The first `BeginTransaction` of a plan overlaps no lock. -/
def Clear (s : Store F) (call : Call F × Int) : Prop :=
  match call with
  | (.begin plan _,_) => s.transactions.lookup plan.planId = none →
      transactionOverlap s plan.planId (affectedAllocationIDsForPlan plan) = none
  | _ => True

theorem reservePlanLocked_transactions (s : Store F) (plan : PlacementPlan F) (now : Int) :
    (reservePlanLocked s plan now).store.transactions = s.transactions := by
  unfold reservePlanLocked
  split
  · split <;> rfl
  · split
    · rfl
    · rename_i next reserved
      obtain ⟨_,_,accepted⟩ := reserveNewPlan_accepted reserved
      exact accepted.transactions

theorem reserved_transactions :
    ((reservePlanLocked s plan now).store.setTransaction id record).transactions = s.transactions.insert id record := by
  rw [Store.setTransaction,reservePlanLocked_transactions]

omit [Platform F] [DecidableEq F] in
theorem checkOverlap_ok (free : checkOverlap s id ids = .ok ()) : transactionOverlap s id ids = none := by
  unfold checkOverlap at free
  split at free
  · assumption
  · cases free

omit [Platform F] [DecidableEq F] in
theorem advanceTransaction_cases {request : TransactionAdvanceRequest} {done : Done F}
    (accepted : advanceTransaction s request now = .ok done) :
    ∃ record, s.transactions.lookup request.transactionID = some record ∧
      (done = ⟨s,record,none⟩ ∧ record.state = request.nextState ∨
        isTerminal record = false ∧
          (record.reservationHeld = true →
            transactionOverlap s request.transactionID record.affectedAllocationIDs = none) ∧
          done = ⟨s.setTransaction request.transactionID (advanceRecord record request now),
            advanceRecord record request now,none⟩) := by
  have repeated : ∀ record : TransactionRecord F, advanceRepeats record request = true → record.state = request.nextState := by
    intro record repeats
    simp only [advanceRepeats,Bool.and_eq_true,decide_eq_true_eq] at repeats
    exact repeats.1.1
  unfold advanceTransaction at accepted
  split at accepted
  · cases accepted
  split at accepted
  · cases accepted
  split at accepted
  · cases accepted
  rename_i record found
  refine ⟨record,found,?_⟩
  split at accepted
  · cases accepted
  split at accepted
  · split at accepted
    · rename_i repeats
      cases accepted
      exact Or.inl ⟨rfl,repeated record repeats⟩
    · cases accepted
  · rename_i live
    split at accepted
    · cases accepted
    split at accepted
    · rename_i repeats
      cases accepted
      simp only [Bool.and_eq_true] at repeats
      exact Or.inl ⟨rfl,repeated record repeats.1⟩
    · dsimp only at accepted
      split at accepted
      · split at accepted
        · cases accepted
        · rename_i free
          cases accepted
          exact Or.inr ⟨by simpa using live,fun _ => checkOverlap_ok free,rfl⟩
      · rename_i unheld
        cases accepted
        exact Or.inr ⟨by simpa using live,fun held => absurd held unheld,rfl⟩

theorem finalizeTransaction_cases {request : TransactionFinalizeRequest} {done : Done F}
    (accepted : finalizeTransaction s request now = .ok done) :
    ∃ record, s.transactions.lookup request.transactionID = some record ∧
      (isTerminal record = true ∧ record.finalizedSucceeded = request.succeeded ∧ done = ⟨s,record,some s.snapshot⟩ ∨
        isTerminal record = false ∧ record.reservationHeld = true ∧
          ∃ finalized, finalizePlanResults s record.plan request.succeeded request.results now = .ok finalized ∧
            done.record = finalizeRecord record request (retainedFor finalized record.planID) now ∧
            done.store = finalized.setTransaction request.transactionID done.record) := by
  unfold finalizeTransaction at accepted
  split at accepted
  · cases accepted
  split at accepted
  · cases accepted
  rename_i record found
  refine ⟨record,found,?_⟩
  split at accepted
  · cases accepted
  split at accepted
  · rename_i terminal
    split at accepted
    · rename_i repeats
      cases accepted
      exact Or.inl ⟨terminal,repeats.1,rfl⟩
    · cases accepted
  · rename_i live
    split at accepted
    · cases accepted
    rename_i held
    split at accepted
    · cases accepted
    split at accepted
    · cases accepted
    rename_i finalized settled
    cases accepted
    exact Or.inr ⟨by simpa using live,by simpa using held,finalized,settled,rfl,rfl⟩

inductive Change (s : Store F) : Call F × Int → Store F → Prop
  | same {call : Call F × Int} : Change s call s
  | created {plan : PlacementPlan F} {generation : UInt64} {now : Int}
      (absent : s.transactions.lookup plan.planId = none) :
      Change s (.create plan generation,now) (s.setTransaction plan.planId (newTransactionRecord plan generation now))
  | begun {plan : PlacementPlan F} {generation : UInt64} {now : Int}
      (absent : s.transactions.lookup plan.planId = none) :
      Change s (.begin plan generation,now) ((reservePlanLocked s plan now).store.setTransaction plan.planId
        (holdReservation (newTransactionRecord plan generation now) now))
  | reserved {id : String} {expected : UInt64} {now : Int} {record : TransactionRecord F}
      (found : s.transactions.lookup id = some record) (live : isTerminal record = false)
      (unheld : record.reservationHeld = false) (free : transactionOverlap s id record.affectedAllocationIDs = none) :
      Change s (.reserve id expected,now)
        ((reservePlanLocked s record.plan now).store.setTransaction id (holdReservation record now))
  | advanced {request : TransactionAdvanceRequest} {now : Int} {record : TransactionRecord F}
      (found : s.transactions.lookup request.transactionID = some record)
      (live : isTerminal record = false) (free : record.reservationHeld = true →
        transactionOverlap s request.transactionID record.affectedAllocationIDs = none)
      (accepted : ∃ done, advanceTransaction s request now = .ok done) :
      Change s (.advance request,now) (s.setTransaction request.transactionID (advanceRecord record request now))
  | finalized {request : TransactionFinalizeRequest} {now : Int} {record : TransactionRecord F} {next : Store F} {done : Done F}
      (found : s.transactions.lookup request.transactionID = some record)
      (settled : finalizePlanResults s record.plan request.succeeded request.results now = .ok next)
      (written : done.store = next.setTransaction request.transactionID
        (finalizeRecord record request (retainedFor next record.planID) now))
      (accepted : finalizeTransaction s request now = .ok done) : Change s (.finalize request,now) done.store
  | published {intent : SchedulingIntent F} {now : Int} {prepared : PreparedIntentPublication F}
      (accepted : preparePublishIntent s intent now = .ok prepared) :
      Change s (.publish intent,now) (prepared.commit s)

theorem takeReservation_store (s : Store F) (id : String) (record : TransactionRecord F) (now : Int) :
    storeAfter s (takeReservation s id record now) = s ∨ storeAfter s (takeReservation s id record now) =
      (reservePlanLocked s record.plan now).store.setTransaction id (holdReservation record now) := by
  unfold takeReservation
  dsimp only
  split
  · exact .inr rfl
  split
  · exact .inr rfl
  · exact .inl rfl

theorem beginTransaction_change :
    Change s (.begin plan generation,now) (storeAfter s (beginTransaction s plan generation now)) := by
  unfold beginTransaction
  rcases proposeTransaction_cases plan generation now with ⟨⟨err,refused⟩,_⟩ | ⟨proposed,_⟩
  · rw [refused]
    exact .same
  · rw [proposed]
    dsimp only
    split
    · split <;> exact .same
    · rename_i absent
      rcases takeReservation_store s plan.planId (newTransactionRecord plan generation now) now with same | taken
      · exact same.symm ▸ .same
      · exact taken.symm ▸ .begun absent

theorem createTransaction_change :
    Change s (.create plan generation,now) (storeAfter s (createTransaction s plan generation now)) := by
  unfold createTransaction
  rcases proposeTransaction_cases plan generation now with ⟨⟨err,refused⟩,_⟩ | ⟨proposed,_⟩
  · rw [refused]
    exact .same
  · rw [proposed]
    dsimp only
    split
    · split <;> exact .same
    · rename_i absent
      exact .created absent

theorem reserveTransaction_change {expected : UInt64} :
    Change s (.reserve id expected,now) (storeAfter s (reserveTransaction s id expected now)) := by
  unfold reserveTransaction
  split
  · exact .same
  rename_i record found
  split
  · exact .same
  split
  · exact .same
  rename_i live
  split
  · exact .same
  rename_i unheld
  split
  · exact .same
  split
  · exact .same
  rename_i free
  rcases takeReservation_store s id record now with same | taken
  · exact same.symm ▸ .same
  · exact taken.symm ▸ .reserved found (by simpa using live) (by simpa using unheld) (checkOverlap_ok free)

theorem perform_change (s : Store F) (call : Call F × Int) : Change s call (perform s call) := by
  obtain ⟨call,now⟩ := call
  cases call with
  | begin plan generation => exact beginTransaction_change
  | create plan generation => exact createTransaction_change
  | reserve id expected => exact reserveTransaction_change
  | advance request =>
    simp only [perform]
    cases outcome : advanceTransaction s request now with
    | error err => exact .same
    | ok done =>
      obtain ⟨record,found,⟨rfl,_⟩ | ⟨live,free,rfl⟩⟩ := advanceTransaction_cases outcome
      · exact .same
      · exact .advanced found live free ⟨_,outcome⟩
  | finalize request =>
    simp only [perform]
    cases outcome : finalizeTransaction s request now with
    | error err => exact .same
    | ok done =>
      obtain ⟨record,found,⟨_,_,rfl⟩ | ⟨_,_,next,settled,written,stored⟩⟩ := finalizeTransaction_cases outcome
      · exact .same
      · exact .finalized found settled (written ▸ stored) outcome
  | publish intent =>
    simp only [perform,publishIntent]
    split
    · rename_i prepared accepted
      exact .published accepted
    · exact .same

theorem perform_exclusive (s : Store F) (call : Call F × Int) (exclusive : Exclusive s) (clear : Clear s call) :
    Exclusive (perform s call) := by
  have change := perform_change s call
  generalize perform s call = next at change ⊢
  cases change with
  | same => exact exclusive
  | created absent => exact exclusive_insert exclusive rfl (fun held => by simp [holdsLock,newTransactionRecord] at held)
  | begun absent => exact exclusive_insert exclusive reserved_transactions (fun _ => clear absent)
  | reserved _ _ _ free => exact exclusive_insert exclusive reserved_transactions (fun _ => free)
  | advanced _ _ free _ =>
    refine exclusive_insert exclusive rfl (fun held => free ?_)
    simp only [holdsLock,Bool.and_eq_true] at held
    exact held.1
  | finalized _ settled written _ =>
    exact exclusive_insert exclusive (by rw [written,Store.setTransaction,finalizePlanResults_transactions settled])
      (fun held => by simp [holdsLock,finalizeRecord] at held)
  | published accepted =>
    unfold Exclusive
    rw [show (PreparedIntentPublication.commit _ s).transactions = s.transactions from
      (preparePublishIntent_staged accepted).2.1]
    exact exclusive

omit [DecidableEq F] in
theorem reverseDeviceResourceDelta_avoids (working : ClusterSnapshot F) (devices : List String)
    (consumption back : ResourceVector F) :
    Avoids .transactionLocked (reverseDeviceResourceDelta working devices consumption back) := by
  unfold reverseDeviceResourceDelta
  split
  · rename_i failed
    refine avoids_rethrow (avoids_checkEach ?_) failed
    intro id _
    split
    · exact avoids_wrap (by decide) _
    split
    · exact avoids_wrap (by decide) _
    · exact avoids_ok _
  · exact avoids_ok _

omit [DecidableEq F] in
theorem restoreAction_avoids (working before : ClusterSnapshot F) (action : Action F) (reservation : PlanReservation F) :
    Avoids .transactionLocked (restoreAction working before action reservation) := by
  unfold restoreAction
  dsimp only
  split
  · split
    · exact avoids_ok _
    · exact avoids_wrap (by decide) _
  · split
    · split
      · rename_i failed
        exact avoids_rethrow (reverseDeviceResourceDelta_avoids _ _ _ _) failed
      · exact avoids_ok _
    · exact avoids_wrap (by decide) _
  · split
    · rename_i failed
      exact avoids_rethrow (reverseDeviceResourceDelta_avoids _ _ _ _) failed
    · exact avoids_ok _
  all_goals first
    | exact avoids_ok _
    | exact avoids_wrap (by decide) _

theorem settleMutation_avoids (snapshot : ClusterSnapshot F) (plan : PlacementPlan F) (reservation : PlanReservation F)
    (succeeded : Bool) (results : List (Option ActionResult)) :
    Avoids .transactionLocked (settleMutation snapshot plan reservation succeeded results) := by
  unfold settleMutation
  split
  · exact avoids_wrap (by decide) _
  split
  · exact avoids_ok _
  split
  · unfold restoreMutationStateFromBeforeImage
    split
    · exact avoids_wrap (by decide) _
    split
    · exact avoids_wrap (by decide) _
    split
    · split
      · rename_i failed
        exact avoids_rethrow (restoreAction_avoids _ _ _ _) failed
      · exact avoids_ok _
    · split
      · exact avoids_wrap (by decide) _
      · exact avoids_ok _
  · exact avoids_ok _

theorem settlePreemption_avoids (snapshot : ClusterSnapshot F) (plan : PlacementPlan F) (reservation : PlanReservation F)
    (succeeded : Bool) (results : List (Option ActionResult)) :
    Avoids .transactionLocked (settlePreemption snapshot plan reservation succeeded results) := by
  unfold settlePreemption
  split
  · rename_i failed
    exact avoids_rethrow (preemptionPlanParts_avoids (by decide) plan) failed
  · rename_i parts _
    split
    · unfold commitPreemptionReplacement
      dsimp only
      split
      · exact avoids_wrap (by decide) _
      split
      · rename_i failed
        refine avoids_rethrow (avoids_foldlM ?_) failed
        intro state action _
        unfold commitVictim
        split
        · exact avoids_wrap (by decide) _
        · exact avoids_ok _
      · split
        · exact avoids_ok _
        · split
          · exact avoids_wrap (by decide) _
          · exact avoids_ok _
    · split
      · unfold abortPreemptionReplacement
        split
        · rename_i failed
          refine avoids_rethrow (avoids_foldlM ?_) failed
          intro state action _
          unfold restoreVictim
          split
          · exact avoids_wrap (by decide) _
          split
          · exact avoids_wrap (by decide) _
          · exact avoids_ok _
        · dsimp only
          split
          · rename_i failed
            exact avoids_rethrow (reverseDeviceResourceDelta_avoids _ _ _ _) failed
          · exact avoids_ok _
      · exact avoids_ok _

theorem finalizePlanResults_avoids (s : Store F) (plan : PlacementPlan F) (succeeded : Bool)
    (results : List (Option ActionResult)) (now : Int) :
    Avoids .transactionLocked (finalizePlanResults s plan succeeded results now) := by
  cases found : s.reservations.lookup plan.planId with
  | none =>
    simp only [finalizePlanResults,found]
    exact avoids_wrap (by decide) _
  | some reservation =>
    by_cases same : reservation.plan = plan
    · cases finalized : reservation.finalized with
      | true =>
        simp only [finalizePlanResults,found,same,ne_eq,not_true_eq_false,if_false,finalized,if_true,
          finalizePreemptionPlanResults,finalizeAdmissionPlanResults]
        split
        · split
          · rename_i failed
            split at failed
            · rename_i shape
              exact avoids_rethrow (avoids_rethrow (preemptionPlanParts_avoids (by decide) plan) shape) failed
            · split at failed
              · exact avoids_rethrow (avoids_wrap (by decide) _) failed
              · cases failed
          · exact avoids_ok _
        · split
          · split
            · exact avoids_wrap (by decide) _
            · exact avoids_ok _
          · split
            · exact avoids_wrap (by decide) _
            · exact avoids_ok _
      | false =>
        have settles := finalizePlanResults_settles succeeded results now found same finalized
        split at settles
        · rename_i err failed
          rw [settles]
          unfold settlement at failed
          split at failed
          · exact avoids_rethrow (settlePreemption_avoids _ _ _ _ _) failed
          split at failed
          · exact avoids_rethrow (settleMutation_avoids _ _ _ _ _) failed
          · cases failed
        · rcases settles with ⟨_,failed⟩ | ⟨next,finished,_⟩
          · rw [failed]
            exact avoids_of (by decide)
          · rw [finished]
            exact avoids_ok _
    · simp only [finalizePlanResults,found,same,ne_eq,not_false_eq_true,if_true]
      exact avoids_wrap (by decide) _

omit [Platform F] [DecidableEq F] in
theorem checkOverlap_free (exclusive : Exclusive s) (found : s.transactions.lookup id = some record)
    (held : holdsLock record = true) : checkOverlap s id record.affectedAllocationIDs = .ok () := by
  have free : transactionOverlap s id record.affectedAllocationIDs = none := by
    refine transactionOverlap_none_iff.mpr ?_
    intro other record' differs found' held' allocation member shared
    exact exclusive other id record' record differs found' found held' held allocation shared member
  simp [checkOverlap,free]

theorem validateTransactionGeneration_avoids (actual expected : UInt64) :
    Avoids .transactionLocked (validateTransactionGeneration actual expected) := by
  unfold validateTransactionGeneration
  split
  · exact avoids_wrap (by decide) _
  · exact avoids_ok _

theorem avoids_new {α : Type} {kind : Sentinel} (differs : kind ≠ .plain) (text : String) :
    Avoids kind (.error (.new text) : Except Err α) := by
  intro err failed
  cases failed
  exact differs.symm

omit [Platform F] [DecidableEq F] in
theorem advanceTransaction_avoids (exclusive : Exclusive s) (request : TransactionAdvanceRequest) (now : Int) :
    Avoids .transactionLocked (advanceTransaction s request now) := by
  unfold advanceTransaction
  split
  · exact avoids_new (by decide) _
  split
  · exact avoids_new (by decide) _
  split
  · exact avoids_wrap (by decide) _
  rename_i record found
  split
  · rename_i failed
    exact avoids_rethrow (validateTransactionGeneration_avoids _ _) failed
  · split
    · split
      · exact avoids_ok _
      · exact avoids_wrap (by decide) _
    · rename_i live
      split
      · exact avoids_wrap (by decide) _
      split
      · exact avoids_ok _
      dsimp only
      split
      · rename_i reserved
        have held : holdsLock record = true := by simp [holdsLock,reserved,live]
        rw [checkOverlap_free exclusive found held]
        exact avoids_ok _
      · exact avoids_ok _

theorem finalizeTransaction_avoids (exclusive : Exclusive s) (request : TransactionFinalizeRequest) (now : Int) :
    Avoids .transactionLocked (finalizeTransaction s request now) := by
  unfold finalizeTransaction
  split
  · exact avoids_new (by decide) _
  split
  · exact avoids_wrap (by decide) _
  rename_i record found
  split
  · rename_i failed
    exact avoids_rethrow (validateTransactionGeneration_avoids _ _) failed
  · split
    · split
      · exact avoids_ok _
      · exact avoids_wrap (by decide) _
    · rename_i live
      split
      · exact avoids_wrap (by decide) _
      rename_i reserved
      have held : holdsLock record = true := by
        simp only [Bool.not_eq_true',Bool.not_eq_false] at reserved
        simp [holdsLock,reserved,live]
      rw [checkOverlap_free exclusive found held]
      dsimp only
      split
      · rename_i failed
        exact avoids_rethrow (finalizePlanResults_avoids _ _ _ _ _) failed
      · exact avoids_ok _

/-- Along every run from a Store without transactions whose first `BeginTransaction` of each plan overlaps no lock,
    the locks stay exclusive, and neither advancing nor finalizing a transaction fails on a lock. -/
theorem exclusion_along (s : Store F) (calls : List (Call F × Int)) (idle : s.transactions = ∅)
    (clear : Guarded perform Clear s calls) :
    Exclusive (run perform s calls) ∧
      (∀ request now, Avoids .transactionLocked (advanceTransaction (run perform s calls) request now)) ∧
      ∀ request now, Avoids .transactionLocked (finalizeTransaction (run perform s calls) request now) := by
  have start : Exclusive s := by
    intro id₁ id₂ record₁ record₂ _ found₁
    rw [idle] at found₁
    cases found₁
  have exclusive := guarded_keeps perform_exclusive start clear
  exact ⟨exclusive,advanceTransaction_avoids exclusive,finalizeTransaction_avoids exclusive⟩

def advancingCalls : List (Call Int × Int) :=
  [(.begin (releasingPlan "p" 1) 1,0),(.advance ⟨"p",2,.prepared,.unset,"",none⟩,1)]

def pairStore : Store Int :=
  { meetingStore with
    snapshot := { meetingStore.snapshot with
      allocations := ["a","b"].map (fun id => { (default : Allocation Int) with allocationId := id, state := .active }) } }

/-- The plan for the first allocation is begun, then one for the second, and the first goes on. -/
def besideCalls : List (Call Int × Int) :=
  [(.begin (releasingPlan "p" 1) 1,0),
    (.begin { releasingPlan "q" 2 with
      actions := [{ (default : Action Int) with actionId := "r", actionType := .release, targetId := "b" }]
      affectedAllocationIds := ["b"] } 1,0),
    (.advance ⟨"p",2,.prepared,.unset,"",none⟩,1)]

/-- Two transactions hold their locks beside each other. -/
theorem exclusion_along_beside :
    (∀ id ∈ ["p","q"], ((run perform pairStore besideCalls).transactions.lookup id).any holdsLock = true) ∧
      Exclusive (run perform pairStore besideCalls) :=
  ⟨by decide,(exclusion_along pairStore besideCalls rfl ⟨fun _ => by decide,fun _ => by decide,trivial,trivial⟩).1⟩

def meetingCalls : List (Call Int × Int) := [(.begin (releasingPlan "p" 1) 1,0),(.begin (releasingPlan "q" 2) 1,0)]

/-- Both plans get a record that holds the lock on the allocation, and neither can advance. -/
theorem begin_shares_lock :
    ¬ Exclusive (run perform meetingStore meetingCalls) ∧
      (∃ err, advanceTransaction (run perform meetingStore meetingCalls) ⟨"p",2,.prepared,.unset,"",none⟩ 0 = .error err ∧
        err.sentinel = .transactionLocked) ∧
      ∃ err, advanceTransaction (run perform meetingStore meetingCalls) ⟨"q",2,.prepared,.unset,"",none⟩ 0 = .error err ∧
        err.sentinel = .transactionLocked := by
  have holds : ∀ id, id = "p" ∨ id = "q" → ∃ record, (run perform meetingStore meetingCalls).transactions.lookup id =
      some record ∧ holdsLock record = true ∧ record.affectedAllocationIDs = ["a"] := by
    have both : ["p","q"].all (fun id => ((run perform meetingStore meetingCalls).transactions.lookup id).any (fun record =>
        holdsLock record && decide (record.affectedAllocationIDs = ["a"]))) = true := by decide
    intro id named
    have here := List.all_eq_true.mp both id (by simpa using named)
    obtain ⟨record,found,facts⟩ := Option.any_eq_true _ _ |>.mp here
    simp only [Bool.and_eq_true,decide_eq_true_eq] at facts
    exact ⟨record,found,facts⟩
  obtain ⟨first,foundFirst,heldFirst,namesFirst⟩ := holds "p" (by simp)
  obtain ⟨second,foundSecond,heldSecond,namesSecond⟩ := holds "q" (by simp)
  refine ⟨?_,?_,?_⟩
  · intro exclusive
    refine exclusive "p" "q" first second (by decide) foundFirst foundSecond heldFirst heldSecond "a" ?_ ?_
    · simp [namesFirst]
    · simp [namesSecond]
  · exact error_of_any (by decide)
  · exact error_of_any (by decide)

end TgsRl.Exclusion
