import TgsRl.Exclusion

/-!
The end of transactions. A record ends in `FinalizeTransaction`, which settles its reservation, but
`AdvanceTransaction` may also take it to a terminal state with its reservation still held, and
`FinalizeTransaction` writes the state it is asked for without a check.
-/
namespace TgsRl.Closing
open Resources Messages State Loops Reservations
open Transactions Drafts Settlements Backing Intents Exclusion

variable {F : Type}

def Released (s : Store F) : Prop :=
  ∀ id record, s.transactions.lookup id = some record → isTerminal record = true →
    record.reservationHeld = false ∧
      ∀ reservation, s.reservations.lookup record.planID = some reservation → reservation.finalized = true

section Calls
variable [Platform F] [DecidableEq F]

/-- A finalization that returns success leaves its record terminal, with the reservation closed as the request says. -/
def Concludes (s : Store F) (call : Call F × Int) : Prop :=
  match call with
  | (.finalize request,now) => ∀ done, finalizeTransaction s request now = .ok done →
      done.store.transactions.lookup request.transactionID = some done.record ∧ isTerminal done.record = true ∧
        ∃ reservation, done.store.reservations.lookup done.record.planID = some reservation ∧
          reservation.finalized = true ∧ reservation.succeeded = request.succeeded
  | _ => True

/-- No accepted advance closes a record that holds its reservation; an accepted finalization names a terminal state or
    `unknown`, which an empty text is not, and a record closed before it was closed by a finalization. -/
def Orderly (s : Store F) (call : Call F × Int) : Prop :=
  match call with
  | (.advance request,now) => ∀ record done, s.transactions.lookup request.transactionID = some record →
      advanceTransaction s request now = .ok done → isTerminal record = false →
      isTerminalTransactionState request.nextState = true → record.reservationHeld = false
  | (.finalize request,now) => ∀ record done, s.transactions.lookup request.transactionID = some record →
      finalizeTransaction s request now = .ok done →
      if isTerminal record then record.finalizedAt ≠ none
      else request.finalState = .unknown ∨ isTerminalTransactionState request.finalState = true
  | _ => True

end Calls

/-- How far a transaction is: its record beside the reservation of its name. -/
inductive Phase : Option (TransactionRecord F) → Option (PlanReservation F) → Prop
  | absent : Phase none none
  | unheld {record} (unheld : record.reservationHeld = false) (unfinished : record.finalizedAt = none) :
      Phase (some record) none
  | held {record reservation} (held : record.reservationHeld = true) (live : isTerminal record = false)
      (unfinished : record.finalizedAt = none)
      (unfinalized : ∀ made, reservation = some made → made.finalized = false) : Phase (some record) reservation
  | closed {record reservation} (unheld : record.reservationHeld = false) (terminal : isTerminal record = true)
      (finished : record.finalizedAt ≠ none) (finalized : reservation.finalized = true)
      (outcome : reservation.succeeded = record.finalizedSucceeded) : Phase (some record) (some reservation)

/-- Every record is kept under the name of its plan and is in one of the phases. -/
structure Phased (s : Store F) : Prop where
  names : ∀ id record, s.transactions.lookup id = some record → record.planID = id ∧ record.plan.planId = id
  phase : ∀ id, Phase (s.transactions.lookup id) (s.reservations.lookup id)

variable {s : Store F} {id : String} {record : TransactionRecord F} {now : Int} {request : TransactionAdvanceRequest}
  {done : Done F}

theorem Phased.unreserved (phased : Phased s) (absent : s.transactions.lookup id = none) : s.reservations.lookup id = none := by
  have phase := phased.phase id
  rw [absent] at phase
  generalize s.reservations.lookup id = reservation at phase
  cases phase
  rfl

theorem phased_start (idle : s.transactions = ∅) (unreserved : s.reservations = ∅) : Phased s := by
  refine ⟨?_,?_⟩
  · intro id record found
    rw [idle] at found
    cases found
  · intro id
    rw [idle,unreserved]
    exact .absent

theorem Phased.released (phased : Phased s) : Released s := by
  intro id record found terminal
  rw [(phased.names id record found).1]
  have phase := phased.phase id
  rw [found] at phase
  generalize s.reservations.lookup id = reservation at phase
  cases phase with
  | unheld unheld _ => exact ⟨unheld,by rintro _ ⟨⟩⟩
  | held _ live _ _ => rw [live] at terminal; cases terminal
  | closed unheld _ _ finalized _ =>
    refine ⟨unheld,?_⟩
    rintro _ ⟨⟩
    exact finalized

variable {next : Store F} {plan : PlacementPlan F} {generation : UInt64}

theorem phased_write (phased : Phased s) (written : next.transactions = s.transactions.insert id record)
    (others : ∀ other, other ≠ id → next.reservations.lookup other = s.reservations.lookup other)
    (named : record.planID = id ∧ record.plan.planId = id) (phase : Phase (some record) (next.reservations.lookup id)) :
    Phased next := by
  refine ⟨?_,?_⟩
  · intro other found here
    rw [written] at here
    by_cases same : other = id
    · subst same
      rw [AList.lookup_insert] at here
      cases here
      exact named
    · rw [AList.lookup_insert_ne same] at here
      exact phased.names other found here
  · intro other
    by_cases same : other = id
    · subst same
      rw [written,AList.lookup_insert]
      exact phase
    · rw [written,AList.lookup_insert_ne same,others other same]
      exact phased.phase other

theorem phased_same (phased : Phased s) (transactions : next.transactions = s.transactions)
    (reservations : next.reservations = s.reservations) : Phased next := by
  refine ⟨?_,?_⟩
  · rw [transactions]; exact phased.names
  · rw [transactions,reservations]; exact phased.phase

variable [Platform F] [DecidableEq F]

theorem reservePlanLocked_new (s : Store F) (plan : PlacementPlan F) (now : Int)
    (absent : s.reservations.lookup plan.planId = none) :
    (∀ other, other ≠ plan.planId →
        (reservePlanLocked s plan now).store.reservations.lookup other = s.reservations.lookup other) ∧
      ∀ made, (reservePlanLocked s plan now).store.reservations.lookup plan.planId = some made → made.finalized = false := by
  unfold reservePlanLocked
  rw [absent]
  dsimp only
  split
  · exact ⟨fun _ _ => rfl,fun made found => by rw [absent] at found; cases found⟩
  rename_i next reserved
  obtain ⟨_,reservation,accepted⟩ := reserveNewPlan_accepted reserved
  rw [accepted.reservations]
  refine ⟨fun other differs => AList.lookup_insert_ne differs,?_⟩
  intro made found
  rw [AList.lookup_insert] at found
  cases found
  exact accepted.made.unfinalized

theorem phased_held (phased : Phased s) (absent : s.reservations.lookup id = none)
    (named : record.planID = id ∧ record.plan.planId = id) (unfinished : record.finalizedAt = none)
    (live : record.terminal = false) :
    Phased ((reservePlanLocked s record.plan now).store.setTransaction id (holdReservation record now)) := by
  have fresh := reservePlanLocked_new s record.plan now (by rw [named.2]; exact absent)
  rw [named.2] at fresh
  refine phased_write phased reserved_transactions fresh.1 named (.held rfl ?_ unfinished fresh.2)
  simp [isTerminal,holdReservation,live,isTerminalTransactionState]

omit [Platform F] [DecidableEq F] in
theorem isTerminal_advanceRecord (record : TransactionRecord F) (request : TransactionAdvanceRequest) (now : Int) :
    isTerminal (advanceRecord record request now) = isTerminalTransactionState request.nextState := by
  simp [isTerminal,advanceRecord]

omit [Platform F] [DecidableEq F] in
theorem isTerminal_of_state (terminal : isTerminalTransactionState record.state = true) : isTerminal record = true := by
  simp [isTerminal,terminal]

omit [Platform F] [DecidableEq F] in
theorem advanced_phased (phased : Phased s) (found : s.transactions.lookup request.transactionID = some record)
    (live : isTerminal record = false)
    (unheld : isTerminalTransactionState request.nextState = true → record.reservationHeld = false) :
    Phased (s.setTransaction request.transactionID (advanceRecord record request now)) := by
  refine phased_write phased rfl (fun _ _ => rfl) (phased.names _ record found) ?_
  have phase := phased.phase request.transactionID
  rw [found] at phase
  change Phase _ (s.reservations.lookup request.transactionID)
  generalize s.reservations.lookup request.transactionID = reservation at phase ⊢
  cases phase with
  | unheld unheld unfinished => exact .unheld unheld unfinished
  | held held _ unfinished unfinalized =>
    refine .held held ?_ unfinished unfinalized
    rw [isTerminal_advanceRecord,Bool.eq_false_iff]
    intro terminal
    rw [unheld terminal] at held
    cases held
  | closed _ terminal => rw [live] at terminal; cases terminal

theorem orderly_of_advance (released : Released (storeAfter s (advanceTransaction s request now))) :
    Orderly s (.advance request,now) := by
  intro record done found accepted live terminal
  rw [accepted] at released
  obtain ⟨record',found',⟨rfl,same⟩ | ⟨_,_,rfl⟩⟩ := advanceTransaction_cases accepted
  · rw [found] at found'
    cases found'
    rw [isTerminal_of_state (same ▸ terminal)] at live
    cases live
  · rw [found] at found'
    cases found'
    exact (released request.transactionID _ (by simp [storeAfter,Store.setTransaction])
      ((isTerminal_advanceRecord record request now).trans terminal)).1

omit [Platform F] [DecidableEq F] in
theorem isTerminal_finalizeRecord (record : TransactionRecord F) (request : TransactionFinalizeRequest)
    (retained : List String) (now : Int) :
    isTerminal (finalizeRecord record request retained now) = true ↔
      request.finalState = .unknown ∨ isTerminalTransactionState request.finalState = true := by
  simp only [isTerminal,finalizeRecord,Bool.or_self,finalizedState]
  by_cases asked : request.finalState = .unknown
  · simp only [asked,ne_eq,not_true_eq_false,if_false,true_or,iff_true]
    split
    · rfl
    · split <;> rfl
  · simp [asked]

/-- An orderly finalization keeps the phases and closes the reservation as the request says. -/
theorem finalizeTransaction_closes {request : TransactionFinalizeRequest} (phased : Phased s)
    (orderly : Orderly s (.finalize request,now)) (accepted : finalizeTransaction s request now = .ok done) :
    Phased done.store ∧ done.store.transactions.lookup request.transactionID = some done.record ∧
      isTerminal done.record = true ∧
      ∃ reservation, done.store.reservations.lookup done.record.planID = some reservation ∧
        reservation.finalized = true ∧ reservation.succeeded = request.succeeded := by
  obtain ⟨record,found,⟨terminal,outcome,rfl⟩ | ⟨live,held,finalized,settled,written,stored⟩⟩ :=
    finalizeTransaction_cases accepted
  · -- the record was closed before: the phases say by a finalization with this outcome
    have finished := orderly record _ found accepted
    rw [if_pos terminal] at finished
    refine ⟨phased,found,terminal,?_⟩
    have phase := phased.phase request.transactionID
    rw [found] at phase
    rw [(phased.names _ record found).1]
    generalize s.reservations.lookup request.transactionID = reservation at phase ⊢
    cases phase with
    | unheld _ unfinished => exact absurd unfinished finished
    | held _ live => rw [live] at terminal; cases terminal
    | closed _ _ _ closed same => exact ⟨_,rfl,closed,same.trans outcome⟩
  · have asked := orderly record _ found accepted
    simp only [live,Bool.false_eq_true,if_false] at asked
    have named := phased.names _ record found
    have terminal : isTerminal done.record = true := by
      rw [written]
      exact (isTerminal_finalizeRecord _ _ _ _).mpr asked
    obtain ⟨reservation,reserved,_,⟨closed,_⟩ | ⟨_,working,_,done'⟩⟩ := finalizePlanResults_cases settled
    · -- a held record has no finalized reservation
      have phase := phased.phase request.transactionID
      rw [found,← named.2,reserved] at phase
      cases phase with
      | held _ _ _ unfinalized => rw [unfinalized reservation rfl] at closed; cases closed
      | closed unheld => rw [unheld] at held; cases held
    · obtain ⟨retained,inserted⟩ := done'.reservations
      rw [named.2] at inserted
      have here : done.store.reservations.lookup request.transactionID =
          some (closeReservation reservation request.succeeded retained) := by
        rw [stored,Store.setTransaction,inserted,AList.lookup_insert]
      have kept : done.record.planID = request.transactionID := by
        rw [written]
        exact named.1
      have transactions : done.store.transactions = s.transactions.insert request.transactionID done.record := by
        rw [stored,Store.setTransaction,done'.transactions]
      refine ⟨phased_write phased transactions ?_ ⟨kept,by rw [written]; exact named.2⟩ ?_,?_,terminal,?_⟩
      · intro other differs
        rw [stored,Store.setTransaction,inserted]
        exact AList.lookup_insert_ne differs
      · rw [here]
        refine .closed ?_ terminal ?_ rfl ?_
        · rw [written]; rfl
        · rw [written]; simp [finalizeRecord]
        · rw [written]; rfl
      · rw [transactions,AList.lookup_insert]
      · exact ⟨_,by rw [kept,here],rfl,rfl⟩

theorem orderly_of_finalize {request : TransactionFinalizeRequest} (phased : Phased s)
    (concludes : Concludes s (.finalize request,now)) : Orderly s (.finalize request,now) := by
  intro record done found accepted
  obtain ⟨_,terminal,reservation,reserved,_⟩ := concludes done accepted
  obtain ⟨record',found',⟨closed,_,rfl⟩ | ⟨live,_,_,_,written,_⟩⟩ := finalizeTransaction_cases accepted
  · rw [found] at found'
    cases found'
    rw [if_pos closed]
    intro unfinished
    have phase := phased.phase request.transactionID
    rw [found,← (phased.names _ record found).1,reserved] at phase
    cases phase with
    | held _ live => rw [live] at closed; cases closed
    | closed _ _ finished => exact finished unfinished
  · rw [found] at found'
    cases found'
    rw [written] at terminal
    simp only [live,Bool.false_eq_true,if_false]
    exact (isTerminal_finalizeRecord _ _ _ _).mp terminal

theorem perform_phased (s : Store F) (call : Call F × Int) (phased : Phased s) (orderly : Orderly s call) :
    Phased (perform s call) := by
  have change := perform_change s call
  generalize perform s call = next at change ⊢
  cases change with
  | same => exact phased
  | created absent =>
    refine phased_write phased rfl (fun _ _ => rfl) ⟨rfl,rfl⟩ ?_
    rw [Store.setTransaction,phased.unreserved absent]
    exact .unheld rfl rfl
  | @begun plan generation now absent =>
    exact @phased_held _ _ _ (newTransactionRecord plan generation now) now _ _ phased (phased.unreserved absent) ⟨rfl,rfl⟩
      rfl rfl
  | @reserved id _ _ record found live unheld _ =>
    have phase := phased.phase id
    rw [found] at phase
    generalize reserved : s.reservations.lookup id = reservation at phase
    simp only [isTerminal,Bool.or_eq_false_iff] at live
    cases phase with
    | unheld _ unfinished => exact phased_held phased reserved (phased.names id record found) unfinished live.1
    | held held => rw [unheld] at held; cases held
    | closed _ terminal => simp [isTerminal,live] at terminal
  | advanced found live _ accepted =>
    obtain ⟨done,accepted⟩ := accepted
    exact advanced_phased phased found live (orderly _ done found accepted live)
  | finalized _ _ _ accepted => exact (finalizeTransaction_closes phased orderly accepted).1
  | published accepted =>
    have staged := preparePublishIntent_staged accepted
    exact phased_same phased staged.2.1 staged.1

theorem released_iff_orderly (s : Store F) (call : Call F × Int) (phased : Phased s) :
    Released (perform s call) ∧ Concludes s call ↔ Orderly s call := by
  constructor
  · rintro ⟨released,concludes⟩
    obtain ⟨call,now⟩ := call
    cases call with
    | advance request => exact orderly_of_advance released
    | finalize request => exact orderly_of_finalize phased concludes
    | _ => trivial
  · intro orderly
    refine ⟨(perform_phased s call phased orderly).released,?_⟩
    obtain ⟨call,now⟩ := call
    cases call with
    | finalize request =>
      intro done accepted
      exact (finalizeTransaction_closes phased orderly accepted).2
    | _ => trivial

/-- Along a run from a Store without transactions every terminal record is released and every finalization concludes
    exactly if every call is orderly. -/
theorem released_along_iff (s : Store F) (calls : List (Call F × Int)) (idle : s.transactions = ∅)
    (unreserved : s.reservations = ∅) :
    (∀ before call after, calls = before ++ call :: after →
        Released (perform (run perform s before) call) ∧ Concludes (run perform s before) call) ↔
      Guarded perform Orderly s calls :=
  along_iff_guarded released_iff_orderly perform_phased (phased_start idle unreserved) calls

/-- A release that is begun, prepared, applied and finalized. -/
def closingCalls : List (Call Int × Int) :=
  [(.begin (releasingPlan "p" 1) 1,0),(.advance ⟨"p",2,.prepared,.unset,"",none⟩,1),
    (.advance ⟨"p",3,.applying,.unset,"",none⟩,2),(.finalize ⟨"p",4,true,[],.committed,.unset,"",none⟩,3)]

/-- The finalization of the release succeeds, so the run meets the condition with an accepted call of each kind. -/
theorem released_along_iff_closing :
    (finalizeTransaction (run perform meetingStore (closingCalls.take 3)) ⟨"p",4,true,[],.committed,.unset,"",none⟩ 3).isOk =
        true ∧
      ∀ before call after, closingCalls = before ++ call :: after →
        Released (perform (run perform meetingStore before) call) ∧ Concludes (run perform meetingStore before) call := by
  refine ⟨by decide,(released_along_iff meetingStore closingCalls rfl rfl).mpr ⟨trivial,?_,?_,?_,trivial⟩⟩
  · rintro _ _ _ _ _ ⟨⟩
  · rintro _ _ _ _ _ ⟨⟩
  · intro record done found _
    have live : ((run perform meetingStore (closingCalls.take 3)).transactions.lookup "p").all
        (fun record => !isTerminal record) = true := by decide
    rw [show (run perform meetingStore (closingCalls.take 3)).transactions.lookup "p" = some record from found] at live
    simp only [Option.all_some,Bool.not_eq_true'] at live
    rw [live]
    exact Or.inr rfl

/-- A release that an advance closes while its reservation is held. -/
def failingCalls : List (Call Int × Int) :=
  [(.begin (releasingPlan "p" 1) 1,0),(.advance ⟨"p",2,.prepareFailed,.provider,"",none⟩,1)]

/-- The record is terminal and still holds its unfinalized reservation, a finalization then returns success without
    closing it, and a finalization that asks for a state on the way, or for the empty one, leaves a record that is not
    terminal. -/
theorem advance_closes_held_record :
    (∃ record reservation, (run perform meetingStore failingCalls).transactions.lookup "p" = some record ∧
      isTerminal record = true ∧ record.reservationHeld = true ∧
      (run perform meetingStore failingCalls).reservations.lookup "p" = some reservation ∧
      reservation.finalized = false) ∧
    (∃ done reservation, finalizeTransaction (run perform meetingStore failingCalls)
        ⟨"p",3,false,[],.prepareFailed,.provider,"",none⟩ 2 = .ok done ∧
      done.store.reservations.lookup "p" = some reservation ∧ reservation.finalized = false) ∧
    ∀ state ∈ [TransactionState.applying,.other ""], ∃ done, finalizeTransaction
        (run perform meetingStore (failingCalls.take 1)) ⟨"p",2,true,[],state,.unset,"",none⟩ 1 = .ok done ∧
      isTerminal done.record = false := by
  have closed : ((run perform meetingStore failingCalls).transactions.lookup "p").any (fun record =>
      isTerminal record && record.reservationHeld) = true := by decide
  have unfinalized : ((run perform meetingStore failingCalls).reservations.lookup "p").any (fun reservation =>
      !reservation.finalized) = true := by decide
  have repeated : (finalizeTransaction (run perform meetingStore failingCalls)
      ⟨"p",3,false,[],.prepareFailed,.provider,"",none⟩ 2).toOption.any (fun done =>
        (done.store.reservations.lookup "p").any (fun reservation => !reservation.finalized)) = true := by decide
  have open_again : ∀ state ∈ [TransactionState.applying,.other ""], (finalizeTransaction
      (run perform meetingStore (failingCalls.take 1)) ⟨"p",2,true,[],state,.unset,"",none⟩ 1).toOption.any
        (fun done => !isTerminal done.record) = true := by decide
  obtain ⟨record,found,facts⟩ := Option.any_eq_true _ _ |>.mp closed
  simp only [Bool.and_eq_true] at facts
  obtain ⟨reservation,reserved,unclosed⟩ := Option.any_eq_true _ _ |>.mp unfinalized
  obtain ⟨done,accepted,kept⟩ := ok_of_any repeated
  obtain ⟨left,leftThere,leftOpen⟩ := Option.any_eq_true _ _ |>.mp kept
  refine ⟨⟨record,reservation,found,facts.1,facts.2,reserved,by simpa using unclosed⟩,
    ⟨done,left,accepted,leftThere,by simpa using leftOpen⟩,?_⟩
  intro state asked
  obtain ⟨done,accepted,unended⟩ := ok_of_any (open_again state asked)
  exact ⟨done,accepted,by simpa using unended⟩

end TgsRl.Closing
