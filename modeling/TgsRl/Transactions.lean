import TgsRl.Reservations

/-!
Transaction records, as in `transaction.go`. A record is created with its plan,
holds the plan's reservation from `beginTransaction` or `reserveTransaction` on,
advances through its states under a generation check, and ends in
`finalizeTransaction`, which finalizes the plan. Two records that hold
reservations and name a common allocation lock each other out.
-/
namespace TgsRl.Transactions
open Resources Messages State Reservations

variable {F : Type}

def isTerminalTransactionState : TransactionState → Bool
  | .committed | .aborted | .degraded | .prepareFailed => true
  | _ => false

/-- `IsTerminal` and `terminalLocked`. -/
def isTerminal (record : TransactionRecord F) : Bool := record.terminal || isTerminalTransactionState record.state

def validateTransactionRecord (record : TransactionRecord F) : Except Err Unit :=
  if record.transactionID = "" then .error (.new "state: transaction_id is required")
  else if record.plan.planId = "" then .error (.new "state: transaction plan is required")
  else if record.planID = "" then .error (.new "state: transaction plan_id is required")
  else if record.planID ≠ record.plan.planId then
    .error (.new "state: transaction plan_id must match plan.plan_id")
  else if record.generation = 0 then .error (.new "state: transaction generation must be greater than zero")
  else if record.providerGeneration = 0 then
    .error (.new "state: transaction provider_generation must be greater than zero")
  else if record.state = .unknown then .error (.new "state: transaction state is required")
  else if "" ∈ record.affectedAllocationIDs then
    .error (.new "state: affected allocation IDs must be non-empty")
  else .ok ()

def normalizeAllocationIDs (ids : List String) : List String :=
  sortedSetValues (ids.filter (fun id => decide (id ≠ "")))

def affectedAllocationIDsForPlan [Platform F] (plan : PlacementPlan F) : List String :=
  normalizeAllocationIDs (plan.affectedAllocationIds ++
    (plan.bindings.filter (fun binding => decide (binding.bindingId ≠ ""))).map
      (fun binding => allocationID F binding.bindingId))

def validateTransactionGeneration (actual expected : UInt64) : Except Err Unit :=
  if actual ≠ expected then .error (.wrap .transactionConflict
    ("expected generation " ++ toString expected ++ ", current generation " ++ toString actual))
  else .ok ()

def transactionStateAllowed (source target : TransactionState) : Bool :=
  if source = target then true
  else match source,target with
    | .proposed,.reserved | .proposed,.prepared | .proposed,.prepareFailed => true
    | .reserved,.prepared | .reserved,.prepareFailed => true
    | .prepared,.applying | .prepared,.compensating => true
    | .applying,.committed | .applying,.applyFailed | .applying,.compensating | .applying,.degraded => true
    | .applyFailed,.compensating | .applyFailed,.degraded => true
    | .compensating,.aborted | .compensating,.degraded => true
    | _,_ => false

def overlapsAllocationIDs (left right : List String) : Bool := right.any (fun id => left.contains id)

/-- The record holds a reservation and can still use it. -/
def holdsLock (record : TransactionRecord F) : Bool := record.reservationHeld && !isTerminal record

/-- `transactionOverlapLocked`: another record that holds a lock on one of the allocations. -/
def transactionOverlap (s : Store F) (transactionID : String) (allocationIDs : List String) : Option String :=
  (s.transactions.pairs.find? (fun (id,record) => decide (id ≠ transactionID) && holdsLock record &&
    overlapsAllocationIDs record.affectedAllocationIDs allocationIDs)).map Prod.fst

/-- The error of a record locked out by another. -/
def lockedBy (transactionID holder : String) : Err :=
  .wrap .transactionLocked ("transaction " ++ quote transactionID ++ " overlaps " ++ quote holder)

/-- The check that no other record holds a lock on the allocations. -/
def checkOverlap (s : Store F) (transactionID : String) (allocationIDs : List String) : Except Err Unit :=
  match transactionOverlap s transactionID allocationIDs with
  | none => .ok ()
  | some holder => .error (lockedBy transactionID holder)

def newTransactionRecord [Platform F] (plan : PlacementPlan F) (generation : UInt64) (now : Int) :
    TransactionRecord F where
  transactionID := plan.planId
  planID := plan.planId
  plan := plan
  generation := generation
  providerGeneration := 1
  state := .proposed
  reservationHeld := false
  terminal := false
  failureClass := .unset
  failureReason := ""
  affectedAllocationIDs := affectedAllocationIDsForPlan plan
  providerReceipt := none
  createdAt := some (Timestamp.new now)
  updatedAt := some (Timestamp.new now)
  finalizedAt := none
  finalizedSucceeded := false
  retainedAllocationIDs := []

/-- What an operation on a transaction returns: the Store after it, the record and the snapshot. -/
structure Done (F : Type) where
  store : Store F
  record : TransactionRecord F
  snapshot : Option (ClusterSnapshot F)

/-- The record for a plan, if its fields are complete. -/
def proposeTransaction [Platform F] (plan : PlacementPlan F) (generation : UInt64) (now : Int) :
    Except Err (TransactionRecord F) :=
  if plan.planId = "" then .error (.wrap .invalidIntent "transaction plan_id is required")
  else match validateTransactionRecord (newTransactionRecord plan generation now) with
    | .error err => .error err
    | .ok () => .ok (newTransactionRecord plan generation now)

def alreadyExists (transactionID : String) : Err :=
  .wrap .transactionConflict ("transaction " ++ quote transactionID ++ " already exists")

def createTransaction [Platform F] [DecidableEq F] (s : Store F) (plan : PlacementPlan F) (generation : UInt64)
    (now : Int) : Except Err (Done F) :=
  match proposeTransaction plan generation now with
  | .error err => .error err
  | .ok record => match s.transactions.lookup record.transactionID with
    | some existing =>
      if existing.plan = record.plan ∧ existing.generation = generation then .ok ⟨s,existing,none⟩
      else .error (alreadyExists record.transactionID)
    | none => .ok ⟨s.setTransaction record.transactionID record,record,none⟩

/-- The record as it is once its plan is reserved. -/
def holdReservation (record : TransactionRecord F) (now : Int) : TransactionRecord F :=
  { record with
    reservationHeld := true
    state := .reserved
    generation := record.generation + 1
    updatedAt := some (Timestamp.new now) }

/-- The reservation of a record's plan. Every error that wraps `ErrPlanAlreadyReserved` passes as success,
    with whatever snapshot came with it. -/
def takeReservation [Platform F] [DecidableEq F] (s : Store F) (transactionID : String)
    (record : TransactionRecord F) (now : Int) : Except Err (Done F) :=
  let reserved := reservePlanLocked s record.plan now
  let held := holdReservation record now
  let done : Except Err (Done F) :=
    .ok ⟨reserved.store.setTransaction transactionID held,held,reserved.snapshot⟩
  match reserved.err with
  | none => done
  | some err => if err.sentinel = .planAlreadyReserved then done else .error err

def beginTransaction [Platform F] [DecidableEq F] (s : Store F) (plan : PlacementPlan F) (generation : UInt64)
    (now : Int) : Except Err (Done F) :=
  match proposeTransaction plan generation now with
  | .error err => .error err
  | .ok record => match s.transactions.lookup record.transactionID with
    | some existing =>
      if existing.plan ≠ record.plan then .error (alreadyExists record.transactionID)
      else .ok ⟨s,existing,some s.snapshot⟩
    | none => takeReservation s record.transactionID record now

def reserveTransaction [Platform F] [DecidableEq F] (s : Store F) (transactionID : String) (expectedGeneration : UInt64)
    (now : Int) : Except Err (Done F) :=
  match s.transactions.lookup transactionID with
  | none => .error (.wrap .transactionNotFound transactionID)
  | some record => match validateTransactionGeneration record.generation expectedGeneration with
    | .error err => .error err
    | .ok () =>
      if isTerminal record then .error (.wrap .transactionImmutable transactionID)
      else if record.reservationHeld then .ok ⟨s,record,some s.snapshot⟩
      else if record.state ≠ .proposed then
        .error (.wrap .transactionConflict
          ("transaction " ++ quote transactionID ++ " cannot reserve from " ++ record.state.name))
      else match checkOverlap s transactionID record.affectedAllocationIDs with
        | .error err => .error err
        | .ok () => takeReservation s transactionID record now

structure TransactionAdvanceRequest where
  transactionID : String
  expectedGeneration : UInt64
  nextState : TransactionState
  failureClass : FailureClass
  failureReason : String
  providerReceipt : Option Receipt
  deriving DecidableEq, Repr

/-- The record as an accepted advance leaves it. -/
def advanceRecord (record : TransactionRecord F) (request : TransactionAdvanceRequest) (now : Int) :
    TransactionRecord F :=
  { record with
    state := request.nextState
    failureClass := request.failureClass
    failureReason := request.failureReason
    providerReceipt := request.providerReceipt.orElse (fun _ => record.providerReceipt)
    terminal := isTerminalTransactionState request.nextState
    generation := record.generation + 1
    updatedAt := some (Timestamp.new now) }

/-- The advance repeats what the record already says. -/
def advanceRepeats (record : TransactionRecord F) (request : TransactionAdvanceRequest) : Bool :=
  decide (record.state = request.nextState) && decide (record.failureClass = request.failureClass) &&
    decide (record.failureReason = request.failureReason)

def advanceTransaction (s : Store F) (request : TransactionAdvanceRequest) (now : Int) : Except Err (Done F) :=
  if request.transactionID = "" then .error (.new "state: transaction_id is required")
  else if request.nextState = .unknown then .error (.new "state: next transaction state is required")
  else match s.transactions.lookup request.transactionID with
    | none => .error (.wrap .transactionNotFound request.transactionID)
    | some record => match validateTransactionGeneration record.generation request.expectedGeneration with
      | .error err => .error err
      | .ok () =>
        if isTerminal record then
          if advanceRepeats record request then .ok ⟨s,record,none⟩
          else .error (.wrap .transactionImmutable request.transactionID)
        else if !transactionStateAllowed record.state request.nextState then
          .error (.wrap .transactionConflict ("cannot advance " ++ request.transactionID ++ " from " ++
            record.state.name ++ " to " ++ request.nextState.name))
        else if advanceRepeats record request && request.providerReceipt.isNone then .ok ⟨s,record,none⟩
        else
          let next := advanceRecord record request now
          let done : Except Err (Done F) := .ok ⟨s.setTransaction request.transactionID next,next,none⟩
          if record.reservationHeld then
            match checkOverlap s request.transactionID record.affectedAllocationIDs with
            | .error err => .error err
            | .ok () => done
          else done

structure TransactionFinalizeRequest where
  transactionID : String
  expectedGeneration : UInt64
  succeeded : Bool
  results : List (Option ActionResult)
  finalState : TransactionState
  failureClass : FailureClass
  failureReason : String
  providerReceipt : Option Receipt
  deriving DecidableEq, Repr

/-- The state a finalized record ends in; a request without one lets the outcome decide. -/
def finalizedState (request : TransactionFinalizeRequest) (retained : List String) : TransactionState :=
  if request.finalState ≠ .unknown then request.finalState
  else if request.succeeded then .committed
  else if retained ≠ [] then .degraded
  else .aborted

/-- The record as an accepted finalization leaves it. -/
def finalizeRecord (record : TransactionRecord F) (request : TransactionFinalizeRequest) (retained : List String)
    (now : Int) : TransactionRecord F :=
  { record with
    reservationHeld := false
    finalizedSucceeded := request.succeeded
    retainedAllocationIDs := retained
    state := finalizedState request retained
    terminal := isTerminalTransactionState (finalizedState request retained)
    failureClass := request.failureClass
    failureReason := request.failureReason
    providerReceipt := request.providerReceipt.orElse (fun _ => record.providerReceipt)
    generation := record.generation + 1
    updatedAt := some (Timestamp.new now)
    finalizedAt := some (Timestamp.new now) }

def retainedFor (s : Store F) (planID : String) : List String :=
  ((s.reservations.lookup planID).map PlanReservation.retainedAllocationIDs).getD []

def finalizeTransaction [Platform F] [DecidableEq F] (s : Store F) (request : TransactionFinalizeRequest)
    (now : Int) : Except Err (Done F) :=
  if request.transactionID = "" then .error (.new "state: transaction_id is required")
  else match s.transactions.lookup request.transactionID with
    | none => .error (.wrap .transactionNotFound request.transactionID)
    | some record => match validateTransactionGeneration record.generation request.expectedGeneration with
      | .error err => .error err
      | .ok () =>
        if isTerminal record then
          if record.finalizedSucceeded = request.succeeded ∧ record.state = request.finalState then
            .ok ⟨s,record,some s.snapshot⟩
          else .error (.wrap .transactionImmutable request.transactionID)
        else if !record.reservationHeld then
          .error (.wrap .transactionConflict
            ("transaction " ++ quote request.transactionID ++ " has no reservation"))
        else match checkOverlap s request.transactionID record.affectedAllocationIDs with
          | .error err => .error err
          | .ok () => match finalizePlanResults s record.plan request.succeeded request.results now with
            | .error err => .error err
            | .ok finalized =>
              let next := finalizeRecord record request (retainedFor finalized record.planID) now
              .ok ⟨finalized.setTransaction request.transactionID next,next,some finalized.snapshot⟩

end TgsRl.Transactions
