import TgsRl.Loops
import TgsRl.Validation

/-!
The state of the NVIDIA binding helper, as in `bindinghelper/store.go`. A binding is fenced by the
binding that is stored for its sandbox, and a release deletes that one: after it the generation
survives only in a receipt which no bind reads (`older_bind_after_release`).
-/
namespace TgsRl.BindingHelper
open State Loops Validation

/-- A binding as the helper stores it; `S` are the shares. -/
structure Binding (S : Type) where
  sandboxID : String
  bindingID : String
  generation : UInt64
  deviceIDs : List String
  share : S
  idempotencyKey : String
  mpsServerPID : UInt32
  deriving DecidableEq, Repr

inductive Operation where
  | bind | release | replace
  deriving DecidableEq, Repr

structure Receipt where
  operation : Operation
  stepIndex : Int
  expectedActions : Int
  committed : Bool
  planDigest : String
  actionID : String
  planID : String
  idempotencyKey : String
  sandboxID : String
  transactionGeneration : UInt64
  actionGeneration : UInt64
  succeeded : Bool
  errorCode : String
  errorMessage : String
  commandDigest : String
  requestDigest : String
  recoverable : Bool
  deriving DecidableEq, Repr

structure State (S : Type) where
  bindings : Map String (Binding S)
  receipts : Map String Receipt
  heads : Map String String

structure ReplaceRequest (S : Type) where
  sandboxID : String
  sourceBindingID : String
  sourceDeviceID : String
  sourceGeneration : UInt64
  target : Binding S

/-- What the helper computes outside its state: whether a share is a number in (0,1], its text, and the hash. -/
structure Helper (S : Type) where
  inRange : S → Bool
  format : S → String
  sha256 : String → String

variable {S : Type}

def emptyState : State S := ⟨∅,∅,∅⟩

def bindingRequestDigest (h : Helper S) (binding : Binding S) : String :=
  h.sha256 ("\x00".intercalate ["bind",binding.sandboxID,binding.bindingID,toString binding.generation,
    ";".intercalate (sortedStrings binding.deviceIDs),h.format binding.share])

def releaseRequestDigest (h : Helper S) (sandboxID target : String) (generation : UInt64) : String :=
  h.sha256 ("\x00".intercalate ["release",sandboxID,target,toString generation])

def blank (text : String) : Bool := decide (trimSpace text = "")

def checkDevices : List String → List String → Except String Unit
  | _, [] => .ok ()
  | seen, device :: rest =>
    let device := trimSpace device
    if device = "" then .error "binding device IDs must be non-empty"
    else if device ∈ seen then .error ("binding device ID " ++ quote device ++ " is duplicated")
    else checkDevices (device :: seen) rest

def validateBinding (h : Helper S) (binding : Binding S) : Except String Unit :=
  if blank binding.sandboxID || blank binding.bindingID || decide (binding.generation = 0) ||
      blank binding.idempotencyKey || binding.deviceIDs.isEmpty then
    .error "binding requires sandbox, binding, generation, idempotency key, and devices"
  else match checkDevices [] binding.deviceIDs with
    | .error err => .error err
    | .ok () => if h.inRange binding.share then .ok () else .error "binding share must be within (0,1]"

def validateReceipt (receipt : Receipt) : Except String Unit :=
  if decide (receipt.stepIndex < 0) || decide (receipt.expectedActions ≤ 0) ||
      decide (receipt.expectedActions ≤ receipt.stepIndex) || decide (receipt.transactionGeneration = 0) ||
      decide (receipt.actionGeneration = 0) ||
      [receipt.planDigest,receipt.actionID,receipt.planID,receipt.idempotencyKey,receipt.sandboxID,receipt.commandDigest,
        receipt.requestDigest].any blank then
    .error "receipt identity is incomplete"
  else if receipt.committed then .error "binding helper cannot mark provider receipts committed"
  else .ok ()

/-- The receipts of one transaction, as `validateReceiptSet` collects them. -/
structure PlanSet where
  digest : String
  expected : Int
  steps : Map Int String
  actions : Map String String

def transactionKey (receipt : Receipt) : String := receipt.planID ++ "\x00" ++ toString receipt.transactionGeneration

/-- One receipt of `validateReceiptSet`. -/
def collectReceipt (plans : Map String PlanSet) (entry : String × Receipt) : Except String (Map String PlanSet) :=
  let (key,receipt) := entry
  let plan := " for plan " ++ quote receipt.planID
  if key ≠ receipt.idempotencyKey then
    .error ("receipt state key " ++ quote key ++ " does not match idempotency key " ++ quote receipt.idempotencyKey)
  else match validateReceipt receipt with
    | .error err => .error ("invalid receipt " ++ quote key ++ ": " ++ err)
    | .ok () =>
      if !receipt.recoverable then .ok plans
      else
        let set := (plans.lookup (transactionKey receipt)).getD ⟨receipt.planDigest,receipt.expectedActions,∅,∅⟩
        if set.digest ≠ receipt.planDigest ∨ set.expected ≠ receipt.expectedActions then
          .error ("transaction receipt set" ++ plan ++ " is inconsistent")
        else match set.steps.lookup receipt.stepIndex,set.actions.lookup receipt.actionID with
          | some previous,_ => .error ("transaction receipt step " ++ toString receipt.stepIndex ++ plan ++ " duplicates " ++
              quote previous)
          | none,some previous => .error ("transaction receipt action " ++ quote receipt.actionID ++ plan ++ " duplicates " ++
              quote previous)
          | none,none => .ok (plans.insert (transactionKey receipt) { set with
              steps := set.steps.insert receipt.stepIndex key
              actions := set.actions.insert receipt.actionID key })

def validateReceiptSet (receipts : Map String Receipt) : Except String Unit :=
  match receipts.pairs.foldlM collectReceipt ∅ with
  | .error err => .error err
  | .ok _ => .ok ()

def checkStoredBinding (h : Helper S) (entry : String × Binding S) : Except String Unit :=
  if entry.1 ≠ entry.2.sandboxID then
    .error ("binding state key " ++ quote entry.1 ++ " does not match sandbox " ++ quote entry.2.sandboxID)
  else match validateBinding h entry.2 with
    | .error err => .error ("invalid binding " ++ quote entry.1 ++ ": " ++ err)
    | .ok () => .ok ()

/-- A head names a receipt of its sandbox that the stored binding agrees with. -/
def checkHead (h : Helper S) (state : State S) (entry : String × String) : Except String Unit :=
  let (sandboxID,key) := entry
  match (state.receipts.lookup key).filter (fun receipt => decide (receipt.sandboxID = sandboxID)) with
  | none => .error ("binding head " ++ quote sandboxID ++ " references invalid receipt " ++ quote key)
  | some receipt => match receipt.operation,state.bindings.lookup sandboxID with
    | .release,none => .ok ()
    | .release,some _ => .error ("release head " ++ quote sandboxID ++ " conflicts with current binding state")
    | _,none => .error ("binding head " ++ quote sandboxID ++ " does not match current binding state")
    | _,some binding =>
      if binding.idempotencyKey ≠ key ∨ binding.generation ≠ receipt.actionGeneration ∨
          bindingRequestDigest h binding ≠ receipt.requestDigest then
        .error ("binding head " ++ quote sandboxID ++ " does not match current binding state")
      else .ok ()

def validateState (h : Helper S) (state : State S) : Except String Unit :=
  match checkEach (checkStoredBinding h) state.bindings.pairs with
  | .error err => .error err
  | .ok () => match validateReceiptSet state.receipts with
    | .error err => .error err
    | .ok () => match checkEach (checkHead h state) state.heads.pairs with
      | .error err => .error err
      | .ok () => checkEach (fun entry : String × Receipt => match state.heads.lookup entry.2.sandboxID with
          | none => .error ("receipt " ++ quote entry.1 ++ " has no sandbox head")
          | some _ => .ok ()) state.receipts.pairs

variable [DecidableEq S]

def bindingStateEqual (left right : Binding S) : Bool :=
  decide (sortedStrings left.deviceIDs = sortedStrings right.deviceIDs) && decide (left.sandboxID = right.sandboxID) &&
    decide (left.bindingID = right.bindingID) && decide (left.generation = right.generation) &&
    decide (left.share = right.share)

def bindingsEqual (left right : Binding S) : Bool :=
  bindingStateEqual left right && decide (left.idempotencyKey = right.idempotencyKey)

/-- The receipt is stored, and the sandbox's head is moved to it. -/
def record (state : State S) (bindings : Map String (Binding S)) (sandboxID : String) (receipt : Receipt) :
    Except String (State S) :=
  let receipts := state.receipts.insert receipt.idempotencyKey receipt
  match validateReceiptSet receipts with
  | .error err => .error err
  | .ok () => .ok ⟨bindings,receipts,state.heads.insert sandboxID receipt.idempotencyKey⟩

/-- A bind is fenced by the binding that is stored for its sandbox. -/
def bindFence (state : State S) (binding : Binding S) : Except String Unit :=
  match state.bindings.lookup binding.sandboxID with
  | none => .ok ()
  | some current =>
    if binding.generation < current.generation then
      .error ("stale generation " ++ toString binding.generation ++ "; current generation is " ++ toString current.generation)
    else if binding.generation = current.generation ∧ bindingStateEqual current binding = false then
      .error ("generation " ++ toString binding.generation ++ " is already bound with different content")
    else .ok ()

def applyBinding (h : Helper S) (binding : Binding S) (given : Receipt) (state : State S) : Except String (State S) :=
  match validateBinding h binding with
  | .error err => .error err
  | .ok () =>
    if binding.sandboxID ≠ given.sandboxID ∨ binding.generation ≠ given.actionGeneration ∨
        binding.idempotencyKey ≠ given.idempotencyKey then .error "binding and receipt identity must match"
    else
      let receipt := { given with requestDigest := bindingRequestDigest h binding, operation := .bind }
      match validateReceipt receipt with
      | .error err => .error err
      | .ok () => match state.receipts.lookup receipt.idempotencyKey with
        | some existing =>
          if existing ≠ receipt then .error "idempotency key was reused with different receipt content"
          else if (state.bindings.lookup binding.sandboxID).any (bindingsEqual · binding) then .ok state
          else .error "idempotent bind result has been superseded"
        | none => match bindFence state binding with
          | .error err => .error err
          | .ok () => record state (state.bindings.insert binding.sandboxID binding) binding.sandboxID receipt

def releaseBinding (h : Helper S) (sandboxID target : String) (generation : UInt64) (given : Receipt) (state : State S) :
    Except String (State S) :=
  if sandboxID ≠ given.sandboxID ∨ generation ≠ given.actionGeneration then
    .error "release and receipt identity must match"
  else
    let receipt := { given with requestDigest := releaseRequestDigest h sandboxID target generation, operation := .release }
    match validateReceipt receipt with
    | .error err => .error err
    | .ok () => match state.receipts.lookup receipt.idempotencyKey with
      | some existing =>
        if existing ≠ receipt then .error "idempotency key was reused with different receipt content"
        else if (state.bindings.lookup sandboxID).isNone then .ok state
        else .error "idempotent release result has been superseded"
      | none => match state.bindings.lookup sandboxID with
        | none => .error ("sandbox " ++ quote sandboxID ++ " is not bound")
        | some current =>
          if generation ≠ current.generation then
            .error ("generation fence failed: expected " ++ toString generation ++ ", current generation is " ++
              toString current.generation)
          else record state (state.bindings.erase sandboxID) sandboxID receipt

def replaceBinding (h : Helper S) (request : ReplaceRequest S) (given : Receipt) (state : State S) :
    Except String (State S) :=
  let target := request.target
  match validateBinding h target with
  | .error err => .error err
  | .ok () =>
    if target.sandboxID ≠ request.sandboxID ∨ target.generation ≠ request.sourceGeneration + 1 ∨
        target.idempotencyKey ≠ given.idempotencyKey ∨ given.sandboxID ≠ request.sandboxID ∨
        given.actionGeneration ≠ target.generation then .error "replacement binding and receipt identity must match"
    else
      let receipt := { given with operation := .replace, requestDigest := bindingRequestDigest h target }
      match validateReceipt receipt with
      | .error err => .error err
      | .ok () => match state.receipts.lookup receipt.idempotencyKey with
        | some existing =>
          -- A missing binding reads as the zero binding, which no valid target equals.
          if existing = receipt ∧ (state.bindings.lookup request.sandboxID).any (bindingsEqual · target) = true then .ok state
          else .error "idempotency key was reused with different replacement content"
        | none => match state.bindings.lookup request.sandboxID with
          | none => .error ("sandbox " ++ quote request.sandboxID ++ " is not bound")
          | some current =>
            if current.bindingID ≠ request.sourceBindingID ∨ current.deviceIDs ≠ [request.sourceDeviceID] ∨
                current.generation ≠ request.sourceGeneration then .error "source binding fence failed"
            else record state (state.bindings.insert request.sandboxID target) request.sandboxID receipt

inductive Request (S : Type) where
  | apply (binding : Binding S) (receipt : Receipt)
  | release (sandboxID target : String) (generation : UInt64) (receipt : Receipt)
  | replace (request : ReplaceRequest S) (receipt : Receipt)

def Request.key : Request S → String
  | .apply _ receipt | .release _ _ _ receipt | .replace _ receipt => receipt.idempotencyKey

def handle (h : Helper S) (state : State S) : Request S → Except String (State S)
  | .apply binding receipt => applyBinding h binding receipt state
  | .release sandboxID target generation receipt => releaseBinding h sandboxID target generation receipt state
  | .replace request receipt => replaceBinding h request receipt state

/-- `Update`: the state is checked when it is read and before it is written; an error leaves the file as it is. -/
def update (h : Helper S) (state : State S) (request : Request S) : State S × Option String :=
  match validateState h state with
  | .error err => (state,some err)
  | .ok () => match handle h state request with
    | .error err => (state,some err)
    | .ok next => match validateState h next with
      | .error err => (state,some err)
      | .ok () => (next,none)

def step (h : Helper S) (state : State S) (request : Request S) : State S := (update h state request).1

variable {h : Helper S} {state next : State S} {request : Request S}

def headReceipt (state : State S) (sandboxID : String) : Option Receipt :=
  (state.heads.lookup sandboxID).bind state.receipts.lookup

structure Recorded (state next : State S) (key sandboxID : String) (receipt : Receipt) : Prop where
  fresh : state.receipts.lookup key = none
  receipts : next.receipts = state.receipts.insert key receipt
  heads : next.heads = state.heads.insert sandboxID key

/-- What an accepted request does: it repeats a receipt, it stores a binding that is not below the one it takes the
    place of, or it removes one. -/
inductive Change (state : State S) (request : Request S) (next : State S) : Prop
  | repeated (receipt : Receipt) (known : state.receipts.lookup request.key = some receipt) (same : next = state)
  | stored (sandboxID : String) (receipt : Receipt) (binding : Binding S)
      (recorded : Recorded state next request.key sandboxID receipt)
      (bindings : next.bindings = state.bindings.insert sandboxID binding)
      (above : ∀ current, state.bindings.lookup sandboxID = some current → current.generation ≤ binding.generation)
      (named : state.bindings.lookup sandboxID = none →
        ∃ given, request = .apply binding given ∧ sandboxID = binding.sandboxID)
  | removed (sandboxID : String) (receipt : Receipt) (current : Binding S)
      (recorded : Recorded state next request.key sandboxID receipt)
      (bindings : next.bindings = state.bindings.erase sandboxID)
      (held : state.bindings.lookup sandboxID = some current) (generation : receipt.actionGeneration = current.generation)

variable {sandboxID key : String} {receipt given : Receipt} {binding : Binding S}

omit [DecidableEq S] in
theorem record_ok {bindings : Map String (Binding S)} (done : record state bindings sandboxID receipt = .ok next) :
    next.receipts = state.receipts.insert receipt.idempotencyKey receipt ∧
      next.heads = state.heads.insert sandboxID receipt.idempotencyKey ∧ next.bindings = bindings := by
  simp only [record] at done
  split at done
  · cases done
  · cases done
    exact ⟨rfl,rfl,rfl⟩

theorem bindFence_ok {current : Binding S} (held : state.bindings.lookup binding.sandboxID = some current)
    (passed : bindFence state binding = .ok ()) : current.generation ≤ binding.generation := by
  simp only [bindFence,held] at passed
  split at passed
  · cases passed
  · rename_i above
    exact UInt64.not_lt.mp above

omit [DecidableEq S] in
theorem validateBinding_generation (valid : validateBinding h binding = .ok ()) : binding.generation ≠ 0 := by
  intro zero
  simp [validateBinding,zero] at valid

theorem applyBinding_change (done : applyBinding h binding given state = .ok next) :
    Change state (.apply binding given) next := by
  unfold applyBinding at done
  split at done
  · cases done
  split at done
  · cases done
  simp only at done
  split at done
  · cases done
  split at done
  · rename_i existing known
    split at done
    · cases done
    split at done
    · cases done
      exact .repeated existing known rfl
    · cases done
  · rename_i fresh
    split at done
    · cases done
    rename_i fenced
    obtain ⟨receipts,heads,bindings⟩ := record_ok done
    exact .stored _ _ binding ⟨fresh,receipts,heads⟩ bindings (fun _ held => bindFence_ok held fenced)
      (fun _ => ⟨given,rfl,rfl⟩)

omit [DecidableEq S] in
theorem releaseBinding_change {target : String} {generation : UInt64}
    (done : releaseBinding h sandboxID target generation given state = .ok next) :
    Change state (.release sandboxID target generation given) next := by
  unfold releaseBinding at done
  split at done
  · cases done
  rename_i identity
  simp only at done
  split at done
  · cases done
  split at done
  · rename_i existing known
    split at done
    · cases done
    split at done
    · cases done
      exact .repeated existing known rfl
    · cases done
  · rename_i fresh
    split at done
    · cases done
    rename_i current held
    split at done
    · cases done
    rename_i same
    obtain ⟨receipts,heads,bindings⟩ := record_ok done
    refine .removed _ _ current ⟨fresh,receipts,heads⟩ bindings held ?_
    rw [← not_not.mp same]
    exact (not_not.mp (not_or.mp identity).2).symm

theorem replaceBinding_change {replacement : ReplaceRequest S} (done : replaceBinding h replacement given state = .ok next) :
    Change state (.replace replacement given) next := by
  unfold replaceBinding at done
  simp only at done
  split at done
  · cases done
  rename_i valid
  split at done
  · cases done
  rename_i identity
  split at done
  · cases done
  split at done
  · rename_i existing known
    split at done
    · cases done
      exact .repeated existing known rfl
    · cases done
  · rename_i fresh
    split at done
    · cases done
    rename_i current held
    split at done
    · cases done
    rename_i source
    obtain ⟨receipts,heads,bindings⟩ := record_ok done
    have successor : replacement.target.generation = current.generation + 1 := by
      have named := not_not.mp (not_or.mp (not_or.mp identity).2).1
      rw [named,not_not.mp (not_or.mp (not_or.mp source).2).2]
    -- The successor of the last generation would be zero, which no valid binding has.
    have above : current.generation ≤ replacement.target.generation := by
      have positive := validateBinding_generation valid
      rw [successor] at positive ⊢
      rw [UInt64.le_iff_toNat_le,UInt64.toNat_add]
      rw [ne_eq,← UInt64.toNat_inj,UInt64.toNat_add] at positive
      have bound := current.generation.toNat_lt
      have one : (1 : UInt64).toNat = 1 := rfl
      have zero : (0 : UInt64).toNat = 0 := rfl
      omega
    refine .stored _ _ replacement.target ⟨fresh,receipts,heads⟩ bindings ?_ ?_
    · intro other found
      rw [held] at found
      cases found
      exact above
    · intro unbound
      rw [held] at unbound
      cases unbound

/-- A request is refused and leaves the file as it is, or it is accepted and makes a `Change`. -/
theorem step_cases (h : Helper S) (state : State S) (request : Request S) :
    ((update h state request).2 ≠ none ∧ step h state request = state) ∨ Change state request (step h state request) := by
  unfold step update
  split
  · exact .inl ⟨by simp,rfl⟩
  split
  · exact .inl ⟨by simp,rfl⟩
  rename_i handled
  split
  · exact .inl ⟨by simp,rfl⟩
  refine .inr ?_
  cases request with
  | apply binding given => exact applyBinding_change handled
  | release sandboxID target generation given => exact releaseBinding_change handled
  | replace replacement given => exact replaceBinding_change handled

theorem step_receipts (held : state.receipts.lookup key = some receipt) :
    (step h state request).receipts.lookup key = some receipt := by
  have kept : ∀ {sandboxID : String} {new : Receipt},
      Recorded state (step h state request) request.key sandboxID new →
      (step h state request).receipts.lookup key = some receipt := by
    intro sandboxID new recorded
    have other : key ≠ request.key := by
      rintro rfl
      rw [recorded.fresh] at held
      cases held
    rw [recorded.receipts,AList.lookup_insert_ne other]
    exact held
  rcases step_cases h state request with ⟨_,same⟩ | changed
  · rw [same]
    exact held
  · cases changed with
    | repeated _ _ same => rw [same]; exact held
    | stored _ _ _ recorded => exact kept recorded
    | removed _ _ _ recorded => exact kept recorded

theorem accepted_receipt (accepted : (update h state request).2 = none) :
    ∃ receipt, (step h state request).receipts.lookup request.key = some receipt := by
  rcases step_cases h state request with ⟨refused,_⟩ | changed
  · exact (refused accepted).elim
  · cases changed with
    | repeated receipt known same => exact ⟨receipt,by rw [same]; exact known⟩
    | stored _ receipt _ recorded => exact ⟨receipt,by rw [recorded.receipts,AList.lookup_insert]⟩
    | removed _ receipt _ recorded => exact ⟨receipt,by rw [recorded.receipts,AList.lookup_insert]⟩

theorem run_receipts (held : state.receipts.lookup key = some receipt) (requests : List (Request S)) :
    (run (step h) state requests).receipts.lookup key = some receipt := by
  have keeps : ∀ s a, (fun s : State S => s.receipts.lookup key = some receipt) s →
      (fun s : State S => s.receipts.lookup key = some receipt) (step h s a) := fun _ _ held => step_receipts held
  exact run_keeps keeps held requests

theorem step_repeated (held : state.receipts.lookup request.key = some receipt) : step h state request = state := by
  have absurd : ∀ {sandboxID : String} {new : Receipt},
      ¬ Recorded state (step h state request) request.key sandboxID new := by
    intro sandboxID new recorded
    rw [recorded.fresh] at held
    cases held
  rcases step_cases h state request with ⟨_,same⟩ | changed
  · exact same
  · cases changed with
    | repeated _ _ same => exact same
    | stored _ _ _ recorded => exact (absurd recorded).elim
    | removed _ _ _ recorded => exact (absurd recorded).elim

/-- The generation a sandbox has reached: that of its binding, or that of its last receipt. -/
def level (state : State S) (sandboxID : String) : Option UInt64 :=
  match state.bindings.lookup sandboxID with
  | some binding => some binding.generation
  | none => (headReceipt state sandboxID).map Receipt.actionGeneration

/-- A new bind of a sandbox that was released does not go below the receipt of the release. -/
def AtLeastHead (state : State S) : Request S → Prop
  | .apply binding receipt => state.receipts.lookup receipt.idempotencyKey = none →
      state.bindings.lookup binding.sandboxID = none →
        ∀ head, headReceipt state binding.sandboxID = some head → head.actionGeneration ≤ binding.generation
  | .release _ _ _ _ | .replace _ _ => True

omit [DecidableEq S] in
theorem level_bound (held : state.bindings.lookup sandboxID = some binding) :
    level state sandboxID = some binding.generation := by
  simp [level,held]

omit [DecidableEq S] in
theorem level_other {other : String} (recorded : Recorded state next key sandboxID receipt)
    (bindings : next.bindings.lookup other = state.bindings.lookup other) (apart : other ≠ sandboxID) :
    ∀ reached, level state other = some reached → level next other = some reached := by
  intro reached before
  cases held : state.bindings.lookup other with
  | some binding =>
    rw [level_bound held] at before
    rw [held] at bindings
    rw [level_bound bindings,before]
  | none =>
    simp only [level,held] at before
    rw [held] at bindings
    simp only [level,bindings]
    obtain ⟨head,found,same⟩ := Option.map_eq_some_iff.mp before
    obtain ⟨name,headed,stored⟩ := Option.bind_eq_some_iff.mp found
    have old : name ≠ key := by
      rintro rfl
      rw [recorded.fresh] at stored
      cases stored
    have kept : headReceipt next other = some head := by
      rw [headReceipt,recorded.heads,AList.lookup_insert_ne apart,headed]
      show next.receipts.lookup name = some head
      rw [recorded.receipts,AList.lookup_insert_ne old]
      exact stored
    rw [kept]
    exact congrArg some same

theorem level_step (condition : AtLeastHead state request) {reached : UInt64} (before : level state sandboxID = some reached) :
    ∃ after, level (step h state request) sandboxID = some after ∧ reached ≤ after := by
  rcases step_cases h state request with ⟨_,same⟩ | changed
  · exact ⟨reached,by rw [same]; exact before,UInt64.le_refl _⟩
  · cases changed with
    | repeated _ _ same => exact ⟨reached,by rw [same]; exact before,UInt64.le_refl _⟩
    | stored target receipt binding recorded bindings above named =>
      by_cases here : sandboxID = target
      · subst here
        have now : (step h state request).bindings.lookup sandboxID = some binding := by rw [bindings,AList.lookup_insert]
        refine ⟨binding.generation,level_bound now,?_⟩
        cases held : state.bindings.lookup sandboxID with
        | some current =>
          rw [level_bound held] at before
          cases before
          exact above current held
        | none =>
          obtain ⟨given,rfl,rfl⟩ := named held
          simp only [level,held] at before
          obtain ⟨head,found,rfl⟩ := Option.map_eq_some_iff.mp before
          exact condition recorded.fresh held head found
      · refine ⟨reached,level_other recorded ?_ here reached before,UInt64.le_refl _⟩
        rw [bindings,AList.lookup_insert_ne here]
    | removed target receipt current recorded bindings held generation =>
      by_cases here : sandboxID = target
      · subst here
        have gone : (step h state request).bindings.lookup sandboxID = none := by rw [bindings,AList.lookup_erase]
        have headed : headReceipt (step h state request) sandboxID = some receipt := by
          rw [headReceipt,recorded.heads,AList.lookup_insert,recorded.receipts]
          exact AList.lookup_insert _
        rw [level_bound held] at before
        cases before
        refine ⟨current.generation,?_,UInt64.le_refl _⟩
        simp only [level,gone,headed]
        exact congrArg some generation
      · refine ⟨reached,level_other recorded ?_ here reached before,UInt64.le_refl _⟩
        rw [bindings,AList.lookup_erase_ne here]

theorem level_run {reached : UInt64} (before : level state sandboxID = some reached) {requests : List (Request S)}
    (guarded : Guarded (step h) AtLeastHead state requests) :
    ∃ after, level (run (step h) state requests) sandboxID = some after ∧ reached ≤ after := by
  refine guarded_keeps (P := fun s => ∃ after, level s sandboxID = some after ∧ reached ≤ after) ?_
    ⟨reached,before,UInt64.le_refl _⟩ guarded
  rintro s a ⟨middle,held,above⟩ condition
  obtain ⟨after,now,further⟩ := level_step (h := h) condition held
  exact ⟨after,now,UInt64.le_trans above further⟩

/-- Generations of a sandbox do not go down while no bind goes below the receipt of a release; and a request repeated
    with a key that was accepted never changes the file. -/
theorem generation_never_back (h : Helper S) (earlier later : List (Request S)) :
    (Guarded (step h) AtLeastHead emptyState (earlier ++ later) → ∀ sandboxID older newer,
      (run (step h) emptyState earlier).bindings.lookup sandboxID = some older →
      (run (step h) emptyState (earlier ++ later)).bindings.lookup sandboxID = some newer →
      older.generation ≤ newer.generation) ∧
    (∀ request repeated, (update h (run (step h) emptyState earlier) request).2 = none → repeated.key = request.key →
      step h (run (step h) emptyState (earlier ++ request :: later)) repeated =
        run (step h) emptyState (earlier ++ request :: later)) := by
  refine ⟨?_,?_⟩
  · intro guarded sandboxID older newer first second
    obtain ⟨after,reached,above⟩ := level_run (level_bound first) (guarded_append.mp guarded).2
    rw [← run_append,level_bound second] at reached
    cases reached
    exact above
  · intro request repeated accepted same
    obtain ⟨receipt,stored⟩ := accepted_receipt accepted
    have kept := run_receipts (h := h) stored later
    rw [← same] at kept
    rw [run_append,run_cons]
    exact step_repeated kept

/-- Requests about one sandbox, with shares in percent. -/
def percent : Helper Nat := ⟨fun share => decide (0 < share) && decide (share ≤ 100),toString,id⟩

def boundAt (generation : UInt64) (key : String) : Binding Nat := ⟨"sandbox","binding",generation,["gpu"],50,key,0⟩

def receiptAt (generation : UInt64) (key : String) : Receipt where
  operation := .bind
  stepIndex := 0
  expectedActions := 1
  committed := false
  planDigest := "plan " ++ key
  actionID := "action " ++ key
  planID := "plan " ++ key
  idempotencyKey := key
  sandboxID := "sandbox"
  transactionGeneration := 1
  actionGeneration := generation
  succeeded := true
  errorCode := ""
  errorMessage := ""
  commandDigest := "command " ++ key
  requestDigest := ""
  recoverable := true

def bindAt (generation : UInt64) (key : String) : Request Nat := .apply (boundAt generation key) (receiptAt generation key)
def releaseAt (generation : UInt64) (key : String) : Request Nat :=
  .release "sandbox" "allocation" generation (receiptAt generation key)

/-- After the release of generation 5 a bind of generation 3, refused while 5 was bound, is stored. -/
theorem older_bind_after_release :
    (update percent (run (step percent) emptyState [bindAt 5 "a"]) (bindAt 3 "c")).2 =
      some "stale generation 3; current generation is 5" ∧
    ((run (step percent) emptyState [bindAt 5 "a"]).bindings.lookup "sandbox").map Binding.generation = some 5 ∧
    ((run (step percent) emptyState [bindAt 5 "a",releaseAt 5 "b",bindAt 3 "c"]).bindings.lookup "sandbox").map
      Binding.generation = some 3 := by
  decide +kernel

/-- A bind of the next generation after a release, and the release repeated after it. -/
theorem newer_bind_after_release :
    Guarded (step percent) AtLeastHead emptyState [bindAt 5 "a",releaseAt 5 "b",bindAt 6 "c"] ∧
    (∀ older newer, (run (step percent) emptyState [bindAt 5 "a"]).bindings.lookup "sandbox" = some older →
      (run (step percent) emptyState [bindAt 5 "a",releaseAt 5 "b",bindAt 6 "c"]).bindings.lookup "sandbox" = some newer →
      older.generation ≤ newer.generation) ∧
    step percent (run (step percent) emptyState [bindAt 5 "a",releaseAt 5 "b",bindAt 6 "c"]) (releaseAt 5 "b") =
      run (step percent) emptyState [bindAt 5 "a",releaseAt 5 "b",bindAt 6 "c"] := by
  have guarded : Guarded (step percent) AtLeastHead emptyState [bindAt 5 "a",releaseAt 5 "b",bindAt 6 "c"] := by
    refine ⟨?_,trivial,?_,trivial⟩
    · intro _ _ head held
      cases held
    · intro _ _ head held
      have known : headReceipt (run (step percent) emptyState [bindAt 5 "a",releaseAt 5 "b"]) "sandbox" =
          some { receiptAt 5 "b" with
            operation := .release, requestDigest := releaseRequestDigest percent "sandbox" "allocation" 5 } := by
        decide +kernel
      cases held.symm.trans known
      decide
  refine ⟨guarded,?_,?_⟩
  · exact (generation_never_back percent [bindAt 5 "a"] [releaseAt 5 "b",bindAt 6 "c"]).1 guarded "sandbox"
  · exact (generation_never_back percent [bindAt 5 "a"] [bindAt 6 "c"]).2 (releaseAt 5 "b") (releaseAt 5 "b")
      (by decide +kernel) rfl

end TgsRl.BindingHelper
