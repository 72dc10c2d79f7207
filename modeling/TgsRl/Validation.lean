import TgsRl.State

/-!
The check of a snapshot before it is evaluated, `validateSnapshot` of `scheduler/validation.go`: the
header, the devices, the allocations and the pending units, each list with the names seen so far.
The annotations and the fields of a capability set that nothing else reads come through `Readings`.
-/
namespace TgsRl.Validation
open Resources Messages

/-- `ValidationError`: the path of the field and what is wrong with it. -/
structure ValidationError where
  field : String
  reason : String
  deriving DecidableEq, Repr

def invalid {α : Type} (field reason : String) : Except ValidationError α := .error ⟨field,reason⟩

def isSpace (c : Char) : Bool :=
  let n := c.toNat
  decide (9 ≤ n ∧ n ≤ 13) || decide (n ∈ [32,133,160,5760,8232,8233,8239,8287,12288]) || decide (8192 ≤ n ∧ n ≤ 8202)

def trimSpace (text : String) : String :=
  String.ofList ((text.toList.dropWhile isSpace).reverse.dropWhile isSpace).reverse

/-- `ParseUint` to base ten and 64 bits. -/
def parseUint (text : String) : Option UInt64 :=
  let digits := text.toList
  let value := digits.foldl (fun value c => value * 10 + (c.toNat - 48)) 0
  if digits ≠ [] ∧ digits.all (fun c => decide (48 ≤ c.toNat) && decide (c.toNat ≤ 57)) ∧ value < 2 ^ 64 then
    some (UInt64.ofNat value)
  else none

/-- What the planner reads and the Store does not: the order of accelerator units, the annotations of a snapshot, the
    text of `CheckValid`, and the first fault in the limits, the measuring time and the component versions of a
    capability set, as the rest of its path and the reason. -/
structure Readings (F : Type) where
  atMost : F → F → Bool
  annotations : ClusterSnapshot F → List (String × String)
  checkValid : Timestamp → String
  fault : CapabilitySet → Option (String × String)

variable {F : Type} [Platform F]

def validateResourceVector (field : String) : Option (ResourceVector F) → Except ValidationError Unit
  | none => invalid field "must be present"
  | some resources =>
    if !Platform.finite resources.acceleratorUnits || Platform.negative resources.acceleratorUnits then
      invalid (field ++ ".accelerator_units") "must be finite and non-negative"
    else .ok ()

/-- `ResourceLessOrEqual` of two vectors that are there. -/
def resourceLessOrEqual (r : Readings F) (request available : ResourceVector F) : Bool :=
  Platform.finite request.acceleratorUnits && !Platform.negative request.acceleratorUnits &&
    Platform.finite available.acceleratorUnits && !Platform.negative available.acceleratorUnits &&
    decide (request.cpuMillis ≤ available.cpuMillis) && decide (request.memoryBytes ≤ available.memoryBytes) &&
    r.atMost request.acceleratorUnits available.acceleratorUnits &&
    decide (request.ephemeralStorageBytes ≤ available.ephemeralStorageBytes) &&
    decide (request.networkBandwidthBps ≤ available.networkBandwidthBps)

def uniqueNonEmpty (field : String) (values : List String) : Except ValidationError Unit :=
  let rec loop (seen : List String) : List String → Except ValidationError Unit
    | [] => .ok ()
    | value :: rest =>
      if trimSpace value = "" then invalid field "values must be non-empty"
      else if trimSpace value ∈ seen then invalid field "values must be unique"
      else loop (trimSpace value :: seen) rest
  loop [] values

def validateCapabilityShape (r : Readings F) (field : String) : Option CapabilitySet → Except ValidationError Unit
  | none => .ok ()
  | some capabilities => match uniqueNonEmpty (field ++ ".names") capabilities.names with
    | .error e => .error e
    | .ok () => match uniqueNonEmpty (field ++ ".algorithms") capabilities.algorithms with
      | .error e => .error e
      | .ok () => match uniqueNonEmpty (field ++ ".rollout_modes") capabilities.rolloutModes with
        | .error e => .error e
        | .ok () => match uniqueNonEmpty (field ++ ".supported_actions") capabilities.supportedActions with
          | .error e => .error e
          | .ok () =>
            if capabilities.attributes.any (fun (key,value) => decide (trimSpace key = "") || decide (trimSpace value = ""))
            then invalid (field ++ ".attributes") "keys and values must be non-empty"
            else match r.fault capabilities with
              | none => .ok ()
              | some (path,reason) => invalid (field ++ path) reason

/-- The loop over a list of messages, with their positions and the names seen so far. -/
def walk {α : Type} (name : α → String) (check : Nat → List String → α → Except ValidationError Unit) :
    Nat → List String → List α → Except ValidationError (List String)
  | _, seen, [] => .ok seen
  | i, seen, a :: rest => match check i seen a with
    | .error e => .error e
    | .ok () => walk name check (i + 1) (name a :: seen) rest

/-- The identity of the snapshot and the annotations that repeat its revision. -/
def validateHeader (r : Readings F) (snapshot : ClusterSnapshot F) : Except ValidationError Unit :=
  if trimSpace snapshot.snapshotId = "" then invalid "snapshot.snapshot_id" "must not be empty"
  else if snapshot.revision = 0 then invalid "snapshot.revision" "must be greater than zero"
  else match snapshot.observedAt.filter (fun observed => !observed.valid) with
  | some observed => invalid "snapshot.observed_at" (r.checkValid observed)
  | none =>
    let differs (key : String) : Bool := ((r.annotations snapshot).lookup key).any (fun raw =>
      decide (parseUint (trimSpace raw) ≠ some snapshot.revision))
    match ["snapshot_revision","tgsrl.io/snapshot-revision"].find? differs with
    | some key => invalid ("snapshot.annotations[" ++ key ++ "]") "must equal snapshot.revision"
    | none => .ok ()

def devicePath (i : Nat) : String := "snapshot.devices[" ++ (toString i ++ "]")

def validateDevice (r : Readings F) (i : Nat) (seen : List String) (device : Device F) : Except ValidationError Unit :=
  if trimSpace device.deviceId = "" then invalid (devicePath i ++ ".device_id") "must not be empty"
  else if trimSpace device.deviceId ∈ seen then invalid (devicePath i ++ ".device_id") "must be unique"
  else match validateResourceVector (devicePath i ++ ".capacity") (some device.capacity) with
    | .error e => .error e
    | .ok () => match validateResourceVector (devicePath i ++ ".allocatable") (some device.allocatable) with
      | .error e => .error e
      | .ok () =>
        if !resourceLessOrEqual r device.allocatable device.capacity then
          invalid (devicePath i ++ ".allocatable") "must not exceed capacity in any dimension"
        else validateCapabilityShape r (devicePath i ++ ".capabilities") device.capabilities

def allocationPath (i : Nat) : String := "snapshot.allocations[" ++ (toString i ++ "]")

/-- The devices of an active allocation are known and named once. -/
def validatePlaces (field : String) (deviceIDs : List String) : List String → List String → Except ValidationError Unit
  | _, [] => .ok ()
  | seen, deviceID :: rest =>
    if deviceID ∉ deviceIDs then invalid field "active allocation references an unknown device"
    else if deviceID ∈ seen then invalid field "must not contain duplicates"
    else validatePlaces field deviceIDs (deviceID :: seen) rest

def validateAllocation (deviceIDs : List String) (i : Nat) (seen : List String) (allocation : Allocation F) :
    Except ValidationError Unit :=
  if trimSpace allocation.allocationId = "" then invalid (allocationPath i ++ ".allocation_id") "must not be empty"
  else if allocation.allocationId ∈ seen then invalid (allocationPath i ++ ".allocation_id") "must be unique"
  else match validateResourceVector (allocationPath i ++ ".resources") allocation.resources with
    | .error e => .error e
    | .ok () =>
      if allocation.state ≠ .active then .ok ()
      else if allocation.intentVersion = 0 then
        invalid (allocationPath i ++ ".intent_version") "active allocation version must be greater than zero"
      else if allocation.deviceIds = [] then
        invalid (allocationPath i ++ ".device_ids") "active allocation must reference at least one device"
      else validatePlaces (allocationPath i ++ ".device_ids") deviceIDs [] allocation.deviceIds

def unitPath (i : Nat) : String := "snapshot.pending_units[" ++ (toString i ++ "]")

def validatePendingUnit (r : Readings F) (i : Nat) (seen : List String) (unit : PendingUnit F) :
    Except ValidationError Unit :=
  if trimSpace unit.pendingUnitId = "" then invalid (unitPath i ++ ".pending_unit_id") "must not be empty"
  else if unit.pendingUnitId ∈ seen then invalid (unitPath i ++ ".pending_unit_id") "must be unique"
  else if trimSpace unit.executionId = "" ∨ trimSpace unit.stageId = "" then
    invalid (unitPath i) "execution_id and stage_id must not be empty"
  else if unit.intentVersion = 0 then invalid (unitPath i ++ ".intent_version") "must be greater than zero"
  else match validateResourceVector (unitPath i ++ ".requested_resources") unit.requestedResources with
    | .error e => .error e
    | .ok () => validateCapabilityShape r (unitPath i ++ ".required_capabilities") unit.requiredCapabilities

def validateSnapshot (r : Readings F) (snapshot : ClusterSnapshot F) : Except ValidationError Unit :=
  match validateHeader r snapshot with
  | .error e => .error e
  | .ok () => match walk (fun device => trimSpace device.deviceId) (validateDevice r) 0 [] snapshot.devices with
    | .error e => .error e
    | .ok deviceIDs => match walk Allocation.allocationId (validateAllocation deviceIDs) 0 [] snapshot.allocations with
      | .error e => .error e
      | .ok _ => match walk PendingUnit.pendingUnitId (validatePendingUnit r) 0 [] snapshot.pendingUnits with
        | .error e => .error e
        | .ok _ => .ok ()

/-- The error of an allocation whose name an earlier one has. -/
def repeated (i : Nat) : ValidationError := ⟨allocationPath i ++ ".allocation_id","must be unique"⟩

/-- The error is in the part of the snapshot whose path has the given tenth letter, or has another reason. -/
def Elsewhere (e : ValidationError) : Prop := e.field.toList[9]? ≠ some 'a' ∨ e.reason ≠ "must be unique"

theorem tenth_append {start : String} {c : Char} (here : start.toList[9]? = some c) (path : String) :
    (start ++ path).toList[9]? = some c := by
  obtain ⟨long,_⟩ := List.getElem?_eq_some_iff.mp here
  rw [String.toList_append,List.getElem?_append_left long]
  exact here

theorem repeated_here (i : Nat) : ¬ Elsewhere (repeated i) := by
  have tenth : (allocationPath i ++ ".allocation_id").toList[9]? = some 'a' :=
    tenth_append (tenth_append (by simp) _) _
  rintro (other | other)
  · exact other tenth
  · exact other rfl

theorem elsewhere_reason {field reason : String} (other : reason ≠ "must be unique") : Elsewhere ⟨field,reason⟩ :=
  Or.inr other

theorem elsewhere_device (i : Nat) (path reason : String) : Elsewhere ⟨devicePath i ++ path,reason⟩ := by
  have tenth : (devicePath i ++ path).toList[9]? = some 'd' := tenth_append (tenth_append (by simp) _) _
  left
  rw [tenth]
  decide

theorem elsewhere_unit (i : Nat) (path reason : String) : Elsewhere ⟨unitPath i ++ path,reason⟩ := by
  have tenth : (unitPath i ++ path).toList[9]? = some 'p' := tenth_append (tenth_append (by simp) _) _
  left
  rw [tenth]
  decide

/-- Every error of the result satisfies the condition. -/
def Fails {α : Type} (P : ValidationError → Prop) (result : Except ValidationError α) : Prop :=
  ∀ e, result = .error e → P e

variable {α : Type} {P : ValidationError → Prop}

theorem fails_ok (a : α) : Fails P (.ok a) := by
  intro e failed
  cases failed

theorem fails_invalid {field reason : String} (holds : P ⟨field,reason⟩) :
    Fails P (invalid field reason : Except ValidationError α) := by
  intro e failed
  cases failed
  exact holds

theorem fails_rethrow {α β : Type} {first : Except ValidationError α} {e : ValidationError} (holds : Fails P first)
    (failed : first = .error e) : Fails P (.error e : Except ValidationError β) := by
  intro e' same
  cases same
  exact holds e failed

theorem walk_fails {name : α → String} {check : Nat → List String → α → Except ValidationError Unit}
    (each : ∀ i seen a, Fails P (check i seen a)) :
    ∀ (items : List α) (i : Nat) (seen : List String), Fails P (walk name check i seen items) := by
  intro items
  induction items with
  | nil => intro i seen; exact fails_ok seen
  | cons a rest ih =>
    intro i seen
    unfold walk
    split
    · rename_i e failed
      exact fails_rethrow (each i seen a) failed
    · exact ih (i + 1) (name a :: seen)

omit [Platform F] in
theorem validateHeader_elsewhere (r : Readings F) (snapshot : ClusterSnapshot F) :
    Fails Elsewhere (validateHeader r snapshot) := by
  unfold validateHeader
  split
  · exact fails_invalid (elsewhere_reason (by decide))
  split
  · exact fails_invalid (elsewhere_reason (by decide))
  split
  · exact fails_invalid (Or.inl (by simp))
  dsimp only
  split
  · exact fails_invalid (elsewhere_reason (by decide))
  · exact fails_ok ()

/-- A check whose paths all start with the given one. -/
def Under {α : Type} (path : String) (result : Except ValidationError α) : Prop :=
  Fails (fun e => ∃ rest, e.field = path ++ rest) result

theorem validateResourceVector_under (path rest : String) (resources : Option (ResourceVector F)) :
    Under path (validateResourceVector (path ++ rest) resources) := by
  cases resources with
  | none => exact fails_invalid ⟨rest,rfl⟩
  | some resources =>
    simp only [validateResourceVector]
    split
    · exact fails_invalid ⟨rest ++ ".accelerator_units",String.append_assoc⟩
    · exact fails_ok ()

theorem uniqueNonEmpty_under (path rest : String) (values : List String) :
    Under path (uniqueNonEmpty (path ++ rest) values) := by
  have loop : ∀ values seen, Under path (uniqueNonEmpty.loop (path ++ rest) seen values) := by
    intro values
    induction values with
    | nil => intro seen; exact fails_ok ()
    | cons value later ih =>
      intro seen
      unfold uniqueNonEmpty.loop
      split
      · exact fails_invalid ⟨rest,rfl⟩
      split
      · exact fails_invalid ⟨rest,rfl⟩
      · exact ih _
  exact loop values []

omit [Platform F] in
theorem validateCapabilityShape_under (r : Readings F) (path rest : String) (capabilities : Option CapabilitySet) :
    Under path (validateCapabilityShape r (path ++ rest) capabilities) := by
  have names := fun more values => uniqueNonEmpty_under path (rest ++ more) values
  simp only [← String.append_assoc] at names
  cases capabilities with
  | none => exact fails_ok ()
  | some capabilities =>
    simp only [validateCapabilityShape]
    split
    · rename_i e failed
      exact fails_rethrow (names _ _) failed
    · split
      · rename_i e failed
        exact fails_rethrow (names _ _) failed
      · split
        · rename_i e failed
          exact fails_rethrow (names _ _) failed
        · split
          · rename_i e failed
            exact fails_rethrow (names _ _) failed
          · split
            · exact fails_invalid ⟨rest ++ ".attributes",String.append_assoc⟩
            · split
              · exact fails_ok ()
              · exact fails_invalid ⟨_,String.append_assoc⟩

theorem validateDevice_elsewhere (r : Readings F) (i : Nat) (seen : List String) (device : Device F) :
    Fails Elsewhere (validateDevice r i seen device) := by
  have under : ∀ {result : Except ValidationError Unit}, Under (devicePath i) result → Fails Elsewhere result := by
    intro result holds e failed
    obtain ⟨rest,path⟩ := holds e failed
    rcases e with ⟨field,reason⟩
    rw [show field = devicePath i ++ rest from path]
    exact elsewhere_device i rest reason
  unfold validateDevice
  split
  · exact fails_invalid (elsewhere_device _ _ _)
  split
  · exact fails_invalid (elsewhere_device _ _ _)
  split
  · rename_i e failed
    exact fails_rethrow (under (validateResourceVector_under _ _ _)) failed
  · split
    · rename_i e failed
      exact fails_rethrow (under (validateResourceVector_under _ _ _)) failed
    · split
      · exact fails_invalid (elsewhere_device _ _ _)
      · exact under (validateCapabilityShape_under r _ _ _)

theorem validatePendingUnit_elsewhere (r : Readings F) (i : Nat) (seen : List String) (unit : PendingUnit F) :
    Fails Elsewhere (validatePendingUnit r i seen unit) := by
  have under : ∀ {result : Except ValidationError Unit}, Under (unitPath i) result → Fails Elsewhere result := by
    intro result holds e failed
    obtain ⟨rest,path⟩ := holds e failed
    rcases e with ⟨field,reason⟩
    rw [show field = unitPath i ++ rest from path]
    exact elsewhere_unit i rest reason
  unfold validatePendingUnit
  split
  · exact fails_invalid (elsewhere_unit _ _ _)
  split
  · exact fails_invalid (elsewhere_unit _ _ _)
  split
  · exact fails_invalid (elsewhere_reason (by decide))
  split
  · exact fails_invalid (elsewhere_unit _ _ _)
  split
  · rename_i e failed
    exact fails_rethrow (under (validateResourceVector_under _ _ _)) failed
  · exact under (validateCapabilityShape_under r _ _ _)

theorem validatePlaces_elsewhere (field : String) (deviceIDs : List String) :
    ∀ places seen, Fails Elsewhere (validatePlaces field deviceIDs seen places) := by
  intro places
  induction places with
  | nil => intro seen; exact fails_ok ()
  | cons place rest ih =>
    intro seen
    unfold validatePlaces
    split
    · exact fails_invalid (elsewhere_reason (by decide))
    split
    · exact fails_invalid (elsewhere_reason (by decide))
    · exact ih _

theorem validateAllocation_elsewhere (deviceIDs : List String) (i : Nat) (seen : List String) (allocation : Allocation F)
    (new : allocation.allocationId ∉ seen) : Fails Elsewhere (validateAllocation deviceIDs i seen allocation) := by
  unfold validateAllocation
  split
  · exact fails_invalid (elsewhere_reason (by decide))
  split
  · rename_i e failed
    refine fails_rethrow ?_ failed
    cases allocation.resources with
    | none => exact fails_invalid (elsewhere_reason (by decide))
    | some resources =>
      simp only [validateResourceVector]
      split
      · exact fails_invalid (elsewhere_reason (by decide))
      · exact fails_ok ()
  · split
    · exact fails_ok ()
    · split
      · exact fails_invalid (elsewhere_reason (by decide))
      · split
        · exact fails_invalid (elsewhere_reason (by decide))
        · exact validatePlaces_elsewhere _ _ _ _

theorem validateAllocations_elsewhere (deviceIDs : List String) : ∀ (allocations : List (Allocation F)) (i : Nat)
    (seen : List String), (allocations.map Allocation.allocationId).Nodup →
    (∀ allocation ∈ allocations, allocation.allocationId ∉ seen) →
    Fails Elsewhere (walk Allocation.allocationId (validateAllocation deviceIDs) i seen allocations) := by
  intro allocations
  induction allocations with
  | nil => intro i seen _ _; exact fails_ok seen
  | cons allocation rest ih =>
    intro i seen distinct new
    rw [List.map_cons,List.nodup_cons] at distinct
    unfold walk
    split
    · rename_i e failed
      exact fails_rethrow (validateAllocation_elsewhere deviceIDs i seen allocation (new allocation (by simp))) failed
    · refine ih (i + 1) _ distinct.2 ?_
      intro other member
      rw [List.mem_cons,not_or]
      refine ⟨?_,new other (by simp [member])⟩
      intro same
      exact distinct.1 (same ▸ List.mem_map_of_mem member)

theorem validateSnapshot_distinct (r : Readings F) {snapshot : ClusterSnapshot F}
    (distinct : (snapshot.allocations.map Allocation.allocationId).Nodup) (i : Nat) :
    validateSnapshot r snapshot ≠ .error (repeated i) := by
  have elsewhere : Fails Elsewhere (validateSnapshot r snapshot) := by
    unfold validateSnapshot
    split
    · rename_i e failed
      exact fails_rethrow (validateHeader_elsewhere r snapshot) failed
    · split
      · rename_i e failed
        exact fails_rethrow (walk_fails (validateDevice_elsewhere r) _ _ _) failed
      · split
        · rename_i e failed
          exact fails_rethrow (validateAllocations_elsewhere _ _ _ _ distinct (by simp)) failed
        · split
          · rename_i e failed
            exact fails_rethrow (walk_fails (validatePendingUnit_elsewhere r) _ _ _) failed
          · exact fails_ok ()
  intro failed
  exact repeated_here i (elsewhere _ failed)

end TgsRl.Validation
