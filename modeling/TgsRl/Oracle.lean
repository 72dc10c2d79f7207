import Mathlib.Algebra.BigOperators.Group.List.Basic
import Mathlib.Data.List.Dedup
import Mathlib.Data.List.Sort
import Mathlib.Data.String.Basic
import TgsRl.Messages

/-!
The runtime's oracle. `project` looks at the sandboxes of a run and says whether the runtime has
failed, has come to the state that was asked for, or is on its way. The dictionaries of its loops,
keyed by unit and sandbox, are the lists of their values here, the last of each key (`lastOf`);
nothing depends on their order.
-/
namespace TgsRl.Oracle
open Messages

structure RuntimeUnit where
  runtimeUnitId : String
  generation : Nat
  statusReason : String
  state : RuntimeState
  sandboxId : String
  observedAt : Option (Int × Int)
  annotations : List (String × String)
  deriving DecidableEq

/-- A sandbox with the names in its binding; a time is seconds and nanoseconds. -/
structure Sandbox where
  sandboxId : String
  runtimeUnitId : String
  pendingUnitId : String
  generation : Nat
  state : RuntimeState
  observedAt : Option (Int × Int)
  deriving DecidableEq

inductive ComponentHealth where
  | unknown | healthy | degraded | failed | progressing
  deriving DecidableEq, Repr

/-- The arguments of `project` that are passed on. -/
structure Subject where
  component : String
  runId : String
  jobId : String
  traceId : String
  revision : Nat
  observedAt : Option (Int × Int)
  deriving DecidableEq

structure ComponentStatus where
  subject : Subject
  health : ComponentHealth
  detail : String
  source : String
  observedRuntimeState : RuntimeState
  converged : Bool
  annotations : List (String × String)
  deriving DecidableEq

structure RuntimeObservationProjection where
  runtimeUnits : List RuntimeUnit
  componentStatus : ComponentStatus
  deriving DecidableEq

/-- `RuntimeState.Name`. -/
def stateName : RuntimeState → String
  | .unknown => "RUNTIME_STATE_UNKNOWN"
  | .requested => "RUNTIME_STATE_REQUESTED"
  | .bound => "RUNTIME_STATE_BOUND"
  | .running => "RUNTIME_STATE_RUNNING"
  | .paused => "RUNTIME_STATE_PAUSED"
  | .sleeping => "RUNTIME_STATE_SLEEPING"
  | .failed => "RUNTIME_STATE_FAILED"
  | .terminated => "RUNTIME_STATE_TERMINATED"
  | .validating => "RUNTIME_STATE_VALIDATING"
  | .compiling => "RUNTIME_STATE_COMPILING"
  | .preparing => "RUNTIME_STATE_PREPARING"
  | .starting => "RUNTIME_STATE_STARTING"
  | .pausing => "RUNTIME_STATE_PAUSING"
  | .resuming => "RUNTIME_STATE_RESUMING"
  | .checkpointing => "RUNTIME_STATE_CHECKPOINTING"
  | .stopping => "RUNTIME_STATE_STOPPING"
  | .terminating => "RUNTIME_STATE_TERMINATING"

/-- The values of a dictionary that is filled from a list: the last item of each key. -/
def lastOf {α κ : Type} [DecidableEq κ] (key : α → κ) : List α → List α
  | [] => []
  | a :: rest => if key a ∈ rest.map key then lastOf key rest else a :: lastOf key rest

theorem lastOf_eq_self {α κ : Type} [DecidableEq κ] {key : α → κ} {items : List α} (distinct : (items.map key).Nodup) :
    lastOf key items = items := by
  induction items with
  | nil => rfl
  | cons a rest ih =>
    obtain ⟨new,distinct⟩ := List.nodup_cons.mp distinct
    rw [lastOf,if_neg new,ih distinct]

/-- What the reason of a state asks for. -/
def targetOf (reason : String) : RuntimeState :=
  ([("starting",.running),("pausing",.paused),("resuming",.running),("stopping",.terminated),
    ("terminating",.terminated)].lookup reason).getD .unknown

/-- `target_state`, where a set of reasons is a list without repetitions. -/
def targetState (units : List RuntimeUnit) : RuntimeState :=
  match (units.map RuntimeUnit.statusReason).dedup with
  | [reason] => targetOf reason
  | _ => .unknown

def Sandbox.unitID (sandbox : Sandbox) : String :=
  if sandbox.runtimeUnitId ≠ "" then sandbox.runtimeUnitId else sandbox.pendingUnitId

def unitsByID (units : List RuntimeUnit) : List RuntimeUnit :=
  lastOf RuntimeUnit.runtimeUnitId (units.filter (fun unit => decide (unit.runtimeUnitId ≠ "")))

section Int
variable (int : String → Option Int)

/-- The number of sandboxes that a unit expects, where `int` reads a number. -/
def expectedCount (unit : RuntimeUnit) : Option Int :=
  (int ((unit.annotations.lookup "unit_count").getD "1")).filter (fun count => decide (0 < count))

def expectedByUnit (units : List RuntimeUnit) : List (String × Int) :=
  (unitsByID units).filterMap (fun unit => (expectedCount int unit).map (fun count => (unit.runtimeUnitId,count)))

/-- The sandbox has a name and is of the generation of its unit. -/
def isTarget (units : List RuntimeUnit) (sandbox : Sandbox) : Bool :=
  decide (sandbox.sandboxId ≠ "") && (unitsByID units).any (fun unit =>
    decide (unit.runtimeUnitId = sandbox.unitID) && decide (unit.generation = sandbox.generation))

def observedTargets (units : List RuntimeUnit) (sandboxes : List Sandbox) : List Sandbox :=
  lastOf (fun sandbox => (sandbox.unitID,sandbox.sandboxId)) (sandboxes.filter (isTarget units))

def targetsOf (observed : List Sandbox) (unitID : String) : List Sandbox :=
  observed.filter (fun sandbox => decide (sandbox.unitID = unitID))

/-- `target_set_complete` after all loops. -/
def targetSetComplete (units : List RuntimeUnit) (sandboxes : List Sandbox) : Bool :=
  decide (units ≠ []) && decide ((unitsByID units).length = units.length) &&
    (unitsByID units).all (fun unit => (expectedCount int unit).isSome) &&
    sandboxes.all (fun sandbox => decide (sandbox.unitID ∈ (unitsByID units).map RuntimeUnit.runtimeUnitId) &&
      decide (sandbox.sandboxId ≠ "")) &&
    (expectedByUnit int units).all (fun (unitID,count) =>
      decide (((targetsOf (observedTargets units sandboxes) unitID).length : Int) = count))

def Sandbox.before (left right : Sandbox) : Bool :=
  let (seconds,nanos) := left.observedAt.getD (0,0)
  let (seconds',nanos') := right.observedAt.getD (0,0)
  decide (seconds < seconds' ∨ seconds = seconds' ∧ nanos < nanos')

def byName (targets : List Sandbox) : List Sandbox := targets.insertionSort (fun left right => left.sandboxId ≤ right.sandboxId)

/-- A unit with what its targets report; the first of the latest by name gives the time. -/
def settle (unit : RuntimeUnit) (targets : List Sandbox) : RuntimeUnit :=
  let ordered := byName targets
  match ordered with
  | [] => unit
  | first :: rest =>
    { unit with
      state := if targets.any (fun sandbox => decide (sandbox.state = .failed)) then .failed
        else if expectedCount int unit = some (targets.length : Int) ∧ targets.all (fun sandbox => decide (sandbox.state = first.state))
          then first.state
        else .unknown
      sandboxId := first.sandboxId
      observedAt := (rest.foldl (fun latest sandbox => if latest.before sandbox then sandbox else latest) first).observedAt.or
        unit.observedAt }

/-- The clones after the loop over `units_by_id`, which holds the last unit of each name. -/
def settleUnits (observed : List Sandbox) : List RuntimeUnit → List RuntimeUnit
  | [] => []
  | unit :: rest =>
    (if unit.runtimeUnitId = "" ∨ unit.runtimeUnitId ∈ rest.map RuntimeUnit.runtimeUnitId then unit
      else settle int unit (targetsOf observed unit.runtimeUnitId)) :: settleUnits observed rest

/-- The status from what was found. -/
def statusOf (subject : Subject) (target : RuntimeState) (failed converged degraded : Bool) (unitCount : Nat) (targetCount : Int)
    (observedCount : Nat) : ComponentStatus :=
  let observed := if failed then .failed else if converged then target else .unknown
  { subject
    health := if failed then .failed else if !converged then .progressing else if degraded then .degraded else .healthy
    detail := if failed then "at least one runtime sandbox reported failure"
      else if converged then "all runtime sandboxes converged to " ++ stateName target
      else "runtime sandboxes have not converged to the requested observed state"
    source := "runtime-observation"
    observedRuntimeState := observed
    converged
    annotations := [("runtime.state",stateName observed),("runtime.target_state",stateName target),
      ("runtime.converged",if converged then "true" else "false"),("runtime.unit_count",toString unitCount),
      ("runtime.target_count",toString targetCount),("runtime.observed_count",toString observedCount)] }

/-- `project`, which fails on a target of a unit without a count. -/
def project (subject : Subject) (units : List RuntimeUnit) (sandboxes : List Sandbox) :
    Except String RuntimeObservationProjection :=
  let observed := observedTargets units sandboxes
  match observed.find? (fun sandbox => decide (sandbox.unitID ∉ (expectedByUnit int units).map Prod.fst)) with
  | some sandbox => .error ("KeyError: " ++ sandbox.unitID)
  | none =>
    let failed := observed.any (fun sandbox => decide (sandbox.state = .failed))
    let target := targetState units
    let converged := !failed && targetSetComplete int units sandboxes && decide (observed ≠ []) && decide (target ≠ .unknown) &&
      observed.all (fun sandbox => decide (sandbox.state = target))
    let degraded := units.any (fun unit => decide (unit.annotations.lookup "component_support" ≠ some "SUPPORT"))
    .ok ⟨settleUnits int observed units,statusOf subject target failed converged degraded units.length
      ((expectedByUnit int units).map Prod.snd).sum observed.length⟩

/-- Units and sandboxes have names of their own, and a unit expects some sandboxes. -/
structure Proper (units : List RuntimeUnit) (sandboxes : List Sandbox) : Prop where
  distinct : (units.map RuntimeUnit.runtimeUnitId).Nodup
  named : ∀ unit ∈ units, unit.runtimeUnitId ≠ ""
  counts : ∀ unit ∈ units, ∃ count, int ((unit.annotations.lookup "unit_count").getD "1") = some count ∧ 0 < count
  different : (sandboxes.map Sandbox.sandboxId).Nodup
  known : ∀ sandbox ∈ sandboxes, sandbox.sandboxId ≠ ""

/-- The sandboxes of a unit that are of its generation. -/
def current (unit : RuntimeUnit) (sandboxes : List Sandbox) : List Sandbox :=
  sandboxes.filter (fun sandbox => decide (sandbox.unitID = unit.runtimeUnitId ∧ sandbox.generation = unit.generation))

/-- All units give one reason that asks for a known state, all sandboxes are theirs, and each has the number of current
    sandboxes that it expects, all in that state. -/
def Converged (units : List RuntimeUnit) (sandboxes : List Sandbox) : Prop :=
  units ≠ [] ∧ ∃ reason, targetOf reason ≠ .unknown ∧ (∀ unit ∈ units, unit.statusReason = reason) ∧
    (∀ sandbox ∈ sandboxes, ∃ unit ∈ units, sandbox.unitID = unit.runtimeUnitId) ∧
    ∀ unit ∈ units, expectedCount int unit = some ((current unit sandboxes).length : Int) ∧
      ∀ sandbox ∈ current unit sandboxes, sandbox.state = targetOf reason

def Failed (units : List RuntimeUnit) (sandboxes : List Sandbox) : Prop :=
  ∃ unit ∈ units, ∃ sandbox ∈ current unit sandboxes, sandbox.state = .failed

variable {int} {units units' : List RuntimeUnit} {sandboxes sandboxes' : List Sandbox}

theorem Proper.perm (proper : Proper int units sandboxes) (sameUnits : units'.Perm units) (same : sandboxes'.Perm sandboxes) :
    Proper int units' sandboxes' where
  distinct := (sameUnits.map _).nodup_iff.mpr proper.distinct
  named unit member := proper.named unit (sameUnits.mem_iff.mp member)
  counts unit member := proper.counts unit (sameUnits.mem_iff.mp member)
  different := (same.map _).nodup_iff.mpr proper.different
  known sandbox member := proper.known sandbox (same.mem_iff.mp member)

section Found
variable (proper : Proper int units sandboxes)
include proper

theorem unitsByID_eq : unitsByID units = units := by
  have all : units.filter (fun unit => decide (unit.runtimeUnitId ≠ "")) = units := by
    rw [List.filter_eq_self]
    intro unit member
    exact decide_eq_true (proper.named unit member)
  rw [unitsByID,all,lastOf_eq_self proper.distinct]

theorem expectedCount_isSome {unit : RuntimeUnit} (member : unit ∈ units) : ∃ count, expectedCount int unit = some count ∧ 0 < count := by
  obtain ⟨count,read,positive⟩ := proper.counts unit member
  exact ⟨count,by simp [expectedCount,read,positive],positive⟩

theorem isTarget_iff {sandbox : Sandbox} (member : sandbox ∈ sandboxes) :
    isTarget units sandbox = true ↔ ∃ unit ∈ units, sandbox ∈ current unit sandboxes := by
  rw [isTarget,unitsByID_eq proper]
  simp only [Bool.and_eq_true,decide_eq_true_eq,List.any_eq_true,current,List.mem_filter,member,true_and]
  constructor
  · rintro ⟨_,unit,among,name,generation⟩
    exact ⟨unit,among,name.symm,generation.symm⟩
  · rintro ⟨unit,among,name,generation⟩
    exact ⟨proper.known sandbox member,unit,among,name.symm,generation.symm⟩

theorem observedTargets_eq : observedTargets units sandboxes = sandboxes.filter (isTarget units) := by
  refine lastOf_eq_self (List.Nodup.of_map Prod.snd ?_)
  rw [List.map_map]
  exact proper.different.sublist (List.filter_sublist.map _)

theorem targetsOf_eq {unit : RuntimeUnit} (member : unit ∈ units) :
    targetsOf (observedTargets units sandboxes) unit.runtimeUnitId = current unit sandboxes := by
  rw [targetsOf,observedTargets_eq proper,List.filter_filter,current]
  refine List.filter_congr fun sandbox among => ?_
  rw [Bool.eq_iff_iff,Bool.and_eq_true,isTarget_iff proper among,decide_eq_true_eq,decide_eq_true_eq]
  constructor
  · rintro ⟨name,other,there,here⟩
    obtain ⟨_,same⟩ := List.mem_filter.mp here
    obtain ⟨name',generation⟩ := of_decide_eq_true same
    rw [List.inj_on_of_nodup_map proper.distinct member there (name.symm.trans name')]
    exact ⟨name',generation⟩
  · intro here
    exact ⟨here.1,unit,member,List.mem_filter.mpr ⟨among,decide_eq_true here⟩⟩

theorem expectedByUnit_names : (expectedByUnit int units).map Prod.fst = units.map RuntimeUnit.runtimeUnitId := by
  rw [expectedByUnit,unitsByID_eq proper]
  have each := fun unit member => @expectedCount_isSome int units sandboxes proper unit member
  clear proper
  induction units with
  | nil => rfl
  | cons unit rest ih =>
    obtain ⟨count,read,_⟩ := each unit List.mem_cons_self
    simp only [List.filterMap_cons,read,Option.map_some,List.map_cons,List.cons.injEq,true_and]
    exact ih fun other member => each other (List.mem_cons_of_mem _ member)

theorem keys_found : (observedTargets units sandboxes).find?
    (fun sandbox => decide (sandbox.unitID ∉ (expectedByUnit int units).map Prod.fst)) = none := by
  rw [List.find?_eq_none]
  intro sandbox member missing
  rw [observedTargets_eq proper] at member
  obtain ⟨among,target⟩ := List.mem_filter.mp member
  obtain ⟨unit,there,here⟩ := (isTarget_iff proper among).mp target
  have name := (of_decide_eq_true (List.mem_filter.mp here).2).1
  rw [expectedByUnit_names proper] at missing
  exact of_decide_eq_true missing (name ▸ List.mem_map_of_mem there)

theorem failed_iff : (observedTargets units sandboxes).any (fun sandbox => decide (sandbox.state = .failed)) = true ↔
    Failed units sandboxes := by
  rw [observedTargets_eq proper]
  simp only [List.any_eq_true,List.mem_filter,decide_eq_true_eq,Failed]
  constructor
  · rintro ⟨sandbox,⟨among,target⟩,failed⟩
    obtain ⟨unit,there,here⟩ := (isTarget_iff proper among).mp target
    exact ⟨unit,there,sandbox,here,failed⟩
  · rintro ⟨unit,there,sandbox,here,failed⟩
    have among := (List.mem_filter.mp here).1
    exact ⟨sandbox,⟨among,(isTarget_iff proper among).mpr ⟨unit,there,here⟩⟩,failed⟩

theorem targetSetComplete_iff : targetSetComplete int units sandboxes = true ↔ units ≠ [] ∧
    (∀ sandbox ∈ sandboxes, ∃ unit ∈ units, sandbox.unitID = unit.runtimeUnitId) ∧
    ∀ unit ∈ units, expectedCount int unit = some ((current unit sandboxes).length : Int) := by
  have counts : (∀ pair ∈ expectedByUnit int units, ((targetsOf (observedTargets units sandboxes) pair.1).length : Int) = pair.2) ↔
      ∀ unit ∈ units, expectedCount int unit = some ((current unit sandboxes).length : Int) := by
    rw [expectedByUnit,unitsByID_eq proper]
    constructor
    · intro all unit member
      obtain ⟨count,read,_⟩ := expectedCount_isSome proper member
      have := all (unit.runtimeUnitId,count) (List.mem_filterMap.mpr ⟨unit,member,by rw [read]; rfl⟩)
      rw [targetsOf_eq proper member] at this
      rw [read,this]
    · intro all pair listed
      obtain ⟨unit,member,made⟩ := List.mem_filterMap.mp listed
      rw [all unit member] at made
      cases made
      rw [targetsOf_eq proper member]
  rw [← counts,targetSetComplete,unitsByID_eq proper]
  simp only [Bool.and_eq_true,decide_eq_true_eq,List.all_eq_true,List.mem_map,and_true,and_assoc]
  constructor
  · rintro ⟨some,_,bound,all⟩
    refine ⟨some,fun sandbox member => ?_,all⟩
    obtain ⟨⟨unit,there,name⟩,_⟩ := bound sandbox member
    exact ⟨unit,there,name.symm⟩
  · rintro ⟨some,bound,all⟩
    refine ⟨some,fun unit member => ?_,fun sandbox member => ?_,all⟩
    · obtain ⟨count,read,_⟩ := expectedCount_isSome proper member
      rw [read]
      rfl
    · obtain ⟨unit,there,name⟩ := bound sandbox member
      exact ⟨⟨unit,there,name.symm⟩,proper.known sandbox member⟩

end Found

theorem targetOf_ne_failed (reason : String) : targetOf reason ≠ .failed := by
  rw [targetOf]
  cases found : List.lookup reason _ with
  | none => decide
  | some target =>
    obtain ⟨before,after,split,_⟩ := List.lookup_eq_some_iff.mp found
    have listed : target ∈ ([.running,.paused,.running,.terminated,.terminated] : List RuntimeState) := by
      have values := congrArg (List.map Prod.snd) split
      rw [List.map_append,List.map_cons] at values
      exact values ▸ List.mem_append_right _ List.mem_cons_self
    exact (by decide : ∀ t ∈ ([.running,.paused,.running,.terminated,.terminated] : List RuntimeState), t ≠ .failed) target listed

/-- One reason for all units is what the set of reasons is checked for. -/
theorem targetState_eq {reason : String} (some : units ≠ []) (same : ∀ unit ∈ units, unit.statusReason = reason) :
    targetState units = targetOf reason := by
  have one : units.map RuntimeUnit.statusReason = List.replicate units.length reason := by
    rw [List.eq_replicate_iff]
    refine ⟨List.length_map _,fun text member => ?_⟩
    obtain ⟨unit,there,rfl⟩ := List.mem_map.mp member
    exact same unit there
  rw [targetState,one,List.replicate_dedup (fun zero => some (List.length_eq_zero_iff.mp zero))]

theorem one_reason (known : targetState units ≠ .unknown) :
    ∃ reason, targetState units = targetOf reason ∧ ∀ unit ∈ units, unit.statusReason = reason := by
  rw [targetState] at known ⊢
  split at known
  · rename_i reason single
    refine ⟨reason,rfl,fun unit member => ?_⟩
    have among : unit.statusReason ∈ (units.map RuntimeUnit.statusReason).dedup :=
      List.mem_dedup.mpr (List.mem_map_of_mem member)
    rw [single,List.mem_singleton] at among
    exact among
  · exact absurd rfl known

theorem converged_iff (proper : Proper int units sandboxes) :
    (!(observedTargets units sandboxes).any (fun sandbox => decide (sandbox.state = .failed)) &&
      targetSetComplete int units sandboxes && decide (observedTargets units sandboxes ≠ []) &&
      decide (targetState units ≠ .unknown) &&
      (observedTargets units sandboxes).all (fun sandbox => decide (sandbox.state = targetState units))) = true ↔
    Converged int units sandboxes := by
  have all : (∀ sandbox ∈ observedTargets units sandboxes, sandbox.state = targetState units) ↔
      ∀ unit ∈ units, ∀ sandbox ∈ current unit sandboxes, sandbox.state = targetState units := by
    rw [observedTargets_eq proper]
    constructor
    · intro all unit there sandbox here
      have among := (List.mem_filter.mp here).1
      exact all sandbox (List.mem_filter.mpr ⟨among,(isTarget_iff proper among).mpr ⟨unit,there,here⟩⟩)
    · intro all sandbox member
      obtain ⟨among,target⟩ := List.mem_filter.mp member
      obtain ⟨unit,there,here⟩ := (isTarget_iff proper among).mp target
      exact all unit there sandbox here
  simp only [Bool.and_eq_true,Bool.not_eq_true',← Bool.not_eq_true,failed_iff proper,targetSetComplete_iff proper,decide_eq_true_eq,
    List.all_eq_true,all]
  constructor
  · rintro ⟨⟨⟨⟨_,some,bound,counts⟩,_⟩,known⟩,states⟩
    obtain ⟨reason,target,same⟩ := one_reason known
    rw [target] at known states
    exact ⟨some,reason,known,same,bound,fun unit there => ⟨counts unit there,states unit there⟩⟩
  · rintro ⟨some,reason,known,same,bound,each⟩
    have target := targetState_eq some same
    rw [target]
    refine ⟨⟨⟨⟨?_,some,bound,fun unit there => (each unit there).1⟩,?_⟩,known⟩,fun unit there => (each unit there).2⟩
    · rintro ⟨unit,there,sandbox,here,failed⟩
      exact targetOf_ne_failed reason (((each unit there).2 sandbox here).symm.trans failed)
    · -- the first unit expects a sandbox
      obtain ⟨unit,there⟩ := List.exists_mem_of_ne_nil _ some
      obtain ⟨count,read,positive⟩ := expectedCount_isSome proper there
      rw [(each unit there).1] at read
      cases read
      obtain ⟨sandbox,here⟩ := List.exists_mem_of_length_pos (Int.natCast_pos.mp positive)
      have among := (List.mem_filter.mp here).1
      rw [observedTargets_eq proper]
      exact List.ne_nil_of_mem (List.mem_filter.mpr ⟨among,(isTarget_iff proper among).mpr ⟨unit,there,here⟩⟩)

section Order

theorem byName_perm {left right : List Sandbox} (perm : left.Perm right) (distinct : (left.map Sandbox.sandboxId).Nodup) :
    byName left = byName right := by
  have sorted (targets : List Sandbox) : (byName targets).Perm targets := List.perm_insertionSort _ _
  have ordered (targets : List Sandbox) : (byName targets).Pairwise (fun left right => left.sandboxId ≤ right.sandboxId) :=
    List.pairwise_insertionSort _ _
  refine List.Perm.eq_of_pairwise (fun a b among among' below above => ?_) (ordered left) (ordered right)
    (((sorted left).trans perm).trans (sorted right).symm)
  have member := (sorted left).mem_iff.mp among
  have member' := perm.mem_iff.mpr ((sorted right).mem_iff.mp among')
  exact List.inj_on_of_nodup_map distinct member member' (le_antisymm below above)

theorem settle_perm {unit : RuntimeUnit} {left right : List Sandbox} (perm : left.Perm right)
    (distinct : (left.map Sandbox.sandboxId).Nodup) : settle int unit left = settle int unit right := by
  simp only [settle,byName_perm perm distinct,perm.length_eq,List.Perm.any_eq perm,List.Perm.all_eq perm]

variable (proper : Proper int units sandboxes) (sameUnits : units'.Perm units) (same : sandboxes'.Perm sandboxes)
include proper sameUnits same

theorem observedTargets_perm : (observedTargets units' sandboxes').Perm (observedTargets units sandboxes) := by
  have agree : isTarget units' = isTarget units := by
    funext sandbox
    rw [isTarget,isTarget,unitsByID_eq proper,unitsByID_eq (proper.perm sameUnits same),sameUnits.any_eq]
  rw [observedTargets_eq proper,observedTargets_eq (proper.perm sameUnits same),agree]
  exact same.filter _

theorem expectedByUnit_perm : (expectedByUnit int units').Perm (expectedByUnit int units) := by
  rw [expectedByUnit,expectedByUnit,unitsByID_eq proper,unitsByID_eq (proper.perm sameUnits same)]
  exact sameUnits.filterMap _

omit proper same in
theorem targetState_perm : targetState units' = targetState units := by
  have reasons := (sameUnits.map RuntimeUnit.statusReason).dedup
  rw [targetState,targetState]
  cases single : (units.map RuntimeUnit.statusReason).dedup with
  | nil =>
    rw [single] at reasons
    rw [reasons.eq_nil]
  | cons reason rest => cases rest with
    | nil =>
      rw [single] at reasons
      rw [reasons.eq_singleton]
    | cons other rest =>
      have length := reasons.length_eq
      rw [single] at length
      split
      · rename_i found
        rw [found] at length
        simp at length
      · rfl

theorem targetSetComplete_perm : targetSetComplete int units' sandboxes' = targetSetComplete int units sandboxes := by
  have proper' := proper.perm sameUnits same
  have currents (unit : RuntimeUnit) : (current unit sandboxes').length = (current unit sandboxes).length :=
    (same.filter _).length_eq
  rw [Bool.eq_iff_iff,targetSetComplete_iff proper,targetSetComplete_iff proper']
  simp only [currents,same.mem_iff,sameUnits.mem_iff,ne_eq,← List.length_eq_zero_iff,sameUnits.length_eq]

theorem settleUnits_perm : (settleUnits int (observedTargets units' sandboxes') units').Perm
    (settleUnits int (observedTargets units sandboxes) units) := by
  have mapped {units : List RuntimeUnit} {observed : List Sandbox} (distinct : (units.map RuntimeUnit.runtimeUnitId).Nodup)
      (named : ∀ unit ∈ units, unit.runtimeUnitId ≠ "") :
      settleUnits int observed units = units.map (fun unit => settle int unit (targetsOf observed unit.runtimeUnitId)) := by
    induction units with
    | nil => rfl
    | cons unit rest ih =>
      obtain ⟨new,distinct⟩ := List.nodup_cons.mp distinct
      have here : ¬(unit.runtimeUnitId = "" ∨ unit.runtimeUnitId ∈ rest.map RuntimeUnit.runtimeUnitId) :=
        not_or.mpr ⟨named unit List.mem_cons_self,new⟩
      rw [settleUnits,if_neg here,ih distinct fun other member => named other (List.mem_cons_of_mem _ member),List.map_cons]
  have proper' := proper.perm sameUnits same
  have observed := observedTargets_perm proper sameUnits same
  rw [mapped proper.distinct proper.named,mapped proper'.distinct proper'.named]
  refine (sameUnits.map _).trans (List.Perm.of_eq (List.map_congr_left fun unit _ => ?_))
  refine settle_perm (observed.filter _) ?_
  rw [observedTargets_eq proper']
  exact proper'.different.sublist ((List.filter_sublist.trans List.filter_sublist).map _)

end Order

/-- Convergence and failure are reported exactly when they are there, whatever the order of units and sandboxes. -/
theorem project_exact (subject : Subject) (proper : Proper int units sandboxes) :
    ∃ projection, project int subject units sandboxes = .ok projection ∧
      (projection.componentStatus.converged = true ↔ Converged int units sandboxes) ∧
      (projection.componentStatus.health = .failed ↔ Failed units sandboxes) ∧
      ∀ units' sandboxes', units'.Perm units → sandboxes'.Perm sandboxes →
        ∃ other, project int subject units' sandboxes' = .ok other ∧ other.componentStatus = projection.componentStatus ∧
          other.runtimeUnits.Perm projection.runtimeUnits := by
  have converges := converged_iff proper
  have fails := failed_iff proper
  rw [project,keys_found proper]
  refine ⟨_,rfl,converges,?_,?_⟩
  · rw [← fails]
    simp only [statusOf]
    split_ifs <;> simp_all
  · intro units' sandboxes' sameUnits same
    have observed := observedTargets_perm proper sameUnits same
    have expected := expectedByUnit_perm proper sameUnits same
    have empty : (observedTargets units' sandboxes' = []) = (observedTargets units sandboxes = []) := by
      rw [← List.length_eq_zero_iff,← List.length_eq_zero_iff,observed.length_eq]
    rw [project,keys_found (proper.perm sameUnits same)]
    refine ⟨_,rfl,?_,settleUnits_perm proper sameUnits same⟩
    simp only [targetState_perm sameUnits,targetSetComplete_perm proper sameUnits same,observed.any_eq,observed.all_eq,
      observed.length_eq,sameUnits.any_eq,sameUnits.length_eq,(expected.map Prod.snd).sum_eq,empty,ne_eq]

end Int

/-- A unit of one sandbox for each reason, with its sandbox running. -/
def unitFor (name reason : String) : RuntimeUnit := ⟨name,1,reason,.unknown,"",none,[("unit_count","1")]⟩
def runningIn (name unit : String) : Sandbox := ⟨name,unit,"",1,.running,none⟩
def readOne (text : String) : Option Int := if text = "1" then some 1 else none
def someRun : Subject := ⟨"runtime","run","job","trace",1,none⟩

def twoUnits (reason : String) : List RuntimeUnit := [unitFor "a" "starting",unitFor "b" reason]
def twoSandboxes : List Sandbox := [runningIn "x" "a",runningIn "y" "b"]

theorem twoUnits_proper (reason : String) : Proper readOne (twoUnits reason) twoSandboxes := by
  constructor <;> simp [twoUnits,twoSandboxes,unitFor,runningIn,readOne]

/-- Two units that were started for one reason have converged, in whatever order they are listed. -/
theorem starting_units_converge : Proper readOne (twoUnits "starting") twoSandboxes ∧
    Converged readOne (twoUnits "starting") twoSandboxes ∧
    ∃ other, project readOne someRun (twoUnits "starting").reverse twoSandboxes.reverse = .ok other ∧
      other.componentStatus.converged = true := by
  have proper := twoUnits_proper "starting"
  obtain ⟨projection,projected,converges,-,order⟩ := project_exact someRun proper
  have reported : (project readOne someRun (twoUnits "starting") twoSandboxes).map
      (fun projection => projection.componentStatus.converged) = .ok true := by decide +kernel
  rw [projected] at reported
  have converged := Except.ok.inj reported
  obtain ⟨other,turned,same,-⟩ := order _ _ (List.reverse_perm _) (List.reverse_perm _)
  exact ⟨proper,converges.mp converged,other,turned,same ▸ converged⟩

/-- Two units that ask for the same state, and have it, for two reasons. -/
theorem same_target_two_reasons : Proper readOne (twoUnits "resuming") twoSandboxes ∧
    (∀ sandbox ∈ twoSandboxes, ∃ unit ∈ twoUnits "resuming", sandbox.unitID = unit.runtimeUnitId) ∧
    (∀ unit ∈ twoUnits "resuming", targetOf unit.statusReason = .running ∧
      expectedCount readOne unit = some ((current unit twoSandboxes).length : Int) ∧
      ∀ sandbox ∈ current unit twoSandboxes, sandbox.state = .running) ∧
    (project readOne someRun (twoUnits "resuming") twoSandboxes).map
      (fun projection => (projection.componentStatus.converged,projection.componentStatus.health)) = .ok (false,.progressing) :=
  ⟨twoUnits_proper "resuming",by decide +kernel⟩

end TgsRl.Oracle
