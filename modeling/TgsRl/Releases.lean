import TgsRl.ControlConvergence

/-!
The release of workloads by the operator's reconciler. The RELEASE actions of a plan become one stop
request, which the backend refuses as a whole if one of its targets is in no bundle.
-/
namespace TgsRl.Controls
open Loops Outcomes Messages

structure Binding where
  runtimeUnitId : String
  pendingUnitId : String
  sandboxId : String
  deriving DecidableEq, Repr

/-- `restoreBinding` is that of the action's rollback. -/
structure Action where
  actionId : String
  actionType : ActionType
  binding : Option Binding
  restoreBinding : Option Binding
  expectedGeneration : Nat
  idempotencyKey : String
  deriving DecidableEq, Repr

structure PlacementPlan where
  planId : String
  decisionId : String
  actions : List Action
  deriving DecidableEq, Repr

structure JobRun where
  jobId : String
  runId : String
  traceId : String
  deriving DecidableEq, Repr

def runtimeUnitId (binding : Binding) : String :=
  if binding.runtimeUnitId ≠ "" then binding.runtimeUnitId else binding.pendingUnitId

def Action.target (action : Action) : Option ControlTarget :=
  (action.binding.or action.restoreBinding).bind fun binding =>
    if runtimeUnitId binding = "" ∨ binding.sandboxId = "" ∨ action.expectedGeneration = 0 ∨ action.idempotencyKey = "" then none
    else some ⟨runtimeUnitId binding,binding.sandboxId,action.expectedGeneration⟩

def releaseTargets : List Action → Except Failure (List ControlTarget)
  | [] => .ok []
  | action :: rest =>
    if action.actionType ≠ .release then releaseTargets rest
    else
      match action.target with
      | none => .error (.failed ("release action \"" ++ action.actionId ++
          "\" lacks workload identity, generation, or idempotency key"))
      | some target => (releaseTargets rest).map (target :: ·)

def releaseControlRequest (job : JobRun) (plan : PlacementPlan) : Except Failure (Option ControlRequest) :=
  match releaseTargets plan.actions with
  | .error failure => .error failure
  | .ok targets =>
    if targets = [] then .ok none
    else .ok (some {
      action := .stop
      jobId := job.jobId
      runId := job.runId
      traceId := job.traceId
      targets := targets
      requestId := plan.decisionId
      idempotencyKey := "scheduler-release:" ++ plan.planId
      reason := "scheduler release plan " ++ plan.planId
      globalTargetLookup := true })

/-- The answers of a reconciliation: what the plan compiles to, those of the backend's control request, and the changes each
    Apply makes, if it succeeds. -/
structure Reconciliation where
  compiled : Except Failure (List (String × Bundle))
  control : Answers
  applies : Nat → Option (List Touch)

def notAccepted (plan : PlacementPlan) : Failure :=
  .failed ("release workloads for plan \"" ++ plan.planId ++ "\" was not accepted")

def releaseWorkloads (job : JobRun) (plan : PlacementPlan) (a : Answers) : Act Unit :=
  match releaseControlRequest job plan with
  | .error failure => throw failure
  | .ok none => pure ()
  | .ok (some request) => do
    let applied ← control request a
    if applied.accepted = false then throw (notAccepted plan)

def applyBundles (applies : Nat → Option (List Touch)) : Nat → List (String × Bundle) → Act Unit
  | _, [] => pure ()
  | index, (key,bundle) :: rest =>
    match applies index with
    | none => throw (.failed "apply")
    | some changes => do
      modify fun b => b.step (.apply key bundle changes true)
      applyBundles applies (index + 1) rest

def reconcile (job : JobRun) (plan : PlacementPlan) (r : Reconciliation) : Act Unit :=
  match r.compiled with
  | .error failure => throw failure
  | .ok bundles => do
    releaseWorkloads job plan r.control
    applyBundles r.applies 0 bundles

/-- The plan compiles, and everything succeeds. -/
def undisturbed (bundles : List (String × Bundle)) : Reconciliation := ⟨.ok bundles,smooth,fun _ => some []⟩

/-- The reconciliation succeeds within `n` attempts, and then `post` holds. -/
def Reconciles (job : JobRun) (plan : PlacementPlan) (bundles : List (String × Bundle)) (post : Backend → Prop) :
    Nat → Backend → Prop
  | 0, _ => False
  | n + 1, b =>
    match reconcile job plan (undisturbed bundles) b with
    | .ok () b' => post b'
    | .error _ b' => Reconciles job plan bundles post n b'

/-- No bundle of the backend has the target: its bundle has been cleaned up, or never was there. -/
def Gone (b : Backend) (target : ControlTarget) : Prop :=
  ∀ key marker, b.markers.lookup key = some marker → target.name ∉ marker.bundle.runtimeTargets.map RuntimeTarget.name

/-- The request has been prepared for the bundle of the target, and is completed there: the Job was stopped, or found to be. -/
def Released (b : Backend) (id : String) (target : ControlTarget) : Prop :=
  ∃ record, b.controls.lookup id = some record ∧ ∃ prepared ∈ b.prepared, Traces prepared record ∧
    ∃ found ∈ prepared.found, target ∈ found.targets ∧
      ∃ progress ∈ record.targetProgress, progress.mutation.object = found.job ∧ progress.state = .completed

def ControlTarget.Complete (target : ControlTarget) : Prop :=
  ¬ (target.runtimeUnitId = "" ∨ target.sandboxId = "" ∨ target.expectedGeneration = 0)

theorem Action.target_complete {action : Action} {target : ControlTarget} (made : action.target = some target) :
    target.Complete := by
  obtain ⟨binding,_,made⟩ := Option.bind_eq_some_iff.mp made
  split at made
  · cases made
  next complete =>
    cases made
    push Not at complete
    simp [ControlTarget.Complete,complete]

theorem releaseTargets_complete {actions : List Action} {targets : List ControlTarget}
    (made : releaseTargets actions = .ok targets) : ∀ target ∈ targets, target.Complete := by
  induction actions generalizing targets with
  | nil =>
    cases made
    exact fun _ member => nomatch member
  | cons action rest ih =>
    unfold releaseTargets at made
    split at made
    · exact ih made
    split at made
    · cases made
    next target named =>
      cases others : releaseTargets rest with
      | error failure => rw [others] at made; cases made
      | ok found =>
        rw [others] at made
        cases made
        intro other member
        rcases List.mem_cons.mp member with rfl | member
        · exact Action.target_complete named
        · exact ih others other member

theorem validateTargets_ok_iff {targets : List ControlTarget} (complete : ∀ target ∈ targets, target.Complete)
    (seen : List (String × String)) : validateTargets seen targets = .ok () ↔
      (targets.map ControlTarget.name).Nodup ∧ ∀ target ∈ targets, target.name ∉ seen := by
  induction targets generalizing seen with
  | nil => simp [validateTargets]
  | cons target rest ih =>
    unfold validateTargets
    rw [if_neg (complete target (List.mem_cons_self ..))]
    split
    next repeated =>
      refine iff_of_false (fun valid => nomatch valid) ?_
      exact fun distinct => distinct.2 target (List.mem_cons_self ..) repeated
    next fresh =>
      rw [ih (fun other member => complete other (List.mem_cons_of_mem _ member)),List.map_cons,List.nodup_cons]
      constructor
      · rintro ⟨distinct,apart⟩
        refine ⟨⟨fun member => ?_,distinct⟩,?_⟩
        · obtain ⟨other,member,same⟩ := List.mem_map.mp member
          exact apart other member (same ▸ List.mem_cons_self ..)
        · intro other member
          rcases List.mem_cons.mp member with rfl | member
          · exact fresh
          · exact fun old => apart other member (List.mem_cons_of_mem _ old)
      · rintro ⟨⟨new,distinct⟩,apart⟩
        refine ⟨distinct,fun other member old => ?_⟩
        rcases List.mem_cons.mp old with same | old
        · exact new (List.mem_map.mpr ⟨other,member,same⟩)
        · exact apart other (List.mem_cons_of_mem _ member) old

section Release
variable {job : JobRun} {plan : PlacementPlan} {request : ControlRequest} {bundles : List (String × Bundle)} {b : Backend}
  {record : ControlRecord} {post : Backend → Prop}

theorem release_valid_iff (released : releaseControlRequest job plan = .ok (some request)) :
    validateControlRequest request = .ok () ↔ (request.targets.map ControlTarget.name).Nodup := by
  unfold releaseControlRequest at released
  split at released
  · cases released
  next targets made =>
    split at released
    · cases released
    next some =>
      cases released
      unfold validateControlRequest
      rw [if_neg (by simp),if_neg (by simp),if_neg (by simp),if_neg some,
        validateTargets_ok_iff (releaseTargets_complete made)]
      simp

theorem applyBundles_quiet (index : Nat) (bundles : List (String × Bundle)) (b : Backend) :
    ∃ b', applyBundles (fun _ => some []) index bundles b = .ok () b' ∧ b'.controls = b.controls ∧ b'.prepared = b.prepared := by
  induction bundles generalizing index b with
  | nil => exact ⟨b,rfl,rfl,rfl⟩
  | cons entry rest ih =>
    obtain ⟨server,markers,applied,_⟩ := apply_changes b entry.1 entry.2 [] true
    obtain ⟨b',ran,controls,prepared⟩ := ih (index + 1) (b.step (.apply entry.1 entry.2 [] true))
    rw [applied] at controls prepared
    exact ⟨b',ran,controls,prepared⟩

/-- An attempt succeeds where the release is accepted, and leaves its record as it is. -/
theorem reconcile_cases (released : releaseControlRequest job plan = .ok (some request)) (bundles : List (String × Bundle))
    (b : Backend) :
    ((∃ failure, reconcile job plan (undisturbed bundles) b = .error failure (after (control request smooth b))) ∧
      ¬ Accepts request b) ∨
    Accepts request b ∧ ∃ b', reconcile job plan (undisturbed bundles) b = .ok () b' ∧
      b'.controls = (after (control request smooth b)).controls ∧ b'.prepared = (after (control request smooth b)).prepared := by
  have asked : releaseWorkloads job plan smooth = (do
      let applied ← control request smooth
      if applied.accepted = false then throw (notAccepted plan)) := by
    unfold releaseWorkloads
    rw [released]
  have unfolded : reconcile job plan (undisturbed bundles) b =
    (releaseWorkloads job plan smooth >>= fun _ => applyBundles (fun _ => some []) 0 bundles) b := rfl
  rw [unfolded,asked]
  cases ran : control request smooth b with
  | error failure b' =>
    refine .inl ⟨⟨failure,bind_error (bind_error ran)⟩,?_⟩
    rintro ⟨result,b'',returned,_⟩
    cases ran.symm.trans returned
  | ok result b' =>
    cases accepted : result.accepted with
    | false =>
      refine .inl ⟨⟨notAccepted plan,bind_error ((bind_ok ran).trans ?_)⟩,?_⟩
      · rw [if_pos accepted]
        rfl
      · rintro ⟨result',b'',returned,accepted'⟩
        cases ran.symm.trans returned
        cases accepted.symm.trans accepted'
    | true =>
      obtain ⟨b'',applied,facts⟩ := applyBundles_quiet 0 bundles b'
      refine .inr ⟨⟨result,b',ran,accepted⟩,b'',?_,facts⟩
      have passed : (if result.accepted = false then throw (notAccepted plan) else pure () : Act Unit) b' = .ok () b' := by
        rw [if_neg (by simp [accepted])]
        rfl
      exact (bind_ok ((bind_ok ran).trans passed)).trans applied

theorem reconciles_accepts (released : releaseControlRequest job plan = .ok (some request)) (n : Nat)
    (success : Reconciles job plan bundles post n b) : ∃ m, Accepts request (retries request m b) := by
  induction n generalizing b with
  | zero => cases success
  | succ n ih =>
    unfold Reconciles at success
    rcases reconcile_cases released bundles b with ⟨⟨failure,ran⟩,_⟩ | ⟨now,_⟩
    · rw [ran] at success
      obtain ⟨m,accepted⟩ := ih success
      exact ⟨m + 1,accepted⟩
    · exact ⟨0,now⟩

theorem refused_never {failure : Failure} (refused : control request smooth b = .error failure b) (n : Nat) :
    ¬ Accepts request (retries request n b) := by
  induction n with
  | zero =>
    rintro ⟨result,b',returned,_⟩
    cases refused.symm.trans returned
  | succ n ih =>
    rw [retries_succ,refused]
    exact ih

variable {target : ControlTarget} {b' : Backend} {id : String}

theorem control_gone (fresh : b.controls.lookup request.idempotencyKey = none) (requested : target ∈ request.targets)
    (gone : Gone b target) : ∃ failure, control request smooth b = .error failure b := by
  have missing : ∃ failure, findBundlesForControl b.markers request = .error failure := by
    cases located : findBundlesForControl b.markers request with
    | error failure => exact ⟨failure,rfl⟩
    | ok found =>
      obtain ⟨_,facts,covered⟩ := find_bundles located
      obtain ⟨match₀,member,listed⟩ := covered target requested
      obtain ⟨marker,held,bundle⟩ := Option.map_eq_some_iff.mp (facts match₀ member).1
      have named := ((facts match₀ member).2.2 target listed).2.1
      rw [← bundle] at named
      exact absurd named (gone match₀.key marker held)
  obtain ⟨failure,missing⟩ := missing
  have unmatched : findMatches request smooth b = .error failure b := by
    unfold findMatches
    rw [if_neg (by simp [smooth]),missing]
  cases valid : validateControlRequest request with
  | error invalid => exact ⟨invalid,by rw [control,valid]⟩
  | ok _ =>
    refine ⟨failure,?_⟩
    rw [control,valid]
    simp only [fresh,smooth]
    exact bind_error unmatched

theorem store_request {key other : String} {held next : ControlRecord} (here : b.controls.lookup other = some record)
    (there : b.controls.lookup key = some held) (same : next.request = held.request) :
    ∃ found, (b.store key next).controls.lookup other = some found ∧ found.request = record.request := by
  by_cases equal : other = key
  · subst equal
    cases here.symm.trans there
    exact ⟨next,AList.lookup_insert _,same⟩
  · exact ⟨record,(AList.lookup_insert_ne equal).trans here,rfl⟩

theorem request_move {c : Calling} (move : Move c b b') (here : b.controls.lookup id = some record) :
    ∃ found, b'.controls.lookup id = some found ∧ found.request = record.request := by
  cases move with
  | server later => exact ⟨record,here,rfl⟩
  | effect changed held member there current => exact ⟨record,here,rfl⟩
  | stored => exact ⟨record,here,rfl⟩
  | kept held pending => exact store_request here held rfl
  | @prepared _ found progress named fresh located first fits =>
    have kept : (b.prepare (newRecord _ found progress (b.revision + 1)) found).controls.lookup id = some record :=
      prepare_lookup fresh here
    exact ⟨record,kept,rfl⟩
  | leaked allowed named fresh located first fits => exact ⟨record,here,rfl⟩
  | marked held pending there reason => exact store_request here held rfl
  | accepted held pending completed => exact store_request here held rfl
  | unreported held pending completed => exact ⟨record,here,rfl⟩
  | annotated annotates => exact ⟨record,here,rfl⟩

theorem request_kept (request : ControlRequest) (a : Answers) (here : b.controls.lookup id = some record) :
    ∃ found, (after (control request a b)).controls.lookup id = some found ∧ found.request = record.request := by
  have moves := control_moves request a b
  generalize after (control request a b) = b' at moves
  induction moves with
  | refl => exact ⟨record,here,rfl⟩
  | tail _ move ih =>
    obtain ⟨found,there,same⟩ := ih
    obtain ⟨next,held,kept⟩ := request_move move there
    exact ⟨next,held,kept.trans same⟩

theorem repairReplayedControlMetadata_quiet (record : ControlRecord)
    (ran : repairReplayedControlMetadata record smooth.marked b = .ok () b') : b'.controls = b.controls := by
  unfold repairReplayedControlMetadata at ran
  split at ran
  · cases ran
    rfl
  dsimp only at ran
  rw [if_neg (by simp [smooth])] at ran
  rcases setBundleControlMetadata_quiet _ record.metadata b with ⟨_,failed⟩ | ⟨b'',marked,controls⟩
  · cases ran.symm.trans failed
  · cases ran.symm.trans marked
    exact controls

theorem accepts_closed (held : b.controls.lookup request.idempotencyKey = some record) (accepted : Accepts request b) :
    ∃ closed, (after (control request smooth b)).controls.lookup request.idempotencyKey = some closed ∧ closed.pending = false := by
  obtain ⟨result,b',returned,_⟩ := accepted
  rw [returned]
  unfold control at returned
  split at returned
  · cases returned
  rw [if_neg (by simp [smooth]),held] at returned
  dsimp only at returned
  split at returned
  · cases returned
  split at returned
  next closed =>
    cases repaired : repairReplayedControlMetadata record smooth.marked b with
    | error failure b₁ => cases returned.symm.trans (bind_error repaired)
    | ok _ b₁ =>
      cases returned.symm.trans (bind_ok repaired)
      refine ⟨record,?_,closed⟩
      show b'.controls.lookup _ = _
      rw [repairReplayedControlMetadata_quiet record repaired,held]
  next =>
    rw [if_neg (by simp [smooth])] at returned
    cases ran : executeTargets smooth.executions request.idempotencyKey (List.range record.targetProgress.length) record b with
    | error failure b₁ => cases returned.symm.trans (bind_error ran)
    | ok next b₁ =>
      have committed := returned.symm.trans (bind_ok ran)
      obtain ⟨b₂,stored,there | ⟨failure,failed⟩⟩ := commitControl_quiet request next b₁
      · cases committed.trans there
        exact ⟨next.accept,stored,rfl⟩
      · cases committed.trans failed

theorem released_of_closed (ledgered : Ledgered b) (held : b.controls.lookup id = some record) (closed : record.pending = false)
    (member : target ∈ record.request.targets) : Released b id target := by
  obtain ⟨prepared,listed,_,traces⟩ := ledgered.traced id record (.inl held)
  have located := ledgered.located prepared listed
  obtain ⟨found,there,requested⟩ := located.covered target (traces.request ▸ member)
  have job : found.job ∈ record.targetProgress.map (fun progress => progress.mutation.object) := by
    have objects : record.targetProgress.map (fun progress => progress.mutation.object) =
        prepared.record.targetProgress.map (fun progress => progress.mutation.object) := by
      have mapped := congrArg (List.map JobControlMutation.object) traces.targets
      rwa [List.map_map,List.map_map] at mapped
    rw [objects,located.objects]
    exact List.mem_map_of_mem there
  obtain ⟨progress,here,object⟩ := List.mem_map.mp job
  exact ⟨record,held,prepared,listed,traces,found,there,requested,progress,here,object,(traces.closed closed).2 progress here⟩

theorem released_mem (ledgered : Ledgered b) (held : b.controls.lookup id = some record) (released : Released b id target) :
    target ∈ record.request.targets := by
  obtain ⟨found,here,prepared,listed,traces,match₀,there,requested,_⟩ := released
  cases held.symm.trans here
  rw [traces.request]
  exact (((ledgered.located prepared listed).targets match₀ there).2 target requested).1

theorem released_after (ledgered : Ledgered b) (held : b.controls.lookup request.idempotencyKey = some record)
    (accepted : Accepts request b) (controls : b'.controls = (after (control request smooth b)).controls)
    (prepared : b'.prepared = (after (control request smooth b)).prepared) (member : target ∈ record.request.targets) :
    Released b' request.idempotencyKey target := by
  obtain ⟨closed,stored,ended⟩ := accepts_closed held accepted
  obtain ⟨found,there,same⟩ := request_kept request smooth held
  cases stored.symm.trans there
  have released := released_of_closed (ledgered.moves (control_moves request smooth b)) stored ended (same ▸ member)
  unfold Released at released ⊢
  rwa [controls,prepared]

theorem reconciles_of_accepts (released : releaseControlRequest job plan = .ok (some request)) {victims : ControlTarget → Prop}
    (n : Nat) (ledgered : Ledgered b) (held : b.controls.lookup request.idempotencyKey = some record)
    (covers : ∀ target ∈ request.targets, victims target → target ∈ record.request.targets)
    (accepted : Accepts request (retries request n b)) :
    Reconciles job plan bundles (fun b' => ∀ target ∈ request.targets, victims target →
      Released b' request.idempotencyKey target) (n + 1) b := by
  induction n generalizing b record with
  | zero =>
    unfold Reconciles
    rcases reconcile_cases released bundles b with ⟨_,refused⟩ | ⟨now,b',ran,controls,prepared⟩
    · exact absurd accepted refused
    · rw [ran]
      exact fun target member victim => released_after ledgered held now controls prepared (covers target member victim)
  | succ n ih =>
    unfold Reconciles
    rcases reconcile_cases released bundles b with ⟨⟨failure,ran⟩,_⟩ | ⟨now,b',ran,controls,prepared⟩
    · rw [ran]
      obtain ⟨found,there,same⟩ := request_kept request smooth held
      exact ih (ledgered.moves (control_moves request smooth b)) there (same ▸ covers) accepted
    · rw [ran]
      exact fun target member victim => released_after ledgered held now controls prepared (covers target member victim)

theorem reconciles_covers (released : releaseControlRequest job plan = .ok (some request)) (n : Nat) (ledgered : Ledgered b)
    (held : b.controls.lookup request.idempotencyKey = some record)
    (releases : ∀ b', post b' → Released b' request.idempotencyKey target) (success : Reconciles job plan bundles post n b) :
    target ∈ record.request.targets := by
  induction n generalizing b record with
  | zero => cases success
  | succ n ih =>
    unfold Reconciles at success
    obtain ⟨found,there,same⟩ := request_kept request smooth held
    have later := ledgered.moves (control_moves request smooth b)
    rw [← same]
    rcases reconcile_cases released bundles b with ⟨⟨failure,ran⟩,_⟩ | ⟨_,b',ran,controls,prepared⟩
    · rw [ran] at success
      exact ih later there success
    · rw [ran] at success
      have here := releases b' success
      unfold Released at here
      rw [controls,prepared] at here
      exact released_mem later there here

end Release

/-- The recorded request has the digest of this one, names its victims, and can be completed. -/
structure Releasable (b : Backend) (request : ControlRequest) (victims : ControlTarget → Prop) (record : ControlRecord) :
    Prop where
  held : b.controls.lookup request.idempotencyKey = some record
  same : record.digest = controlDigest request
  covers : ∀ target ∈ request.targets, victims target → target ∈ record.request.targets
  attainable : ∀ progress ∈ record.targetProgress, progress.state = .completed ∨ attainable b.server progress.mutation = true

theorem release_of_gone_iff (server : Server) (steps : List Step) (job : JobRun) (plan : PlacementPlan)
    (bundles : List (String × Bundle)) (request : ControlRequest)
    (released : releaseControlRequest job plan = .ok (some request))
    (gone : ∃ target ∈ request.targets, Gone (run Backend.step (.begin server) steps) target) :
    (∃ n, Reconciles job plan bundles
      (fun b' => ∀ target ∈ request.targets, ¬ Gone (run Backend.step (.begin server) steps) target →
        Released b' request.idempotencyKey target) n (run Backend.step (.begin server) steps)) ↔
    (request.targets.map ControlTarget.name).Nodup ∧ ∃ record, Releasable (run Backend.step (.begin server) steps) request
      (fun target => ¬ Gone (run Backend.step (.begin server) steps) target) record := by
  have ledgered := ledgered_run server steps
  generalize run Backend.step (.begin server) steps = b at gone ledgered
  constructor
  · rintro ⟨n,success⟩
    obtain ⟨m,accepted⟩ := reconciles_accepts released n success
    have valid : validateControlRequest request = .ok () := by
      cases checked : validateControlRequest request with
      | ok _ => rfl
      | error invalid => exact absurd accepted (refused_never (by rw [control,checked]) m)
    refine ⟨(release_valid_iff released).mp valid,?_⟩
    cases held : b.controls.lookup request.idempotencyKey with
    | none =>
      obtain ⟨target,requested,gone⟩ := gone
      obtain ⟨failure,refused⟩ := control_gone held requested gone
      exact absurd accepted (refused_never refused m)
    | some record =>
      have same : record.digest = controlDigest request := by
        by_contra differs
        have refused : control request smooth b = .error .idempotencyConflict b := by
          rw [control,valid,held]
          simp [smooth,differs]
        exact refused_never refused m accepted
      refine ⟨record,held,same,fun target member there => ?_,(ledgered.retries_iff held valid same).mp ⟨m,accepted⟩⟩
      exact reconciles_covers released n ledgered held (fun b' releases => releases target member there) success
  · rintro ⟨distinct,record,facts⟩
    have valid := (release_valid_iff released).mpr distinct
    obtain ⟨n,accepted⟩ := (ledgered.retries_iff facts.held valid facts.same).mpr facts.attainable
    exact ⟨n + 1,reconciles_of_accepts released n ledgered facts.held facts.covers accepted⟩

section Demo

def demoRelease (victims : List String) : PlacementPlan where
  planId := "plan"
  decisionId := "decision"
  actions := victims.map fun unit => ⟨unit,.release,some ⟨unit,"","sandbox"⟩,none,1,unit⟩

def demoRun : JobRun := ⟨"job","run","trace"⟩

def demoReleaseRequest (victims : List String) : ControlRequest where
  action := .stop
  jobId := "job"
  runId := "run"
  traceId := "trace"
  targets := victims.map fun unit => ⟨unit,"sandbox",1⟩
  requestId := "decision"
  idempotencyKey := "scheduler-release:plan"
  reason := "scheduler release plan plan"
  globalTargetLookup := true

def demoVictims : List Step := [demoApply,
  .apply "ns/b" { demoBundle with runtimeTargets := [⟨"exited","sandbox",1⟩], fenced := by simp [demoBundle] }
    [.put ⟨"ns/b",1⟩ demoJob] true]

/-- The answer to the release of two victims is lost, and the bundle of the second is cleaned up before the retry. -/
def demoReleased : Backend := run Backend.step (.begin demoServer) (demoVictims ++ [.control (demoReleaseRequest ["unit","exited"])
  { smooth with executions := fun _ => ⟨⟨[],true⟩,.done,.done,⟨[],true,[],false⟩,.done⟩ },.cleanup "ns/b"])

def demoReleaseRecord : ControlRecord where
  digest := controlDigest (demoReleaseRequest ["unit","exited"])
  pending := true
  request := demoReleaseRequest ["unit","exited"]
  bundleKeys := ["ns/a","ns/b"]
  targetProgress := [⟨"ns/a",⟨⟨"ns/a",1⟩,.stop,1⟩,.ambiguous⟩,⟨"ns/b",⟨⟨"ns/b",1⟩,.stop,2⟩,.pending⟩]
  result := pendingResult 1

theorem demo_gone {b : Backend} (left : b.markers.entries.map (fun entry => (entry.1,entry.2.bundle)) = [("ns/a",demoBundle)]) :
    Gone b ⟨"exited","sandbox",1⟩ ∧ ¬ Gone b ⟨"unit","sandbox",1⟩ := by
  constructor
  · intro key marker held
    have listed := List.mem_map_of_mem (f := fun entry => (entry.1,entry.2.bundle)) (AList.mem_lookup_iff.mp held)
    rw [left,List.mem_singleton,Prod.mk.injEq] at listed
    rw [listed.2]
    decide
  · intro gone
    obtain ⟨⟨key,marker⟩,member,same⟩ := List.mem_map.mp (left ▸ List.mem_singleton_self ("ns/a",demoBundle))
    refine gone key marker (AList.mem_lookup_iff.mpr member) ?_
    rw [(Prod.mk.inj same).2]
    decide

/-- The first victim is released although the second is gone. -/
theorem release_of_gone_iff_demo : ¬ Gone demoReleased ⟨"unit","sandbox",1⟩ ∧
    ∃ n, Reconciles demoRun (demoRelease ["unit","exited"]) []
      (fun b' => ∀ target ∈ (demoReleaseRequest ["unit","exited"]).targets, ¬ Gone demoReleased target →
        Released b' "scheduler-release:plan" target) n demoReleased := by
  obtain ⟨exited,there⟩ := demo_gone (b := demoReleased) (by decide +kernel)
  have facts : demoReleased.controls.lookup "scheduler-release:plan" = some demoReleaseRecord ∧
      (∀ progress ∈ demoReleaseRecord.targetProgress, attainable demoReleased.server progress.mutation = true) := by
    decide +kernel
  refine ⟨there,(release_of_gone_iff demoServer _ demoRun (demoRelease ["unit","exited"]) [] (demoReleaseRequest ["unit","exited"])
    (by decide +kernel) ⟨_,by decide,exited⟩).mpr ⟨by decide +kernel,demoReleaseRecord,facts.1,rfl,?_,?_⟩⟩
  · exact fun target member _ => member
  · exact fun progress member => .inr (facts.2 progress member)

/-- Two victims, of which one has been cleaned up after its own exit. -/
def demoExited : Backend := run Backend.step (.begin demoServer) (demoVictims ++ [.cleanup "ns/b"])

theorem gone_victim_blocks : ¬ ∃ n, Reconciles demoRun (demoRelease ["unit","exited"]) []
    (fun b' => ∀ target ∈ (demoReleaseRequest ["unit","exited"]).targets, ¬ Gone demoExited target →
      Released b' "scheduler-release:plan" target) n demoExited := by
  rintro ⟨n,success⟩
  have released : releaseControlRequest demoRun (demoRelease ["unit","exited"]) =
    .ok (some (demoReleaseRequest ["unit","exited"])) := by decide +kernel
  obtain ⟨m,accepted⟩ := reconciles_accepts released n success
  have gone := (demo_gone (b := demoExited) (by decide +kernel)).1
  have asked : ⟨"exited","sandbox",1⟩ ∈ (demoReleaseRequest ["unit","exited"]).targets := by decide
  have fresh : demoExited.controls.lookup (demoReleaseRequest ["unit","exited"]).idempotencyKey = none := by decide +kernel
  obtain ⟨failure,refused⟩ := control_gone fresh asked gone
  exact refused_never refused m accepted

end Demo

end TgsRl.Controls
