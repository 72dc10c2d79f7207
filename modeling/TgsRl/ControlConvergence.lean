import TgsRl.ControlOrder

/-!
Whether retries bring a control request to an end. Once everything succeeds and nobody else writes,
a retry completes the targets whose Jobs still have the version they were prepared at, are read back
as asked for, or are gone for a deletion (`attainable`); any other target stays ambiguous for ever.
-/
namespace TgsRl.Controls
open State Loops Outcomes

/-- The mutation can still be completed: its Job is gone as it should be, shows what was asked for, or has the version
    expected of it. -/
def attainable (server : Server) (mutation : JobControlMutation) : Bool :=
  match server.jobs.lookup mutation.object with
  | none => isDeleteControl mutation.action
  | some job => controlReadbackMatches mutation.action (readbackFromObject job) || decide (job.version = mutation.expectedVersion)

/-- The record is in the ledger, and only one Job may have changed. -/
structure Ran (key : String) (next : ControlRecord) (object : JobName) (b b' : Backend) : Prop where
  held : b'.controls.lookup key = some next
  jobs : ∀ name, name ≠ object → b'.server.jobs.lookup name = b.server.jobs.lookup name

theorem mark_mark (record : ControlRecord) (index : Nat) (first second : ControlProgressState) :
    (record.mark index first).mark index second = record.mark index second := by
  simp only [ControlRecord.mark,List.modify_modify_eq]
  rfl

theorem readMutated_quiet {mutation : JobControlMutation} {job : Job} {version : Nat} {b : Backend}
    (held : b.server.jobs.lookup mutation.object = some { mutated mutation.action job with version := version }) :
    ∃ readback accepted, readMutated mutation ⟨[],true,[],true⟩ b = .ok readback b ∧
      observedStateForReadback mutation.action readback = .ok accepted := by
  unfold readMutated
  rw [held]
  cases action : mutation.action with
  | pause => exact ⟨_,true,rfl,rfl⟩
  | resume => exact ⟨_,true,rfl,rfl⟩
  | _ => exact ⟨_,false,rfl,rfl⟩

/-- The mutation takes effect where the Job has the version expected of it, and nowhere else. -/
theorem controlJob_quiet (key : String) (mutation : JobControlMutation) (b : Backend) :
    (∃ job readback accepted b', b.server.jobs.lookup mutation.object = some job ∧ job.version = mutation.expectedVersion ∧
      controlJob key mutation ⟨[],true,[],true⟩ b = .ok readback b' ∧
      observedStateForReadback mutation.action readback = .ok accepted ∧
      ∀ name, name ≠ mutation.object → b'.server.jobs.lookup name = b.server.jobs.lookup name) ∨
    (∀ job, b.server.jobs.lookup mutation.object = some job → job.version ≠ mutation.expectedVersion) ∧
      ∃ failure, controlJob key mutation ⟨[],true,[],true⟩ b = .error failure b := by
  unfold controlJob
  simp only [show b.touches [] = b from rfl]
  cases held : b.server.jobs.lookup mutation.object with
  | none => exact .inr ⟨fun _ found => (nomatch found),_,rfl⟩
  | some job =>
    by_cases current : job.version = mutation.expectedVersion
    · let changed : Backend := { b with
        server := b.server.put mutation.object (mutated mutation.action job)
        effects := b.effects ++ [⟨key,mutation⟩] }
      have there : changed.server.jobs.lookup mutation.object = some _ := AList.lookup_insert _
      obtain ⟨readback,accepted,read,observed⟩ := readMutated_quiet there
      refine .inl ⟨job,readback,accepted,changed,rfl,current,?_,observed,fun name apart => AList.lookup_insert_ne apart⟩
      dsimp only
      rw [if_pos ⟨trivial,current⟩]
      exact read
    · refine .inr ⟨fun other found => ?_,_,if_neg fun both => current both.2⟩
      cases found
      exact current

theorem leaveAmbiguous_quiet (key : String) (record : ControlRecord) (index : Nat) (progress : ControlTargetProgress)
    (b : Backend) : leaveAmbiguous key record index progress .done b =
      .error (.ambiguous progress.bundleKey) (b.store key (record.mark index .ambiguous)).persisted := rfl

/-- The target is completed where its Job has the version expected of it, and left ambiguous elsewhere. -/
theorem mutateTarget_quiet (key : String) (record : ControlRecord) (index : Nat) (progress : ControlTargetProgress)
    (b : Backend) :
    (∃ job b', b.server.jobs.lookup progress.mutation.object = some job ∧ job.version = progress.mutation.expectedVersion ∧
      mutateTarget key record index progress (smooth.executions progress.bundleKey) b = .ok (record.mark index .completed) b' ∧
      Ran key (record.mark index .completed) progress.mutation.object b b') ∨
    (∀ job, b.server.jobs.lookup progress.mutation.object = some job → job.version ≠ progress.mutation.expectedVersion) ∧
      ∃ failure b', mutateTarget key record index progress (smooth.executions progress.bundleKey) b = .error failure b' ∧
        b'.controls.lookup key = some (record.mark index .ambiguous) ∧ b'.server = b.server := by
  have started : mutateTarget key record index progress (smooth.executions progress.bundleKey) b =
    changeTarget key (record.mark index .inFlight) index progress (smooth.executions progress.bundleKey)
      (b.store key (record.mark index .inFlight)).persisted := rfl
  rw [started]
  unfold changeTarget
  simp only [smooth]
  rcases controlJob_quiet key progress.mutation (b.store key (record.mark index .inFlight)).persisted with
    ⟨job,readback,accepted,b₁,held,current,ran,observed,jobs⟩ | ⟨conflict,failure,ran⟩
  · refine .inl ⟨job,(b₁.store key (record.mark index .completed)).persisted,held,current,?_,AList.lookup_insert _,jobs⟩
    simp only [ran,observed,mark_mark]
    rfl
  · rw [ran]
    refine .inr ⟨conflict,_,_,leaveAmbiguous_quiet _ _ _ _ _,?_,rfl⟩
    rw [mark_mark]
    exact AList.lookup_insert _

/-- A target left unsure is completed exactly where it is attainable. -/
theorem resolveTarget_quiet (key : String) (record : ControlRecord) (index : Nat) (progress : ControlTargetProgress)
    (b : Backend) :
    (attainable b.server progress.mutation = true ∧ ∃ b',
      resolveTarget key record index progress (smooth.executions progress.bundleKey) b = .ok (record.mark index .completed) b' ∧
      Ran key (record.mark index .completed) progress.mutation.object b b') ∨
    (attainable b.server progress.mutation = false ∧ ∃ failure b',
      resolveTarget key record index progress (smooth.executions progress.bundleKey) b = .error failure b' ∧
      b'.controls.lookup key = some (record.mark index .ambiguous) ∧ b'.server = b.server) := by
  have mutated := mutateTarget_quiet key record index progress b
  have left := leaveAmbiguous_quiet key record index progress b
  unfold resolveTarget reconcileControlProgress readJob attainable
  simp only [smooth,show b.touches [] = b from rfl,if_true] at mutated ⊢
  cases held : b.server.jobs.lookup progress.mutation.object with
  | none =>
    cases isDeleteControl progress.mutation.action with
    | true => exact .inl ⟨rfl,_,rfl,AList.lookup_insert _,fun _ _ => rfl⟩
    | false => exact .inr ⟨rfl,_,_,left,AList.lookup_insert _,rfl⟩
  | some job =>
    cases shown : controlReadbackMatches progress.mutation.action (readbackFromObject job) with
    | true =>
      refine .inl ⟨by simp [shown],(b.store key (record.mark index .completed)).persisted,?_,AList.lookup_insert _,fun _ _ => rfl⟩
      simp only [shown,if_true]
      rfl
    | false =>
      rw [held] at mutated
      by_cases current : job.version = progress.mutation.expectedVersion
      · rcases mutated with ⟨_,b',_,_,ran,after⟩ | ⟨conflict,_⟩
        · exact .inl ⟨by simp [current],b',by simpa only [shown,current,Bool.false_eq_true,if_false,if_true] using ran,after⟩
        · exact absurd current (conflict job rfl)
      · refine .inr ⟨by simp [shown,current],.ambiguous progress.bundleKey,
          (b.store key (record.mark index .ambiguous)).persisted,?_,AList.lookup_insert _,rfl⟩
        simp only [shown,if_neg current,Bool.false_eq_true,if_false]
        exact left

/-- How a target is left by an execution in which everything succeeds: completed, where it can be, or ambiguous. -/
theorem executeControlProgress_quiet (key : String) {record : ControlRecord} {index : Nat} {progress : ControlTargetProgress}
    (there : record.targetProgress[index]? = some progress) (b : Backend) :
    (progress.state = .completed ∧ executeControlProgress smooth.executions key record index b = .ok record b) ∨
    (progress.state ≠ .completed ∧ attainable b.server progress.mutation = true ∧ ∃ b',
      executeControlProgress smooth.executions key record index b = .ok (record.mark index .completed) b' ∧
      Ran key (record.mark index .completed) progress.mutation.object b b') ∨
    (progress.state ≠ .completed ∧ (progress.state = .pending ∨ attainable b.server progress.mutation = false) ∧
      ∃ failure b', executeControlProgress smooth.executions key record index b = .error failure b' ∧
        b'.controls.lookup key = some (record.mark index .ambiguous) ∧ b'.server = b.server) := by
  have resolved := resolveTarget_quiet key record index progress b
  unfold executeControlProgress
  rw [there]
  dsimp only
  cases state : progress.state with
  | completed => exact .inl ⟨rfl,rfl⟩
  | pending =>
    refine .inr ?_
    rcases mutateTarget_quiet key record index progress b with ⟨job,b',held,current,ran,after⟩ | ⟨_,failure,b',ran,after⟩
    · refine .inl ⟨nofun,?_,b',ran,after⟩
      unfold attainable
      rw [held]
      simp [current]
    · exact .inr ⟨nofun,.inl rfl,failure,b',ran,after⟩
  | inFlight =>
    refine .inr (resolved.imp ?_ ?_)
    · exact fun ⟨attained,after⟩ => ⟨nofun,attained,after⟩
    · exact fun ⟨missed,after⟩ => ⟨nofun,.inr missed,after⟩
  | ambiguous =>
    refine .inr (resolved.imp ?_ ?_)
    · exact fun ⟨attained,after⟩ => ⟨nofun,attained,after⟩
    · exact fun ⟨missed,after⟩ => ⟨nofun,.inr missed,after⟩

/-- The request is recorded and unfinished, with distinct Jobs as targets. -/
structure Waiting (b : Backend) (key digest : String) (record : ControlRecord) : Prop where
  held : b.controls.lookup key = some record
  pending : record.pending = true
  same : record.digest = digest
  distinct : (record.mutations.map JobControlMutation.object).Nodup

def ControlRecord.untried (record : ControlRecord) : Nat :=
  record.targetProgress.countP fun progress => decide (progress.state = .pending)

def Attained (b : Backend) (record : ControlRecord) : Prop :=
  ∀ progress ∈ record.targetProgress, progress.state = .completed ∨ attainable b.server progress.mutation = true

theorem countP_modify {α : Type} {p : α → Bool} {f : α → α} {l : List α} {i : Nat} {a : α} (there : l[i]? = some a)
    (fails : p (f a) = false) : (l.modify i f).countP p ≤ l.countP p ∧ (p a = true → (l.modify i f).countP p < l.countP p) := by
  induction l generalizing i with
  | nil => cases there
  | cons head rest ih =>
    cases i with
    | zero =>
      cases there
      rw [List.modify_zero_cons,List.countP_cons,List.countP_cons,fails]
      refine ⟨by simp,fun passes => ?_⟩
      simp [passes]
    | succ i =>
      obtain ⟨le,lt⟩ := ih (i := i) there
      rw [List.modify_succ_cons,List.countP_cons,List.countP_cons]
      exact ⟨by omega,fun passes => Nat.add_lt_add_right (lt passes) _⟩

theorem attainable_congr {server server' : Server} {mutation : JobControlMutation}
    (same : server'.jobs.lookup mutation.object = server.jobs.lookup mutation.object) :
    attainable server' mutation = attainable server mutation := by
  unfold attainable
  rw [same]

section Call
variable {key digest : String} {record : ControlRecord} {index : Nat} {progress : ControlTargetProgress} {b b' : Backend}
  {state : ControlProgressState} {mutation : JobControlMutation}

theorem Waiting.mark (waiting : Waiting b key digest record) (held : b'.controls.lookup key = some (record.mark index state)) :
    Waiting b' key digest (record.mark index state) :=
  ⟨held,waiting.pending,waiting.same,(mark_mutations record index state).symm ▸ waiting.distinct⟩

theorem Waiting.apart (waiting : Waiting b key digest record) {other : Nat} {second : ControlTargetProgress}
    (here : record.targetProgress[index]? = some progress) (there : record.targetProgress[other]? = some second)
    (differ : other ≠ index) : second.mutation.object ≠ progress.mutation.object := by
  intro same
  have low := (List.getElem?_eq_some_iff.mp there).1
  refine differ ((List.getElem?_inj (by simpa using low) waiting.distinct).mp ?_)
  simp [here,there,same]

theorem Attained.mark (attained : Attained b record) (waiting : Waiting b key digest record)
    (here : record.targetProgress[index]? = some progress)
    (own : state = .completed ∨ attainable b'.server progress.mutation = true)
    (jobs : ∀ name, name ≠ progress.mutation.object → b'.server.jobs.lookup name = b.server.jobs.lookup name) :
    Attained b' (record.mark index state) := by
  intro second member
  rcases mem_mark here member with ⟨other,differ,found⟩ | rfl
  · rw [attainable_congr (jobs _ (waiting.apart here found differ))]
    exact attained second (List.mem_of_getElem? found)
  · exact own

theorem untried_mark (here : record.targetProgress[index]? = some progress) (tried : state ≠ .pending) :
    (record.mark index state).untried ≤ record.untried ∧
      (progress.state = .pending → (record.mark index state).untried < record.untried) := by
  obtain ⟨le,lt⟩ := countP_modify (p := fun progress : ControlTargetProgress => decide (progress.state = .pending))
    (f := fun progress => { progress with state := state }) here (by simpa using tried)
  exact ⟨le,fun fresh => lt (by simpa using fresh)⟩

theorem executeTargets_ok {rest : List Nat} {next : ControlRecord}
    (ran : executeControlProgress smooth.executions key record index b = .ok next b') :
    executeTargets smooth.executions key (index :: rest) record b = executeTargets smooth.executions key rest next b' :=
  bind_ok ran

theorem executeTargets_error {rest : List Nat} {failure : Failure}
    (ran : executeControlProgress smooth.executions key record index b = .error failure b') :
    executeTargets smooth.executions key (index :: rest) record b = .error failure b' :=
  bind_error ran

theorem executeControlProgress_none (none : record.targetProgress[index]? = none) :
    executeControlProgress smooth.executions key record index b = .ok record b := by
  unfold executeControlProgress
  rw [none]
  rfl

/-- A loop over targets that can all be completed ends well, or stops at one that had not been tried yet. -/
theorem executeTargets_quiet (indices : List Nat) (waiting : Waiting b key digest record) (attained : Attained b record) :
    (∃ next b', executeTargets smooth.executions key indices record b = .ok next b' ∧ Waiting b' key digest next) ∨
    ∃ failure next b', executeTargets smooth.executions key indices record b = .error failure b' ∧
      Waiting b' key digest next ∧ Attained b' next ∧ next.untried < record.untried := by
  induction indices generalizing record b with
  | nil => exact .inl ⟨record,b,rfl,waiting⟩
  | cons index rest ih =>
    cases here : record.targetProgress[index]? with
    | none =>
      rw [executeTargets_ok (executeControlProgress_none here)]
      exact ih waiting attained
    | some progress =>
      rcases executeControlProgress_quiet key here b with ⟨_,ran⟩ | ⟨_,_,b',ran,after⟩ | ⟨opened,why,failure,b',ran,held,server⟩
      · rw [executeTargets_ok ran]
        exact ih waiting attained
      · rw [executeTargets_ok ran]
        rcases ih (waiting.mark after.held) (attained.mark waiting here (.inl rfl) after.jobs) with done |
            ⟨failure,last,b'',stopped,facts,good,fewer⟩
        · exact .inl done
        · exact .inr ⟨failure,last,b'',stopped,facts,good,fewer.trans_le (untried_mark here (by decide)).1⟩
      · have able := (attained progress (List.mem_of_getElem? here)).resolve_left opened
        have fresh : progress.state = .pending := why.resolve_right fun missed => nomatch missed.symm.trans able
        refine .inr ⟨failure,_,b',executeTargets_error ran,waiting.mark held,?_,(untried_mark here (by decide)).2 fresh⟩
        exact attained.mark waiting here (.inr (server ▸ able)) (fun name _ => by rw [server])

/-- The target at `index` is open and cannot be completed. -/
structure Stuck (b : Backend) (record : ControlRecord) (index : Nat) (mutation : JobControlMutation) : Prop where
  there : ∃ progress, record.targetProgress[index]? = some progress ∧ progress.mutation = mutation ∧ progress.state ≠ .completed
  missed : attainable b.server mutation = false

theorem Stuck.mark {other : Nat} (stuck : Stuck b record index mutation) (waiting : Waiting b key digest record)
    (here : record.targetProgress[other]? = some progress) (own : other = index → state = .ambiguous ∧ b'.server = b.server)
    (jobs : ∀ name, name ≠ progress.mutation.object → b'.server.jobs.lookup name = b.server.jobs.lookup name) :
    Stuck b' (record.mark other state) index mutation := by
  obtain ⟨target,there,rfl,opened⟩ := stuck.there
  by_cases same : other = index
  · subst same
    obtain ⟨rfl,server⟩ := own rfl
    refine ⟨⟨{ target with state := .ambiguous },?_,rfl,nofun⟩,server ▸ stuck.missed⟩
    rw [mark_getElem?,there,Option.map_some,if_pos rfl]
  · refine ⟨⟨target,?_,rfl,opened⟩,?_⟩
    · rw [mark_getElem?,there,Option.map_some,if_neg same]
    · rw [attainable_congr (jobs _ (waiting.apart here there (Ne.symm same)))]
      exact stuck.missed

theorem executeTargets_stuck (indices : List Nat) (member : index ∈ indices) (waiting : Waiting b key digest record)
    (stuck : Stuck b record index mutation) :
    ∃ failure next b', executeTargets smooth.executions key indices record b = .error failure b' ∧
      Waiting b' key digest next ∧ Stuck b' next index mutation := by
  induction indices generalizing record b with
  | nil => cases member
  | cons first rest ih =>
    obtain ⟨target,there,rfl,opened⟩ := stuck.there
    have later (apart : index ≠ first) : index ∈ rest := (List.mem_cons.mp member).resolve_left apart
    cases here : record.targetProgress[first]? with
    | none =>
      rw [executeTargets_ok (executeControlProgress_none here)]
      refine ih (later ?_) waiting stuck
      rintro rfl
      cases here.symm.trans there
    | some progress =>
      rcases executeControlProgress_quiet key here b with ⟨done,ran⟩ | ⟨_,able,b',ran,after⟩ | ⟨_,_,failure,b',ran,held,server⟩
      · rw [executeTargets_ok ran]
        refine ih (later ?_) waiting stuck
        rintro rfl
        cases here.symm.trans there
        exact opened done
      · rw [executeTargets_ok ran]
        have apart : index ≠ first := by
          rintro rfl
          cases here.symm.trans there
          cases stuck.missed.symm.trans able
        exact ih (later apart) (waiting.mark after.held) (stuck.mark waiting here (fun same => absurd same.symm apart) after.jobs)
      · refine ⟨failure,_,b',executeTargets_error ran,waiting.mark held,?_⟩
        exact stuck.mark waiting here (fun _ => ⟨rfl,server⟩) (fun name _ => by rw [server])

theorem upsertMarkers_quiet (metadata : ControlMetadata) (originals : Map String Marker) (done keys : List String) (b : Backend)
    (known : ∀ key ∈ keys, key ∈ originals) : ∃ b', upsertMarkers metadata originals smooth.marked done keys b = .ok () b' ∧
      b'.controls = b.controls := by
  induction keys generalizing done b with
  | nil => exact ⟨b,rfl,rfl⟩
  | cons key rest ih =>
    obtain ⟨original,held⟩ := Option.isSome_iff_exists.mp (AList.lookup_isSome.mpr (known key (by simp)))
    obtain ⟨b',ran,controls⟩ := ih (key :: done)
      { b with markers := b.markers.insert key (encodeControlMetadata original metadata) }
      (fun other member => known other (by simp [member]))
    refine ⟨b',?_,controls⟩
    unfold upsertMarkers
    rw [held]
    exact ran

theorem setBundleControlMetadata_quiet (keys : List String) (metadata : ControlMetadata) (b : Backend) :
    ((∃ key ∈ keys, key ∉ b.markers) ∧ setBundleControlMetadata keys metadata smooth.marked b = .error .runtimeNotFound b) ∨
    ∃ b', setBundleControlMetadata keys metadata smooth.marked b = .ok () b' ∧ b'.controls = b.controls := by
  unfold setBundleControlMetadata
  rw [if_neg (by simp [smooth])]
  split
  next missing => exact .inl ⟨by simpa using missing,rfl⟩
  next known =>
    refine .inr (upsertMarkers_quiet metadata b.markers [] keys b fun key member => ?_)
    by_contra absent
    exact known (List.any_eq_true.mpr ⟨key,member,decide_eq_true absent⟩)

theorem setBundleControlMetadata_known (keys : List String) (metadata : ControlMetadata) (b : Backend)
    (known : ∀ key ∈ keys, key ∈ b.markers) : ∃ b', setBundleControlMetadata keys metadata smooth.marked b = .ok () b' := by
  rcases setBundleControlMetadata_quiet keys metadata b with ⟨⟨key,member,absent⟩,_⟩ | ⟨b',ran,_⟩
  · exact absurd (known key member) absent
  · exact ⟨b',ran⟩

theorem commitControl_quiet (request : ControlRequest) (record : ControlRecord) (b : Backend) :
    ∃ b', b'.controls.lookup request.idempotencyKey = some record.accept ∧
      (commitControl request record smooth b = .ok record.accept.result b' ∨
        ∃ failure, commitControl request record smooth b = .error failure b') := by
  have stored : persistControlState smooth.committed (b.store request.idempotencyKey record.accept) =
    .ok () (b.store request.idempotencyKey record.accept).persisted := rfl
  unfold commitControl
  rw [stored]
  dsimp only
  rcases setBundleControlMetadata_quiet record.bundleKeys (metadataForControl request record.result.backendRevision true)
      (b.store request.idempotencyKey record.accept).persisted with ⟨_,failed⟩ | ⟨b',marked,controls⟩
  · exact ⟨_,AList.lookup_insert _,.inr ⟨_,by rw [failed]⟩⟩
  · refine ⟨b',?_,.inl (by rw [marked])⟩
    rw [controls]
    exact AList.lookup_insert _

def Accepts (request : ControlRequest) (b : Backend) : Prop :=
  ∃ result b', control request smooth b = .ok result b' ∧ result.accepted = true

def retries (request : ControlRequest) (n : Nat) (b : Backend) : Backend :=
  run Backend.step b (List.replicate n (.control request smooth))

theorem retries_succ (request : ControlRequest) (n : Nat) (b : Backend) :
    retries request (n + 1) b = retries request n (after (control request smooth b)) := rfl

variable {request : ControlRequest}

section Valid
variable (valid : validateControlRequest request = .ok ())
include valid

theorem control_resume (waiting : Waiting b request.idempotencyKey (controlDigest request) record) :
    control request smooth b = resumeControl request record smooth b := by
  unfold control
  rw [valid,waiting.held]
  simp [smooth,waiting.same,waiting.pending]

theorem control_replay (held : b.controls.lookup request.idempotencyKey = some record)
    (same : record.digest = controlDigest request) (closed : record.pending = false) (accepted : record.result.accepted = true) :
    Accepts request b := by
  have replayed : control request smooth b = replayControl record smooth b := by
    unfold control
    rw [valid,held]
    simp [smooth,same,closed]
  have repaired : ∃ b', repairReplayedControlMetadata record smooth.marked b = .ok () b' := by
    unfold repairReplayedControlMetadata
    rw [if_neg (by simp [accepted])]
    dsimp only
    rw [if_neg (by simp [smooth])]
    refine setBundleControlMetadata_known _ record.metadata b fun key member => ?_
    by_contra absent
    have there := (List.mem_filter.mp member).2
    rw [AList.lookup_eq_none.mpr absent] at there
    cases there
  obtain ⟨b',ran⟩ := repaired
  exact ⟨_,b',replayed.trans (bind_ok ran),accepted⟩

theorem control_quiet (waiting : Waiting b request.idempotencyKey (controlDigest request) record) (attained : Attained b record) :
    Accepts request b ∨ Accepts request (after (control request smooth b)) ∨
      ∃ next, Waiting (after (control request smooth b)) request.idempotencyKey (controlDigest request) next ∧
        Attained (after (control request smooth b)) next ∧ next.untried < record.untried := by
  rw [control_resume valid waiting]
  rcases executeTargets_quiet (List.range record.targetProgress.length) waiting attained with ⟨next,b₁,ran,later⟩ |
      ⟨failure,next,b₁,ran,facts⟩
  · obtain ⟨b₂,held,committed⟩ := commitControl_quiet request next b₁
    have resumed : resumeControl request record smooth b = commitControl request next smooth b₁ := bind_ok ran
    rcases committed with returned | ⟨failure,failed⟩
    · exact .inl ⟨_,b₂,(control_resume valid waiting).trans (resumed.trans returned),rfl⟩
    · refine .inr (.inl ?_)
      rw [resumed,failed]
      exact control_replay valid held later.same rfl rfl
  · have stopped : resumeControl request record smooth b = .error failure b₁ := bind_error ran
    rw [stopped]
    exact .inr (.inr ⟨next,facts⟩)

theorem retries_accepted (waiting : Waiting b request.idempotencyKey (controlDigest request) record)
    (attained : Attained b record) : ∃ n, Accepts request (retries request n b) := by
  induction left : record.untried using Nat.strong_induction_on generalizing b record with
  | _ left ih =>
    rcases control_quiet valid waiting attained with now | next | ⟨next,waiting',attained',fewer⟩
    · exact ⟨0,now⟩
    · exact ⟨1,next⟩
    · obtain ⟨n,accepted⟩ := ih next.untried (by omega) waiting' attained' rfl
      exact ⟨n + 1,accepted⟩

theorem control_stuck (waiting : Waiting b request.idempotencyKey (controlDigest request) record)
    (stuck : Stuck b record index mutation) :
    ∃ failure next b', control request smooth b = .error failure b' ∧
      Waiting b' request.idempotencyKey (controlDigest request) next ∧ Stuck b' next index mutation := by
  obtain ⟨progress,there,_⟩ := stuck.there
  have inside : index ∈ List.range record.targetProgress.length := List.mem_range.mpr (List.getElem?_eq_some_iff.mp there).1
  obtain ⟨failure,next,b',ran,facts⟩ := executeTargets_stuck _ inside waiting stuck
  exact ⟨failure,next,b',(control_resume valid waiting).trans (bind_error ran),facts⟩

theorem retries_stuck (waiting : Waiting b request.idempotencyKey (controlDigest request) record)
    (stuck : Stuck b record index mutation) (n : Nat) : ¬ Accepts request (retries request n b) := by
  induction n generalizing b record with
  | zero =>
    obtain ⟨failure,_,b',ran,_⟩ := control_stuck valid waiting stuck
    rintro ⟨result,b'',returned,_⟩
    cases ran.symm.trans returned
  | succ n ih =>
    obtain ⟨failure,next,b',ran,waiting',stuck'⟩ := control_stuck valid waiting stuck
    rw [retries_succ,ran]
    exact ih waiting' stuck'

end Valid

theorem Ledgered.retries_iff (ledgered : Ledgered b) (held : b.controls.lookup request.idempotencyKey = some record)
    (valid : validateControlRequest request = .ok ()) (same : record.digest = controlDigest request) :
    (∃ n, Accepts request (retries request n b)) ↔
      ∀ progress ∈ record.targetProgress, progress.state = .completed ∨ attainable b.server progress.mutation = true := by
  obtain ⟨prepared,member,_,traces⟩ := ledgered.traced _ record (.inl held)
  cases pending : record.pending with
  | false =>
    obtain ⟨accepted,completed⟩ := traces.closed pending
    refine iff_of_true ⟨0,control_replay valid held same pending accepted⟩ ?_
    exact fun progress listed => .inl (completed progress listed)
  | true =>
    have distinct : (record.mutations.map JobControlMutation.object).Nodup := by
      rw [traces.targets]
      exact (ledgered.located prepared member).objects_nodup
    have waiting : Waiting b request.idempotencyKey (controlDigest request) record := ⟨held,pending,same,distinct⟩
    refine ⟨fun ⟨n,accepted⟩ progress listed => ?_,retries_accepted valid waiting⟩
    by_contra missed
    push Not at missed
    obtain ⟨index,there⟩ := List.mem_iff_getElem?.mp listed
    exact retries_stuck valid waiting ⟨⟨progress,there,rfl,missed.1⟩,by simpa using missed.2⟩ n accepted

end Call

theorem retries_accepted_iff (server : Server) (steps : List Step) (request : ControlRequest) (record : ControlRecord)
    (held : (run Backend.step (.begin server) steps).controls.lookup request.idempotencyKey = some record)
    (valid : validateControlRequest request = .ok ()) (same : record.digest = controlDigest request) :
    (∃ n, Accepts request (retries request n (run Backend.step (.begin server) steps))) ↔
      ∀ progress ∈ record.targetProgress, progress.state = .completed ∨
        attainable (run Backend.step (.begin server) steps).server progress.mutation = true :=
  (ledgered_run server steps).retries_iff held valid same

section Demo

/-- The answer to the pause is lost after it has taken effect. -/
def demoLost : Backend := run Backend.step (.begin demoServer) [demoApply,.control (demoRequest .pause "pause")
  { smooth with executions := fun _ => ⟨⟨[],true⟩,.done,.done,⟨[],true,[],false⟩,.done⟩ }]

/-- The status of the Job is updated between the preparation of the pause and its mutation. -/
def demoConflict : Backend := run Backend.step (.begin demoServer) [demoApply,.control (demoRequest .pause "pause")
  { smooth with executions := fun _ => ⟨⟨[],true⟩,.done,.done,⟨[.put ⟨"ns/a",1⟩ demoJob],true,[],true⟩,.done⟩ }]

def demoRecord : ControlRecord where
  digest := controlDigest (demoRequest .pause "pause")
  pending := true
  request := demoRequest .pause "pause"
  bundleKeys := ["ns/a"]
  targetProgress := [⟨"ns/a",⟨⟨"ns/a",1⟩,.pause,1⟩,.ambiguous⟩]
  result := pendingResult 1

theorem retries_accepted_iff_demo : demoLost.controls.lookup "pause" = some demoRecord ∧
    ∃ n, Accepts (demoRequest .pause "pause") (retries (demoRequest .pause "pause") n demoLost) := by
  have held : demoLost.controls.lookup "pause" = some demoRecord := by decide +kernel
  have shown : attainable demoLost.server ⟨⟨"ns/a",1⟩,.pause,1⟩ = true := by decide +kernel
  refine ⟨held,(retries_accepted_iff demoServer _ (demoRequest .pause "pause") demoRecord held (by decide +kernel) rfl).mpr ?_⟩
  intro progress member
  rw [List.mem_singleton.mp member]
  exact .inr shown

theorem conflict_stays_ambiguous : demoConflict.controls.lookup "pause" = some demoRecord ∧
    (demoConflict.server.jobs.lookup ⟨"ns/a",1⟩).map Job.version = some 2 ∧
    ¬ ∃ n, Accepts (demoRequest .pause "pause") (retries (demoRequest .pause "pause") n demoConflict) := by
  have held : demoConflict.controls.lookup "pause" = some demoRecord := by decide +kernel
  have missed : attainable demoConflict.server ⟨⟨"ns/a",1⟩,.pause,1⟩ = false := by decide +kernel
  have stuck : Stuck demoConflict demoRecord 0 ⟨⟨"ns/a",1⟩,.pause,1⟩ := ⟨⟨_,rfl,rfl,by decide⟩,missed⟩
  refine ⟨held,by decide +kernel,?_⟩
  rintro ⟨n,accepted⟩
  exact retries_stuck (by decide +kernel) ⟨held,rfl,rfl,by decide⟩ stuck n accepted

end Demo

end TgsRl.Controls
