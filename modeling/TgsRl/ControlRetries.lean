import TgsRl.ControlOrder

/-!
Retries of control requests. A request changes a Job only at the version it was prepared at, and
versions do not come back, so it changes each of its Jobs at most once. A target that is completed
because its Job was read back as asked for leaves the version as it is: an earlier request prepared
at that version can still take effect (`earlier_pause_takes_effect`).
-/
namespace TgsRl.Controls
open Loops Outcomes

theorem Located.same {prepared : Preparation} (located : Located prepared) {first second : JobControlMutation}
    (here : first ∈ prepared.record.mutations) (there : second ∈ prepared.record.mutations)
    (object : first.object = second.object) : first = second :=
  List.inj_on_of_nodup_map located.objects_nodup here there object

/-- What the versions say of the requests and of the mutations that took effect. -/
structure Fenced (b : Backend) : Prop where
  seen : ∀ prepared ∈ b.prepared, ∀ mutation ∈ prepared.record.mutations,
    Seen b.server mutation.object mutation.expectedVersion
  origin : ∀ effect ∈ b.effects, ∃ prepared ∈ b.prepared, prepared.key = effect.key ∧ effect.mutation ∈ prepared.record.mutations
  spent : ∀ effect ∈ b.effects, Spent b.server effect.mutation.object effect.mutation.expectedVersion
  once : b.effects.Pairwise fun first second => first.key = second.key → first.mutation.object ≠ second.mutation.object
  order : b.prepared.Pairwise fun earlier later => ∀ mutation ∈ earlier.record.mutations, ∀ next ∈ later.record.mutations,
    mutation.object = next.object → mutation.expectedVersion ≤ next.expectedVersion ∨
      Spent b.server mutation.object mutation.expectedVersion
  settled : b.prepared.Pairwise fun earlier later => ∀ record, b.Holds later.key record → ∀ progress ∈ record.targetProgress,
    progress.state = .completed → ∀ mutation ∈ earlier.record.mutations, mutation.object = progress.mutation.object →
      Spent b.server mutation.object mutation.expectedVersion

variable {b : Backend} {key : String} {record : ControlRecord} {c : Calling}

theorem Fenced.server (inv : Fenced b) {server : Server} (later : Later b.server server) :
    Fenced { b with server := server } where
  seen prepared member mutation listed := (inv.seen prepared member mutation listed).later later
  origin := inv.origin
  spent effect member := (inv.spent effect member).later later
  once := inv.once
  order := inv.order.imp fun pair mutation listed next other same =>
    (pair mutation listed next other same).imp id fun spent => spent.later later
  settled := inv.settled.imp fun pair record holds progress member completed mutation listed same =>
    (pair record holds progress member completed mutation listed same).later later

/-- A record is replaced by one whose newly completed targets leave no earlier request a version to act at. -/
theorem Fenced.store (inv : Fenced b) {next : ControlRecord} (held : b.controls.lookup key = some record)
    (completed : ∀ progress ∈ next.targetProgress, progress.state = .completed → progress ∈ record.targetProgress ∨
      b.prepared.Pairwise fun earlier later => later.key = key → ∀ mutation ∈ earlier.record.mutations,
      mutation.object = progress.mutation.object → Spent b.server mutation.object mutation.expectedVersion) :
    Fenced (b.store key next) where
  seen := inv.seen
  origin := inv.origin
  spent := inv.spent
  once := inv.once
  order := inv.order
  settled := by
    rw [List.pairwise_iff_forall_sublist]
    intro earlier later pair found holds progress member closed mutation listed same
    rcases holds_store holds with ⟨named,rfl⟩ | holds
    · rcases completed progress member closed with old | new
      · exact List.pairwise_iff_forall_sublist.mp inv.settled pair record (.inl (named ▸ held)) progress old closed mutation
          listed same
      · exact List.pairwise_iff_forall_sublist.mp new pair named mutation listed same
    · exact List.pairwise_iff_forall_sublist.mp inv.settled pair found holds progress member closed mutation listed same

theorem Fenced.accept (inv : Fenced b) (held : b.controls.lookup key = some record) : Fenced (b.store key record.accept) :=
  inv.store held fun _ member _ => .inl member

theorem Fenced.persisted (inv : Fenced b) : Fenced b.persisted where
  seen := inv.seen
  origin := inv.origin
  spent := inv.spent
  once := inv.once
  order := inv.order
  settled := inv.settled.imp fun pair record holds => pair record (holds_persisted holds)

theorem Fenced.effect (inv : Fenced b) (sound : Ledgered b) (ordered : Ordered b) {progress : ControlTargetProgress} {job : Job}
    (changed : Job) (held : b.controls.lookup key = some record) (member : progress ∈ record.targetProgress)
    (there : b.server.jobs.lookup progress.mutation.object = some job)
    (current : job.version = progress.mutation.expectedVersion) :
    Fenced { b with
      server := b.server.put progress.mutation.object changed
      effects := b.effects ++ [⟨key,progress.mutation⟩] } := by
  have later := Later.put b.server progress.mutation.object changed
  have moved := inv.server later
  obtain ⟨prepared,listed,named,traces⟩ := sound.traced key record (.inl held)
  have target : progress.mutation ∈ prepared.record.mutations := traces.targets ▸ List.mem_map_of_mem member
  refine ⟨moved.seen,?_,?_,?_,moved.order,moved.settled⟩
  · intro effect taken
    rcases List.mem_append.mp taken with taken | taken
    · exact inv.origin effect taken
    · rw [List.mem_singleton.mp taken]
      exact ⟨prepared,listed,named,target⟩
  · intro effect taken
    rcases List.mem_append.mp taken with taken | taken
    · exact moved.spent effect taken
    · rw [List.mem_singleton.mp taken]
      have clock := (b.server.bounded _ job there).2
      rw [current] at clock
      refine ⟨clock.trans later.clock,?_⟩
      intro held found
      rw [Server.put,AList.lookup_insert] at found
      cases found
      exact Nat.lt_succ_of_le clock
  · refine List.pairwise_append.mpr ⟨inv.once,List.pairwise_singleton _ _,?_⟩
    intro first taken second new same object
    rw [List.mem_singleton.mp new] at same object
    -- the version of the first mutation is spent, and both are the mutation of one preparation
    obtain ⟨other,listed',named',target'⟩ := inv.origin first taken
    cases ordered.unique listed listed' (.inr (named.trans (same.symm.trans named'.symm)))
    have equal := (sound.located prepared listed).same target' target object
    have old := (inv.spent first taken).jobs job (object ▸ there)
    rw [equal,current] at old
    exact lt_irrefl _ old

/-- A new request is prepared at the versions its Jobs have now. -/
theorem Fenced.prepare (inv : Fenced b) (sound : Ledgered b) (ordered : Ordered b) {start : Server} {request : ControlRequest}
    {found : List BundleControlMatch} {targets : List ControlTargetProgress} {revision : Nat}
    (fresh : b.controls.lookup request.idempotencyKey = none)
    (fits : List.Forall₂ (Fits start b.server request.action) found targets)
    (before : ∀ prepared ∈ b.prepared, ∀ mutation ∈ prepared.record.mutations,
      Seen start mutation.object mutation.expectedVersion) :
    Fenced (b.prepare (newRecord request found targets revision) found) := by
  have unknown : ∀ prepared ∈ b.prepared, prepared.key ≠ request.idempotencyKey := by
    intro prepared member same
    exact AList.lookup_eq_none.mp fresh (same ▸ (ordered.known prepared member).2.2.1)
  refine ⟨?_,?_,inv.spent,inv.once,?_,?_⟩
  · intro prepared member mutation listed
    rcases List.mem_append.mp member with member | new
    · exact inv.seen prepared member mutation listed
    · rw [List.mem_singleton.mp new] at listed
      obtain ⟨progress,target,rfl⟩ := List.mem_map.mp listed
      obtain ⟨match₀,_,fit⟩ := exists_of_forall₂ fits target
      rw [fit.object]
      exact fit.seen
  · intro effect taken
    obtain ⟨prepared,member,facts⟩ := inv.origin effect taken
    exact ⟨prepared,List.mem_append_left _ member,facts⟩
  · refine List.pairwise_append.mpr ⟨inv.order,List.pairwise_singleton _ _,?_⟩
    intro earlier member later new mutation listed next other same
    rw [List.mem_singleton.mp new] at other
    obtain ⟨progress,target,rfl⟩ := List.mem_map.mp other
    obtain ⟨match₀,_,fit⟩ := exists_of_forall₂ fits target
    have seen := before earlier member mutation listed
    rw [same,fit.object] at seen ⊢
    rcases fit.state with ⟨_,newest⟩ | ⟨_,spent⟩
    · exact .inl (newest _ seen)
    · exact .inr (spent.of_le seen.clock)
  · refine List.pairwise_append.mpr ⟨?_,List.pairwise_singleton _ _,?_⟩
    · refine inv.settled.imp_of_mem fun _ there pair record holds => ?_
      have stored : (b.store request.idempotencyKey (newRecord request found targets revision)).Holds _ record := holds
      rcases holds_store stored with ⟨same,_⟩ | holds
      · exact absurd same (unknown _ there)
      · exact pair record holds
    · intro earlier member later new record holds progress target completed mutation listed same
      rw [List.mem_singleton.mp new] at holds
      have stored : (b.store request.idempotencyKey (newRecord request found targets revision)).Holds
        request.idempotencyKey record := holds
      rcases holds_store stored with ⟨_,rfl⟩ | holds
      · obtain ⟨match₀,_,fit⟩ := exists_of_forall₂ fits target
        have seen := before earlier member mutation listed
        rcases fit.state with ⟨pending,_⟩ | ⟨_,spent⟩
        · cases pending.symm.trans completed
        · rw [same,fit.object]
          exact spent.of_le seen.clock
      · obtain ⟨prepared,member,named,_⟩ := sound.traced _ record holds
        exact absurd named (unknown prepared member)

/-- No target of the key that was left unsure is read back as asked for while its Job has the version at which an earlier
    request was prepared. -/
def Untied (b : Backend) (key : String) : Prop :=
  ∀ record, b.controls.lookup key = some record → ∀ progress ∈ record.targetProgress, progress.state.unsure = true →
    ∀ job, b.server.jobs.lookup progress.mutation.object = some job →
      controlReadbackMatches progress.mutation.action (readbackFromObject job) = true →
      b.prepared.Pairwise fun earlier later => later.key = key → ∀ mutation ∈ earlier.record.mutations,
        mutation.object = progress.mutation.object → mutation.expectedVersion ≠ job.version

/-- A retry may complete a target by reading it back only where no earlier request could still change the Job, and the first
    persist of a request does not fail after it has replaced the file. -/
def Clear (b : Backend) : Step → Prop
  | .control request a => a.prepared ≠ .late ∧ Untied b request.idempotencyKey
  | _ => True

/-- What holds while a call goes on. -/
structure Along (c : Calling) (b : Backend) : Prop where
  sound : Ledgered b
  ordered : Ordered b
  fenced : Fenced b
  later : Later c.start.server b.server
  begun : b.prepared = c.start.prepared ∨ c.start.controls.lookup c.key = none

/-- A target that is completed for one of the reasons leaves no earlier request a version to act at. -/
theorem Along.reason (start : Fenced c.start) (untied : Untied c.start c.key) (inv : Along c b)
    {progress : ControlTargetProgress} (held : b.controls.lookup c.key = some record)
    (member : progress ∈ record.targetProgress) (reason : Reason c.start b c.key progress .completed) :
    b.prepared.Pairwise fun earlier later => later.key = c.key → ∀ mutation ∈ earlier.record.mutations,
      mutation.object = progress.mutation.object → Spent b.server mutation.object mutation.expectedVersion := by
  have seen := inv.fenced.seen
  cases reason with
  | opened kept => exact absurd rfl kept
  | effect taken =>
    obtain ⟨prepared,listed,named,traces⟩ := inv.sound.traced c.key record (.inl held)
    refine inv.fenced.order.imp_of_mem fun _ there order own mutation earlier same => ?_
    cases inv.ordered.unique listed there (.inr (named.trans own.symm))
    have target : progress.mutation ∈ prepared.record.mutations := traces.targets ▸ List.mem_map_of_mem member
    rcases order mutation earlier progress.mutation target same with le | spent
    · rw [same]
      exact (inv.fenced.spent _ taken).of_le le
    · exact spent
  | absent gone =>
    refine inv.fenced.order.imp_of_mem fun here _ _ _ mutation earlier same => ?_
    exact (seen _ here mutation earlier).spent_of_absent (same ▸ gone)
  | readback held₀ member₀ unsure there shown =>
    -- the request is not new, so the preparations are those of the start
    have before : b.prepared = c.start.prepared := inv.begun.resolve_right fun none => nomatch none.symm.trans held₀
    rcases inv.later.jobs _ _ there with unchanged | newer
    · have apart := untied _ held₀ progress member₀ unsure _ unchanged shown
      rw [← before] at apart
      refine apart.imp_of_mem fun here _ differ own mutation earlier same => ⟨(seen _ here mutation earlier).clock,?_⟩
      intro other found
      have current := Option.some.inj ((same ▸ found).symm.trans there)
      exact lt_of_le_of_ne ((seen _ here mutation earlier).jobs other found) (current ▸ differ own mutation earlier same)
    · refine inv.fenced.order.imp_of_mem fun here _ _ _ mutation earlier same => ⟨(seen _ here mutation earlier).clock,?_⟩
      intro other found
      have current := Option.some.inj ((same ▸ found).symm.trans there)
      exact (start.seen _ (before ▸ here) mutation earlier).clock.trans_lt (current ▸ newer)

theorem Along.move {b' : Backend} (start : Fenced c.start) (prompt : ¬ c.late) (untied : Untied c.start c.key) (inv : Along c b)
    (move : Move c b b') : Along c b' := by
  have sound := inv.sound.move move
  have ordered := inv.ordered.move prompt move
  cases move with
  | server later => exact ⟨sound,ordered,inv.fenced.server later,inv.later.trans later,inv.begun⟩
  | effect changed held member there current =>
    exact ⟨sound,ordered,inv.fenced.effect inv.sound inv.ordered changed held member there current,
      inv.later.trans (.put _ _ _),inv.begun⟩
  | stored => exact ⟨sound,ordered,inv.fenced.persisted,inv.later,inv.begun⟩
  | kept held pending => exact ⟨sound,ordered,inv.fenced.store held fun _ member _ => .inl member,inv.later,inv.begun⟩
  | prepared named fresh located first fits =>
    have before : ∀ prepared ∈ b.prepared, ∀ mutation ∈ prepared.record.mutations,
        Seen c.start.server mutation.object mutation.expectedVersion := by
      intro prepared member
      rw [first] at member
      exact start.seen prepared member
    refine ⟨sound,ordered,(inv.fenced.prepare inv.sound inv.ordered fresh fits before).persisted,inv.later,.inr ?_⟩
    rw [first] at fresh
    rw [named]
    exact fresh
  | leaked allowed named fresh located first fits => exact absurd allowed prompt
  | marked held pending there reason =>
    refine ⟨sound,ordered,inv.fenced.store held ?_,inv.later,inv.begun⟩
    intro progress member completed
    rcases mem_mark there member with ⟨_,_,old⟩ | rfl
    · exact .inl (List.mem_of_getElem? old)
    · cases completed
      have free := inv.reason start untied held (List.mem_of_getElem? there) reason
      exact .inr free
  | accepted held pending completed =>
    exact ⟨sound,ordered,(inv.fenced.accept held).persisted,inv.later,inv.begun⟩
  | unreported held pending completed =>
    have fenced := inv.fenced
    refine ⟨sound,ordered,⟨fenced.seen,fenced.origin,fenced.spent,fenced.once,fenced.order,?_⟩,inv.later,inv.begun⟩
    refine (fenced.settled.and (fenced.accept held).persisted.settled).imp fun pair record holds => ?_
    rcases holds with memory | file
    · exact pair.1 record (.inl memory)
    · exact pair.2 record (.inr file)
  | annotated annotates =>
    have fenced := inv.fenced
    exact ⟨sound,ordered,⟨fenced.seen,fenced.origin,fenced.spent,fenced.once,fenced.order,fenced.settled⟩,inv.later,inv.begun⟩

/-- What holds of every state that a clear run reaches. -/
structure Retried (b : Backend) : Prop where
  sound : Ledgered b
  ordered : Ordered b
  fenced : Fenced b

theorem Retried.moves (inv : Retried c.start) (prompt : ¬ c.late) (untied : Untied c.start c.key) (moves : Moves c c.start b) :
    Along c b := by
  induction moves with
  | refl => exact ⟨inv.sound,inv.ordered,inv.fenced,.refl _,.inl rfl⟩
  | tail _ move ih => exact ih.move inv.fenced prompt untied move

theorem Retried.step {step : Step} (inv : Retried b) (clear : Clear b step) : Retried (b.step step) := by
  have prompt : Prompt b step := by
    cases step with
    | control request a => exact clear.1
    | _ => trivial
  have sound := inv.sound.step step
  have ordered := inv.ordered.step prompt
  have fenced := inv.fenced
  cases step with
  | control request a =>
    exact ⟨sound,ordered,(inv.moves (c := ⟨request.idempotencyKey,b,a.prepared = .late⟩) clear.1 clear.2
      (control_moves request a b)).fenced⟩
  | restore a =>
    obtain ⟨markers,restored,_⟩ := restoreControlMetadata_annotates a b
    rw [Backend.step,restored] at sound ordered ⊢
    exact ⟨sound,ordered,⟨fenced.seen,fenced.origin,fenced.spent,fenced.once,fenced.order,fenced.settled⟩⟩
  | touch change => exact ⟨sound,ordered,fenced.server (Later.touches b.server [change])⟩
  | cleanup key =>
    exact ⟨sound,ordered,⟨fenced.seen,fenced.origin,fenced.spent,fenced.once,fenced.order,fenced.settled⟩⟩
  | restart =>
    refine ⟨sound,ordered,⟨fenced.seen,fenced.origin,fenced.spent,fenced.once,fenced.order,?_⟩⟩
    exact fenced.settled.imp fun pair record holds => pair record (.inr (holds.elim id id))
  | apply key bundle changes written =>
    obtain ⟨server,markers,stepped,later,_⟩ := apply_changes b key bundle changes written
    rw [stepped] at sound ordered ⊢
    have moved := fenced.server later
    exact ⟨sound,ordered,⟨moved.seen,moved.origin,moved.spent,moved.once,moved.order,moved.settled⟩⟩

theorem retried_run {server : Server} {steps : List Step} (clear : Guarded Backend.step Clear (.begin server) steps) :
    Retried (run Backend.step (.begin server) steps) := by
  have init : Retried (.begin server) := by
    refine ⟨ledgered_run server [],⟨.nil,fun _ member => nomatch member⟩,?_⟩
    exact ⟨fun _ member => (nomatch member),fun _ member => (nomatch member),fun _ member => (nomatch member),.nil,.nil,.nil⟩
  exact guarded_keeps (fun b step (inv : Retried b) => inv.step) init clear

/-- The request cannot change the Job any more, and has not since. -/
structure Frozen (earlier : Preparation) (object : JobName) (past : List Effect) (b : Backend) : Prop where
  member : earlier ∈ b.prepared
  spent : ∀ mutation ∈ earlier.record.mutations, mutation.object = object → Spent b.server object mutation.expectedVersion
  effects : b.effects.filter (fun effect => effect.key = earlier.key ∧ effect.mutation.object = object) = past

section Frozen
variable {earlier : Preparation} {object : JobName} {past : List Effect}

theorem Frozen.later (frozen : Frozen earlier object past b) {b' : Backend} (later : Later b.server b'.server)
    (prepared : b.prepared ⊆ b'.prepared) (effects : b'.effects = b.effects) : Frozen earlier object past b' :=
  ⟨prepared frozen.member,fun mutation listed same => (frozen.spent mutation listed same).later later,effects ▸ frozen.effects⟩

theorem Frozen.move {b' : Backend} (inv : Along c b) (frozen : Frozen earlier object past b) (move : Move c b b') :
    Frozen earlier object past b' := by
  cases move with
  | server later => exact frozen.later later (List.Subset.refl _) rfl
  | effect changed held member there current =>
    refine ⟨frozen.member,fun mutation listed same => (frozen.spent mutation listed same).later (.put _ _ _),?_⟩
    rw [List.filter_append,frozen.effects,List.filter_singleton,decide_eq_false,cond_false,List.append_nil]
    rintro ⟨named,same⟩
    obtain ⟨prepared,listed,known,traces⟩ := inv.sound.traced _ _ (.inl held)
    cases inv.ordered.unique listed frozen.member (.inr (known.trans named))
    have target := frozen.spent _ (traces.targets ▸ List.mem_map_of_mem member) same
    exact absurd current (target.jobs _ (same ▸ there)).ne'
  | prepared => exact frozen.later (.refl _) (List.subset_append_left _ _) rfl
  | leaked => exact frozen.later (.refl _) (List.subset_append_left _ _) rfl
  | _ => exact frozen.later (.refl _) (List.Subset.refl _) rfl

theorem Frozen.moves (inv : Retried c.start) (prompt : ¬ c.late) (untied : Untied c.start c.key)
    (frozen : Frozen earlier object past c.start) (moves : Moves c c.start b) : Frozen earlier object past b := by
  induction moves with
  | refl => exact frozen
  | tail before move ih => exact ih.move (inv.moves prompt untied before) move

theorem Frozen.step {step : Step} (inv : Retried b) (clear : Clear b step) (frozen : Frozen earlier object past b) :
    Frozen earlier object past (b.step step) := by
  cases step with
  | control request a =>
    exact frozen.moves (c := ⟨request.idempotencyKey,b,a.prepared = .late⟩) inv clear.1 clear.2 (control_moves request a b)
  | restore a =>
    obtain ⟨markers,restored,_⟩ := restoreControlMetadata_annotates a b
    rw [Backend.step,restored]
    exact frozen.later (.refl _) (List.Subset.refl _) rfl
  | apply key bundle changes written =>
    obtain ⟨server,markers,stepped,later,_⟩ := apply_changes b key bundle changes written
    rw [stepped]
    exact frozen.later later (List.Subset.refl _) rfl
  | touch change => exact frozen.later (Later.touches b.server [change]) (List.Subset.refl _) rfl
  | restart => exact frozen.later (.refl _) (List.Subset.refl _) rfl
  | cleanup key => exact frozen.later (.refl _) (List.Subset.refl _) rfl

end Frozen

theorem retry_never_undoes (server : Server) (first second : List Step)
    (clear : Guarded Backend.step Clear (.begin server) (first ++ second)) :
    let b := run Backend.step (.begin server) first
    let b' := run Backend.step b second
    (b'.effects.Pairwise fun effect other => effect.key = other.key → effect.mutation.object ≠ other.mutation.object) ∧
    ∀ earlier later, [earlier,later].Sublist b.prepared → ∀ record, b.controls.lookup later.key = some record →
      record.committed = true → ∀ object, object ∈ record.mutations.map JobControlMutation.object →
      b'.effects.filter (fun effect => effect.key = earlier.key ∧ effect.mutation.object = object) =
        b.effects.filter (fun effect => effect.key = earlier.key ∧ effect.mutation.object = object) := by
  intro b b'
  have whole : Retried b' := by
    have reached := retried_run clear
    rw [run_append] at reached
    exact reached
  refine ⟨whole.fenced.once,?_⟩
  intro earlier later pair record held committed object touched
  obtain ⟨before,after⟩ := guarded_append.mp clear
  have inv : Retried b := retried_run before
  -- the later request has completed its target for the Job, so the earlier one is left no version to act at
  have frozen : Frozen earlier object
      (b.effects.filter fun effect => effect.key = earlier.key ∧ effect.mutation.object = object) b := by
    refine ⟨pair.subset (by simp),?_,rfl⟩
    intro mutation listed same
    obtain ⟨target,member,rfl⟩ := List.mem_map.mp touched
    obtain ⟨progress,there,rfl⟩ := List.mem_map.mp member
    obtain ⟨prepared,_,_,traces⟩ := inv.sound.traced later.key record (.inl held)
    have closed : record.pending = false := by
      unfold ControlRecord.committed at committed
      cases pending : record.pending with
      | false => rfl
      | true => rw [pending] at committed; cases committed
    have spent := List.pairwise_iff_forall_sublist.mp inv.fenced.settled pair record (.inl held) progress there
      ((traces.closed closed).2 progress there) mutation listed same
    exact same ▸ spent
  have kept : Retried b' ∧ Frozen earlier object _ b' :=
    guarded_keeps (fun b step (both : Retried b ∧ Frozen earlier object _ b) clear =>
      ⟨both.1.step clear,both.2.step both.1 clear⟩) ⟨inv,frozen⟩ after
  exact kept.2.effects

section Demo

def unsent : Answers := { smooth with executions := fun _ => ⟨⟨[],true⟩,.done,.done,⟨[],false,[],true⟩,.done⟩ }

/-- The pause is prepared and does not reach the server; the resume is prepared after it and takes effect. -/
def demoResumed : List Step :=
  [demoApply,.control (demoRequest .pause "pause") unsent,.control (demoRequest .resume "resume") smooth]

def demoRetry : List Step := [.control (demoRequest .pause "pause") smooth]

theorem untied_of_fresh (fresh : b.controls.lookup key = none) : Untied b key :=
  fun _ held => nomatch fresh.symm.trans held

theorem retry_never_undoes_demo : Guarded Backend.step Clear (.begin demoServer) (demoResumed ++ demoRetry) ∧
    (run Backend.step (run Backend.step (.begin demoServer) demoResumed) demoRetry).effects.Pairwise fun effect other =>
      effect.key = other.key → effect.mutation.object ≠ other.mutation.object := by
  have prompt : Write.done ≠ .late := by decide
  have before : Guarded Backend.step Clear (.begin demoServer) demoResumed :=
    ⟨trivial,⟨prompt,untied_of_fresh (by decide +kernel)⟩,⟨prompt,untied_of_fresh (by decide +kernel)⟩,trivial⟩
  have targets : ((run Backend.step (.begin demoServer) demoResumed).controls.lookup "pause").map
      ControlRecord.targetProgress = some [⟨"ns/a",⟨⟨"ns/a",1⟩,.pause,1⟩,.ambiguous⟩] := by decide +kernel
  have resumed : (run Backend.step (.begin demoServer) demoResumed).server.jobs.lookup ⟨"ns/a",1⟩ =
      some ⟨2,false,false,false,false,0⟩ := by decide +kernel
  have untied : Untied (run Backend.step (.begin demoServer) demoResumed) "pause" := by
    intro record held progress member _ job there shown
    rw [held] at targets
    rw [Option.some.inj targets,List.mem_singleton] at member
    subst member
    cases resumed.symm.trans there
    cases shown
  have clear : Guarded Backend.step Clear (.begin demoServer) (demoResumed ++ demoRetry) :=
    guarded_append.mpr ⟨before,⟨prompt,untied⟩,trivial⟩
  exact ⟨clear,(retry_never_undoes demoServer demoResumed demoRetry clear).1⟩

/-- The pause is prepared and does not reach the server; the resume, prepared at the same version, does not either, and its
    retry finds the Job as asked for. Then the retry of the pause takes effect. -/
def demoUndone : List Step :=
  [demoApply,.control (demoRequest .pause "pause") unsent,.control (demoRequest .resume "resume") unsent,
    .control (demoRequest .resume "resume") smooth]

theorem earlier_pause_takes_effect :
    let b := run Backend.step (.begin demoServer) demoUndone
    let b' := b.step (.control (demoRequest .pause "pause") smooth)
    b.prepared.map Preparation.key = ["pause","resume"] ∧ revisionOf b "resume" = some (true,2) ∧
    b.effects = [] ∧ b'.effects = [⟨"pause",⟨⟨"ns/a",1⟩,.pause,1⟩⟩] ∧
    (b'.server.jobs.lookup ⟨"ns/a",1⟩).map Job.suspend = some true := by decide +kernel

end Demo

end TgsRl.Controls
