import TgsRl.Attempts

/-!
The two places of an operation: the operation table, and the list of its run. An admission that
finds its run waiting puts a new operation into the table alone (`admission_unlisted`), and a
rejected command brings back an old list.
-/
namespace TgsRl.OperationTable
open Jobs JobController JobEffects Attempts Loops

structure Agrees (s : Store) : Prop where
  listed : ∀ key run, s.runs.lookup key = some run → ∀ o ∈ run.operations, s.operations.lookup o.operationId = some o
  stored : ∀ id o, s.operations.lookup id = some o → o.runId ≠ "" →
    ∃ run, s.runs.lookup (o.jobId,o.runId) = some run ∧ o ∈ run.operations

/-- An admission that finds the latest run admitted or waiting finds the run's admission, a RETRY that is accepted is addressed
    to the latest attempt, and a command is rejected while the other operations of its run are those of the copy it brings
    back. -/
def Tabling (w : World) (a : Step) : Prop := Proper w a ∧ RetriesLatest w a ∧ match a with
  | .admitJob request _ _ => ∀ latest ∈ w.store.getLatestRun request.jobId,
      latest.runState = .admitted ∨ latest.runState = .waiting →
      (w.store.getLatestOperation latest.jobId latest.runId .admission).isSome = true
  | .dispatched index err _ => ∀ e ∈ err, isAmbiguousRuntimeCommandError e = false → ∀ plan ∈ w.plans[index]?,
      ∀ t ∈ w.store.operations.lookup plan.operation.operationId, t.state = .running →
      ∀ run ∈ w.store.runs.lookup (plan.job.jobId,plan.run.runId), ∀ stable ∈ plan.stableRun,
      ∀ o ∈ stable.operations ++ run.operations, o.operationId ≠ plan.operation.operationId →
        (o ∈ stable.operations ↔ o ∈ run.operations)
  | _ => True

instance (w : World) : ∀ a, Decidable (Tabling w a)
  | .command .. => @instDecidableAnd _ _ _ (@instDecidableAnd _ _ (by dsimp only [RetriesLatest]; infer_instance) (.isTrue trivial))
  | .admitJob .. | .dispatched .. => @instDecidableAnd _ _ _ (@instDecidableAnd _ _ (.isTrue trivial) (by dsimp only; infer_instance))
  | .createJob .. | .createJobRun .. | .resume .. | .prepared .. | .report _ | .record _ | .reconciliation .. | .restart =>
    @instDecidableAnd _ _ _ (.isTrue ⟨trivial,trivial⟩)

variable {w : World} {a : Step} {write : Write}

theorem replaced_bound (sound : Sound w) (agrees : Agrees w.store) (apart : Apart w.store write) {x o : Operation} (written : write.operation = some x) {key : String × String} {run : JobRun}
    (stored : w.store.runs.lookup key = some run) (member : o ∈ run.operations) (own : x.operationId = o.operationId) :
    key = (x.jobId,x.runId) := by
  obtain ⟨place,formed⟩ := sound.runs key run stored
  obtain ⟨job,id,_⟩ := formed.listed o member
  have held := agrees.listed key run stored o member
  rw [← own] at held
  have same := apart.operation x written o held
  rw [place,← same.jobId,← same.runId,job,id]

/-- A write that puts an operation into the table and into the list of its run. -/
theorem agrees_written (sound : Sound w) (agrees : Agrees w.store) (apart : Apart w.store write) {run : JobRun} (written : write.run = some run)
    (bound : ∀ x, write.operation = some x → x.jobId = run.jobId ∧ x.runId = run.runId)
    (members : ∀ o, o ∈ run.operations ↔ write.operation = some o ∨
      ∃ old, w.store.runs.lookup (run.jobId,run.runId) = some old ∧ o ∈ old.operations ∧
        ∀ x, write.operation = some x → o.operationId ≠ x.operationId) : Agrees (w.store.put write) := by
  -- the table changes at the written operation only
  have table : ∀ o : Operation, (∀ x, write.operation = some x → o.operationId ≠ x.operationId) →
      (w.store.put write).operations.lookup o.operationId = w.store.operations.lookup o.operationId := by
    intro o other
    cases new : write.operation with
    | none => exact put_no_operation new _
    | some x => rw [put_operation new,if_neg (fun same => other x new same.symm)]
  constructor
  · intro key r found o member
    rw [put_run written] at found
    split at found
    · cases found
      rcases (members o).mp member with new | ⟨old,stored,held,other⟩
      · rw [put_operation new,if_pos rfl]
      · rw [table o other]
        exact agrees.listed _ old stored o held
    · next elsewhere =>
      rw [table o]
      · exact agrees.listed key r found o member
      · intro x new same
        refine elsewhere ?_
        rw [replaced_bound sound agrees apart new found member same.symm,(bound x new).1,(bound x new).2]
  · intro id o found named
    cases new : write.operation with
    | none =>
      rw [put_no_operation new] at found
      obtain ⟨r,stored,member⟩ := agrees.stored id o found named
      rw [put_run written]
      split
      · next here =>
        rw [← here] at stored
        exact ⟨run,rfl,(members o).mpr (.inr ⟨r,stored,member,by simp [new]⟩)⟩
      · exact ⟨r,stored,member⟩
    | some x =>
      rw [put_operation new] at found
      split at found
      · cases found
        rw [put_run written,if_pos (by rw [(bound o new).1,(bound o new).2])]
        exact ⟨run,rfl,(members o).mpr (.inl new)⟩
      · next other =>
        obtain ⟨r,stored,member⟩ := agrees.stored id o found named
        rw [put_run written]
        split
        · next here =>
          rw [← here] at stored
          refine ⟨run,rfl,(members o).mpr (.inr ⟨r,stored,member,?_⟩)⟩
          intro y new'
          cases new.symm.trans new'
          rw [(sound.operations id o found).1]
          exact Ne.symm other
        · exact ⟨r,stored,member⟩

theorem agrees_unlisted (sound : Sound w) (agrees : Agrees w.store) (apart : Apart w.store write) (none : write.run = none) (alone : ∀ x, write.operation = some x → x.runId = "") : Agrees (w.store.put write) := by
  constructor
  · intro key run found o member
    rw [put_no_run none] at found
    cases new : write.operation with
    | none => rw [put_no_operation new]; exact agrees.listed key run found o member
    | some x =>
      rw [put_operation new,if_neg]
      · exact agrees.listed key run found o member
      · intro same
        have place := replaced_bound sound agrees apart new found member same
        obtain ⟨own,formed⟩ := sound.runs key run found
        exact ne_of_trimSpace formed.named.2 (((Prod.mk.inj (own.symm.trans place)).2).trans (alone x new))
  · intro id o found named
    cases new : write.operation with
    | none =>
      rw [put_no_operation new] at found
      obtain ⟨run,stored,member⟩ := agrees.stored id o found named
      exact ⟨run,by rw [put_no_run none]; exact stored,member⟩
    | some x =>
      rw [put_operation new] at found
      split at found
      · cases found
        exact absurd (alone _ new) named
      · obtain ⟨run,stored,member⟩ := agrees.stored id o found named
        exact ⟨run,by rw [put_no_run none]; exact stored,member⟩

theorem effect_agrees (sound : Sound w) (agrees : Agrees w.store) (tabling : Tabling w a) (apart : Apart w.store write)
    (effect : Effect w a write) : Agrees (w.store.put write) := by
  cases effect with
  | quiet _ run operation => exact agrees_unlisted sound agrees apart run (fun x new => by cases operation.symm.trans new)
  | unbound _ run operation _ alone _ =>
    refine agrees_unlisted sound agrees apart run ?_
    intro x new
    cases operation.symm.trans new
    exact alone
  | ensured step stored missing waits _ _ _ =>
    subst step
    have there := tabling.2.2 _ stored waits
    rw [missing] at there
    cases there
  | fresh _ numbered run made _ =>
    have absent := fresh_absent sound apart tabling.2.1 numbered run rfl rfl
    refine agrees_written sound agrees apart run ?_ ?_
    · intro x new
      obtain ⟨_,_,_,_,_,_,_,rfl⟩ := made x new
      exact ⟨rfl,rfl⟩
    · intro o
      constructor
      · intro member
        exact .inl (by simpa using member)
      · rintro (new | ⟨old,stored,_⟩)
        · simpa using new
        · cases absent.symm.trans stored
  | @updated old run written stored _ listed issued _ _ _ =>
    obtain ⟨job,id⟩ := Prod.mk.inj (sound.runs _ old stored).1
    refine agrees_written sound agrees apart written ?_ ?_
    · intro x new
      rw [job,id]
      exact issued_bound sound stored (issued x new)
    · intro o
      rw [listed]
      cases new : write.operation with
      | none => simp [stored]
      | some x =>
        simp only [Option.elim_some,appendOperation_mem,stored,Option.some.injEq,exists_eq_left',forall_eq']
        rw [eq_comm]
  | @rejected index err now plan command job old stable t x step planned work moves stored copies same clear running failed
      written =>
    have own : x.operationId = plan.operation.operationId := by
      rw [failed]
      exact (sound.operations _ t running.1).1
    obtain ⟨shaped,t',tabled,alike⟩ := sound.plans plan (List.mem_of_getElem? planned)
    obtain rfl := Option.some.inj (tabled.symm.trans running.1)
    subst step
    have others := tabling.2.2 err rfl clear plan planned t' running.1 running.2 old
      (by rw [same.2.1,same.2.2]; exact stored) stable copies.2
    refine agrees_written sound agrees apart written.2.1 ?_ ?_
    · intro y new
      cases written.2.2.symm.trans new
      rw [failed]
      exact ⟨alike.jobId.trans (shaped.bound.1.trans same.2.1),alike.runId.trans (shaped.bound.2.trans same.2.2)⟩
    · intro o
      simp only [appendOperation_mem,written.2.2,stored,Option.some.injEq,exists_eq_left',forall_eq']
      rw [own,eq_comm]
      refine or_congr_right (and_congr_left fun other => ?_)
      by_cases listed : o ∈ stable.operations ++ old.operations
      · exact others o listed other
      · simp only [List.mem_append,not_or] at listed
        exact iff_of_false listed.1 listed.2

theorem step_agrees (sound : Sound w) (agrees : Agrees w.store) (tabling : Tabling w a) : Agrees (w.step a).store := by
  unfold World.step
  split
  · exact agrees
  · next done => exact effect_agrees sound agrees tabling (tabling.1.apart done) (effect_of sound done)

theorem filter_own {operations : List Operation} {o : Operation} (unique : (operations.map Operation.operationId).Nodup)
    (member : o ∈ operations) : operations.filter (fun x => decide (x.operationId = o.operationId)) = [o] := by
  induction operations with
  | nil => cases member
  | cons first rest ih =>
    rw [List.map_cons,List.nodup_cons] at unique
    obtain ⟨absent,unique⟩ := unique
    rcases List.mem_cons.mp member with rfl | later
    · have none : rest.filter (fun x => decide (x.operationId = o.operationId)) = [] := by
        rw [List.filter_eq_nil_iff]
        intro x held same
        exact absent (List.mem_map.mpr ⟨x,held,of_decide_eq_true same⟩)
      rw [List.filter_cons_of_pos (by simp),none]
    · rw [List.filter_cons_of_neg,ih unique later]
      intro same
      exact absent (List.mem_map.mpr ⟨o,later,(of_decide_eq_true same).symm⟩)

theorem operations_agree {steps : List Step} (guarded : Guarded World.step Tabling ⟨.empty,[]⟩ steps) {id : String}
    {o : Operation} (stored : (run World.step ⟨.empty,[]⟩ steps).store.operations.lookup id = some o) (named : o.runId ≠ "") :
    ∃ r, (run World.step ⟨.empty,[]⟩ steps).store.runs.lookup (o.jobId,o.runId) = some r ∧
      r.operations.filter (fun x => decide (x.operationId = o.operationId)) = [o] ∧
      (o.state = .running → isLifecycle o.type = true → ∀ now code message,
        (completeLatestOperation r o.type now).isSome = true ∧
        (failLatestRunningLifecycleOperation r now code message).isSome = true) := by
  obtain ⟨sound,agrees⟩ := guarded_keeps (P := fun w => Sound w ∧ Agrees w.store)
    (fun _ _ held tabling => ⟨step_sound held.1 tabling.1,step_agrees held.1 held.2 tabling⟩)
    ⟨empty_sound,by rintro key r ⟨⟩,by rintro id o ⟨⟩⟩ guarded
  obtain ⟨r,found,member⟩ := agrees.stored id o stored named
  refine ⟨r,found,filter_own (sound.runs _ r found).2.unique member,?_⟩
  intro running lifecycle now code message
  rw [completeLatestOperation,failLatestRunningLifecycleOperation,Option.isSome_map,Option.isSome_map]
  exact ⟨latestBy_some (List.mem_filter.mpr ⟨member,by simp [running]⟩),
    latestBy_some (List.mem_filter.mpr ⟨member,by simp [running,lifecycle]⟩)⟩

/-- A started run is terminated while the answer to START stays out; the RETRY of a run that has not ended is refused, and so
    is TERMINATE by the runtime. -/
def startUnanswered : List Step :=
  [.createJob jobA "" "" "" 0 0,.admitJob ⟨"a","","",""⟩ 1 1,.prepared 0 ⟨[],none⟩ 2,.command (order .start "") 3 2,
    .command (order .terminate "") 4 3,.dispatched 0 (some ⟨.deadlineExceeded,""⟩) 5,.command (order .retry "") 6 4,
    .dispatched 0 (some ⟨.failedPrecondition,""⟩) 7]

theorem operations_agree_unanswered :
    ∃ o r, (run World.step ⟨.empty,[]⟩ startUnanswered).store.operations.lookup o.operationId = some o ∧ o.type = .start ∧
      o.state = .running ∧ (run World.step ⟨.empty,[]⟩ startUnanswered).store.runs.lookup (o.jobId,o.runId) = some r ∧
      r.operations.filter (fun x => decide (x.operationId = o.operationId)) = [o] := by
  have facts : Guarded World.step Tabling ⟨.empty,[]⟩ startUnanswered ∧
      (run World.step ⟨.empty,[]⟩ startUnanswered).store.operations.lookup
        (begun .start "a" (runIDOf jobA 1) "" "" "" "" 3 2).operationId =
        some (begun .start "a" (runIDOf jobA 1) "" "" "" "" 3 2) := by decide +kernel
  obtain ⟨r,found,once,_⟩ := operations_agree facts.1 facts.2 (ne_of_trimSpace trimSpace_deterministicID)
  exact ⟨_,r,facts.2,rfl,rfl,found,once⟩

/-- A run is retried and prepared, and then the job is admitted again. -/
def admittedAgain : List Step :=
  [.createJob jobA "" "" "" 0 0,.createJobRun jobA "" "" 0,.command (order .terminate "") 1 1,
    .report (reached .terminated (runIDOf jobA 1) 1 2),.command (order .retry "") 3 2,.prepared 1 ⟨[],none⟩ 4,
    .admitJob ⟨"a","","",""⟩ 5 3]

theorem admission_unlisted : ∃ o ∈ (run World.step ⟨.empty,[]⟩ admittedAgain).store.operations.values, o.runId ≠ "" ∧
    ((run World.step ⟨.empty,[]⟩ admittedAgain).store.runs.lookup (o.jobId,o.runId)).map
      (fun r => r.operations.filter (fun x => decide (x.operationId = o.operationId))) = some [] := by
  decide +kernel

end TgsRl.OperationTable
