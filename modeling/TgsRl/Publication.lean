import TgsRl.Exclusion

/-!
Publications against the executor. `PreparePublishIntent` stages a copy of the whole durable state
and releases the lock of the Store; `Commit` later puts the copy in place of whatever the Store
holds by then.
-/
namespace TgsRl.Publication
open Resources Messages State Loops Transactions Settlements Intents Backing Exclusion

variable {F : Type}

/-- The calls with which the executor takes a transaction on. -/
def Progresses : Call F × Int → Prop
  | (.advance _,_) => True
  | (.finalize _,_) => True
  | _ => False

/-- What the first Store has recorded stands in the second: its records as they are, its finalized reservations, and a
    revision that is no lower. -/
structure Keeps (reached after : Store F) : Prop where
  records : ∀ id record, reached.transactions.lookup id = some record → after.transactions.lookup id = some record
  reservations : ∀ id reservation, reached.reservations.lookup id = some reservation → reservation.finalized = true →
    ∃ kept, after.reservations.lookup id = some kept ∧ kept.finalized = true
  revision : reached.snapshot.revision ≤ after.snapshot.revision

variable [Platform F] [DecidableEq F] {s : Store F} {calls : List (Call F × Int)}

theorem perform_counts {call : Call F × Int} (progresses : Progresses call) :
    perform s call = s ∨ ∃ id before record, s.transactions.lookup id = some before ∧
      record.generation = before.generation + 1 ∧ (perform s call).transactions = s.transactions.insert id record := by
  have change := perform_change s call
  generalize perform s call = next at change ⊢
  cases change with
  | same => exact .inl rfl
  | advanced found => exact .inr ⟨_,_,_,found,rfl,rfl⟩
  | @finalized request now record next done found settled written =>
    refine .inr ⟨_,record,finalizeRecord record request (retainedFor next record.planID) now,found,rfl,?_⟩
    rw [written,Store.setTransaction,finalizePlanResults_transactions settled]
  | created | begun | reserved | published => exact progresses.elim

theorem run_counted (progress : ∀ call ∈ calls, Progresses call) {id : String} {record : TransactionRecord F}
    (found : s.transactions.lookup id = some record) :
    ∃ counted ≤ calls.length, ∃ later, (run perform s calls).transactions.lookup id = some later ∧
      later.generation = record.generation + UInt64.ofNat counted := by
  induction calls generalizing s record with
  | nil => exact ⟨0,le_rfl,record,found,by simp⟩
  | cons call rest ih =>
    have later := fun c member => progress c (List.mem_cons_of_mem call member)
    rw [run_cons]
    rcases perform_counts (s := s) (progress call (by simp)) with same | ⟨other,before,next,foundOther,grown,written⟩
    · rw [same]
      obtain ⟨counted,few,last,reached,sum⟩ := ih later found
      exact ⟨counted,few.trans (by simp),last,reached,sum⟩
    · by_cases here : id = other
      · subst here
        rw [found] at foundOther
        cases foundOther
        obtain ⟨counted,few,last,reached,sum⟩ := ih (s := perform s call) later (by rw [written,AList.lookup_insert])
        refine ⟨counted + 1,Nat.succ_le_succ few,last,reached,?_⟩
        rw [sum,grown,UInt64.ofNat_add,UInt64.add_assoc,UInt64.add_comm 1]
        rfl
      · obtain ⟨counted,few,last,reached,sum⟩ := ih (s := perform s call) later
          (by rw [written,AList.lookup_insert_ne here,found])
        exact ⟨counted,few.trans (by simp),last,reached,sum⟩

/-- Once one of fewer than 2^64 calls has changed the Store, some record has another generation than before. -/
theorem run_ahead (progress : ∀ call ∈ calls, Progresses call) (few : calls.length < 2 ^ 64)
    (changed : ∃ call ∈ calls, perform s call ≠ s) :
    ∃ id before record, s.transactions.lookup id = some before ∧
      (run perform s calls).transactions.lookup id = some record ∧ record.generation ≠ before.generation := by
  induction calls with
  | nil => simp at changed
  | cons call rest ih =>
    have later := fun c member => progress c (List.mem_cons_of_mem call member)
    rw [List.length_cons] at few
    rcases perform_counts (s := s) (progress call (by simp)) with same | ⟨id,before,record,found,grown,written⟩
    · -- The call left the Store as it was, so one of the later calls changes it.
      obtain ⟨c,member,differs⟩ := changed
      rcases List.mem_cons.mp member with here | after
      · subst here
        exact absurd same differs
      · rw [run_cons,same]
        exact ih later (by omega) ⟨c,after,differs⟩
    · have here : (perform s call).transactions.lookup id = some record := by rw [written,AList.lookup_insert]
      obtain ⟨counted,less,last,reached,sum⟩ := run_counted later here
      refine ⟨id,before,last,found,reached,?_⟩
      rw [sum,grown,UInt64.add_assoc,ne_eq,UInt64.add_eq_left,← UInt64.toNat_inj,UInt64.toNat_add,UInt64.toNat_ofNat']
      simp only [UInt64.toNat_one,UInt64.toNat_zero]
      omega

theorem run_unchanged (unchanged : ∀ call ∈ calls, perform s call = s) : run perform s calls = s := by
  induction calls with
  | nil => rfl
  | cons call rest ih =>
    rw [run_cons,unchanged call (by simp)]
    exact ih (fun c member => unchanged c (by simp [member]))

/-- `Commit` keeps what the executor did since `PreparePublishIntent` when it did nothing and, among fewer than 2^64 calls,
    only then: as many calls could lead a generation round to where it was. -/
theorem publication_keeps_iff {s : Store F} {intent : SchedulingIntent F} {now : Int}
    {prepared : PreparedIntentPublication F} (calls : List (Call F × Int))
    (accepted : preparePublishIntent s intent now = .ok prepared) (progress : ∀ call ∈ calls, Progresses call) :
    ((∀ call ∈ calls, perform s call = s) → Keeps (run perform s calls) (prepared.commit (run perform s calls))) ∧
      (calls.length < 2 ^ 64 → Keeps (run perform s calls) (prepared.commit (run perform s calls)) →
        ∀ call ∈ calls, perform s call = s) := by
  obtain ⟨reservations,transactions,snapshot,room⟩ := preparePublishIntent_staged accepted
  constructor
  · intro unchanged
    rw [run_unchanged unchanged]
    refine ⟨?_,?_,?_⟩
    · intro id record found
      simp only [PreparedIntentPublication.commit,Store.restoreDurableState,transactions,found]
    · intro id reservation found finalized
      refine ⟨reservation,?_,finalized⟩
      simp only [PreparedIntentPublication.commit,Store.restoreDurableState,reservations,found]
    · simp only [PreparedIntentPublication.commit,Store.restoreDurableState,snapshot,publishedSnapshot]
      have below : s.snapshot.revision.toNat ≠ maxUint64.toNat := fun same => room (UInt64.toNat_inj.mp same)
      have bound := s.snapshot.revision.toNat_lt
      simp only [maxUint64,UInt64.toNat_ofNat] at below
      rw [UInt64.le_iff_toNat_le,UInt64.toNat_add]
      simp only [UInt64.toNat_one]
      omega
  · intro few keeps call member
    by_contra changed
    obtain ⟨id,before,record,found,reached,differs⟩ := run_ahead progress few ⟨call,member,changed⟩
    have restored := keeps.records id record reached
    -- The committed record is the one the publication was prepared with.
    have old : (prepared.commit (run perform s calls)).transactions.lookup id = some before := by
      simp only [PreparedIntentPublication.commit,Store.restoreDurableState,transactions,found]
    rw [old] at restored
    cases restored
    exact differs rfl

/-- A Store with a prepared transaction of the stage `s` of execution `e`. -/
def preparedStore : Store Int := run perform meetingStore advancingCalls

def otherIntent : SchedulingIntent Int :=
  { (default : SchedulingIntent Int) with
    executionId := "x"
    stageId := "t"
    version := 1
    submittedAt := some ⟨0,0⟩
    ttl := some ⟨100,0⟩
    validUntil := some ⟨100,0⟩
    idempotencyKey := "k"
    jobId := "j"
    policyVersion := "v"
    unitCount := 1
    resourcesPerUnit := some ⟨1,0,0,0,0⟩ }

/-- The executor starts to apply the prepared transaction. -/
def applyingCall : Call Int × Int := (.advance ⟨"p",3,.applying,.unset,"",none⟩,2)

/-- A second attempt to prepare fails on its generation, and the publication of the other intent keeps everything. -/
theorem publication_keeps_failed_call : ∃ prepared, preparePublishIntent preparedStore otherIntent 1 = .ok prepared ∧
    Keeps (run perform preparedStore [(.advance ⟨"p",2,.prepared,.unset,"",none⟩,2)])
      (prepared.commit (run perform preparedStore [(.advance ⟨"p",2,.prepared,.unset,"",none⟩,2)])) := by
  have accepted : (preparePublishIntent preparedStore otherIntent 1).toOption.any (fun _ => true) = true := by decide
  obtain ⟨prepared,accepted,_⟩ := ok_of_any accepted
  refine ⟨prepared,accepted,(publication_keeps_iff _ accepted ?_).1 ?_⟩
  · simp [Progresses]
  · intro call member
    rw [List.mem_singleton] at member
    subst member
    obtain ⟨err,failed,_⟩ := @error_of_any _ (advanceTransaction preparedStore ⟨"p",2,.prepared,.unset,"",none⟩ 2)
      .transactionConflict (by decide)
    simp [perform,failed,storeAfter]

/-- The transaction is applying when the publication of the other intent commits, and prepared again afterwards. -/
theorem commit_takes_back_advance : ∃ prepared, preparePublishIntent preparedStore otherIntent 1 = .ok prepared ∧
    ((run perform preparedStore [applyingCall]).transactions.lookup "p").map TransactionRecord.state = some .applying ∧
    ((prepared.commit (run perform preparedStore [applyingCall])).transactions.lookup "p").map TransactionRecord.state =
      some .prepared ∧
    ¬ Keeps (run perform preparedStore [applyingCall]) (prepared.commit (run perform preparedStore [applyingCall])) := by
  have accepted : (preparePublishIntent preparedStore otherIntent 1).toOption.any (fun _ => true) = true := by decide
  obtain ⟨prepared,accepted,_⟩ := ok_of_any accepted
  have restored : (prepared.commit (run perform preparedStore [applyingCall])).transactions = preparedStore.transactions :=
    (preparePublishIntent_staged accepted).2.1
  have before : (preparedStore.transactions.lookup "p").map TransactionRecord.state = some .prepared := by decide
  have applying : ((run perform preparedStore [applyingCall]).transactions.lookup "p").map TransactionRecord.state =
    some .applying := by decide
  refine ⟨prepared,accepted,applying,by rw [restored]; exact before,?_⟩
  intro keeps
  obtain ⟨record,found,state⟩ := Option.map_eq_some_iff.mp applying
  have kept := keeps.records "p" record found
  rw [restored] at kept
  rw [kept,Option.map_some,Option.some.injEq,state] at before
  cases before

end TgsRl.Publication
