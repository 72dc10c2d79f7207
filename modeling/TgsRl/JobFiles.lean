import TgsRl.Gob
import TgsRl.Jobs
import TgsRl.Loops

/-!
The file repository of `job-controller-go`. An update runs its callback on a copy of the contents
and writes the whole of it into the journal; a repository opened on the directory reads it back. The
records are protobuf messages, whose wrappers of a oneof nobody registers: a job with a typed
operand in its contract cannot be stored (`operand_refused`).
-/
namespace TgsRl.JobFiles
open Jobs Gob Loops

/-- The base types that `init` registers. -/
def registered : List String :=
  ["tgsrlv1.RLTrainingJob","tgsrlv1.JobRun","tgsrlv1.Operation","tgsrlv1.JobEvent","state.IdempotencyRecord",
   "state.persistedState","state.journalRecord"]

/-- The wrappers of the oneof of `SemanticValue`, the only interface type in the stored messages. -/
def semanticKinds : List String :=
  ["tgsrlv1.SemanticValue_StringValue","tgsrlv1.SemanticValue_Int64Value","tgsrlv1.SemanticValue_Uint64Value",
   "tgsrlv1.SemanticValue_DoubleValue","tgsrlv1.SemanticValue_BoolValue","tgsrlv1.SemanticValue_BytesValue",
   "tgsrlv1.SemanticValue_ObjectValue","tgsrlv1.SemanticValue_ListValue"]

/-- What `captureRepository` takes and `restore` puts back; maps are lists of their entries. -/
structure Contents where
  jobs : List (String × Value)
  runs : List (String × List (String × Value))
  operations : List (String × Value)
  idempotency : List (String × IdempotencyRecord)
  events : List (Nat × Value)
  nextSequence : Nat
  deriving DecidableEq

def Contents.empty : Contents := ⟨[],[],[],[],[],0⟩

def Contents.messages (c : Contents) : List Value :=
  c.jobs.map Prod.snd ++ c.runs.flatMap (fun job => job.2.map Prod.snd) ++ c.operations.map Prod.snd ++ c.events.map Prod.snd

/-- Why the journal record cannot be encoded: what stands around the messages always can. -/
def Contents.encodeError (c : Contents) : Option String := c.messages.findSome? (Value.encodeError registered)

def Contents.arrives (c : Contents) : Contents :=
  { c with
    jobs := c.jobs.map (Prod.map id Value.arrives)
    runs := c.runs.map (Prod.map id (List.map (Prod.map id Value.arrives)))
    operations := c.operations.map (Prod.map id Value.arrives)
    events := c.events.map (Prod.map id Value.arrives) }

/-- The contents in memory, and those that the journal is decoded to. -/
structure FileRepository where
  memory : Contents
  journal : Option Contents

/-- `Update`, and its error. -/
def FileRepository.update (r : FileRepository) (fn : Contents → Except String Contents) : FileRepository × Option String :=
  match fn r.memory with
  | .error err => (r,some err)
  | .ok working => match working.encodeError with
    | some err => (r,some ("state: encode temp file for journal.gob: " ++ err))
    | none => (⟨working,some working.arrives⟩,none)

/-- The contents of a repository that is opened on the directory. -/
def FileRepository.reopen (r : FileRepository) : Contents := r.journal.getD .empty

def FileRepository.new : FileRepository := ⟨.empty,none⟩

def Contents.Valid (c : Contents) : Prop := ∀ message ∈ c.messages, message.typed semanticKinds = true

def Contents.Unset (c : Contents) : Prop := ∀ message ∈ c.messages, message.unset = true

/-- No message has an unknown field, or an optional number, text or truth value that is present and zero. -/
def Contents.Lossless (c : Contents) : Prop := ∀ message ∈ c.messages, message.lossless = true

theorem encodes_iff {c : Contents} (valid : c.Valid) : c.encodeError = none ↔ c.Unset := by
  have foreign : ∀ type ∈ semanticKinds, type ∉ registered := by decide
  rw [Contents.encodeError,List.findSome?_eq_none_iff]
  exact forall₂_congr (fun message member => encodeError_iff foreign message (valid message member))

theorem map_same_iff {α β : Type} {f : β → β} {entries : List (α × β)} :
    entries.map (Prod.map id f) = entries ↔ ∀ entry ∈ entries, f entry.2 = entry.2 := by
  have same : entries.map (Prod.map id f) = entries ↔ entries.map (Prod.map id f) = entries.map id := by rw [List.map_id]
  rw [same,List.map_inj_left]
  exact forall₂_congr (fun entry _ => by rw [Prod.ext_iff]; simp)

theorem arrives_same_iff (c : Contents) : c.arrives = c ↔ c.Lossless := by
  obtain ⟨jobs,runs,operations,idempotency,events,next⟩ := c
  simp only [Contents.arrives,Contents.mk.injEq,map_same_iff,Contents.Lossless,Contents.messages,List.mem_append,
    List.mem_map,List.mem_flatMap,arrives_iff,and_true,true_and]
  constructor
  · rintro ⟨job,run,operation,event⟩ message (((⟨e,member,rfl⟩ | ⟨e,member,f,inside,rfl⟩) | ⟨e,member,rfl⟩) | ⟨e,member,rfl⟩)
    · exact job e member
    · exact run e member f inside
    · exact operation e member
    · exact event e member
  · intro all
    exact ⟨fun e member => all _ (.inl (.inl (.inl ⟨e,member,rfl⟩))),
      fun e member f inside => all _ (.inl (.inl (.inr ⟨e,member,f,inside,rfl⟩))),
      fun e member => all _ (.inl (.inr ⟨e,member,rfl⟩)),fun e member => all _ (.inr ⟨e,member,rfl⟩)⟩

/-- A callback that returns nil, and stores protobuf messages. -/
abbrev Callback := { fn : Contents → Contents // ∀ c, c.Valid → (fn c).Valid }

def FileRepository.step (r : FileRepository) (fn : Callback) : FileRepository := (r.update (fun c => .ok (fn.1 c))).1

theorem update_iff {r : FileRepository} (fn : Callback) (valid : r.memory.Valid) :
    (r.update (fun c => .ok (fn.1 c))).2 = none ↔ (fn.1 r.memory).Unset := by
  rw [← encodes_iff (fn.2 _ valid),FileRepository.update]
  dsimp only
  split
  · next err failed => simp [failed]
  · next done => simp [done]

theorem update_done {r : FileRepository} (fn : Callback) (valid : r.memory.Valid) (unset : (fn.1 r.memory).Unset) :
    r.step fn = ⟨fn.1 r.memory,some (fn.1 r.memory).arrives⟩ := by
  rw [FileRepository.step,FileRepository.update]
  dsimp only
  rw [(encodes_iff (fn.2 _ valid)).mpr unset]

theorem step_valid {r : FileRepository} (fn : Callback) (valid : r.memory.Valid) (unset : (fn.1 r.memory).Unset) :
    (r.step fn).memory.Valid := by
  rw [update_done fn valid unset]
  exact fn.2 _ valid

theorem new_valid : FileRepository.new.memory.Valid := by
  intro message member
  cases member

theorem reopen_arrives {fns : List Callback}
    (unset : Guarded FileRepository.step (fun r fn => (fn.1 r.memory).Unset) .new fns) :
    (run FileRepository.step .new fns).reopen = (run FileRepository.step .new fns).memory.arrives := by
  have both := guarded_keeps (P := fun r : FileRepository => r.memory.Valid ∧ r.reopen = r.memory.arrives)
    (fun r fn held unset => ⟨step_valid fn held.1 unset,by rw [update_done fn held.1 unset]; rfl⟩)
    ⟨new_valid,rfl⟩ unset
  exact both.2

/-- Every update succeeds and the reopened repository holds what the last one left, exactly if no update stores a
    message with a oneof that is set, and the last contents arrive unchanged. -/
theorem restart_unchanged_iff (fns : List Callback) :
    ((∀ before fn after, fns = before ++ fn :: after →
        ((run FileRepository.step .new before).update (fun c => .ok (fn.1 c))).2 = none) ∧
      (run FileRepository.step .new fns).reopen = (run FileRepository.step .new fns).memory) ↔
    (Guarded FileRepository.step (fun r fn => (fn.1 r.memory).Unset) .new fns ∧
      (run FileRepository.step .new fns).memory.Lossless) := by
  have exactly : ∀ (r : FileRepository) (fn : Callback), r.memory.Valid →
      ((r.update (fun c => .ok (fn.1 c))).2 = none ↔ (fn.1 r.memory).Unset) := fun _ fn valid => update_iff fn valid
  have keeps : ∀ (r : FileRepository) (fn : Callback), r.memory.Valid → (fn.1 r.memory).Unset → (r.step fn).memory.Valid :=
    fun _ fn valid unset => step_valid fn valid unset
  rw [along_iff_guarded exactly keeps new_valid fns]
  refine and_congr_right (fun unset => ?_)
  rw [reopen_arrives unset]
  exact arrives_same_iff _

def zeros (count : Nat) : List Value := List.replicate count (.scalar "")

def stringValue (text : String) : Value :=
  .pointer (.struct (.ofList [.interface "tgsrlv1.SemanticValue_StringValue" (.pointer (.struct (.ofList [.scalar text]) ""))]) "")

def condition (operands : List Value) : Value :=
  .pointer (.struct (.ofList ([.scalar "condition-1"] ++ zeros 4 ++ [.list .nil,.list (.ofList operands),.list .nil] ++ zeros 2)) "")

def executionContract (conditions : List Value) : Value :=
  .pointer (.struct (.ofList ([.scalar "contract-1",.scalar "v1",.null,.list .nil,.list .nil,.null,.null,.null,.null,
    .list (.ofList conditions),.list .nil])) "")

def rlTrainingJob (jobId : String) (contract : Value) : Value :=
  .pointer (.struct (.ofList ([.scalar jobId] ++ zeros 3 ++ [.null,contract,.null,.null] ++ zeros 4 ++ [.null,.list .nil] ++
    zeros 5)) "")

def putJob (contract : Value) (valid : (rlTrainingJob "job-1" contract).typed semanticKinds = true) : Callback :=
  ⟨fun _ => { Contents.empty with jobs := [("job-1",rlTrainingJob "job-1" contract)] },fun _ _ message member => by
    obtain rfl : message = rlTrainingJob "job-1" contract := by simpa [Contents.messages,Contents.empty] using member
    exact valid⟩

theorem operand_refused :
    (FileRepository.new.update (fun c => .ok ((putJob (executionContract [condition [stringValue "ready"]]) rfl).1 c))).2 =
      some ("state: encode temp file for journal.gob: gob: type not registered for interface: " ++
        "tgsrlv1.SemanticValue_StringValue") := by
  decide +kernel

end TgsRl.JobFiles
