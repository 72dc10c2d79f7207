import Mathlib.Tactic.Ring
import TgsRl.Loops

/-!
The journal of `storage/journal.go`. A record is written as a header of twelve bytes (magic, length
of the body, checksum) and a body (kind and key with their lengths, then the payload). `Replay`
tells a clean end from a torn record by the error of `io.ReadFull`, which is `io.EOF` where it finds
nothing to read; so it is after a header whose body is missing altogether. The checksum is any
function of the body.
-/
namespace TgsRl.Journal
open Loops

abbrev Bytes := List UInt8

/-- `BigEndian.PutUint16` and `PutUint32`, by their number of bytes. -/
def putUint : Nat → Nat → Bytes
  | 0,_ => []
  | width + 1,n => UInt8.ofNat (n / 256 ^ width) :: putUint width n

/-- `BigEndian.Uint16` and `Uint32`. -/
def uint (bytes : Bytes) : Nat := bytes.foldl (fun n byte => n * 256 + byte.toNat) 0

@[simp] theorem length_putUint (width n : Nat) : (putUint width n).length = width := by
  induction width with
  | zero => rfl
  | succ width ih => rw [putUint,List.length_cons,ih]

theorem foldl_putUint (width n start : Nat) :
    (putUint width n).foldl (fun n byte => n * 256 + byte.toNat) start = start * 256 ^ width + n % 256 ^ width := by
  induction width generalizing start with
  | zero => simp [putUint,Nat.mod_one]
  | succ width ih =>
    have digit : n % 256 ^ (width + 1) = n % 256 ^ width + 256 ^ width * (n / 256 ^ width % 256) := Nat.mod_pow_succ
    rw [putUint,List.foldl_cons,ih,UInt8.toNat_ofNat',digit]
    ring

theorem uint_putUint {width n : Nat} (small : n < 256 ^ width) : uint (putUint width n) = n := by
  rw [uint,foldl_putUint,Nat.zero_mul,Nat.zero_add,Nat.mod_eq_of_lt small]

/-- Strings are bytes here, as in the source. -/
structure JournalRecord where
  kind : Bytes
  key : Bytes
  payload : Bytes
  deriving DecidableEq, Repr

def journalMagic : Nat := 0x5447534a
def maxJournalBodyBytes : Nat := 64 * 2 ^ 20

inductive WriteError where
  | kindTooLong | keyTooLong
  | recordTooLarge (bodyLength : Nat)
  deriving DecidableEq, Repr

def journalRecordBodyLength (record : JournalRecord) : Except WriteError Nat :=
  if 2 ^ 16 - 1 < record.kind.length then .error .kindTooLong
  else if 2 ^ 16 - 1 < record.key.length then .error .keyTooLong
  else
    let bodyLength := 2 + record.kind.length + 2 + record.key.length + record.payload.length
    if maxJournalBodyBytes < bodyLength then .error (.recordTooLarge bodyLength) else .ok bodyLength

def body (record : JournalRecord) : Bytes :=
  putUint 2 record.kind.length ++ (record.kind ++ (putUint 2 record.key.length ++ (record.key ++ record.payload)))

variable (checksum : Bytes → UInt32)

def header (record : JournalRecord) : Bytes :=
  putUint 4 journalMagic ++ (putUint 4 (body record).length ++ putUint 4 (checksum (body record)).toNat)

def encodeJournalRecord (record : JournalRecord) : Except WriteError Bytes :=
  match journalRecordBodyLength record with
  | .error err => .error err
  | .ok _ => .ok (header checksum record ++ body record)

inductive ReadError where
  | eof | unexpectedEOF
  | corruptRecord (detail : String)
  | recordTooLarge (bodyLength : Nat)
  deriving DecidableEq, Repr

/-- `io.ReadFull` on a buffer of the given length: what is read, and what the reader has left. -/
def readFull (length : Nat) (reader : Bytes) : Except ReadError (Bytes × Bytes) :=
  if length = 0 then .ok ([],reader)
  else if reader = [] then .error .eof
  else if reader.length < length then .error .unexpectedEOF
  else .ok (reader.take length,reader.drop length)

/-- A read of the body, whose failure is a fault of the record. -/
def readField (field : String) (length : Nat) (reader : Bytes) : Except ReadError (Bytes × Bytes) :=
  match readFull length reader with
  | .error _ => .error (.corruptRecord field)
  | .ok read => .ok read

def decodeJournalRecord (reader : Bytes) : Except ReadError (JournalRecord × Bytes) := do
  let (header,reader) ← readFull 12 reader
  if uint (header.take 4) ≠ journalMagic then .error (.corruptRecord "bad magic")
  else
    let bodyLength := uint ((header.drop 4).take 4)
    if maxJournalBodyBytes < bodyLength then .error (.recordTooLarge bodyLength)
    else if bodyLength < 4 then .error (.corruptRecord "invalid body length")
    else
      let (body,reader) ← readFull bodyLength reader
      if uint (header.drop 8) ≠ (checksum body).toNat then .error (.corruptRecord "checksum mismatch")
      else
        let (kindLength,inner) ← readField "kind length" 2 body
        let (kind,inner) ← readField "kind" (uint kindLength) inner
        let (keyLength,inner) ← readField "key length" 2 inner
        let (key,payload) ← readField "key" (uint keyLength) inner
        .ok (⟨kind,key,payload⟩,reader)

/-- What `Replay` returns when it does not return nil. -/
inductive ReplayError (ε : Type) where
  | corruptJournal
  | record (err : ReadError)
  | visitor (err : ε)
  deriving DecidableEq, Repr

section Replay
variable {σ ε : Type} (visitor : σ → JournalRecord → Except ε σ)

/-- The loop of `Replay`, with the state of the visitor; none if it goes round too often. -/
def replayLoop : Nat → Bytes → σ → Option (σ × Option (ReplayError ε))
  | 0,_,_ => none
  | rounds + 1,reader,s => match decodeJournalRecord checksum reader with
    | .ok (record,reader) => match visitor s record with
      | .error err => some (s,some (.visitor err))
      | .ok s => replayLoop rounds reader s
    | .error .eof => some (s,none)
    | .error .unexpectedEOF => some (s,some .corruptJournal)
    | .error err => some (s,some (.record err))

/-- Every record takes up bytes, so there are fewer rounds than bytes, but for the last one. -/
def replay (file : Bytes) (s : σ) : Option (σ × Option (ReplayError ε)) := replayLoop checksum visitor (file.length + 1) file s

end Replay

def collect (seen : List JournalRecord) (record : JournalRecord) : Except Empty (List JournalRecord) := .ok (seen ++ [record])

/-- `Append` and `Replace` write the record. -/
def Written (record : JournalRecord) : Prop := ∃ bodyLength, journalRecordBodyLength record = .ok bodyLength

def frame (record : JournalRecord) : Bytes := header checksum record ++ body record

def file (records : List JournalRecord) : Bytes := records.flatMap (frame checksum)

/-- The records that end before the cut. -/
def contained : List JournalRecord → Nat → List JournalRecord
  | [],_ => []
  | record :: rest,cut => if (frame checksum record).length ≤ cut then
      record :: contained rest (cut - (frame checksum record).length) else []

/-- The cut is at the end of a record or at the start of the file. -/
def Boundary (records : List JournalRecord) (cut : Nat) : Prop := ∃ whole, whole <+: records ∧ (file checksum whole).length = cut

/-- The cut is right after the header of a record. -/
def AfterHeader (records : List JournalRecord) (cut : Nat) : Prop :=
  ∃ whole record, whole ++ [record] <+: records ∧ (file checksum whole).length + 12 = cut

/-- What is asked of a replay of the bytes before the cut, where the bytes are those of the records. -/
def TearNoticed (records : List JournalRecord) (bytes : Bytes) (cut : Nat) : Prop :=
  ∃ failure, replay checksum collect (bytes.take cut) [] = some (contained checksum records cut,failure) ∧
    (failure = none ↔ Boundary checksum records cut) ∧ (¬Boundary checksum records cut → failure = some .corruptJournal)

section Decode
variable {checksum} {record : JournalRecord}

theorem encode_eq_ok {wire : Bytes} (encoded : encodeJournalRecord checksum record = .ok wire) :
    Written record ∧ wire = frame checksum record := by
  rw [encodeJournalRecord] at encoded
  cases so : journalRecordBodyLength record with
  | error err =>
    rw [so] at encoded
    cases encoded
  | ok bodyLength =>
    rw [so] at encoded
    cases encoded
    exact ⟨⟨bodyLength,so⟩,rfl⟩

theorem encodeAll_eq_ok {records : List JournalRecord} {wires : List Bytes}
    (each : List.Forall₂ (fun record wire => encodeJournalRecord checksum record = .ok wire) records wires) :
    (∀ record ∈ records, Written record) ∧ wires.flatten = file checksum records := by
  induction each with
  | nil => exact ⟨by simp,rfl⟩
  | cons here _ ih =>
    obtain ⟨written,rfl⟩ := encode_eq_ok here
    refine ⟨?_,by rw [List.flatten_cons,ih.2,file,file,List.flatMap_cons]⟩
    intro record member
    rcases List.mem_cons.mp member with rfl | later
    · exact written
    · exact ih.1 record later

@[simp] theorem length_header : (header checksum record).length = 12 := by
  simp only [header,List.length_append,length_putUint]

theorem length_body :
    (body record).length = 2 + record.kind.length + 2 + record.key.length + record.payload.length := by
  simp only [body,List.length_append,length_putUint]
  omega

theorem length_frame : (frame checksum record).length = 12 + (body record).length := by
  rw [frame,List.length_append,length_header]

theorem written_bounds (written : Written record) :
    record.kind.length < 256 ^ 2 ∧ record.key.length < 256 ^ 2 ∧ (body record).length ≤ maxJournalBodyBytes := by
  obtain ⟨bodyLength,so⟩ := written
  simp only [journalRecordBodyLength] at so
  rw [length_body]
  split_ifs at so with longKind longKey large
  exact ⟨by omega,by omega,not_lt.mp large⟩

variable {left : Bytes}

theorem readFull_append (right : Bytes) : readFull left.length (left ++ right) = .ok (left,right) := by
  rw [readFull]
  by_cases empty : left = []
  · simp [empty]
  · have filled : left.length ≠ 0 := fun zero => empty (List.length_eq_zero_iff.mp zero)
    simp [filled,empty]

theorem readField_append {field : String} (right : Bytes) {length : Nat} (exactly : length = left.length) :
    readField field length (left ++ right) = .ok (left,right) := by
  rw [readField,exactly,readFull_append]

/-- The header is read and its length is right, so that reading goes on with the body. -/
theorem decode_header (written : Written record) (reader : Bytes) :
    decodeJournalRecord checksum (header checksum record ++ reader) = (do
      let (inner,reader) ← readFull (body record).length reader
      if (checksum (body record)).toNat ≠ (checksum inner).toNat then .error (.corruptRecord "checksum mismatch")
      else
        let (kindLength,inner) ← readField "kind length" 2 inner
        let (kind,inner) ← readField "kind" (uint kindLength) inner
        let (keyLength,inner) ← readField "key length" 2 inner
        let (key,payload) ← readField "key" (uint keyLength) inner
        .ok (⟨kind,key,payload⟩,reader)) := by
  obtain ⟨_,_,small⟩ := written_bounds written
  have fits : (body record).length < 256 ^ 4 := lt_of_le_of_lt small (by decide)
  have summed : (checksum (body record)).toNat < 256 ^ 4 := (checksum (body record)).toNat_lt
  have read : readFull 12 (header checksum record ++ reader) = .ok (header checksum record,reader) := by
    rw [← @length_header checksum record,readFull_append]
  have magic : uint ((header checksum record).take 4) = journalMagic := by
    rw [header,List.take_left' (length_putUint _ _)]
    exact uint_putUint (by decide)
  have length : uint (((header checksum record).drop 4).take 4) = (body record).length := by
    rw [header,List.drop_left' (length_putUint _ _),List.take_left' (length_putUint _ _)]
    exact uint_putUint fits
  have sum : uint ((header checksum record).drop 8) = (checksum (body record)).toNat := by
    rw [header,← List.append_assoc,List.drop_left' (by simp)]
    exact uint_putUint summed
  have enough : ¬(body record).length < 4 := by
    rw [length_body]
    omega
  simp only [decodeJournalRecord,read,bind,Except.bind,magic,length,sum,ne_eq,not_true_eq_false,if_false,not_lt.mpr small,enough]

theorem decode_frame (written : Written record) (rest : Bytes) :
    decodeJournalRecord checksum (frame checksum record ++ rest) = .ok (record,rest) := by
  obtain ⟨kind,key,_⟩ := written_bounds written
  rw [frame,List.append_assoc,decode_header written,readFull_append]
  simp only [bind,Except.bind,ne_eq,not_true_eq_false,if_false]
  rw [body,readField_append _ (length_putUint _ _).symm]
  simp only
  rw [readField_append _ (uint_putUint kind)]
  simp only
  rw [readField_append _ (length_putUint _ _).symm]
  simp only
  rw [readField_append _ (uint_putUint key)]

/-- A record that is cut off: nothing of it, or nothing of its body, is taken for the end. -/
theorem decode_torn (written : Written record) (rest : Bytes) {cut : Nat} (short : cut < (frame checksum record).length) :
    decodeJournalRecord checksum ((frame checksum record ++ rest).take cut) =
      .error (if cut = 0 ∨ cut = 12 then .eof else .unexpectedEOF) := by
  rw [List.take_append_of_le_length (le_of_lt short),frame]
  rw [length_frame] at short
  rcases Nat.lt_or_ge cut 12 with early | late
  · -- the header itself is short
    have part : ((header checksum record ++ body record).take cut).length = cut := by
      rw [List.length_take,List.length_append,length_header]
      omega
    have none : (header checksum record ++ body record).take cut = [] ↔ cut = 0 := by
      rw [← List.length_eq_zero_iff,part]
    simp only [decodeJournalRecord,readFull,part,none,bind,Except.bind]
    by_cases zero : cut = 0
    · simp [zero]
    · simp [zero,early,ne_of_lt early]
  · obtain ⟨more,rfl⟩ := Nat.exists_eq_add_of_le late
    have split : (header checksum record ++ body record).take (12 + more) = header checksum record ++ (body record).take more := by
      rw [← @length_header checksum record,List.take_length_add_append]
    have part : ((body record).take more).length = more := by
      rw [List.length_take]
      omega
    have none : (body record).take more = [] ↔ more = 0 := by
      rw [← List.length_eq_zero_iff,part]
    have filled : ¬(body record).length = 0 := by
      rw [length_body]
      omega
    rw [split,decode_header written]
    simp only [readFull,part,none,filled,bind,Except.bind]
    by_cases zero : more = 0
    · simp [zero]
    · have torn : more < (body record).length := by omega
      simp [zero,torn]

end Decode

section Runs
variable {checksum} {records : List JournalRecord}

/-- What becomes of a replay of the bytes before the cut. -/
def outcome : List JournalRecord → Nat → Option (ReplayError Empty)
  | [],_ => none
  | record :: rest,cut =>
    if (frame checksum record).length ≤ cut then outcome rest (cut - (frame checksum record).length)
    else if cut = 0 ∨ cut = 12 then none else some .corruptJournal

theorem file_cons (record : JournalRecord) (rest : List JournalRecord) :
    file checksum (record :: rest) = frame checksum record ++ file checksum rest := List.flatMap_cons

variable {cut : Nat} {record : JournalRecord} {rest : List JournalRecord}

theorem replayLoop_cut (written : ∀ record ∈ records, Written record) {rounds : Nat}
    (within : cut ≤ (file checksum records).length) (enough : cut < rounds) (seen : List JournalRecord) :
    replayLoop checksum collect rounds ((file checksum records).take cut) seen =
      some (seen ++ contained checksum records cut,@outcome checksum records cut) := by
  induction records generalizing cut rounds seen with
  | nil =>
    obtain ⟨rounds,rfl⟩ := Nat.exists_eq_add_of_lt enough
    simp [file,replayLoop,decodeJournalRecord,readFull,contained,outcome,bind,Except.bind]
  | cons record rest ih =>
    obtain ⟨rounds,rfl⟩ : ∃ n, rounds = n + 1 := ⟨rounds - 1,by omega⟩
    have here := written record List.mem_cons_self
    rw [file_cons,List.length_append] at within
    rw [file_cons,replayLoop,contained,outcome]
    split_ifs with whole last
    · have split : (frame checksum record ++ file checksum rest).take cut =
          frame checksum record ++ (file checksum rest).take (cut - (frame checksum record).length) := by
        rw [List.take_append,List.take_of_length_le whole]
      rw [split,decode_frame here]
      have filled := @length_frame checksum record
      simp only [collect]
      rw [ih (fun other member => written other (List.mem_cons_of_mem _ member)) (by omega) (by omega),List.append_assoc]
      rfl
    · rw [decode_torn here _ (not_le.mp whole),if_pos last,List.append_nil]
    · rw [decode_torn here _ (not_le.mp whole),if_neg last,List.append_nil]

theorem boundary_cons : Boundary checksum (record :: rest) cut ↔
    cut = 0 ∨ (frame checksum record).length ≤ cut ∧ Boundary checksum rest (cut - (frame checksum record).length) := by
  constructor
  · rintro ⟨whole,start,rfl⟩
    rcases List.prefix_cons_iff.mp start with rfl | ⟨more,rfl,later⟩
    · exact Or.inl rfl
    · rw [file_cons,List.length_append]
      exact Or.inr ⟨by omega,more,later,by omega⟩
  · rintro (rfl | ⟨whole,more,start,length⟩)
    · exact ⟨[],List.nil_prefix,rfl⟩
    · refine ⟨record :: more,List.cons_prefix_cons.mpr ⟨rfl,start⟩,?_⟩
      rw [file_cons,List.length_append]
      omega

theorem afterHeader_cons : AfterHeader checksum (record :: rest) cut ↔
    cut = 12 ∨ (frame checksum record).length ≤ cut ∧ AfterHeader checksum rest (cut - (frame checksum record).length) := by
  constructor
  · rintro ⟨whole,last,start,rfl⟩
    cases whole with
    | nil => exact Or.inl rfl
    | cons first more =>
      obtain ⟨rfl,later⟩ := List.cons_prefix_cons.mp start
      rw [file_cons,List.length_append]
      exact Or.inr ⟨by omega,more,last,later,by omega⟩
  · rintro (rfl | ⟨whole,more,last,start,length⟩)
    · exact ⟨[],record,List.cons_prefix_cons.mpr ⟨rfl,List.nil_prefix⟩,rfl⟩
    · refine ⟨record :: more,last,List.cons_prefix_cons.mpr ⟨rfl,start⟩,?_⟩
      rw [file_cons,List.length_append]
      omega

theorem outcome_eq {cut : Nat} (within : cut ≤ (file checksum records).length) :
    (Boundary checksum records cut ∧ ¬AfterHeader checksum records cut ∧ @outcome checksum records cut = none) ∨
    (¬Boundary checksum records cut ∧ AfterHeader checksum records cut ∧ @outcome checksum records cut = none) ∨
    (¬Boundary checksum records cut ∧ ¬AfterHeader checksum records cut ∧ @outcome checksum records cut = some .corruptJournal) := by
  induction records generalizing cut with
  | nil =>
    have zero : cut = 0 := Nat.le_zero.mp within
    refine Or.inl ⟨⟨[],List.nil_prefix,zero.symm⟩,?_,rfl⟩
    rintro ⟨whole,last,start,_⟩
    simp at start
  | cons record rest ih =>
    rw [file_cons,List.length_append] at within
    have filled := @length_frame checksum record
    have long := @length_body record
    rw [boundary_cons,afterHeader_cons,outcome]
    split_ifs with whole last
    · have later : ¬cut = 0 ∧ ¬cut = 12 := by omega
      have after := @ih (cut - (frame checksum record).length) (by omega)
      simpa only [later,whole,false_or,true_and] using after
    · rcases last with rfl | rfl <;> simp [whole]
    · rw [not_or] at last
      simp [whole,last]

end Runs

/-- A torn journal is noticed wherever it is torn, but for the end of a header; the records before the tear are visited
    there too. -/
theorem torn_noticed_iff {records : List JournalRecord} {wires : List Bytes}
    (encoded : records.mapM (encodeJournalRecord checksum) = .ok wires) {cut : Nat} (within : cut ≤ wires.flatten.length) :
    TearNoticed checksum records wires.flatten cut ↔ ¬AfterHeader checksum records cut := by
  obtain ⟨written,bytes⟩ := encodeAll_eq_ok (mapM_eq_ok encoded)
  rw [bytes] at within ⊢
  have length : ((file checksum records).take cut).length = cut := by rw [List.length_take,Nat.min_eq_left within]
  have replayed := replayLoop_cut written within (Nat.lt_succ_self cut) []
  rw [TearNoticed,replay,length,replayed]
  rcases @outcome_eq checksum records cut within with ⟨boundary,header,clean⟩ | ⟨boundary,header,clean⟩ | ⟨boundary,header,torn⟩
  · simp [boundary,header,clean]
  · simp [boundary,header,clean]
  · simp [boundary,header,torn]

def letters : JournalRecord := ⟨[107],[121],[1]⟩

/-- The second of two records is torn in its body. -/
theorem letters_torn_noticed :
    TearNoticed (fun _ => 7) [letters,letters] [frame (fun _ => 7) letters,frame (fun _ => 7) letters].flatten 34 := by
  refine (torn_noticed_iff (fun _ => 7) rfl (by decide)).mpr ?_
  rw [afterHeader_cons,afterHeader_cons]
  rintro (first | ⟨-,second | ⟨long,-⟩⟩)
  · cases first
  · exact absurd second (by decide)
  · exact absurd long (by decide)

/-- A file that ends with a header is taken for a complete one. -/
theorem missing_body_unnoticed :
    encodeJournalRecord (fun _ => 7) letters = .ok (frame (fun _ => 7) letters) ∧
      replay (fun _ => 7) collect ((frame (fun _ => 7) letters).take 12) [] = some ([],none) ∧
      ¬Boundary (fun _ => 7) [letters] 12 ∧ ¬TearNoticed (fun _ => 7) [letters] (frame (fun _ => 7) letters) 12 := by
  have replayed : replay (fun _ => 7) collect ((frame (fun _ => 7) letters).take 12) [] = some ([],none) := by decide +kernel
  have inside : ¬Boundary (fun _ => 7) [letters] 12 := by
    rw [boundary_cons]
    rintro (other | ⟨long,_⟩)
    · cases other
    · exact absurd long (by decide)
  refine ⟨rfl,replayed,inside,?_⟩
  rintro ⟨failure,again,clean,_⟩
  rw [replayed] at again
  cases again
  exact inside (clean.mp rfl)

end TgsRl.Journal
