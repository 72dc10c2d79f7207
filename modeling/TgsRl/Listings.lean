import Mathlib.Data.Prod.Lex
import Mathlib.Data.String.Basic
import TgsRl.Jobs
import TgsRl.Loops

/-!
The paged listings of the job controller's repository. Each call filters and sorts anew, and a page
token is the number of items to skip, so that an item which comes in before the place reached shifts
the rest (`newer_run_repeats`). A listing (`Listing`) is what a call filters with what it sorts by.
-/
namespace TgsRl.Listings
open Loops Messages State
open Jobs (OperationType OperationState)

structure Job where
  jobId : String
  createdAt : Int
  dataKind : DataKind
  deriving DecidableEq, Repr

structure JobRun where
  jobId : String
  runId : String
  attempt : Nat
  deriving DecidableEq, Repr

structure Operation where
  operationId : String
  jobId : String
  runId : String
  type : OperationType
  state : OperationState
  createdAt : Int
  deriving DecidableEq, Repr

structure JobEvent where
  eventId : String
  jobId : String
  runId : String
  deriving DecidableEq, Repr

structure EventEntry where
  sequence : Nat
  event : JobEvent
  deriving DecidableEq, Repr

/-- The maps of the repository as the lists of their values, and its events. -/
structure MemoryRepository where
  jobs : List Job
  runs : List JobRun
  operations : List Operation
  events : List EventEntry
  nextSequence : Nat
  jobs_distinct : (jobs.map Job.jobId).Nodup
  runs_distinct : (runs.map (fun r => (r.jobId,r.runId))).Nodup
  operations_distinct : (operations.map Operation.operationId).Nodup
  events_ordered : events.Pairwise (fun earlier later => earlier.sequence < later.sequence)
  events_le : ∀ entry ∈ events, entry.sequence ≤ nextSequence

theorem nodup_snoc {α κ : Type} {key : α → κ} {items : List α} {a : α} (distinct : (items.map key).Nodup)
    (new : key a ∉ items.map key) : ((items ++ [a]).map key).Nodup := by
  rw [List.map_append,List.nodup_append]
  refine ⟨distinct,List.nodup_singleton _,?_⟩
  intro x member y last same
  rw [List.map_singleton,List.mem_singleton] at last
  exact new (last ▸ same ▸ member)

inductive Insertion where
  | job (job : Job)
  | run (run : JobRun)
  | operation (operation : Operation)
  | event (event : JobEvent)

/-- `PutJob`, `PutRun` and `PutOperation` of something new, and `AppendEvent`. -/
def MemoryRepository.insert (repository : MemoryRepository) : Insertion → MemoryRepository
  | .job job => if new : job.jobId ∉ repository.jobs.map Job.jobId then
      { repository with
        jobs := repository.jobs ++ [job]
        jobs_distinct := nodup_snoc repository.jobs_distinct new }
    else repository
  | .run r => if new : ∀ held ∈ repository.runs, ¬(held.jobId = r.jobId ∧ held.runId = r.runId) then
      { repository with
        runs := repository.runs ++ [r]
        runs_distinct := nodup_snoc repository.runs_distinct fun member => by
          obtain ⟨held,here,same⟩ := List.mem_map.mp member
          exact new held here (Prod.ext_iff.mp same) }
    else repository
  | .operation operation => if new : operation.operationId ∉ repository.operations.map Operation.operationId then
      { repository with
        operations := repository.operations ++ [operation]
        operations_distinct := nodup_snoc repository.operations_distinct new }
    else repository
  | .event event =>
    { repository with
      nextSequence := repository.nextSequence + 1
      events := repository.events ++ [⟨repository.nextSequence + 1,event⟩]
      events_ordered := by
        refine List.pairwise_append.mpr ⟨repository.events_ordered,List.pairwise_singleton _ _,fun entry member last here => ?_⟩
        rw [List.mem_singleton.mp here]
        exact Nat.lt_succ_of_le (repository.events_le entry member)
      events_le := by
        intro entry member
        rcases List.mem_append.mp member with old | last
        · exact Nat.le_succ_of_le (repository.events_le entry old)
        · rw [List.mem_singleton.mp last] }

def digitsValue (digits : List Char) : Option Int :=
  if digits ≠ [] ∧ digits.all Char.isDigit = true then some (Nat.ofDigitChars 10 digits 0) else none

def signedValue (digits : List Char) : Option Int :=
  if digits.head? = some '-' then (digitsValue digits.tail).map (fun value => -value)
  else if digits.head? = some '+' then digitsValue digits.tail
  else digitsValue digits

/-- `strconv.Atoi`, for the numbers of 64 bits. -/
def atoi (text : String) : Option Int :=
  (signedValue text.toList).filter (fun value => decide (-2 ^ 63 ≤ value ∧ value < 2 ^ 63))

def decodePageToken (pageToken : String) : Except String Nat :=
  if pageToken = "" then .ok 0
  else match atoi pageToken with
    | some (.ofNat value) => .ok value
    | _ => .error ("state: invalid page token " ++ quote pageToken)

def defaultPageLimit : Nat := 100

def normalizeLimit (limit : Nat) : Nat :=
  if limit = 0 then defaultPageLimit else if defaultPageLimit < limit then defaultPageLimit else limit

def paginate {α : Type} (items : List α) (start limit : Nat) : List α × String :=
  if items.length ≤ start then ([],"")
  else (((items.drop start).take limit),if start + limit < items.length then toString (start + limit) else "")

def offsetAfter {α : Type} (items : List α) (afterID : String) (id : α → String) : Nat :=
  if afterID = "" then 0 else match items.findIdx? (fun item => decide (id item = afterID)) with
    | some index => index + 1
    | none => items.length

/-- The items a call lists and what it sorts them by, which tells them apart. -/
structure Listing (α κ : Type) [LinearOrder κ] where
  items : MemoryRepository → List α
  rank : α → κ
  distinct : ∀ repository, ((items repository).map rank).Nodup
  grows : ∀ repository insertion, items (repository.insert insertion) = items repository ∨
    ∃ a, items (repository.insert insertion) = items repository ++ [a]

section Listing
variable {α κ : Type} [LinearOrder κ]

def Listing.sorted (listing : Listing α κ) (repository : MemoryRepository) : List α :=
  (listing.items repository).insertionSort (fun left right => listing.rank left ≤ listing.rank right)

/-- A call with a page token, or from the start. -/
def Listing.page (listing : Listing α κ) (repository : MemoryRepository) (limit : Nat) (pageToken : String) :
    Except String (List α × String) := do
  let start ← decodePageToken pageToken
  .ok (paginate (listing.sorted repository) start (normalizeLimit limit))

/-- The same for calls that may also name the item before the first. -/
def Listing.pageAfter (listing : Listing α κ) (id : α → String) (repository : MemoryRepository) (limit : Nat)
    (pageToken afterID : String) : Except String (List α × String) := do
  let start ← decodePageToken pageToken
  let items := listing.sorted repository
  .ok (paginate items (if pageToken = "" then offsetAfter items afterID id else start) (normalizeLimit limit))

end Listing

theorem nodup_filter {α κ : Type} {key : α → κ} {items : List α} (distinct : (items.map key).Nodup) (wanted : α → Bool) :
    ((items.filter wanted).map key).Nodup := distinct.sublist (List.filter_sublist.map _)

theorem filter_grows {α : Type} {items items' : List α} (grows : items' = items ∨ ∃ a, items' = items ++ [a]) (wanted : α → Bool) :
    items'.filter wanted = items.filter wanted ∨ ∃ a, items'.filter wanted = items.filter wanted ++ [a] := by
  rcases grows with same | ⟨a,more⟩
  · exact Or.inl (by rw [same])
  · rw [more,List.filter_append]
    by_cases here : wanted a = true
    · exact Or.inr ⟨a,by rw [List.filter_cons_of_pos here,List.filter_nil]⟩
    · exact Or.inl (by rw [List.filter_cons_of_neg here,List.filter_nil,List.append_nil])

section Growth
variable (repository : MemoryRepository) (insertion : Insertion)

theorem jobs_grow : (repository.insert insertion).jobs = repository.jobs ∨
    ∃ job, (repository.insert insertion).jobs = repository.jobs ++ [job] := by
  cases insertion with
  | job job =>
    rw [MemoryRepository.insert]
    split_ifs
    · exact Or.inl rfl
    · exact Or.inr ⟨job,rfl⟩
  | event event => exact Or.inl rfl
  | _ => rw [MemoryRepository.insert]; split_ifs <;> exact Or.inl rfl

theorem runs_grow : (repository.insert insertion).runs = repository.runs ∨
    ∃ r, (repository.insert insertion).runs = repository.runs ++ [r] := by
  cases insertion with
  | run r =>
    rw [MemoryRepository.insert]
    split_ifs
    · exact Or.inr ⟨r,rfl⟩
    · exact Or.inl rfl
  | event event => exact Or.inl rfl
  | _ => rw [MemoryRepository.insert]; split_ifs <;> exact Or.inl rfl

theorem operations_grow : (repository.insert insertion).operations = repository.operations ∨
    ∃ operation, (repository.insert insertion).operations = repository.operations ++ [operation] := by
  cases insertion with
  | operation operation =>
    rw [MemoryRepository.insert]
    split_ifs
    · exact Or.inl rfl
    · exact Or.inr ⟨operation,rfl⟩
  | event event => exact Or.inl rfl
  | _ => rw [MemoryRepository.insert]; split_ifs <;> exact Or.inl rfl

theorem events_grow : (repository.insert insertion).events = repository.events ∨
    ∃ event, (repository.insert insertion).events = repository.events ++ [⟨repository.nextSequence + 1,event⟩] := by
  cases insertion with
  | event event => exact Or.inr ⟨event,rfl⟩
  | _ => rw [MemoryRepository.insert]; split_ifs <;> exact Or.inl rfl

end Growth

def jobListing (kind : DataKind) : Listing Job (Int ×ₗ String) where
  items repository := repository.jobs.filter (fun job => decide (kind = .unknown ∨ job.dataKind = kind))
  rank job := toLex (job.createdAt,job.jobId)
  distinct repository := List.Nodup.of_map (fun key => (ofLex key).2) (by
    rw [List.map_map]
    exact nodup_filter repository.jobs_distinct _)
  grows repository insertion := filter_grows (jobs_grow repository insertion) _

def runListing (jobID : String) : Listing JobRun (Nat ×ₗ String)ᵒᵈ where
  items repository := repository.runs.filter (fun r => decide (r.jobId = jobID))
  rank r := OrderDual.toDual (toLex (r.attempt,r.runId))
  distinct repository := by
    have distinct := nodup_filter repository.runs_distinct (fun r => decide (r.jobId = jobID))
    refine (List.nodup_map_iff_inj_on (List.Nodup.of_map _ distinct)).mpr fun left here right there same => ?_
    have job := (of_decide_eq_true (List.mem_filter.mp here).2).trans (of_decide_eq_true (List.mem_filter.mp there).2).symm
    have name : left.runId = right.runId := congrArg (fun key => (ofLex (OrderDual.ofDual key)).2) same
    exact List.inj_on_of_nodup_map distinct here there (Prod.ext job name)
  grows repository insertion := filter_grows (runs_grow repository insertion) _

def operationListing (jobID runID : String) (opType : OperationType) (opState : OperationState) :
    Listing Operation (Int ×ₗ String) where
  items repository := repository.operations.filter (fun operation => decide ((jobID = "" ∨ operation.jobId = jobID) ∧
    (runID = "" ∨ operation.runId = runID) ∧ (opType = .unknown ∨ operation.type = opType) ∧
    (opState = .unknown ∨ operation.state = opState)))
  rank operation := toLex (operation.createdAt,operation.operationId)
  distinct repository := List.Nodup.of_map (fun key => (ofLex key).2) (by
    rw [List.map_map]
    exact nodup_filter repository.operations_distinct _)
  grows repository insertion := filter_grows (operations_grow repository insertion) _

/-- Events in the order of their sequence numbers, which is that of the list. -/
def eventListing (jobID runID : String) (afterSequence : Nat) : Listing EventEntry Nat where
  items repository := repository.events.filter (fun entry => decide (afterSequence < entry.sequence ∧
    (jobID = "" ∨ entry.event.jobId = jobID) ∧ (runID = "" ∨ entry.event.runId = runID)))
  rank entry := entry.sequence
  distinct repository := nodup_filter (List.pairwise_map.mpr (repository.events_ordered.imp fun less => Nat.ne_of_lt less)) _
  grows repository insertion := filter_grows ((events_grow repository insertion).imp id fun ⟨_,more⟩ => ⟨_,more⟩) _

def listJobs (repository : MemoryRepository) (kind : DataKind) (limit : Nat) (pageToken afterJobID : String) :
    Except String (List Job × String) :=
  (jobListing kind).pageAfter Job.jobId repository limit pageToken afterJobID

def listRuns (repository : MemoryRepository) (jobID : String) (limit : Nat) (pageToken afterRunID : String) :
    Except String (List JobRun × String) :=
  (runListing jobID).pageAfter JobRun.runId repository limit pageToken afterRunID

def listOperations (repository : MemoryRepository) (jobID runID : String) (opType : OperationType) (opState : OperationState)
    (limit : Nat) (pageToken : String) : Except String (List Operation × String) :=
  (operationListing jobID runID opType opState).page repository limit pageToken

def sequenceFloor (repository : MemoryRepository) (afterSequence : Nat) (afterEventID : String) : Except String Nat :=
  if afterEventID = "" then .ok afterSequence
  else match repository.events.find? (fun entry => decide (entry.event.eventId = afterEventID)) with
    | some entry => .ok (max entry.sequence afterSequence)
    | none => .error ("state: event " ++ quote afterEventID ++ " not found")

def listEvents (repository : MemoryRepository) (jobID runID afterEventID : String) (afterSequence limit : Nat)
    (pageToken : String) : Except String (List EventEntry × String) := do
  let floor ← sequenceFloor repository afterSequence afterEventID
  (eventListing jobID runID floor).page repository limit pageToken

section Traversal
variable {α κ : Type} [LinearOrder κ]

theorem pageAfter_none (listing : Listing α κ) (id : α → String) (repository : MemoryRepository) (limit : Nat)
    (pageToken : String) : listing.pageAfter id repository limit pageToken "" = listing.page repository limit pageToken := by
  rw [Listing.pageAfter,Listing.page]
  by_cases first : pageToken = ""
  · subst first
    rfl
  · simp only [first,if_false]

/-- A client on its way: the repository, what was returned so far, and the next page token until there is none. -/
structure Traversal (α : Type) where
  repository : MemoryRepository
  returned : List α
  next : Option String

inductive Step where
  | insert (insertion : Insertion)
  | page

/-- One call of a listing with its filter and limit: the repository and the page token. -/
abbrev Call (α : Type) := MemoryRepository → String → Except String (List α × String)

def advance (call : Call α) (t : Traversal α) : Step → Traversal α
  | .insert insertion => { t with repository := t.repository.insert insertion }
  | .page => match t.next with
    | none => t
    | some pageToken => match call t.repository pageToken with
      | .error _ => t
      | .ok (items,next) => { t with
          returned := t.returned ++ items
          next := if next = "" then none else some next }

def start (repository : MemoryRepository) : Traversal α := ⟨repository,[],some ""⟩

/-- As long as the client has not seen the last page, what comes in is sorted after what it was given. -/
def Behind (listing : Listing α κ) (t : Traversal α) : Step → Prop
  | .insert insertion => t.next ≠ none → ∀ a, listing.items (t.repository.insert insertion) = listing.items t.repository ++ [a] →
      ∀ b ∈ t.returned, listing.rank b < listing.rank a
  | .page => True

variable {listing : Listing α κ} {limit : Nat} {repository : MemoryRepository}

theorem sorted_perm : (listing.sorted repository).Perm (listing.items repository) := List.perm_insertionSort _ _

theorem sorted_nodup : (listing.sorted repository).Nodup :=
  sorted_perm.nodup_iff.mpr (List.Nodup.of_map _ (listing.distinct repository))

variable {a : α} {insertion : Insertion} {first : MemoryRepository} {t : Traversal α} {call : Call α}

theorem orderedInsert_past {rel : α → α → Prop} [DecidableRel rel] {before : List α} (after : List α)
    (past : ∀ b ∈ before, ¬rel a b) : (before ++ after).orderedInsert rel a = before ++ after.orderedInsert rel a := by
  induction before with
  | nil => rfl
  | cons b before ih =>
    rw [List.cons_append,List.orderedInsert,if_neg (past b List.mem_cons_self),
      ih fun c member => past c (List.mem_cons_of_mem _ member),List.cons_append]

theorem take_sorted_insert {count : Nat} (more : listing.items (repository.insert insertion) = listing.items repository ++ [a])
    (behind : ∀ b ∈ (listing.sorted repository).take count, listing.rank b < listing.rank a)
    (within : count ≤ (listing.sorted repository).length) :
    (listing.sorted (repository.insert insertion)).take count = (listing.sorted repository).take count := by
  let rel (left right : α) : Prop := listing.rank left ≤ listing.rank right
  have ordered : ((listing.sorted repository).orderedInsert rel a).Pairwise rel :=
    (List.pairwise_insertionSort rel _).orderedInsert a _
  have perm : (listing.sorted (repository.insert insertion)).Perm ((listing.sorted repository).orderedInsert rel a) := by
    refine sorted_perm.trans ?_
    rw [more]
    exact (List.perm_append_comm.trans (sorted_perm.symm.cons a)).trans (List.perm_orderedInsert rel a _).symm
  have same : listing.sorted (repository.insert insertion) = (listing.sorted repository).orderedInsert rel a := by
    refine List.Perm.eq_of_pairwise (fun x y here there below above => ?_) (List.pairwise_insertionSort rel _) ordered perm
    exact List.inj_on_of_nodup_map (listing.distinct (repository.insert insertion)) (sorted_perm.mem_iff.mp here)
      (sorted_perm.mem_iff.mp (perm.mem_iff.mpr there)) (le_antisymm below above)
  rw [same]
  conv_lhs => rw [← List.take_append_drop count (listing.sorted repository)]
  have past : ∀ b ∈ (listing.sorted repository).take count, ¬rel a b := fun b member => not_le.mpr (behind b member)
  rw [orderedInsert_past _ past]
  exact List.take_left' (List.length_take_of_le within)

theorem toString_filled (n : Nat) : toString n ≠ "" := by
  intro empty
  have text : (toString n).toList = Nat.toDigits 10 n := by rw [Nat.toString_eq_ofList_toDigits,String.toList_ofList]
  rw [empty] at text
  exact Nat.toDigits_ne_nil text.symm

/-- The token of a page is read as the number it was printed from, if at all. -/
theorem decode_toString {n m : Nat} (decoded : decodePageToken (toString n) = .ok m) : m = n := by
  have text : (toString n).toList = Nat.toDigits 10 n := by rw [Nat.toString_eq_ofList_toDigits,String.toList_ofList]
  have digit (c : Char) (member : c ∈ Nat.toDigits 10 n) : c.isDigit = true :=
    Nat.isDigit_of_mem_toDigits (by decide) (by decide) member
  have unsigned (c : Char) (sign : c.isDigit = false) : (Nat.toDigits 10 n).head? ≠ some c := by
    intro first
    rw [digit c (List.mem_of_mem_head? first)] at sign
    cases sign
  have read : signedValue (toString n).toList = some (n : Int) := by
    rw [signedValue,text,if_neg (unsigned '-' (by decide)),if_neg (unsigned '+' (by decide)),digitsValue,
      if_pos ⟨Nat.toDigits_ne_nil,List.all_eq_true.mpr digit⟩,Nat.ofDigitChars_ten_toDigits]
  rw [decodePageToken,if_neg (toString_filled n),atoi,read] at decoded
  split at decoded
  · next value kept =>
    obtain ⟨same,-⟩ := Option.filter_eq_some_iff.mp kept
    cases decoded
    exact (Int.ofNat.inj (Option.some.inj same)).symm
  · cases decoded

/-- What a client that meets `Behind` was given: the first items of the present order, each once, and at the end
all that were there at the start. -/
structure Followed (listing : Listing α κ) (first : MemoryRepository) (t : Traversal α) : Prop where
  once : t.returned.Nodup
  stays : ∀ a ∈ listing.items first, a ∈ listing.items t.repository
  going : ∀ pageToken, t.next = some pageToken → (∀ start, decodePageToken pageToken = .ok start → start = t.returned.length) ∧
    t.returned = (listing.sorted t.repository).take t.returned.length
  ended : t.next = none → ∀ a ∈ listing.items first, a ∈ t.returned

theorem followed_start : Followed listing repository (start repository) where
  once := List.nodup_nil
  stays _ member := member
  going pageToken same := by
    cases same
    exact ⟨fun _ first => (Except.ok.inj first).symm,rfl⟩
  ended := by
    intro none
    cases none

theorem followed_insert (followed : Followed listing first t) (behind : Behind listing t (.insert insertion)) :
    Followed listing first (advance call t (.insert insertion)) := by
  refine ⟨followed.once,fun a member => ?_,fun pageToken same => ?_,followed.ended⟩
  · have old := followed.stays a member
    rcases listing.grows t.repository insertion with same | ⟨b,more⟩
    · exact same ▸ old
    · exact more ▸ List.mem_append_left _ old
  · obtain ⟨decoded,taken⟩ := followed.going pageToken same
    refine ⟨decoded,?_⟩
    rcases listing.grows t.repository insertion with unchanged | ⟨b,more⟩
    · have sorted : listing.sorted (t.repository.insert insertion) = listing.sorted t.repository := by
        rw [Listing.sorted,unchanged,Listing.sorted]
      exact taken.trans (by rw [← sorted]; rfl)
    · have within : t.returned.length ≤ (listing.sorted t.repository).length := by
        have short := congrArg List.length taken
        rw [List.length_take] at short
        omega
      have below : ∀ c ∈ (listing.sorted t.repository).take t.returned.length, listing.rank c < listing.rank b := by
        rw [← taken]
        exact behind (fun none => Option.some_ne_none _ (same.symm.trans none)) b more
      exact taken.trans (take_sorted_insert more below within).symm

theorem followed_page (followed : Followed listing first t)
    (agrees : ∀ pageToken, call t.repository pageToken = listing.page t.repository limit pageToken) :
    Followed listing first (advance call t .page) := by
  cases next : t.next with
  | none =>
    rw [advance,next]
    exact followed
  | some pageToken =>
    obtain ⟨exact_start,taken⟩ := followed.going pageToken next
    cases decoded : decodePageToken pageToken with
    | error message =>
      have refused : call t.repository pageToken = .error message := by
        rw [agrees,Listing.page,decoded]
        rfl
      rw [advance,next]
      simp only [refused]
      exact followed
    | ok start =>
    obtain rfl := exact_start start decoded
    have complete (whole : (listing.sorted t.repository).length ≤ t.returned.length) (a : α) (member : a ∈ listing.items first) :
        a ∈ t.returned := by
      rw [taken,List.take_of_length_le whole]
      exact sorted_perm.mem_iff.mpr (followed.stays a member)
    have page : call t.repository pageToken =
        .ok (paginate (listing.sorted t.repository) t.returned.length (normalizeLimit limit)) := by
      rw [agrees,Listing.page,decoded]
      rfl
    rw [advance,next]
    simp only [page]
    rw [paginate]
    by_cases last : (listing.sorted t.repository).length ≤ t.returned.length
    · rw [if_pos last]
      simp only [List.append_nil,if_true]
      refine ⟨followed.once,followed.stays,fun _ same => ?_,fun _ => complete last⟩
      cases same
    · rw [if_neg last]
      have given : t.returned ++ ((listing.sorted t.repository).drop t.returned.length).take (normalizeLimit limit) =
          (listing.sorted t.repository).take (t.returned.length + normalizeLimit limit) := by
        rw [List.take_add,← taken]
      have once := sorted_nodup.sublist (List.take_sublist (t.returned.length + normalizeLimit limit) (listing.sorted t.repository))
      by_cases more : t.returned.length + normalizeLimit limit < (listing.sorted t.repository).length
      · have length := List.length_take_of_le more.le
        simp only [given,more,if_true,toString_filled,if_false]
        refine ⟨once,followed.stays,fun pageToken same => ?_,fun none => ?_⟩
        · cases same
          rw [length]
          exact ⟨fun _ => decode_toString,rfl⟩
        · cases none
      · have whole := List.take_of_length_le (not_lt.mp more)
        simp only [given,more,if_true,if_false,whole]
        refine ⟨sorted_nodup,followed.stays,fun pageToken same => ?_,fun _ a member => ?_⟩
        · cases same
        · exact sorted_perm.mem_iff.mpr (followed.stays a member)

theorem advance_page_repository (call : Call α) (t : Traversal α) : (advance call t .page).repository = t.repository := by
  rw [advance]
  cases t.next with
  | none => rfl
  | some pageToken =>
    cases page : call t.repository pageToken with
    | error e => simp only [page]
    | ok result => simp only [page]

/-- A step of a client whose call pages the listing in the repositories that are `Ready`, which insertions leave so. -/
theorem followed_step (Ready : MemoryRepository → Prop)
    (agrees : ∀ repository, Ready repository → ∀ pageToken, call repository pageToken = listing.page repository limit pageToken)
    (stays : ∀ repository insertion, Ready repository → Ready (repository.insert insertion)) (first : MemoryRepository)
    (t : Traversal α) (step : Step) (before : Ready t.repository ∧ Followed listing first t) (behind : Behind listing t step) :
    Ready (advance call t step).repository ∧ Followed listing first (advance call t step) := by
  cases step with
  | insert insertion => exact ⟨stays _ insertion before.1,followed_insert before.2 behind⟩
  | page =>
    rw [advance_page_repository]
    exact ⟨before.1,followed_page before.2 (agrees _ before.1)⟩

/-- The items listed at the start, each once, when the last page was given. -/
def Complete (call : Call α) (listing : Listing α κ) (first : MemoryRepository) (steps : List Step) : Prop :=
  let t := run (advance call) (start first) steps
  t.next = none → t.returned.Nodup ∧ ∀ a ∈ listing.items first, a ∈ t.returned

theorem complete_of_pages (agrees : ∀ repository pageToken, call repository pageToken = listing.page repository limit pageToken)
    {steps : List Step} (behind : Guarded (advance call) (Behind listing) (start first) steps) :
    Complete call listing first steps := by
  intro ended
  have keeps := followed_step (fun _ => True) (fun repository _ => agrees repository) (fun _ _ _ => trivial) first
  have followed := guarded_keeps keeps ⟨trivial,followed_start⟩ behind
  exact ⟨followed.2.once,followed.2.ended ended⟩

end Traversal

section Events
variable {jobID runID afterEventID : String} {afterSequence floor limit : Nat} {first : MemoryRepository}

theorem event_after {t : Traversal EventEntry} (followed : Followed (eventListing jobID runID floor) first t) (step : Step) :
    Behind (eventListing jobID runID floor) t step := by
  cases step with
  | page => trivial
  | insert insertion =>
    intro going a more b member
    obtain ⟨pageToken,next⟩ := Option.ne_none_iff_exists'.mp going
    have listed : b ∈ (eventListing jobID runID floor).items t.repository := by
      rw [(followed.going pageToken next).2] at member
      exact sorted_perm.mem_iff.mp (List.mem_of_mem_take member)
    have held := t.repository.events_le b (List.mem_filter.mp listed).1
    have new : a ∉ (eventListing jobID runID floor).items t.repository := by
      have distinct := List.Nodup.of_map _ ((eventListing jobID runID floor).distinct (t.repository.insert insertion))
      rw [more] at distinct
      exact fun old => (List.nodup_append.mp distinct).2.2 a old a (List.mem_singleton_self a) rfl
    have here : a ∈ (eventListing jobID runID floor).items (t.repository.insert insertion) := by
      rw [more]
      exact List.mem_append_right _ (List.mem_singleton_self a)
    obtain ⟨stored,wanted⟩ := List.mem_filter.mp here
    rcases events_grow t.repository insertion with same | ⟨event,grown⟩
    · rw [same] at stored
      exact absurd (List.mem_filter.mpr ⟨stored,wanted⟩) new
    · rw [grown] at stored
      rcases List.mem_append.mp stored with old | last
      · exact absurd (List.mem_filter.mpr ⟨old,wanted⟩) new
      · rw [List.mem_singleton.mp last]
        exact Nat.lt_succ_of_le held

theorem sequenceFloor_insert {repository : MemoryRepository} (insertion : Insertion)
    (found : sequenceFloor repository afterSequence afterEventID = .ok floor) :
    sequenceFloor (repository.insert insertion) afterSequence afterEventID = .ok floor := by
  rw [sequenceFloor] at found ⊢
  by_cases none : afterEventID = ""
  · rw [if_pos none] at found ⊢
    exact found
  · rw [if_neg none] at found ⊢
    cases held : repository.events.find? (fun entry => decide (entry.event.eventId = afterEventID)) with
    | none =>
      rw [held] at found
      cases found
    | some entry =>
      rw [held] at found
      have still : (repository.insert insertion).events.find? (fun entry => decide (entry.event.eventId = afterEventID)) =
          some entry := by
        rcases events_grow repository insertion with same | ⟨event,grown⟩
        · rw [same,held]
        · rw [grown,List.find?_append,held,Option.some_or]
      rw [still]
      exact found

theorem events_complete (found : sequenceFloor first afterSequence afterEventID = .ok floor) (steps : List Step) :
    Complete (fun repository pageToken => listEvents repository jobID runID afterEventID afterSequence limit pageToken)
      (eventListing jobID runID floor) first steps := by
  intro ended
  let Kept (t : Traversal EventEntry) : Prop := sequenceFloor t.repository afterSequence afterEventID = .ok floor ∧
    Followed (eventListing jobID runID floor) first t
  have agrees (repository : MemoryRepository) (ready : sequenceFloor repository afterSequence afterEventID = .ok floor)
      (pageToken : String) : listEvents repository jobID runID afterEventID afterSequence limit pageToken =
        (eventListing jobID runID floor).page repository limit pageToken := by
    rw [listEvents,ready]
    rfl
  have followed : Kept (run _ (start first) steps) := run_prefix (P := fun _ t => Kept t) ⟨found,followed_start⟩
    fun _ t step _ _ before => followed_step _ agrees (fun _ insertion => sequenceFloor_insert insertion) first t step before
      (event_after before.2 step)
  exact ⟨followed.2.once,followed.2.ended ended⟩

end Events

/-- In a traversal from the first page to the last, each item that was listed at its start is returned once: always for
events, and for jobs, runs and operations if what comes in on the way is sorted after what was returned. -/
theorem listed_once (limit : Nat) (first : MemoryRepository) (steps : List Step) :
    (∀ kind, let call := fun repository pageToken => listJobs repository kind limit pageToken ""
      Guarded (advance call) (Behind (jobListing kind)) (start first) steps → Complete call (jobListing kind) first steps) ∧
    (∀ jobID, let call := fun repository pageToken => listRuns repository jobID limit pageToken ""
      Guarded (advance call) (Behind (runListing jobID)) (start first) steps → Complete call (runListing jobID) first steps) ∧
    (∀ jobID runID opType opState,
      let call := fun repository pageToken => listOperations repository jobID runID opType opState limit pageToken
      Guarded (advance call) (Behind (operationListing jobID runID opType opState)) (start first) steps →
        Complete call (operationListing jobID runID opType opState) first steps) ∧
    (∀ jobID runID afterEventID afterSequence floor, sequenceFloor first afterSequence afterEventID = .ok floor →
      Complete (fun repository pageToken => listEvents repository jobID runID afterEventID afterSequence limit pageToken)
        (eventListing jobID runID floor) first steps) := by
  refine ⟨fun kind behind => ?_,fun jobID behind => ?_,fun jobID runID opType opState behind => ?_,?_⟩
  · exact complete_of_pages (fun repository => pageAfter_none (jobListing kind) Job.jobId repository limit) behind
  · exact complete_of_pages (fun repository => pageAfter_none (runListing jobID) JobRun.runId repository limit) behind
  · exact complete_of_pages (fun _ _ => rfl) behind
  · exact fun jobID runID afterEventID afterSequence floor found => events_complete found steps

def threeRuns : MemoryRepository where
  jobs := []
  runs := [⟨"job","first",1⟩,⟨"job","second",2⟩,⟨"job","third",3⟩]
  operations := []
  events := []
  nextSequence := 0
  jobs_distinct := by decide
  runs_distinct := by decide
  operations_distinct := by decide
  events_ordered := by decide
  events_le := by decide

/-- An attempt that comes in after the first page and is sorted last. -/
theorem later_run_listed :
    let call := fun repository pageToken => listRuns repository "job" 2 pageToken ""
    let steps := [Step.page,.insert (.run ⟨"job","zeroth",0⟩),.page]
    Complete call (runListing "job") threeRuns steps ∧ (run (advance call) (start threeRuns) steps).next = none := by
  refine ⟨(listed_once 2 threeRuns _).2.1 "job" ⟨trivial,fun _ a more => ?_,trivial,trivial⟩,by decide +kernel⟩
  have grown : (runListing "job").items (threeRuns.insert (.run ⟨"job","zeroth",0⟩)) =
      (runListing "job").items threeRuns ++ [⟨"job","zeroth",0⟩] := by decide +kernel
  obtain rfl := List.singleton_inj.mp (List.append_cancel_left (grown.symm.trans more))
  decide +kernel

/-- A fourth attempt comes first, so that the second page begins with an item of the first. -/
theorem newer_run_repeats :
    let call := fun repository pageToken => listRuns repository "job" 2 pageToken ""
    let steps := [Step.page,.insert (.run ⟨"job","fourth",4⟩),.page]
    let t := run (advance call) (start threeRuns) steps
    t.next = none ∧ t.returned.map JobRun.runId = ["third","second","second","first"] ∧
      ¬Complete call (runListing "job") threeRuns steps := by
  intro call steps t
  have ended : t.next = none := by decide +kernel
  have repeated : ¬t.returned.Nodup := by decide +kernel
  exact ⟨ended,by decide +kernel,fun complete => repeated (complete ended).1⟩

end TgsRl.Listings
