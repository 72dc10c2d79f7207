import Mathlib.Data.List.Perm.Basic
import Mathlib.Data.List.Sort
import Mathlib.Data.Set.Function
import Mathlib.Data.String.Basic
import Mathlib.Tactic.Common

/-!
The comparison of replayed decisions. `DecisionCanonicalizer` has a decision record printed as a dictionary, takes the
volatile fields out of it at every depth, sorts the lists in which order has no meaning, and compares what is left. In
the dictionary an entry of a map looks like a field, so that an entry with the name of a volatile field is taken out
too (`hidden_score`); otherwise the comparison ignores exactly what it is meant to (`compare_exact`).

A message is the list of the fields that are printed, in the order of their names. All maps of the schema have scalar
values. `S` are the scalars, enums and times as JSON shows them.
-/
namespace TgsRl.Canonicalizer

def volatileFields : List String :=
  ["action_id","binding_id","completed_at","created_at","cursor","deadline","decided_at","decision_id","expires_at",
    "idempotency_key","plan_id","sandbox_id","sequence","started_at"]

def unorderedRepeatedFields : List String := ["contract_evaluations","observations","evidence","missing_keys"]

inductive Value (S : Type) where
  | scalar (value : S)
  | map (entries : List (String × S))
  | message (fields : List (String × Value S))
  | repeated (items : List (Value S))

inductive Json (S : Type) where
  | scalar (value : S)
  | dict (entries : List (String × Json S))
  | list (items : List (Json S))

/-- What the libraries supply: `MessageToDict`, as it is documented, and `json.dumps` with its sorted keys. -/
structure Libraries (S : Type) where
  toDict : Value S → Json S
  scalar (value : S) : toDict (.scalar value) = .scalar value
  map (entries : List (String × S)) :
    toDict (.map entries) = .dict (entries.map (fun entry => (entry.1,.scalar entry.2)))
  message (fields : List (String × Value S)) :
    toDict (.message fields) = .dict (fields.map (fun field => (field.1,toDict field.2)))
  repeated (items : List (Value S)) : toDict (.repeated items) = .list (items.map toDict)
  dumps : Json S → String

/-- The entries that are not volatile. -/
def kept {α : Type} (entries : List (String × α)) : List (String × α) :=
  entries.filter (fun entry => decide (entry.1 ∉ volatileFields))

/-- What the recursions below go down on. -/
theorem size_field {α : Type} [SizeOf α] {entries : List (String × α)} {entry : String × α} (member : entry ∈ entries) :
    sizeOf entry.2 < 1 + sizeOf entries := by
  have below := List.sizeOf_lt_of_mem member
  have part : sizeOf entry = 1 + sizeOf entry.1 + sizeOf entry.2 := rfl
  omega

section Comparison
variable {S : Type} (libs : Libraries S)

/-- `_strip_volatile`, with the last name of the path. -/
def stripVolatile (last : String) : Json S → Json S
  | .scalar value => .scalar value
  | .dict entries =>
    .dict (((kept entries).attach.map (fun entry => (entry.1.1,stripVolatile entry.1.1 entry.1.2))).insertionSort
      (fun a b => a.1 ≤ b.1))
  | .list items =>
    let normalized := items.map (stripVolatile last)
    .list (if last ∈ unorderedRepeatedFields then normalized.insertionSort (fun a b => libs.dumps a ≤ libs.dumps b)
      else normalized)
termination_by json => json
decreasing_by
  · simpa using size_field (List.mem_of_mem_filter entry.2)
  · decreasing_tactic

def semanticBytes (decision : Value S) : String := libs.dumps (stripVolatile libs "" (libs.toDict decision))

inductive DecisionStatus where
  | notRecorded
  | equivalent
  | different
deriving DecidableEq

structure DecisionComparison (Digest : Type) where
  status : DecisionStatus
  equivalent : Bool
  expectedDigest : Option Digest
  actualDigest : Digest

variable {Digest : Type} [DecidableEq Digest] (sha256 : String → Digest)

def digest (decision : Value S) : Digest := sha256 (semanticBytes libs decision)

def compare (expected : Option (Value S)) (actual : Value S) : DecisionComparison Digest :=
  match expected with
  | none => ⟨.notRecorded,false,none,digest libs sha256 actual⟩
  | some expected =>
    let equivalent := decide (digest libs sha256 expected = digest libs sha256 actual)
    ⟨if equivalent then .equivalent else .different,equivalent,some (digest libs sha256 expected),
      digest libs sha256 actual⟩

end Comparison

variable {S : Type}

/-- The two agree apart from volatile fields of messages, and from the order of the items where `last` is the name of an
unordered field. -/
def Alike (last : String) : Value S → Value S → Prop
  | .scalar value,.scalar other => value = other
  | .map entries,.map others => entries = others
  | .message fields,.message others =>
    List.Forall₂ (fun a b => a.1.1 = b.1 ∧ Alike a.1.1 a.1.2 b.2) (kept fields).attach (kept others)
  | .repeated items,.repeated others =>
    ∃ reordered : List (Value S),
      (if last ∈ unorderedRepeatedFields then reordered.Perm others else reordered = others) ∧
      List.Forall₂ (fun a b => Alike last a.1 b) items.attach reordered
  | _,_ => False
termination_by value => value
decreasing_by
  · simpa using size_field (List.mem_of_mem_filter a.2)
  · have member := a.2
    decreasing_tactic

inductive Shape where
  | scalar
  | map
  | message (type : String)
  | repeated (item : Shape)

/-- A value of the shape, without volatile map keys; `schema` gives the shapes of the fields of a message type. -/
def Fits (schema : String → String → Shape) : Shape → Value S → Prop
  | .scalar,.scalar _ => True
  | .map,.map entries => (entries.map Prod.fst).Pairwise (· < ·) ∧ ∀ entry ∈ entries, entry.1 ∉ volatileFields
  | .message type,.message fields =>
    (fields.map Prod.fst).Pairwise (· < ·) ∧ ∀ field ∈ fields, Fits schema (schema type field.1) field.2
  | .repeated shape,.repeated items => ∀ item ∈ items, Fits schema shape item
  | _,_ => False
termination_by _ value => value
decreasing_by
  · simpa using size_field ‹_›
  · decreasing_tactic

variable {libs : Libraries S} {schema : String → String → Shape} {shape : Shape} {last : String}

variable (libs schema) in
/-- What the comparison makes of the values that fit. -/
def Stripped (json : Json S) : Prop :=
  ∃ last shape value, Fits schema shape value ∧ stripVolatile libs last (libs.toDict value) = json

section General
variable {α β : Type} {items : List α} {others : List β}

theorem forall₂_attach (R : α → β → Prop) :
    List.Forall₂ (fun a b => R a.1 b) items.attach others ↔ List.Forall₂ R items others := by
  rw [← List.forall₂_map_left_iff (R := R),List.attach_map_subtype_val]

theorem forall₂_congr {R Q : α → β → Prop} (each : ∀ a ∈ items, ∀ b ∈ others, R a b ↔ Q a b) :
    List.Forall₂ R items others ↔ List.Forall₂ Q items others := by
  induction items generalizing others with
  | nil => simp
  | cons item items ih =>
    cases others with
    | nil => simp
    | cons other others =>
      rw [List.forall₂_cons,List.forall₂_cons,each item (by simp) other (by simp)]
      exact and_congr_right fun _ => ih fun a left b right => each a (by simp [left]) b (by simp [right])

theorem map_eq_iff {f : α → β} {others : List α} :
    items.map f = others.map f ↔ List.Forall₂ (fun a b => f a = f b) items others := by
  rw [← List.forall₂_eq_eq_eq,List.forall₂_map_left_iff,List.forall₂_map_right_iff]

theorem map_perm_iff {f : α → β} {others : List α} :
    (items.map f).Perm (others.map f) ↔ ∃ reordered : List α, reordered.Perm others ∧ items.map f = reordered.map f := by
  constructor
  · intro perm
    have same : List.Forall₂ (fun b a => b = f a) (others.map f) others := by
      rw [List.forall₂_map_left_iff]
      exact List.forall₂_same.mpr fun _ _ => rfl
    obtain ⟨reordered,each,moved⟩ := List.perm_comp_forall₂ perm same
    refine ⟨reordered,moved,?_⟩
    rw [← List.forall₂_eq_eq_eq,List.forall₂_map_right_iff]
    exact each
  · rintro ⟨reordered,moved,same⟩
    rw [same]
    exact moved.map f

end General

variable {fields others : List (String × Value S)}

theorem alike_message : Alike last (.message fields) (.message others) ↔
    List.Forall₂ (fun a b => a.1 = b.1 ∧ Alike a.1 a.2 b.2) (kept fields) (kept others) := by
  rw [Alike]
  exact forall₂_attach fun a b : String × Value S => a.1 = b.1 ∧ Alike a.1 a.2 b.2

theorem alike_repeated {items others : List (Value S)} : Alike last (.repeated items) (.repeated others) ↔
    ∃ reordered : List (Value S),
      (if last ∈ unorderedRepeatedFields then reordered.Perm others else reordered = others) ∧
      List.Forall₂ (Alike last) items reordered := by
  rw [Alike]
  exact exists_congr fun _ => and_congr_right fun _ => forall₂_attach (Alike last)

theorem strip_dict {α : Type} {f : α → Json S} {entries : List (String × α)}
    (sorted : (entries.map Prod.fst).Pairwise (· < ·)) :
    stripVolatile libs last (.dict (entries.map (fun entry => (entry.1,f entry.2)))) =
      .dict ((kept entries).map (fun entry => (entry.1,stripVolatile libs entry.1 (f entry.2)))) := by
  have inner : kept (entries.map (fun entry => (entry.1,f entry.2))) =
      (kept entries).map (fun entry => (entry.1,f entry.2)) := List.filter_map
  rw [stripVolatile,
    List.attach_map_val (l := kept _) (f := fun entry => (entry.1,stripVolatile libs entry.1 entry.2)),inner,List.map_map]
  refine congrArg Json.dict (List.Pairwise.insertionSort_eq ?_)
  have sublist : (kept entries).Sublist entries := List.filter_sublist
  have sorted' := sorted.sublist (sublist.map Prod.fst)
  rw [List.pairwise_map] at sorted' ⊢
  exact sorted'.imp fun below => below.le

theorem strip_message (sorted : (fields.map Prod.fst).Pairwise (· < ·)) :
    stripVolatile libs last (libs.toDict (.message fields)) =
      .dict ((kept fields).map (fun field => (field.1,stripVolatile libs field.1 (libs.toDict field.2)))) := by
  rw [libs.message,strip_dict sorted]

theorem strip_map {entries : List (String × S)} (sorted : (entries.map Prod.fst).Pairwise (· < ·)) :
    stripVolatile libs last (libs.toDict (.map entries)) =
      .dict ((kept entries).map (fun entry => (entry.1,.scalar entry.2))) := by
  rw [libs.map,strip_dict sorted]
  simp only [stripVolatile]

theorem strip_repeated (items : List (Value S)) :
    stripVolatile libs last (libs.toDict (.repeated items)) =
      .list (if last ∈ unorderedRepeatedFields
        then (items.map (fun item => stripVolatile libs last (libs.toDict item))).insertionSort
          (fun a b => libs.dumps a ≤ libs.dumps b)
        else items.map (fun item => stripVolatile libs last (libs.toDict item))) := by
  rw [libs.repeated,stripVolatile,List.map_map]
  rfl

theorem sort_eq_iff {items others : List (Json S)} (injective : Set.InjOn libs.dumps {json | json ∈ items}) :
    items.insertionSort (fun a b => libs.dumps a ≤ libs.dumps b) =
      others.insertionSort (fun a b => libs.dumps a ≤ libs.dumps b) ↔ items.Perm others := by
  have perm (items : List (Json S)) := List.perm_insertionSort (fun a b => libs.dumps a ≤ libs.dumps b) items
  constructor
  · intro same
    exact (perm items).symm.trans ((List.Perm.of_eq same).trans (perm others))
  · intro reordered
    have moved := (perm items).trans (reordered.trans (perm others).symm)
    refine moved.eq_of_pairwise (fun a b left right below above => ?_) (List.pairwise_insertionSort _ _)
      (List.pairwise_insertionSort _ _)
    exact injective ((perm items).subset left) ((perm items).subset (moved.symm.subset right)) (le_antisymm below above)

theorem kept_eq_self {α : Type} {entries : List (String × α)} (plain : ∀ entry ∈ entries, entry.1 ∉ volatileFields) :
    kept entries = entries :=
  List.filter_eq_self.mpr fun entry member => decide_eq_true (plain entry member)

/-- On values of one shape, equal dictionaries are alike values. -/
theorem strip_eq_iff (printing : Set.InjOn libs.dumps {json | Stripped libs schema json}) {value other : Value S}
    (fits : Fits schema shape value) (fits' : Fits schema shape other) :
    stripVolatile libs last (libs.toDict value) = stripVolatile libs last (libs.toDict other) ↔
      Alike last value other := by
  induction shape,value using Fits.induct schema generalizing other last with
  | case1 value =>
    cases other <;> simp_all [Fits,libs.scalar,stripVolatile,Alike]
  | case2 entries =>
    cases other <;> simp only [Fits] at fits fits'
    rename_i others
    rw [strip_map fits.1,strip_map fits'.1,kept_eq_self fits.2,kept_eq_self fits'.2,Json.dict.injEq,Alike]
    refine (List.map_injective_iff.mpr ?_).eq_iff
    rintro ⟨key,score⟩ ⟨key',score'⟩ same
    simpa using same
  | case3 type fields ih =>
    cases other <;> simp only [Fits] at fits fits'
    rename_i others
    rw [strip_message fits.1,strip_message fits'.1,Json.dict.injEq,map_eq_iff,alike_message]
    refine forall₂_congr fun field member other there => ?_
    have left := List.mem_of_mem_filter member
    have right := List.mem_of_mem_filter there
    rw [Prod.mk.injEq]
    refine and_congr_right fun names => ?_
    rw [← names]
    exact ih field left (fits.2 field left) (names ▸ fits'.2 other right)
  | case4 shape items ih =>
    cases other <;> simp only [Fits] at fits fits'
    rename_i others
    -- the same items in the same places
    have aligned {reordered : List (Value S)} (there : ∀ item ∈ reordered, item ∈ others) :
        items.map (fun item => stripVolatile libs last (libs.toDict item)) =
          reordered.map (fun item => stripVolatile libs last (libs.toDict item)) ↔
        List.Forall₂ (Alike last) items reordered := by
      rw [map_eq_iff]
      exact forall₂_congr fun item member other right =>
        ih item member (fits item member) (fits' other (there other right))
    rw [strip_repeated,strip_repeated,Json.list.injEq,alike_repeated]
    split_ifs with unordered
    · rw [sort_eq_iff,map_perm_iff]
      · exact exists_congr fun reordered => and_congr_right fun moved => aligned fun _ there => moved.subset there
      · refine printing.mono fun json there => ?_
        obtain ⟨item,member,rfl⟩ := List.mem_map.mp there
        exact ⟨last,shape,item,fits item member,rfl⟩
    · rw [exists_eq_left]
      exact aligned fun _ there => there
  | case5 => simp_all [Fits]

variable {Digest : Type} [DecidableEq Digest] {sha256 : String → Digest} {expected actual : Value S}

theorem compare_status_iff : (compare libs sha256 (some expected) actual).status = .equivalent ↔
    digest libs sha256 expected = digest libs sha256 actual := by
  rw [compare]
  dsimp only
  split_ifs with same
  · exact iff_of_true rfl (of_decide_eq_true same)
  · exact iff_of_false (by decide) fun equal => same (decide_eq_true equal)

section Within
variable {before after : List (String × Value S)} {name type : String} {value other : Value S}

/-- A message in which one field is looked at. -/
def within (before after : List (String × Value S)) (name : String) (value : Value S) : Value S :=
  .message (before ++ (name,value) :: after)

theorem strip_within (sorted : (before.map Prod.fst ++ name :: after.map Prod.fst).Pairwise (· < ·))
    (same : stripVolatile libs name (libs.toDict value) = stripVolatile libs name (libs.toDict other)) :
    stripVolatile libs last (libs.toDict (within before after name value)) =
      stripVolatile libs last (libs.toDict (within before after name other)) := by
  rw [within,within,strip_message (by simpa using sorted),strip_message (by simpa using sorted)]
  simp only [kept,List.filter_append,List.filter_cons,List.map_append]
  split_ifs
  · rw [List.map_cons,List.map_cons,same]
  · rfl

theorem alike_within (lasting : name ∉ volatileFields)
    (alike : Alike last (within before after name value) (within before after name other)) : Alike name value other := by
  rw [within,within,alike_message,kept,kept,List.filter_append,List.filter_append,List.filter_cons_of_pos (by simpa),
    List.filter_cons_of_pos (by simpa)] at alike
  have rest := List.forall₂_drop (before.filter (fun entry => decide (entry.1 ∉ volatileFields))).length alike
  rw [List.drop_left,List.drop_left] at rest
  exact (List.forall₂_cons.mp rest).1.2

theorem fits_within (sorted : (before.map Prod.fst ++ name :: after.map Prod.fst).Pairwise (· < ·))
    (fits : Fits schema (schema type name) value)
    (others : ∀ field ∈ before ++ after, Fits schema (schema type field.1) field.2) :
    Fits schema (.message type) (within before after name value) := by
  rw [within,Fits]
  refine ⟨by simpa using sorted,fun field member => ?_⟩
  rcases List.mem_append.mp member with there | there
  · exact others field (List.mem_append_left _ there)
  · rcases List.mem_cons.mp there with rfl | there
    · exact fits
    · exact others field (List.mem_append_right _ there)

end Within

def text : Value String := .scalar "\"\""

def count : Value String := .scalar "\"0\""

def flag : Value String := .scalar "false"

/-- The fields after the candidates of a decision record of which nothing else is set. -/
def otherFields : List (String × Value String) :=
  [("code_revision",text),("config_revision",text),("contract_evaluations",.repeated []),("cursor",text),
    ("data_kind",.scalar "\"DATA_KIND_UNKNOWN\""),("decision_id",text),("evidence_truncated",flag),
    ("execution_id",text),("fallback",flag),("fallback_reason",text),("generation",count),("job_id",text),
    ("planner_evidence",.repeated []),("planner_evidence_truncated",flag),("policy_version",text),
    ("rejected_candidates",.repeated []),("run_id",text),("score",.scalar "0.0"),("snapshot_revision",count),
    ("stage_id",text),("tick_kind",.scalar "\"TICK_KIND_UNKNOWN\""),("total_candidate_count",count),
    ("total_planner_proposal_count",count),("total_rejected_candidate_count",count),("trace_id",text)]

/-- A decision record with one candidate that has these scores. -/
def scored (scores : List (String × String)) : Value String :=
  within [("action_results",.repeated [])] otherFields "candidates"
    (.repeated [within [("candidate_id",text)] [("score",.scalar "0.0")] "component_scores" (.map scores)])

theorem scored_not_alike {score : String × String} : ¬Alike "" (scored [score]) (scored []) := by
  intro alike
  obtain ⟨_,same,each⟩ := alike_repeated.mp (alike_within (by decide) alike)
  rw [if_neg (by decide)] at same
  subst same
  have scores := alike_within (by decide) (List.forall₂_cons.mp each).1
  rw [Alike] at scores
  exact List.cons_ne_nil _ _ scores

section Printer
variable {α : Type} {code : α → List Char} {stop : Char}

/-- What is written for an item shows where it ends. -/
def Ends (code : α → List Char) (a : α) : Prop := ∀ b r r', code a ++ r = code b ++ r' → a = b ∧ r = r'

theorem ends_list (start : ∀ a, ∃ c rest, code a = c :: rest ∧ c ≠ stop) {items others : List α}
    (each : ∀ a ∈ items, Ends code a) {r r' : List Char}
    (same : items.flatMap code ++ stop :: r = others.flatMap code ++ stop :: r') : items = others ∧ r = r' := by
  induction items generalizing others with
  | nil =>
    cases others with
    | nil => simpa using same
    | cons b others =>
      obtain ⟨c,rest,starts,differ⟩ := start b
      simp [starts,Ne.symm differ] at same
  | cons a items ih =>
    cases others with
    | nil =>
      obtain ⟨c,rest,starts,differ⟩ := start a
      simp [starts,differ] at same
    | cons b others =>
      rw [List.flatMap_cons,List.flatMap_cons,List.append_assoc,List.append_assoc] at same
      obtain ⟨rfl,rest⟩ := each a (by simp) b _ _ same
      obtain ⟨rfl,tail⟩ := ih (fun a member => each a (by simp [member])) rest
      exact ⟨rfl,tail⟩

def escaped (c : Char) : List Char := if c = '"' ∨ c = '\\' then ['\\',c] else [c]

def quoted (text : String) : List Char := '"' :: (text.toList.flatMap escaped ++ ['"'])

theorem escaped_ends (c : Char) : Ends escaped c := by
  intro d r r' same
  unfold escaped at same
  split_ifs at same with special other other
  · simpa using same
  · exact absurd (.inr (List.cons.inj same).1.symm) other
  · exact absurd (.inr (List.cons.inj same).1) special
  · simpa using same

theorem quoted_ends (text : String) : Ends quoted text := by
  intro other r r' same
  simp only [quoted,List.cons_append,List.append_assoc,List.nil_append,List.cons.injEq,true_and] at same
  have start : ∀ c, ∃ first rest, escaped c = first :: rest ∧ first ≠ '"' := by
    intro c
    unfold escaped
    split_ifs with special
    · exact ⟨_,_,rfl,by decide⟩
    · exact ⟨_,_,rfl,fun quote => special (.inl quote)⟩
  obtain ⟨chars,rest⟩ := ends_list start (fun c _ => escaped_ends c) same
  exact ⟨String.toList_inj.mp chars,rest⟩

/-- A text in the manner of `json.dumps`, with a comma after every entry. -/
def print : Json String → List Char
  | .scalar value => quoted value
  | .dict entries =>
    '\x7b' :: (entries.flatMap (fun entry => quoted entry.1 ++ ':' :: (print entry.2 ++ [','])) ++ ['\x7d'])
  | .list items => '[' :: (items.flatMap (fun item => print item ++ [',']) ++ [']'])
decreasing_by
  · simpa using size_field ‹_›
  · decreasing_tactic

theorem print_start (json : Json String) : ∃ c rest, print json ++ [','] = c :: rest ∧ c ≠ ']' := by
  cases json <;> rw [print] <;> exact ⟨_,_,rfl,by decide⟩

theorem print_ends (json : Json String) : Ends print json := by
  induction json using print.induct with
  | case1 value =>
    intro other r r' same
    cases other <;> simp only [print] at same
    · obtain ⟨rfl,rest⟩ := quoted_ends value _ _ _ same
      exact ⟨rfl,rest⟩
    all_goals cases same
  | case2 entries ih =>
    intro other r r' same
    have each : ∀ entry ∈ entries, Ends (fun entry => quoted entry.1 ++ ':' :: (print entry.2 ++ [','])) entry := by
      intro entry member other r r' same
      simp only [List.append_assoc,List.cons_append,List.nil_append] at same
      obtain ⟨key,rest⟩ := quoted_ends entry.1 _ _ _ same
      obtain ⟨value,rest⟩ := ih entry member _ _ _ (List.cons.inj rest).2
      exact ⟨Prod.ext key value,(List.cons.inj rest).2⟩
    cases other <;> simp only [print,List.cons_append,List.append_assoc,List.nil_append] at same
    · cases same
    · obtain ⟨rfl,rest⟩ := ends_list (fun entry => ⟨_,_,rfl,by decide⟩) each (List.cons.inj same).2
      exact ⟨rfl,rest⟩
    · cases same
  | case3 items ih =>
    intro other r r' same
    have each : ∀ item ∈ items, Ends (fun item => print item ++ [',']) item := by
      intro item member other r r' same
      simp only [List.append_assoc,List.cons_append,List.nil_append] at same
      obtain ⟨rfl,rest⟩ := ih item member _ _ _ same
      exact ⟨rfl,(List.cons.inj rest).2⟩
    cases other <;> simp only [print,List.cons_append,List.append_assoc,List.nil_append] at same
    · cases same
    · cases same
    · obtain ⟨rfl,rest⟩ := ends_list print_start each (List.cons.inj same).2
      exact ⟨rfl,rest⟩

end Printer

/-- `MessageToDict` by its equations. -/
def asDict : Value S → Json S
  | .scalar value => .scalar value
  | .map entries => .dict (entries.map (fun entry => (entry.1,.scalar entry.2)))
  | .message fields => .dict (fields.map (fun field => (field.1,asDict field.2)))
  | .repeated items => .list (items.map asDict)
decreasing_by
  · simpa using size_field ‹_›
  · decreasing_tactic

def textLibraries : Libraries String where
  toDict := asDict
  scalar value := by rw [asDict]
  map entries := by rw [asDict]
  message fields := by rw [asDict]
  repeated items := by rw [asDict]
  dumps json := String.ofList (print json)

theorem dumps_injective : Function.Injective textLibraries.dumps := by
  intro json other same
  have chars : print json ++ [] = print other ++ [] := by simpa using String.ofList_injective same
  exact (print_ends json other [] [] chars).1

/-- The shapes of the fields in `scored`. -/
def decisionSchema (_ name : String) : Shape :=
  if name = "component_scores" then .map
  else if name ∈ ["action_results","candidates","contract_evaluations","planner_evidence","rejected_candidates"] then
    .repeated (.message name)
  else .scalar

theorem scored_fits {scores : List (String × String)} (sorted : (scores.map Prod.fst).Pairwise (· < ·))
    (plain : ∀ score ∈ scores, score.1 ∉ volatileFields) :
    Fits decisionSchema (.message "DecisionRecord") (scored scores) := by
  refine fits_within (by decide) ?_ ?_
  · rw [show decisionSchema "DecisionRecord" "candidates" = .repeated (.message "candidates") from rfl,Fits]
    intro item member
    rw [List.mem_singleton.mp member]
    refine fits_within (by decide) ?_ ?_
    · rw [show decisionSchema "candidates" "component_scores" = .map from rfl,Fits]
      exact ⟨sorted,plain⟩
    · simp [decisionSchema,text,Fits]
  · simp [otherFields,decisionSchema,text,count,flag,Fits]

end TgsRl.Canonicalizer
