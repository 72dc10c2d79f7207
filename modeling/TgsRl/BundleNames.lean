import Mathlib.Data.List.DropRight
import TgsRl.Jobs

/-!
The names of Kubernetes objects. The key of a bundle and the names of its Job, Workload and
ResourceClaimTemplate are made of five identifiers: each is lower-cased, what a name may not contain
becomes a dash, and the results are joined by dashes; what is too long is cut and gets the first
digits of its hash. So the names keep the words of the identifiers, but not where one ends and the
next begins.
-/
namespace TgsRl.BundleNames

/-- `strings.ToLower`, as far as `nameSanitizer` tells characters apart: two characters outside ASCII have a lower
case within it. -/
def lower (c : Char) : Char :=
  if 'A' ≤ c ∧ c ≤ 'Z' then Char.ofNat (c.toNat + 32)
  else if c.toNat = 0x130 then 'i'
  else if c.toNat = 0x212A then 'k'
  else c

def nameChar (c : Char) : Bool := decide ('a' ≤ c ∧ c ≤ 'z' ∨ '0' ≤ c ∧ c ≤ '9' ∨ c = '-')

/-- `nameSanitizer.ReplaceAllString`: every run of other characters becomes one dash. -/
def replaceRuns : Bool → List Char → List Char
  | _,[] => []
  | within,c :: rest =>
    if nameChar c then c :: replaceRuns false rest
    else if within then replaceRuns true rest
    else '-' :: replaceRuns true rest

def trimDashes (text : List Char) : List Char := (text.dropWhile (· = '-')).rdropWhile (· = '-')

def compactName (value : String) : String :=
  let text := trimDashes (replaceRuns false (value.toList.map lower))
  if text = [] then "x" else String.ofList text

/-- The first ten digits of a hash. -/
structure Hash where
  digest : String → String
  length : ∀ text, (digest text).toList.length = 10
  digits : ∀ text, ∀ c ∈ (digest text).toList, c ∈ "0123456789abcdef".toList

def Hash.cut (hash : Hash) (joined : String) : String :=
  if 63 < joined.toList.length then String.ofList (joined.toList.take 52) ++ "-" ++ hash.digest joined else joined

def boundedName (hash : Hash) (parts : List String) : String :=
  String.ofList (trimDashes (hash.cut ("-".intercalate parts)).toList)

structure NormalizedInput where
  nameSpace : String
  jobID : String
  runID : String
  executionID : String
  stageID : String
  workloadUnitID : String
  generation : Nat
  deriving DecidableEq, Repr

def NormalizedInput.parts (input : NormalizedInput) : List String :=
  [compactName input.jobID,compactName input.runID,compactName input.executionID,compactName input.stageID,
    compactName input.workloadUnitID]

inductive Kind where
  | bundle | workload | job | claimtemplate
  deriving DecidableEq, Repr

def Kind.text : Kind → String
  | .bundle => "bundle"
  | .workload => "workload"
  | .job => "job"
  | .claimtemplate => "claimtemplate"

def buildStableName (hash : Hash) (kind : Kind) (input : NormalizedInput) : String := boundedName hash (kind.text :: input.parts)

def buildObjectName (hash : Hash) (kind : Kind) (input : NormalizedInput) : String :=
  boundedName hash [buildStableName hash kind input,"g" ++ toString input.generation]

def bundleKey (hash : Hash) (input : NormalizedInput) : String := input.nameSpace ++ "/" ++ buildStableName hash .bundle input

def NormalizedInput.words (input : NormalizedInput) : List (List Char) := input.parts.flatMap (fun part => part.toList.splitOn '-')

/-- The text of a name before it is cut. -/
def NormalizedInput.joined (input : NormalizedInput) (kind : Kind) : String := "-".intercalate (kind.text :: input.parts)

theorem joined_toList (input : NormalizedInput) (kind : Kind) : (input.joined kind).toList =
    kind.text.toList ++ '-' :: ((compactName input.jobID).toList ++ '-' :: ((compactName input.runID).toList ++
      '-' :: ((compactName input.executionID).toList ++ '-' :: ((compactName input.stageID).toList ++
        '-' :: (compactName input.workloadUnitID).toList)))) := by
  simp [NormalizedInput.joined,NormalizedInput.parts]

theorem joined_split (input : NormalizedInput) (kind : Kind) :
    (input.joined kind).toList.splitOn '-' = kind.text.toList :: input.words := by
  have word : '-' ∉ kind.text.toList := by cases kind <;> decide
  rw [joined_toList,List.splitOn_append_cons_self_of_not_mem word]
  simp only [List.splitOn_append_cons_self,NormalizedInput.words,NormalizedInput.parts,List.flatMap_cons,List.flatMap_nil,List.append_nil]

variable {a b : NormalizedInput} {hash : Hash}

/-- A text is determined by its words. -/
theorem joined_same_iff (kind : Kind) : a.joined kind = b.joined kind ↔ a.words = b.words := by
  constructor
  · intro same
    have split := joined_split a kind
    rw [same,joined_split] at split
    exact (List.cons.inj split).2.symm
  · intro same
    have split := (joined_split a kind).trans ((congrArg _ same).trans (joined_split b kind).symm)
    have whole := congrArg (['-'].intercalate ·) split
    simp only [List.intercalate_splitOn] at whole
    exact String.toList_inj.mp whole

/-- A text that no dash begins or ends. -/
structure Sharp (text : List Char) : Prop where
  first : ∃ c, text.head? = some c ∧ c ≠ '-'
  last : ∃ c, text.getLast? = some c ∧ c ≠ '-'

theorem Sharp.trim {text : List Char} (sharp : Sharp text) : trimDashes text = text := by
  obtain ⟨⟨c,first,plain⟩,d,last,plain'⟩ := sharp
  have start : text.dropWhile (· = '-') = text := by
    rw [List.dropWhile_eq_self_iff]
    intro nonempty dash
    rw [List.head?_eq_getElem?,List.getElem?_eq_getElem nonempty] at first
    cases first
    exact plain (of_decide_eq_true dash)
  rw [trimDashes,start,List.rdropWhile_eq_self_iff]
  intro nonempty dash
  rw [List.getLast?_eq_some_getLast nonempty] at last
  cases last
  exact plain' (of_decide_eq_true dash)

theorem ends_append {first second : List Char} (ends : ∃ c, second.getLast? = some c ∧ c ≠ '-') :
    ∃ c, (first ++ '-' :: second).getLast? = some c ∧ c ≠ '-' := by
  obtain ⟨c,last,plain⟩ := ends
  exact ⟨c,by simp [List.getLast?_append,List.getLast?_cons,last],plain⟩

theorem starts_append {first second : List Char} (starts : ∃ c, first.head? = some c ∧ c ≠ '-') :
    ∃ c, (first ++ second).head? = some c ∧ c ≠ '-' := by
  obtain ⟨c,start,plain⟩ := starts
  exact ⟨c,by simp [List.head?_append,start],plain⟩

theorem compact_ends (value : String) : ∃ c, (compactName value).toList.getLast? = some c ∧ c ≠ '-' := by
  by_cases blank : trimDashes (replaceRuns false (value.toList.map lower)) = []
  · exact ⟨'x',by simp [compactName,blank],by decide⟩
  · have last := List.rdropWhile_last_not (· = '-') _ blank
    refine ⟨_,?_,by simpa using last⟩
    simp only [compactName,blank,if_false,String.toList_ofList]
    exact List.getLast?_eq_some_getLast blank

theorem joined_sharp (input : NormalizedInput) (kind : Kind) : Sharp (input.joined kind).toList := by
  rw [joined_toList]
  constructor
  · refine starts_append ?_
    cases kind <;> exact ⟨_,rfl,by decide⟩
  · exact ends_append (ends_append (ends_append (ends_append (ends_append (compact_ends _)))))

theorem cut_sharp (hash : Hash) {text : String} (sharp : Sharp text.toList) : Sharp (hash.cut text).toList := by
  rw [Hash.cut]
  split_ifs with long
  · obtain ⟨⟨c,first,plain⟩,-⟩ := sharp
    have dash : "-".toList = ['-'] := rfl
    simp only [String.toList_append,String.toList_ofList,dash,List.append_assoc,List.singleton_append]
    constructor
    · exact starts_append ⟨c,by rw [List.head?_take,first]; rfl,plain⟩
    · refine ends_append ?_
      have nonempty : (hash.digest text).toList ≠ [] := by
        intro empty
        have length := hash.length text
        rw [empty] at length
        cases length
      refine ⟨_,List.getLast?_eq_some_getLast nonempty,?_⟩
      have digit := hash.digits text _ (List.getLast_mem nonempty)
      rintro same
      rw [same] at digit
      revert digit
      decide
  · exact sharp

theorem buildStableName_eq (hash : Hash) (kind : Kind) (input : NormalizedInput) :
    buildStableName hash kind input = hash.cut (input.joined kind) := by
  rw [buildStableName,boundedName]
  exact (congrArg String.ofList (cut_sharp hash (joined_sharp input kind)).trim).trans (String.ofList_toList ..)

/-- The text of an object's name before it is cut. -/
def NormalizedInput.objectText (hash : Hash) (kind : Kind) (input : NormalizedInput) : String :=
  "-".intercalate [buildStableName hash kind input,"g" ++ toString input.generation]

theorem objectText_toList (hash : Hash) (kind : Kind) (input : NormalizedInput) : (input.objectText hash kind).toList =
    (buildStableName hash kind input).toList ++ '-' :: ('g' :: (toString input.generation).toList) := by
  simp [NormalizedInput.objectText]

theorem digits_plain (n : Nat) : '-' ∉ (toString n).toList := by
  intro member
  have digit := Nat.isDigit_of_mem_toDigits (b := 10) (n := n) (c := '-') (by decide) (by decide)
    (by simpa [Nat.toList_repr] using member)
  revert digit
  decide

theorem objectText_sharp (hash : Hash) (kind : Kind) (input : NormalizedInput) : Sharp (input.objectText hash kind).toList := by
  rw [objectText_toList]
  constructor
  · rw [buildStableName_eq]
    exact starts_append (cut_sharp hash (joined_sharp input kind)).first
  · refine ends_append ⟨_,List.getLast?_eq_some_getLast (List.cons_ne_nil _ _),fun dash => ?_⟩
    have member := List.getLast_mem (List.cons_ne_nil 'g' (toString input.generation).toList)
    rw [dash,List.mem_cons] at member
    obtain ⟨⟨⟩⟩ | member := member
    exact digits_plain _ member

theorem buildObjectName_eq (hash : Hash) (kind : Kind) (input : NormalizedInput) :
    buildObjectName hash kind input = hash.cut (input.objectText hash kind) := by
  rw [buildObjectName,boundedName]
  exact (congrArg String.ofList (cut_sharp hash (objectText_sharp hash kind input)).trim).trans (String.ofList_toList ..)

/-- The generation comes after the last dash. -/
theorem objectText_same_iff {kind : Kind} : a.objectText hash kind = b.objectText hash kind ↔
    buildStableName hash kind a = buildStableName hash kind b ∧ a.generation = b.generation := by
  constructor
  · intro same
    have plain (n : Nat) : '-' ∉ 'g' :: (toString n).toList := by
      rw [List.mem_cons,not_or]
      exact ⟨by decide,digits_plain n⟩
    have split (input : NormalizedInput) : (input.objectText hash kind).toList.splitOn '-' =
        (buildStableName hash kind input).toList.splitOn '-' ++ ['g' :: (toString input.generation).toList] := by
      rw [objectText_toList,List.splitOn_append_cons_self,List.splitOn_eq_singleton (plain _)]
    have both := split a
    rw [same,split b] at both
    obtain ⟨stable,number⟩ := List.append_inj' both rfl
    have whole := congrArg (['-'].intercalate ·) stable
    simp only [List.intercalate_splitOn] at whole
    simp only [List.cons.injEq,and_true,true_and] at number
    exact ⟨(String.toList_inj.mp whole).symm,(Jobs.toString_injective number).symm⟩
  · rintro ⟨stable,number⟩
    rw [NormalizedInput.objectText,NormalizedInput.objectText,stable,number]

/-- One of the texts is too long for a name, and the other is what it is cut to. -/
def Confused (hash : Hash) (x y : String) : Prop :=
  63 < x.toList.length ∧ y.toList.length ≤ 63 ∧ hash.cut x = y ∨ 63 < y.toList.length ∧ x.toList.length ≤ 63 ∧ hash.cut y = x

def Hash.Separates (hash : Hash) (x y : String) : Prop :=
  63 < x.toList.length → 63 < y.toList.length → hash.digest x = hash.digest y → x = y

theorem cut_same_iff {x y : String} (separates : hash.Separates x y) : hash.cut x = hash.cut y ↔ x = y ∨ Confused hash x y := by
  constructor
  · intro same
    by_cases long : 63 < x.toList.length
    · by_cases long' : 63 < y.toList.length
      · left
        refine separates long long' ?_
        rw [Hash.cut,Hash.cut,if_pos long,if_pos long'] at same
        have chars := congrArg String.toList same
        simp only [String.toList_append,String.toList_ofList] at chars
        exact String.toList_inj.mp (List.append_inj' chars (by rw [hash.length,hash.length])).2
      · rw [Hash.cut.eq_def hash y,if_neg long'] at same
        exact .inr (.inl ⟨long,by omega,same⟩)
    · rw [Hash.cut.eq_def hash x,if_neg long] at same
      by_cases long' : 63 < y.toList.length
      · exact .inr (.inr ⟨long',by omega,same.symm⟩)
      · rw [Hash.cut,if_neg long'] at same
        exact .inl same
  · have short {text : String} (fits : text.toList.length ≤ 63) : hash.cut text = text := by rw [Hash.cut,if_neg (by omega)]
    rintro (rfl | ⟨-,fits,same⟩ | ⟨-,fits,same⟩)
    · rfl
    · rw [same,short fits]
    · rw [same,short fits]

theorem not_confused {x y : String} (short : x.toList.length ≤ 63) (short' : y.toList.length ≤ 63) : ¬ Confused hash x y := by
  rintro (⟨long,-⟩ | ⟨long,-⟩) <;> omega

/-- The hash does not collide on the texts of the two bindings' names. -/
structure Clear (hash : Hash) (a b : NormalizedInput) : Prop where
  stable : ∀ kind, hash.Separates (a.joined kind) (b.joined kind)
  object : ∀ kind, hash.Separates (a.objectText hash kind) (b.objectText hash kind)

structure Apart (hash : Hash) (a b : NormalizedInput) : Prop where
  words : a.words ≠ b.words
  bundle : ¬ Confused hash (a.joined .bundle) (b.joined .bundle)
  stable : ∀ kind, kind ≠ .bundle → a.generation = b.generation → ¬ Confused hash (a.joined kind) (b.joined kind)
  object : ∀ kind, kind ≠ .bundle → ¬ Confused hash (a.objectText hash kind) (b.objectText hash kind)

theorem stable_same_iff (clear : Clear hash a b) (kind : Kind) :
    buildStableName hash kind a = buildStableName hash kind b ↔ a.words = b.words ∨ Confused hash (a.joined kind) (b.joined kind) := by
  rw [buildStableName_eq,buildStableName_eq,cut_same_iff (clear.stable kind),joined_same_iff]

theorem object_same_iff (clear : Clear hash a b) (kind : Kind) :
    buildObjectName hash kind a = buildObjectName hash kind b ↔
      (buildStableName hash kind a = buildStableName hash kind b ∧ a.generation = b.generation) ∨
        Confused hash (a.objectText hash kind) (b.objectText hash kind) := by
  rw [buildObjectName_eq,buildObjectName_eq,cut_same_iff (clear.object kind),objectText_same_iff]

/-- Where the hash does not collide, two bindings in a namespace have different keys and object names exactly if their
identifiers give different sequences of words and no name is what a longer one is cut to. -/
theorem names_differ_iff {hash : Hash} {a b : NormalizedInput} (same : a.nameSpace = b.nameSpace) (clear : Clear hash a b) :
    (bundleKey hash a ≠ bundleKey hash b ∧ ∀ kind, kind ≠ .bundle → buildObjectName hash kind a ≠ buildObjectName hash kind b) ↔
      Apart hash a b := by
  have key : bundleKey hash a = bundleKey hash b ↔ buildStableName hash .bundle a = buildStableName hash .bundle b := by
    rw [bundleKey,bundleKey,same,String.append_right_inj]
  constructor
  · rintro ⟨keys,objects⟩
    rw [Ne,key,stable_same_iff clear,not_or] at keys
    refine ⟨keys.1,keys.2,fun kind other generation confused => ?_,fun kind other confused => ?_⟩
    · exact objects kind other ((object_same_iff clear kind).mpr (.inl ⟨(stable_same_iff clear kind).mpr (.inr confused),generation⟩))
    · exact objects kind other ((object_same_iff clear kind).mpr (.inr confused))
  · intro apart
    constructor
    · rw [Ne,key,stable_same_iff clear,not_or]
      exact ⟨apart.words,apart.bundle⟩
    · intro kind other object
      obtain ⟨stable,generation⟩ | confused := (object_same_iff clear kind).mp object
      · obtain words | confused := (stable_same_iff clear kind).mp stable
        · exact apart.words words
        · exact apart.stable kind other generation confused
      · exact apart.object kind other confused

def demoHash : Hash := ⟨fun _ => "0123456789",fun _ => rfl,fun _ => by simp⟩

def demoInput (jobID runID unitID : String) : NormalizedInput := ⟨"default",jobID,runID,"plan","train",unitID,1⟩

theorem names_differ_demo :
    bundleKey demoHash (demoInput "job" "run" "unit-1") ≠ bundleKey demoHash (demoInput "job" "run" "unit-2") ∧
      ∀ kind, kind ≠ .bundle →
        buildObjectName demoHash kind (demoInput "job" "run" "unit-1") ≠ buildObjectName demoHash kind (demoInput "job" "run" "unit-2") := by
  have here (kind : Kind) : ((demoInput "job" "run" "unit-1").joined kind).toList.length ≤ 63 ∧
      ((demoInput "job" "run" "unit-1").objectText demoHash kind).toList.length ≤ 63 := by cases kind <;> decide +kernel
  have there (kind : Kind) : ((demoInput "job" "run" "unit-2").joined kind).toList.length ≤ 63 ∧
      ((demoInput "job" "run" "unit-2").objectText demoHash kind).toList.length ≤ 63 := by cases kind <;> decide +kernel
  have clear : Clear demoHash (demoInput "job" "run" "unit-1") (demoInput "job" "run" "unit-2") :=
    ⟨fun kind long => absurd long (not_lt.mpr (here kind).1),fun kind long => absurd long (not_lt.mpr (here kind).2)⟩
  have words : (demoInput "job" "run" "unit-1").words ≠ (demoInput "job" "run" "unit-2").words := by decide +kernel
  have apart : Apart demoHash (demoInput "job" "run" "unit-1") (demoInput "job" "run" "unit-2") :=
    ⟨words,not_confused (here .bundle).1 (there .bundle).1,fun kind _ _ => not_confused (here kind).1 (there kind).1,
      fun kind _ => not_confused (here kind).2 (there kind).2⟩
  have same : (demoInput "job" "run" "unit-1").nameSpace = (demoInput "job" "run" "unit-2").nameSpace := rfl
  exact (names_differ_iff same clear).mpr apart

/-- A dash belongs to the one identifier or to the other. -/
theorem names_collide : demoInput "a-b" "c" "unit" ≠ demoInput "a" "b-c" "unit" ∧
    bundleKey demoHash (demoInput "a-b" "c" "unit") = bundleKey demoHash (demoInput "a" "b-c" "unit") ∧
    ∀ kind, buildObjectName demoHash kind (demoInput "a-b" "c" "unit") = buildObjectName demoHash kind (demoInput "a" "b-c" "unit") := by
  have words : (demoInput "a-b" "c" "unit").words = (demoInput "a" "b-c" "unit").words := by decide +kernel
  have stable (kind : Kind) : buildStableName demoHash kind (demoInput "a-b" "c" "unit") =
      buildStableName demoHash kind (demoInput "a" "b-c" "unit") := by
    rw [buildStableName_eq,buildStableName_eq,(joined_same_iff kind).mpr words]
  refine ⟨by decide,?_,fun kind => ?_⟩
  · rw [bundleKey,bundleKey,stable]
    rfl
  · rw [buildObjectName,buildObjectName,stable]
    rfl

end TgsRl.BundleNames
