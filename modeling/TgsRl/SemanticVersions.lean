import Mathlib.Data.List.DropRight
import Mathlib.Data.List.Lex
import Mathlib.Data.Prod.Lex
import Mathlib.Data.String.Basic
import Mathlib.Data.Sum.Order
import Mathlib.Order.WithBot
import TgsRl.Validation

/-!
Component versions as `semantics/versions.go` reads, writes and compares them.
`compareSemanticVersions` decides the precedence of SemVer 2.0, and a version that is written out
reads as itself (`parse_render`). Texts are lists of characters.
-/
namespace TgsRl.SemanticVersions
open Validation

structure SemanticVersion where
  major : Nat
  minor : Nat
  patch : Nat
  prerelease : List (List Char)
  build : List (List Char)
  deriving DecidableEq, Repr

/-- `strings.Cut` at a character: what stands before it, and what stands after it if it is there. -/
def cut (sep : Char) : List Char → List Char × Option (List Char)
  | [] => ([],none)
  | c :: rest => if c = sep then ([],some rest) else (c :: (cut sep rest).1,(cut sep rest).2)

/-- `strings.TrimPrefix` of one character. -/
def trimPrefix (first : Char) : List Char → List Char
  | [] => []
  | c :: rest => if c = first then rest else c :: rest

def leadingZero (text : List Char) : Bool := decide (1 < text.length) && decide (text.head? = some '0')

def validNumericIdentifier (text : List Char) : Bool := decide (text ≠ []) && !leadingZero text && text.all Char.isDigit

def number (digits : List Char) : Nat := Nat.ofDigitChars 10 digits 0

/-- One component: a canonical `uint32`. -/
def component (text : List Char) : Option Nat :=
  if validNumericIdentifier text = true ∧ number text < 2 ^ 32 then some (number text) else none

def validIdentifier (prerelease : Bool) (text : List Char) : Bool :=
  decide (text ≠ []) && text.all (fun c => c.isAlphanum || c == '-') &&
    !(prerelease && text.all Char.isDigit && leadingZero text)

def validVersionIdentifiers (values : List (List Char)) (prerelease : Bool) : Bool :=
  decide (values ≠ []) && values.all (validIdentifier prerelease)

/-- The identifiers of a part that may be missing. -/
def identifiers (part : Option (List Char)) : List (List Char) := match part with
  | none => []
  | some text => text.splitOn '.'

def parseSemanticVersion (value : String) : Except String SemanticVersion :=
  if value = "" ∨ value ≠ trimSpace value then .error "version must be non-empty and canonical"
  else
    let (coreAndPre,buildPart) := cut '+' (trimPrefix 'V' (trimPrefix 'v' value.toList))
    if buildPart.any (fun text => decide (text = []) || text.contains '+') then .error "version build metadata is invalid"
    else
      let (core,prereleasePart) := cut '-' coreAndPre
      let parts := core.splitOn '.'
      if parts.length ≠ 2 ∧ parts.length ≠ 3 then .error "version must have 2 or 3 numeric components"
      else match parts.mapM component with
        | none => .error "version components must be canonical uint32 values"
        | some values =>
          if prereleasePart.isSome && !validVersionIdentifiers (identifiers prereleasePart) true then
            .error "version prerelease is invalid"
          else if buildPart.isSome && !validVersionIdentifiers (identifiers buildPart) false then
            .error "version build metadata is invalid"
          else .ok ⟨values.getD 0 0,values.getD 1 0,values.getD 2 0,identifiers prereleasePart,identifiers buildPart⟩

/-- Identifiers behind their mark, or nothing if there are none. -/
def marked (mark : Char) (identifiers : List (List Char)) : List Char :=
  if identifiers = [] then [] else mark :: ['.'].intercalate identifiers

def render (version : SemanticVersion) : String :=
  String.ofList (['.'].intercalate [Nat.toDigits 10 version.major,Nat.toDigits 10 version.minor,Nat.toDigits 10 version.patch] ++
    (marked '-' version.prerelease ++ marked '+' version.build))

def normalizeVersion (value : String) : Except String String := match parseSemanticVersion value with
  | .error err => .error err
  | .ok parsed => .ok (render parsed)

def numericPrerelease (text : List Char) : Bool := text.all Char.isDigit && decide (text ≠ [])

/-- Two identifiers that differ. -/
def compareIdentifiers (left right : List Char) : Int := match numericPrerelease left,numericPrerelease right with
  | true,false => -1
  | false,true => 1
  | true,true => if left.length < right.length ∨ (left.length = right.length ∧ left < right) then -1 else 1
  | false,false => if left < right then -1 else 1

/-- The loop over two prereleases, with the comparison of their lengths behind it. -/
def comparePrerelease : List (List Char) → List (List Char) → Int
  | [],[] => 0
  | [],_ :: _ => -1
  | _ :: _,[] => 1
  | left :: lefts,right :: rights => if left = right then comparePrerelease lefts rights else compareIdentifiers left right

def compareSemanticVersions (left right : SemanticVersion) : Int :=
  if left.major < right.major then -1 else if right.major < left.major then 1
  else if left.minor < right.minor then -1 else if right.minor < left.minor then 1
  else if left.patch < right.patch then -1 else if right.patch < left.patch then 1
  else if left.prerelease = [] ∧ right.prerelease = [] then 0
  else if left.prerelease = [] then 1
  else if right.prerelease = [] then -1
  else comparePrerelease left.prerelease right.prerelease

def protocolCompatible (current required : String) : Bool :=
  match parseSemanticVersion current,parseSemanticVersion required with
  | .ok actual,.ok minimum =>
    if actual.major ≠ minimum.major ∨ compareSemanticVersions actual minimum < 0 then false
    else if actual.major = 0 then decide (actual.minor = minimum.minor)
    else true
  | _,_ => false

inductive VersionOperator where
  | unknown | exact | semver | compatible
  deriving DecidableEq, Repr

structure VersionConstraint where
  operator : VersionOperator
  version : String
  allowPrerelease : Bool
  deriving DecidableEq, Repr

/-- Whether the version meets the constraint, and why. -/
def evaluateVersionMatch (current : String) (required : VersionConstraint) : Bool × String :=
  if required.operator = .exact then
    let exact := decide (current = required.version) ||
      ((parseSemanticVersion current).isOk && (parseSemanticVersion required.version).isOk &&
        decide ((normalizeVersion current).toOption = (normalizeVersion required.version).toOption))
    if exact && (parseSemanticVersion current).toOption.any (fun actual => decide (actual.prerelease ≠ [])) &&
        !required.allowPrerelease then
      (false,"prerelease component version is not allowed")
    else if exact then (true,"component version exactly matched")
    else (false,"component version did not exactly match")
  else match normalizeVersion current,normalizeVersion required.version with
    | .ok actual,.ok minimum =>
      let actualParsed := (parseSemanticVersion actual).toOption.getD ⟨0,0,0,[],[]⟩
      let requiredParsed := (parseSemanticVersion minimum).toOption.getD ⟨0,0,0,[],[]⟩
      if (actualParsed.prerelease ≠ [] ∨ requiredParsed.prerelease ≠ []) ∧ required.allowPrerelease = false then
        (false,"prerelease component version is not allowed")
      else match required.operator with
        | .semver =>
          if 0 ≤ compareSemanticVersions actualParsed requiredParsed then
            (true,"component semantic version satisfies the minimum")
          else (false,"component semantic version is below the minimum")
        | .compatible =>
          if protocolCompatible actual minimum then (true,"component semantic version is compatible")
          else (false,"component semantic version is incompatible")
        | _ => (false,"version operator is unknown")
    | _,_ => (false,"component or required version is not valid semantic version syntax")

/-- An identifier of a prerelease: a number, or after all numbers a text. -/
def identifier (text : List Char) : ℕ ⊕ₗ List Char :=
  if numericPrerelease text then Sum.inlₗ (number text) else Sum.inrₗ text

/-- What SemVer 2.0 orders versions by: the three numbers, then the prerelease, identifier by identifier and a longer one
    after its beginnings, and a version without one after all its prereleases. Build metadata does not count. -/
def precedence (version : SemanticVersion) : ℕ ×ₗ ℕ ×ₗ ℕ ×ₗ WithTop (List (ℕ ⊕ₗ List Char)) :=
  toLex (version.major,toLex (version.minor,toLex (version.patch,
    if version.prerelease = [] then ⊤ else ↑(version.prerelease.map identifier))))

/-- A comparison gives the sign that an order says. -/
def Agrees {α : Type} [LT α] (sign : Int) (left right : α) : Prop :=
  (left < right ∧ sign = -1) ∨ (left = right ∧ sign = 0) ∨ (right < left ∧ sign = 1)

section Numerals

theorem number_cons (c : Char) (digits : List Char) : number (c :: digits) = 10 ^ digits.length * (c.toNat - 48) + number digits := by
  rw [number,Nat.ofDigitChars_cons,Nat.ofDigitChars_eq_ofDigitChars_zero]
  simp [number]

theorem digit_bounds {c : Char} (digit : c.isDigit = true) : 48 ≤ c.toNat ∧ c.toNat ≤ 57 := by
  simp only [Char.isDigit,Bool.and_eq_true,decide_eq_true_eq] at digit
  exact ⟨digit.1,digit.2⟩

variable {digits left right : List Char}

theorem number_lt (each : ∀ c ∈ digits, c.isDigit = true) : number digits < 10 ^ digits.length := by
  induction digits with
  | nil => simp [number]
  | cons c digits ih =>
    have rest := ih fun c member => each c (by simp [member])
    have := digit_bounds (each c (by simp))
    have : 10 ^ digits.length * (c.toNat - 48) ≤ 10 ^ digits.length * 9 := Nat.mul_le_mul_left _ (by omega)
    rw [number_cons,List.length_cons,Nat.pow_succ]
    omega

/-- Numerals of one length are ordered as texts are. -/
theorem number_lt_of_lt (lefts : ∀ c ∈ left, c.isDigit = true) (rights : ∀ c ∈ right, c.isDigit = true)
    (length : left.length = right.length) (less : left < right) : number left < number right := by
  induction left generalizing right with
  | nil =>
    cases right with
    | nil => exact absurd less (lt_irrefl _)
    | cons d right => simp at length
  | cons c left ih =>
    cases right with
    | nil => simp at length
    | cons d right =>
      have same : left.length = right.length := by simpa using length
      have leftBound := number_lt fun c member => lefts c (List.mem_cons_of_mem _ member)
      rw [number_cons,number_cons,← same]
      rcases List.cons_lt_cons_iff.mp less with first | ⟨rfl,later⟩
      · have digits : c.toNat - 48 + 1 ≤ d.toNat - 48 := by
          have := digit_bounds (lefts c (by simp))
          have : c.toNat < d.toNat := first
          omega
        have := Nat.mul_le_mul_left (10 ^ left.length) digits
        rw [Nat.mul_add] at this
        omega
      · have := ih (fun c member => lefts c (by simp [member])) (fun c member => rights c (by simp [member])) same later
        omega

def Canonical (digits : List Char) : Prop := digits ≠ [] ∧ leadingZero digits = false ∧ ∀ c ∈ digits, c.isDigit = true

theorem le_number (canonical : Canonical digits) (long : 1 < digits.length) : 10 ^ (digits.length - 1) ≤ number digits := by
  obtain ⟨nonempty,first,each⟩ := canonical
  cases digits with
  | nil => simp at long
  | cons c digits =>
    have digit := digit_bounds (each c (by simp))
    have nonzero : c.toNat ≠ 48 := by
      intro zero
      have : c = '0' := Char.toNat_inj.mp zero
      simp_all [leadingZero]
    have := Nat.mul_le_mul_left (10 ^ digits.length) (show 1 ≤ c.toNat - 48 by omega)
    rw [number_cons]
    simp only [List.length_cons,Nat.add_sub_cancel]
    omega

theorem number_lt_iff (lefts : Canonical left) (rights : Canonical right) :
    number left < number right ↔ left.length < right.length ∨ (left.length = right.length ∧ left < right) := by
  have shorter {a b : List Char} (as : Canonical a) (bs : Canonical b) (less : a.length < b.length) : number a < number b := by
    have := List.length_pos_iff.mpr as.1
    calc number a < 10 ^ a.length := number_lt as.2.2
      _ ≤ 10 ^ (b.length - 1) := Nat.pow_le_pow_right (by omega) (by omega)
      _ ≤ number b := le_number bs (by omega)
  constructor
  · intro less
    rcases lt_trichotomy left.length right.length with short | same | long
    · exact .inl short
    · refine .inr ⟨same,?_⟩
      rcases lt_trichotomy left right with before | rfl | behind
      · exact before
      · omega
      · have := number_lt_of_lt rights.2.2 lefts.2.2 same.symm behind
        omega
    · have := shorter rights lefts long
      omega
  · rintro (short | ⟨same,before⟩)
    · exact shorter lefts rights short
    · exact number_lt_of_lt lefts.2.2 rights.2.2 same before

theorem canonical_toDigits (n : Nat) : Canonical (Nat.toDigits 10 n) := by
  have each : ∀ c ∈ Nat.toDigits 10 n, c.isDigit = true := fun c member => Nat.isDigit_of_mem_toDigits (by decide) (by decide) member
  refine ⟨Nat.toDigits_ne_nil,?_,each⟩
  by_contra zero
  simp only [leadingZero,Bool.not_eq_false,Bool.and_eq_true,decide_eq_true_eq] at zero
  obtain ⟨long,first⟩ := zero
  cases digits : Nat.toDigits 10 n with
  | nil => simp [digits] at long
  | cons c rest =>
    simp only [digits,List.head?_cons,Option.some.injEq,List.length_cons] at first long
    have value : number (Nat.toDigits 10 n) = n := Nat.ofDigitChars_ten_toDigits
    have small : number rest < 10 ^ rest.length := number_lt fun c member => each c (by simp [digits,member])
    rw [digits,number_cons,first] at value
    have short : (Nat.toDigits 10 n).length ≤ rest.length :=
      (Nat.length_toDigits_le_iff (by decide) (by omega)).mpr (by simp at value; omega)
    rw [digits,List.length_cons] at short
    omega

end Numerals

section Compare

theorem Agrees.lex {α β : Type} [LinearOrder α] [LT β] {sign : Int} {left right : α} {left' right' : β}
    (before : left < right → sign = -1) (behind : right < left → sign = 1) (level : left = right → Agrees sign left' right') :
    Agrees sign (toLex (left,left')) (toLex (right,right')) := by
  simp only [Agrees,Prod.Lex.toLex_lt_toLex,toLex_inj,Prod.mk.injEq]
  rcases lt_trichotomy left right with less | rfl | more
  · exact .inl ⟨.inl less,before less⟩
  · rcases level rfl with ⟨less,sign⟩ | ⟨rfl,sign⟩ | ⟨more,sign⟩
    · exact .inl ⟨.inr ⟨rfl,less⟩,sign⟩
    · exact .inr (.inl ⟨⟨rfl,rfl⟩,sign⟩)
    · exact .inr (.inr ⟨.inr ⟨rfl,more⟩,sign⟩)
  · exact .inr (.inr ⟨.inl more,behind more⟩)

theorem canonical_of_numeric {text : List Char} (valid : validIdentifier true text = true)
    (numeric : numericPrerelease text = true) : Canonical text := by
  simp only [numericPrerelease,Bool.and_eq_true,decide_eq_true_eq,List.all_eq_true] at numeric
  refine ⟨numeric.2,?_,numeric.1⟩
  have digits : text.all Char.isDigit = true := List.all_eq_true.mpr numeric.1
  simpa [validIdentifier,digits,numeric.2] using (Bool.and_eq_true_iff.mp valid).2

theorem compareIdentifiers_eq {left right : List Char} (lefts : validIdentifier true left = true)
    (rights : validIdentifier true right = true) (different : left ≠ right) :
    (identifier left < identifier right ∧ compareIdentifiers left right = -1) ∨
      (identifier right < identifier left ∧ compareIdentifiers left right = 1) := by
  cases leftNumeric : numericPrerelease left <;> cases rightNumeric : numericPrerelease right <;>
    simp only [compareIdentifiers,identifier,leftNumeric,rightNumeric]
  · rcases lt_or_gt_of_ne different with less | more
    · simp [less]
    · simp [more,not_lt.mpr more.le]
  · simp
  · simp
  · have less := number_lt_iff (canonical_of_numeric lefts leftNumeric) (canonical_of_numeric rights rightNumeric)
    have more := number_lt_iff (canonical_of_numeric rights rightNumeric) (canonical_of_numeric lefts leftNumeric)
    by_cases before : left.length < right.length ∨ (left.length = right.length ∧ left < right)
    · exact .inl ⟨by simpa using less.mpr before,if_pos before⟩
    · refine .inr ⟨?_,if_neg before⟩
      have behind : right < left ∨ left < right := lt_or_gt_of_ne different.symm
      have : number right < number left := by
        rw [more]
        rcases behind with first | second <;> simp_all <;> omega
      simpa using this

theorem comparePrerelease_agrees {left right : List (List Char)} (lefts : ∀ text ∈ left, validIdentifier true text = true)
    (rights : ∀ text ∈ right, validIdentifier true text = true) :
    Agrees (comparePrerelease left right) (left.map identifier) (right.map identifier) := by
  induction left generalizing right with
  | nil =>
    cases right with
    | nil => exact .inr (.inl ⟨rfl,rfl⟩)
    | cons r right => exact .inl ⟨List.nil_lt_cons _ _,rfl⟩
  | cons l left ih =>
    cases right with
    | nil => exact .inr (.inr ⟨List.nil_lt_cons _ _,rfl⟩)
    | cons r right =>
      by_cases same : l = r
      · subst same
        have agrees : Agrees (comparePrerelease left right) (left.map identifier) (right.map identifier) :=
          ih (fun text member => lefts text (by simp [member])) fun text member => rights text (by simp [member])
        simpa [Agrees,comparePrerelease,List.cons_lt_cons_iff] using agrees
      · simp only [comparePrerelease,if_neg same,List.map_cons]
        rcases compareIdentifiers_eq (lefts l (by simp)) (rights r (by simp)) same with ⟨less,sign⟩ | ⟨more,sign⟩
        · exact .inl ⟨List.cons_lt_cons_iff.mpr (.inl less),sign⟩
        · exact .inr (.inr ⟨List.cons_lt_cons_iff.mpr (.inl more),sign⟩)

/-- What `parseSemanticVersion` makes sure of. -/
structure Valid (version : SemanticVersion) : Prop where
  major : version.major < 2 ^ 32
  minor : version.minor < 2 ^ 32
  patch : version.patch < 2 ^ 32
  prerelease : ∀ text ∈ version.prerelease, validIdentifier true text = true
  build : ∀ text ∈ version.build, validIdentifier false text = true

theorem compareSemanticVersions_agrees {left right : SemanticVersion} (lefts : Valid left) (rights : Valid right) :
    Agrees (compareSemanticVersions left right) (precedence left) (precedence right) := by
  have last : left.major = right.major → left.minor = right.minor → left.patch = right.patch →
      Agrees (compareSemanticVersions left right)
        (if left.prerelease = [] then ⊤ else (↑(left.prerelease.map identifier) : WithTop (List (ℕ ⊕ₗ List Char))))
        (if right.prerelease = [] then ⊤ else ↑(right.prerelease.map identifier)) := by
    intro major minor patch
    have compared := comparePrerelease_agrees lefts.prerelease rights.prerelease
    simp only [compareSemanticVersions,major,minor,patch,lt_irrefl,if_false]
    by_cases leftReleased : left.prerelease = [] <;> by_cases rightReleased : right.prerelease = []
    · simp [Agrees,leftReleased,rightReleased]
    · simp [Agrees,leftReleased,rightReleased]
    · simp [Agrees,leftReleased,rightReleased]
    · simpa [Agrees,leftReleased,rightReleased] using compared
  refine Agrees.lex ?_ ?_ fun major => Agrees.lex ?_ ?_ fun minor => Agrees.lex ?_ ?_ fun patch => last major minor patch
  · intro less
    simp [compareSemanticVersions,less]
  · intro more
    simp [compareSemanticVersions,more,more.not_gt]
  · intro less
    simp [compareSemanticVersions,major,less]
  · intro more
    simp [compareSemanticVersions,major,more,more.not_gt]
  · intro less
    simp [compareSemanticVersions,major,minor,less]
  · intro more
    simp [compareSemanticVersions,major,minor,more,more.not_gt]

end Compare

section Render

variable {sep c mark : Char} {text : List Char} {prerelease : Bool} {texts : List (List Char)} {version : SemanticVersion}

theorem cut_of_notMem (none : sep ∉ text) : cut sep text = (text,.none) := by
  induction text with
  | nil => rfl
  | cons c text ih =>
    have : c ≠ sep := fun same => none (by simp [same])
    rw [cut,if_neg this,ih fun member => none (by simp [member])]

theorem cut_append {rest : List Char} (none : sep ∉ text) : cut sep (text ++ sep :: rest) = (text,some rest) := by
  induction text with
  | nil => simp [cut]
  | cons c text ih =>
    have : c ≠ sep := fun same => none (by simp [same])
    rw [List.cons_append,cut,if_neg this,ih fun member => none (by simp [member])]

theorem trimSpace_of_forall {text : String} (none : ∀ c ∈ text.toList, isSpace c = false) : trimSpace text = text := by
  have whole (chars : List Char) (none : ∀ c ∈ chars, isSpace c = false) : chars.dropWhile isSpace = chars := by
    cases chars with
    | nil => rfl
    | cons c chars => simp [none c (by simp)]
  simp [trimSpace,whole _ none,whole text.toList.reverse (by simpa using none)]

theorem alphanum_bounds (alphanum : c.isAlphanum = true) :
    (48 ≤ c.toNat ∧ c.toNat ≤ 57) ∨ (65 ≤ c.toNat ∧ c.toNat ≤ 90) ∨ (97 ≤ c.toNat ∧ c.toNat ≤ 122) := by
  change ((decide (c.val ≥ 'A'.val ∧ c.val ≤ 'Z'.val) || (decide (c.val ≥ 'a'.val) && decide (c.val ≤ 'z'.val))) ||
    (decide (c.val ≥ '0'.val) && decide (c.val ≤ '9'.val))) = true at alphanum
  simp only [Bool.or_eq_true,Bool.and_eq_true,decide_eq_true_eq,UInt32.le_iff_toNat_le,ge_iff_le] at alphanum
  have : c.toNat = c.val.toNat := rfl
  have : 'A'.val.toNat = 65 ∧ 'Z'.val.toNat = 90 ∧ 'a'.val.toNat = 97 ∧ 'z'.val.toNat = 122 := ⟨rfl,rfl,rfl,rfl⟩
  have : '0'.val.toNat = 48 ∧ '9'.val.toNat = 57 := ⟨rfl,rfl⟩
  omega

theorem identifierChar_of_mem (valid : validIdentifier prerelease text = true) (member : c ∈ text) :
    c.isAlphanum = true ∨ c = '-' := by
  simp only [validIdentifier,Bool.and_eq_true,List.all_eq_true,Bool.or_eq_true,beq_iff_eq] at valid
  exact valid.1.2 c member

theorem notMem_of_valid (valid : validIdentifier prerelease text = true) (other : mark.isAlphanum = false ∧ mark ≠ '-') :
    mark ∉ text := by
  intro member
  rcases identifierChar_of_mem valid member with alphanum | dash
  · simp [other.1] at alphanum
  · exact other.2 dash

theorem not_space (used : c.isAlphanum = true ∨ c ∈ ['-','.','+']) : isSpace c = false := by
  rcases used with alphanum | mark
  · have := alphanum_bounds alphanum
    simp only [isSpace,List.mem_cons,List.not_mem_nil,or_false,Bool.or_eq_false_iff,decide_eq_false_iff_not]
    omega
  · simp only [List.mem_cons,List.not_mem_nil,or_false] at mark
    rcases mark with rfl | rfl | rfl <;> decide

theorem mem_intercalate (member : c ∈ [sep].intercalate texts) : c = sep ∨ ∃ text ∈ texts, c ∈ text := by
  induction texts with
  | nil => simp at member
  | cons first texts ih =>
    cases texts with
    | nil => exact .inr ⟨first,by simp,by simpa using member⟩
    | cons second texts =>
      simp only [List.intercalate_cons_cons,List.append_assoc,List.mem_append,List.mem_singleton] at member
      rcases member with here | same | later
      · exact .inr ⟨first,by simp,here⟩
      · exact .inl same
      · rcases ih later with same | ⟨text,among,inside⟩
        · exact .inl same
        · exact .inr ⟨text,by simp [among],inside⟩

theorem mem_marked (valid : ∀ text ∈ texts, validIdentifier prerelease text = true) (member : c ∈ marked mark texts) :
    c = mark ∨ c = '.' ∨ c.isAlphanum = true ∨ c = '-' := by
  by_cases none : texts = []
  · simp [marked,none] at member
  simp only [marked,if_neg none,List.mem_cons] at member
  rcases member with same | joined
  · exact .inl same
  rcases mem_intercalate joined with dot | ⟨text,among,inside⟩
  · exact .inr (.inl dot)
  · exact .inr (.inr (identifierChar_of_mem (valid text among) inside))

theorem mem_core {numbers : List Nat} (member : c ∈ ['.'].intercalate (numbers.map (Nat.toDigits 10))) :
    c = '.' ∨ c.isDigit = true := by
  rcases mem_intercalate member with dot | ⟨text,among,inside⟩
  · exact .inl dot
  · obtain ⟨n,_,rfl⟩ := List.mem_map.mp among
    exact .inr ((canonical_toDigits n).2.2 c inside)

theorem cut_marked (none : mark ∉ text) :
    cut mark (text ++ marked mark texts) = (text,if texts = [] then .none else some (['.'].intercalate texts)) := by
  by_cases empty : texts = []
  · simp [marked,empty,cut_of_notMem none]
  · simp only [marked,if_neg empty]
    exact cut_append none

theorem splitOn_dot (nonempty : texts ≠ []) (none : ∀ text ∈ texts, '.' ∉ text) :
    (['.'].intercalate texts).splitOn '.' = texts := List.splitOn_intercalate '.' none nonempty

theorem identifiers_marked (valid : ∀ text ∈ texts, validIdentifier prerelease text = true) :
    identifiers (if texts = [] then none else some (['.'].intercalate texts)) = texts := by
  by_cases empty : texts = []
  · simp [empty,identifiers]
  · rw [if_neg empty]
    exact splitOn_dot empty fun text among => notMem_of_valid (valid text among) (by decide)

theorem component_toDigits {n : Nat} (small : n < 2 ^ 32) : component (Nat.toDigits 10 n) = some n := by
  obtain ⟨nonempty,zero,digits⟩ := canonical_toDigits n
  have value : number (Nat.toDigits 10 n) = n := Nat.ofDigitChars_ten_toDigits
  have valid : validNumericIdentifier (Nat.toDigits 10 n) = true := by
    simp [validNumericIdentifier,zero,List.all_eq_true.mpr digits,Nat.toDigits_ne_nil]
  rw [component,if_pos ⟨valid,by rw [value]; exact small⟩,value]

theorem build_not_empty (valid : ∀ text ∈ texts, validIdentifier false text = true) :
    (if texts = [] then none else some (['.'].intercalate texts)).any
      (fun text => decide (text = []) || text.contains '+') = false := by
  by_cases empty : texts = []
  · simp [empty]
  have plus : '+' ∉ ['.'].intercalate texts := by
    intro member
    rcases mem_intercalate member with dot | ⟨text,among,inside⟩
    · exact absurd dot (by decide)
    · exact notMem_of_valid (valid text among) (by decide) inside
  have some : ['.'].intercalate texts ≠ [] := by
    intro none
    have split := splitOn_dot empty fun text among => notMem_of_valid (valid text among) (by decide)
    rw [none,List.splitOn_nil] at split
    have := valid [] (by simp [← split])
    simp [validIdentifier] at this
  simp [empty,plus,some]

theorem valid_identifiers (valid : ∀ text ∈ texts, validIdentifier prerelease text = true) :
    ((if texts = [] then none else some (['.'].intercalate texts)).isSome &&
      !validVersionIdentifiers texts prerelease) = false := by
  by_cases empty : texts = []
  · simp [empty]
  · simp [empty,validVersionIdentifiers,List.all_eq_true.mpr valid]

theorem parse_render (valid : Valid version) : parseSemanticVersion (render version) = .ok version := by
  obtain ⟨major,minor,patch,prerelease,build⟩ := version
  obtain ⟨majors,minors,patches,prereleases,builds⟩ := valid
  simp only at majors minors patches prereleases builds
  let core := ['.'].intercalate ([major,minor,patch].map (Nat.toDigits 10))
  have text : (render ⟨major,minor,patch,prerelease,build⟩).toList = core ++ marked '-' prerelease ++ marked '+' build := by
    simp [render,core]
  have cores {c : Char} (member : c ∈ core) : c = '.' ∨ c.isDigit = true := mem_core member
  obtain ⟨first,rest,starts⟩ := List.exists_cons_of_ne_nil (Nat.toDigits_ne_nil (n := major) (b := 10))
  have digit : first.isDigit = true := (canonical_toDigits major).2.2 first (by simp [starts])
  have opens : core = first :: (rest ++ '.' :: ['.'].intercalate ([minor,patch].map (Nat.toDigits 10))) := by
    simp [core,starts]
  have trimmed : trimSpace (render ⟨major,minor,patch,prerelease,build⟩) = render ⟨major,minor,patch,prerelease,build⟩ := by
    refine trimSpace_of_forall fun c member => not_space ?_
    rw [text,List.mem_append,List.mem_append] at member
    rcases member with (inCore | inPre) | inBuild
    · rcases cores inCore with dot | digit
      · exact .inr (by simp [dot])
      · exact .inl (by simp [Char.isAlphanum,digit])
    · have := mem_marked prereleases inPre
      simp only [List.mem_cons]
      tauto
    · have := mem_marked builds inBuild
      simp only [List.mem_cons]
      tauto
  have given : ¬(render ⟨major,minor,patch,prerelease,build⟩ = "" ∨
      render ⟨major,minor,patch,prerelease,build⟩ ≠ trimSpace (render ⟨major,minor,patch,prerelease,build⟩)) := by
    rw [trimmed]
    rintro (empty | other)
    · rw [empty,opens] at text
      simp at text
    · exact other rfl
  have unmarked (letter : Char) (other : letter.isDigit = false) (later : List Char) : trimPrefix letter (core ++ later) = core ++ later := by
    rw [opens,List.cons_append,trimPrefix,if_neg]
    rintro rfl
    simp [digit] at other
  have plus : '+' ∉ core ++ marked '-' prerelease := by
    rw [List.mem_append]
    rintro (inCore | inPre)
    · rcases cores inCore with dot | digit
      · exact absurd dot (by decide)
      · exact absurd digit (by decide)
    · have := mem_marked prereleases inPre
      revert this
      decide
  have dash : '-' ∉ core := by
    intro inCore
    rcases cores inCore with dot | digit
    · exact absurd dot (by decide)
    · exact absurd digit (by decide)
  have parts : core.splitOn '.' = [major,minor,patch].map (Nat.toDigits 10) := by
    refine splitOn_dot (by simp) fun text among dot => ?_
    obtain ⟨n,_,rfl⟩ := List.mem_map.mp among
    exact absurd ((canonical_toDigits n).2.2 '.' dot) (by decide)
  have values : ([major,minor,patch].map (Nat.toDigits 10)).mapM component = some [major,minor,patch] := by
    simp [component_toDigits majors,component_toDigits minors,component_toDigits patches]
  rw [parseSemanticVersion,if_neg given,text,List.append_assoc,unmarked 'v' (by decide),unmarked 'V' (by decide),← List.append_assoc,
    cut_marked plus]
  simp only [build_not_empty builds,cut_marked dash,parts,values,identifiers_marked prereleases,identifiers_marked builds,
    valid_identifiers prereleases,valid_identifiers builds]
  simp

theorem mapM_component {parts : List (List Char)} {values : List Nat} (read : parts.mapM component = some values) :
    ∀ n ∈ values, n < 2 ^ 32 := by
  induction parts generalizing values with
  | nil =>
    cases read
    simp
  | cons part parts ih =>
    rw [List.mapM_cons] at read
    simp only [Option.bind_eq_bind,Option.bind_eq_some_iff,Option.pure_def,Option.some.injEq] at read
    obtain ⟨n,first,rest,others,rfl⟩ := read
    intro m member
    rcases List.mem_cons.mp member with rfl | later
    · simp only [component] at first
      split_ifs at first with small
      cases first
      exact small.2
    · exact ih others m later

theorem valid_of_checked {part : Option (List Char)}
    (passes : ¬(part.isSome && !validVersionIdentifiers (identifiers part) prerelease) = true) :
    ∀ text ∈ identifiers part, validIdentifier prerelease text = true := by
  cases part with
  | none => simp [identifiers]
  | some text => simp_all [validVersionIdentifiers]

variable {value : String}

theorem valid_of_parse (parsed : parseSemanticVersion value = .ok version) : Valid version := by
  simp only [parseSemanticVersion] at parsed
  generalize cut '+' (trimPrefix 'V' (trimPrefix 'v' value.toList)) = whole at parsed
  generalize cut '-' whole.1 = front at parsed
  cases read : (front.1.splitOn '.').mapM component with
  | none =>
    simp only [read] at parsed
    split_ifs at parsed
  | some values =>
    simp only [read] at parsed
    split_ifs at parsed with bad plus count prereleases builds
    cases parsed
    have small (i : Nat) : values.getD i 0 < 2 ^ 32 := by
      rw [List.getD_eq_getElem?_getD]
      cases found : values[i]? with
      | none => simp
      | some n => exact mapM_component read n (List.mem_of_getElem? found)
    exact ⟨small 0,small 1,small 2,valid_of_checked prereleases,valid_of_checked builds⟩

theorem normalizeVersion_eq (parsed : parseSemanticVersion value = .ok version) :
    normalizeVersion value = .ok (render version) := by
  simp [normalizeVersion,parsed]

end Render

section Constraints
variable {current required : String} {allow : Bool}

def satisfies (operator : VersionOperator) (current required : String) (allow : Bool) : Bool :=
  (evaluateVersionMatch current ⟨operator,required,allow⟩).1

/-- The prerelease of either version has to be allowed. -/
def admissible (allow : Bool) (actual minimum : SemanticVersion) : Prop :=
  allow = true ∨ (actual.prerelease = [] ∧ minimum.prerelease = [])

theorem satisfies_parsed {operator : VersionOperator} (ranged : operator ≠ .exact) (holds : satisfies operator current required allow = true) :
    ∃ actual minimum, parseSemanticVersion current = .ok actual ∧ parseSemanticVersion required = .ok minimum := by
  simp only [satisfies,evaluateVersionMatch,if_neg ranged,normalizeVersion] at holds
  cases actual : parseSemanticVersion current with
  | error err => simp [actual] at holds
  | ok actual' =>
    cases minimum : parseSemanticVersion required with
    | error err => simp [actual,minimum] at holds
    | ok minimum' => exact ⟨actual',minimum',rfl,rfl⟩

variable {actual minimum : SemanticVersion}

theorem satisfies_semver_iff (read : parseSemanticVersion current = .ok actual) (read' : parseSemanticVersion required = .ok minimum) :
    satisfies .semver current required allow = true ↔ admissible allow actual minimum ∧ 0 ≤ compareSemanticVersions actual minimum := by
  simp only [satisfies,evaluateVersionMatch,normalizeVersion_eq read,normalizeVersion_eq read',parse_render (valid_of_parse read),
    parse_render (valid_of_parse read'),Except.toOption,Option.getD_some,admissible]
  cases allow <;> split_ifs <;> grind

theorem satisfies_compatible_iff (read : parseSemanticVersion current = .ok actual)
    (read' : parseSemanticVersion required = .ok minimum) :
    satisfies .compatible current required allow = true ↔ admissible allow actual minimum ∧
      0 ≤ compareSemanticVersions actual minimum ∧ actual.major = minimum.major ∧ (actual.major = 0 → actual.minor = minimum.minor) := by
  simp only [satisfies,evaluateVersionMatch,normalizeVersion_eq read,normalizeVersion_eq read',parse_render (valid_of_parse read),
    parse_render (valid_of_parse read'),Except.toOption,Option.getD_some,admissible,protocolCompatible]
  cases allow <;> split_ifs <;> grind

end Constraints

section Laws
variable {left right third : SemanticVersion}

theorem compare_lt_iff (lefts : Valid left) (rights : Valid right) :
    compareSemanticVersions left right < 0 ↔ precedence left < precedence right := by
  rcases compareSemanticVersions_agrees lefts rights with ⟨less,sign⟩ | ⟨equal,sign⟩ | ⟨more,sign⟩
  · simp [less,sign]
  · simp [equal,sign]
  · simp [more.not_gt,sign]

theorem compare_eq_iff (lefts : Valid left) (rights : Valid right) :
    compareSemanticVersions left right = 0 ↔ precedence left = precedence right := by
  rcases compareSemanticVersions_agrees lefts rights with ⟨less,sign⟩ | ⟨equal,sign⟩ | ⟨more,sign⟩
  · simp [less.ne,sign]
  · simp [equal,sign]
  · simp [more.ne',sign]

theorem compare_le_iff (lefts : Valid left) (rights : Valid right) :
    compareSemanticVersions left right ≤ 0 ↔ precedence left ≤ precedence right := by
  rw [Int.le_iff_lt_or_eq,compare_lt_iff lefts rights,compare_eq_iff lefts rights,le_iff_lt_or_eq]

theorem compare_nonneg_iff (lefts : Valid left) (rights : Valid right) :
    0 ≤ compareSemanticVersions left right ↔ precedence right ≤ precedence left := by
  rw [← not_lt,compare_lt_iff lefts rights,not_lt]

end Laws

/-- The versions that can be read are compared as SemVer 2.0 orders them, whatever their build metadata, writing one out
    is final and loses nothing, and compatibility carries over from version to version. -/
theorem version_order_lawful :
    (∀ s t v w, parseSemanticVersion s = .ok v → parseSemanticVersion t = .ok w →
      (compareSemanticVersions v w < 0 ↔ precedence v < precedence w) ∧
      (compareSemanticVersions v w = 0 ↔ precedence v = precedence w) ∧
      compareSemanticVersions v v = 0 ∧
      (compareSemanticVersions v w ≤ 0 ∨ compareSemanticVersions w v ≤ 0) ∧
      (compareSemanticVersions v w ≤ 0 → compareSemanticVersions w v ≤ 0 → compareSemanticVersions v w = 0)) ∧
    (∀ r s t u v w, parseSemanticVersion r = .ok u → parseSemanticVersion s = .ok v → parseSemanticVersion t = .ok w →
      compareSemanticVersions u v ≤ 0 → compareSemanticVersions v w ≤ 0 → compareSemanticVersions u w ≤ 0) ∧
    (∀ v w build build', compareSemanticVersions { v with build := build } { w with build := build' } =
      compareSemanticVersions v w) ∧
    (∀ s v, parseSemanticVersion s = .ok v →
      ∃ n, normalizeVersion s = .ok n ∧ normalizeVersion n = .ok n ∧ parseSemanticVersion n = .ok v) ∧
    (∀ v w r allow, satisfies .compatible v r allow = true → satisfies .compatible w v allow = true →
      satisfies .compatible w r allow = true) ∧
    ∀ v r allow, satisfies .compatible v r allow = true → satisfies .semver v r allow = true := by
  refine ⟨?_,?_,fun _ _ _ _ => rfl,?_,?_,?_⟩
  · intro s t v w read read'
    have valid := valid_of_parse read
    have valid' := valid_of_parse read'
    refine ⟨compare_lt_iff valid valid',compare_eq_iff valid valid',(compare_eq_iff valid valid).mpr rfl,?_,?_⟩
    · rw [compare_le_iff valid valid',compare_le_iff valid' valid]
      exact le_total _ _
    · rw [compare_le_iff valid valid',compare_le_iff valid' valid,compare_eq_iff valid valid']
      exact le_antisymm
  · intro r s t u v w first second third
    rw [compare_le_iff (valid_of_parse first) (valid_of_parse second),compare_le_iff (valid_of_parse second) (valid_of_parse third),
      compare_le_iff (valid_of_parse first) (valid_of_parse third)]
    exact le_trans
  · intro s v read
    have again := parse_render (valid_of_parse read)
    exact ⟨render v,normalizeVersion_eq read,normalizeVersion_eq again,again⟩
  · intro v w r allow first second
    obtain ⟨actual,minimum,read,least⟩ := satisfies_parsed (by decide) first
    obtain ⟨later,_,newest,read'⟩ := satisfies_parsed (by decide) second
    cases read.symm.trans read'
    rw [satisfies_compatible_iff read least,compare_nonneg_iff (valid_of_parse read) (valid_of_parse least)] at first
    rw [satisfies_compatible_iff newest read,compare_nonneg_iff (valid_of_parse newest) (valid_of_parse read)] at second
    rw [satisfies_compatible_iff newest least,compare_nonneg_iff (valid_of_parse newest) (valid_of_parse least)]
    obtain ⟨allowed,above,major,minor⟩ := first
    obtain ⟨allowed',above',major',minor'⟩ := second
    refine ⟨?_,above.trans above',major'.trans major,fun zero => ?_⟩
    · simp only [admissible] at allowed allowed' ⊢
      tauto
    · rw [minor' zero,minor (major' ▸ zero)]
  · intro v r allow holds
    obtain ⟨actual,minimum,read,least⟩ := satisfies_parsed (by decide) holds
    rw [satisfies_compatible_iff read least] at holds
    rw [satisfies_semver_iff read least]
    exact ⟨holds.1,holds.2.1⟩

/-- Versions in the order of SemVer 2.0's own example. -/
example : ["1.0.0-alpha","1.0.0-alpha.1","1.0.0-alpha.beta","1.0.0-beta","1.0.0-beta.2","1.0.0-beta.11","1.0.0-rc.1","1.0.0"].map
    (fun text => satisfies .semver text "1.0.0-beta.2" true) = [false,false,false,false,true,true,true,true] := by
  decide +kernel

end TgsRl.SemanticVersions
