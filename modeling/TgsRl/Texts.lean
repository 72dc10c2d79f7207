import Mathlib.Data.List.DropRight
import Mathlib.Tactic.Common
import Mathlib.Tactic.IntervalCases
import Mathlib.Tactic.Ring

/-!
Numbers, times and digests as texts: decimal digits, the format RFC 3339 of a time
in UTC and its reading (`parseTime_formatTime`), and SHA-256. Bytes and words are
natural numbers, so that a digest can be evaluated where a proof needs one.
-/
namespace TgsRl.Texts

/-- The digits of a number in a base, as many as asked for, the highest first. -/
def digits (base n : Nat) : Nat → List Nat
  | 0 => []
  | count + 1 => n / base ^ count % base :: digits base n count

def decimals (n count : Nat) : List Char := (digits 10 n count).map Nat.digitChar

/-- A number of a fixed width within bounds, and the text after it. -/
def readNumber (width low high : Nat) (text : List Char) : Option (Nat × List Char) :=
  let number := Nat.ofDigitChars 10 (text.take width) 0
  if width ≤ text.length ∧ (text.take width).all Char.isDigit = true ∧ low ≤ number ∧ number ≤ high then
    some (number,text.drop width)
  else none

def readChar (c : Char) : List Char → Option (List Char)
  | first :: text => if first = c then some text else none
  | [] => none

variable {n count : Nat}

theorem decimals_length : (decimals n count).length = count := by
  rw [decimals,List.length_map]
  induction count with
  | zero => rfl
  | succ count ih => rw [digits,List.length_cons,ih]

theorem decimals_isDigit : (decimals n count).all Char.isDigit = true := by
  have digit : ∀ d < 10, (Nat.digitChar d).isDigit = true := by decide
  induction count with
  | zero => rfl
  | succ count ih =>
    rw [decimals,digits,List.map_cons,List.all_cons,digit _ (Nat.mod_lt _ (by decide))]
    exact ih

theorem ofDigitChars_decimals (before : Nat) :
    Nat.ofDigitChars 10 (decimals n count) before = before * 10 ^ count + n % 10 ^ count := by
  have digit : ∀ d < 10, (Nat.digitChar d).toNat - '0'.toNat = d := by decide
  induction count generalizing before with
  | zero => simp [decimals,digits,Nat.mod_one]
  | succ count ih =>
    rw [decimals,digits,List.map_cons,Nat.ofDigitChars_cons,digit _ (Nat.mod_lt _ (by decide))]
    refine (ih _).trans ?_
    rw [Nat.pow_succ,Nat.mod_mul]
    ring

theorem readNumber_decimals {low high : Nat} (fits : n < 10 ^ count) (above : low ≤ n) (below : n ≤ high) (text : List Char) :
    readNumber count low high (decimals n count ++ text) = some (n,text) := by
  have taken : (decimals n count ++ text).take count = decimals n count := List.take_left' decimals_length
  have read : Nat.ofDigitChars 10 (decimals n count) 0 = n := by
    rw [ofDigitChars_decimals,Nat.mod_eq_of_lt fits]
    omega
  rw [readNumber,taken,read,if_pos,List.drop_left' decimals_length]
  exact ⟨by rw [List.length_append,decimals_length]; omega,decimals_isDigit,above,below⟩

structure Date where
  year : Int
  month : Int
  day : Int

/-- The date of a day, counted from 1 March of the year 0. -/
def dateOf (z : Int) : Date :=
  let d := z % 146097
  let century := min (d / 36524) 3
  let d := d - 36524 * century
  let cycle := d / 1461
  let d := d % 1461
  let rest := min (d / 365) 3
  let d := d - 365 * rest
  let year := z / 146097 * 400 + century * 100 + cycle * 4 + rest
  -- years begin in March, and each five months have 31, 30, 31, 30 and 31 days
  let month := (5 * d + 2) / 153
  ⟨if month < 10 then year else year + 1,if month < 10 then month + 3 else month - 9,d - (153 * month + 2) / 5 + 1⟩

def dayOf (date : Date) : Int :=
  let year := if date.month < 3 then date.year - 1 else date.year
  year * 365 + year / 4 - year / 100 + year / 400 + (153 * ((date.month + 9) % 12) + 2) / 5 + date.day - 1

def daysIn (date : Date) : Int :=
  if date.month = 2 then if date.year % 4 = 0 ∧ (date.year % 100 ≠ 0 ∨ date.year % 400 = 0) then 29 else 28
  else if date.month ∈ [4,6,9,11] then 30 else 31

theorem march_spec {z year day : Int} (start : z = year * 365 + year / 4 - year / 100 + year / 400 + day) (low : 0 ≤ day)
    (high : day ≤ 365) (leap : day = 365 → (year + 1) % 4 = 0 ∧ ((year + 1) % 100 ≠ 0 ∨ (year + 1) % 400 = 0)) :
    let month := (5 * day + 2) / 153
    let date : Date := ⟨if month < 10 then year else year + 1,if month < 10 then month + 3 else month - 9,
      day - (153 * month + 2) / 5 + 1⟩
    dayOf date = z ∧ 1 ≤ date.month ∧ date.month ≤ 12 ∧ 1 ≤ date.day ∧ date.day ≤ daysIn date := by
  intro month
  have number : (5 * day + 2) / 153 = month := rfl
  have first : 0 ≤ month := by omega
  have last : month ≤ 11 := by omega
  clear_value month
  interval_cases month <;> simp [dayOf,daysIn] <;> omega

theorem dateOf_spec (z : Int) : dayOf (dateOf z) = z ∧ 1 ≤ (dateOf z).month ∧ (dateOf z).month ≤ 12 ∧ 1 ≤ (dateOf z).day ∧
    (dateOf z).day ≤ daysIn (dateOf z) := by
  unfold dateOf
  dsimp only
  -- one quotient after the other, each with what is left of the days
  generalize era : z / 146097 = e
  generalize inEra : z % 146097 = d
  have whole : z = e * 146097 + d ∧ 0 ≤ d ∧ d < 146097 := by omega
  clear era inEra
  generalize century : min (d / 36524) 3 = c
  generalize inCentury : d - 36524 * c = d₁
  have centuries : d = 36524 * c + d₁ ∧ 0 ≤ c ∧ c ≤ 3 ∧ 0 ≤ d₁ ∧ d₁ ≤ 36524 ∧ (d₁ = 36524 → c = 3) := by omega
  clear century inCentury
  generalize cycle : d₁ / 1461 = q
  generalize inCycle : d₁ % 1461 = d₂
  have cycles : d₁ = q * 1461 + d₂ ∧ 0 ≤ q ∧ q ≤ 24 ∧ 0 ≤ d₂ ∧ d₂ ≤ 1460 := by omega
  clear cycle inCycle
  generalize year : min (d₂ / 365) 3 = r
  generalize inYear : d₂ - 365 * r = day
  have years : d₂ = 365 * r + day ∧ 0 ≤ r ∧ r ≤ 3 ∧ 0 ≤ day ∧ day ≤ 365 ∧ (day = 365 → r = 3) := by omega
  clear year inYear
  refine march_spec ?_ (by omega) (by omega) (by omega)
  have parts : (e * 400 + c * 100 + q * 4 + r) / 4 = e * 100 + c * 25 + q ∧ (e * 400 + c * 100 + q * 4 + r) / 100 = e * 4 + c ∧
      (e * 400 + c * 100 + q * 4 + r) / 400 = e := by omega
  omega

theorem daysIn_le (date : Date) : daysIn date ≤ 31 := by
  unfold daysIn
  split_ifs <;> decide

/-- The days of the years 0 to 9999. -/
theorem dateOf_year {z : Int} (low : -60 ≤ z) (high : z < 3652365) : 0 ≤ (dateOf z).year ∧ (dateOf z).year ≤ 9999 := by
  obtain ⟨same,first,last,_,inMonth⟩ := dateOf_spec z
  have short := inMonth.trans (daysIn_le _)
  unfold dayOf at same
  generalize dateOf z = date at *
  obtain ⟨year,month,day⟩ := date
  dsimp only at *
  constructor <;> by_contra out
  · rcases (by omega : year = -1 ∨ year ≤ -2) with rfl | before <;> split at same <;> omega
  · rcases (by omega : year = 10000 ∨ 10001 ≤ year) with rfl | after <;> split at same <;> omega

/-- A year has at least four digits. -/
def yearText (year : Int) : List Char :=
  let number := if year.natAbs < 10000 then decimals year.natAbs 4 else Nat.toDigits 10 year.natAbs
  if year < 0 then '-' :: number else number

/-- `time.RFC3339Nano` of a time in UTC, given in nanoseconds since 1970: the fraction is printed without its last zeros. -/
def formatTime (t : Int) : String :=
  let date := dateOf (t / 86400000000000 + 719468)
  let nanos := (t % 86400000000000).toNat
  let fraction := (decimals (nanos % 1000000000) 9).rdropWhile (fun c => decide (c = '0'))
  String.ofList (yearText date.year ++ '-' :: decimals date.month.toNat 2 ++ '-' :: decimals date.day.toNat 2 ++
    'T' :: decimals (nanos / 3600000000000) 2 ++ ':' :: decimals (nanos / 60000000000 % 60) 2 ++
    ':' :: decimals (nanos / 1000000000 % 60) 2 ++ (if fraction = [] then [] else '.' :: fraction) ++ ['Z'])

/-- The nanoseconds in what follows the seconds, down to the `Z` at the end. -/
def readFraction : List Char → Option Nat
  | '.' :: text =>
    if text.getLast? = some 'Z' ∧ text.dropLast ≠ [] ∧ text.dropLast.all Char.isDigit = true then
      some (Nat.ofDigitChars 10 ((text.dropLast ++ List.replicate 9 '0').take 9) 0)
    else none
  | text => if text = ['Z'] then some 0 else none

/-- `time.Parse` of a text in UTC. -/
def parseTime (text : String) : Option Int := do
  let (year,text) ← readNumber 4 0 9999 text.toList
  let (month,text) ← (readChar '-' text).bind (readNumber 2 1 12)
  let (day,text) ← (readChar '-' text).bind (readNumber 2 1 31)
  let (hour,text) ← (readChar 'T' text).bind (readNumber 2 0 23)
  let (minute,text) ← (readChar ':' text).bind (readNumber 2 0 59)
  let (second,text) ← (readChar ':' text).bind (readNumber 2 0 59)
  let nanos ← readFraction text
  if day ≤ daysIn ⟨year,month,day⟩ then
    some ((dayOf ⟨year,month,day⟩ - 719468) * 86400000000000 +
      ((hour * 60 + minute) * 60 + second) * 1000000000 + nanos)
  else none

theorem rdropWhile_zeros (text : List Char) :
    ∃ zeros, text.rdropWhile (fun c => decide (c = '0')) ++ List.replicate zeros '0' = text := by
  induction text using List.reverseRecOn with
  | nil => exact ⟨0,rfl⟩
  | append_singleton text c ih =>
    by_cases zero : c = '0'
    · obtain ⟨zeros,same⟩ := ih
      refine ⟨zeros + 1,?_⟩
      rw [List.rdropWhile_concat_pos (fun c => decide (c = '0')) _ _ (by simpa using zero),List.replicate_succ',← List.append_assoc,same,zero]
    · exact ⟨0,by rw [List.rdropWhile_concat_neg (fun c => decide (c = '0')) _ _ (by simpa using zero)]; simp⟩

theorem readFraction_digits {nanos : Nat} (small : nanos < 1000000000) :
    readFraction ((if (decimals nanos 9).rdropWhile (fun c => decide (c = '0')) = [] then []
      else '.' :: (decimals nanos 9).rdropWhile (fun c => decide (c = '0'))) ++ ['Z']) = some nanos := by
  obtain ⟨zeros,whole⟩ := rdropWhile_zeros (decimals nanos 9)
  have read := @ofDigitChars_decimals nanos 9 0
  have isDigit : (decimals nanos 9).all Char.isDigit = true := decimals_isDigit
  have length : (decimals nanos 9).length = 9 := decimals_length
  rw [Nat.mod_eq_of_lt (by omega),Nat.zero_mul,Nat.zero_add] at read
  generalize (decimals nanos 9).rdropWhile (fun c => decide (c = '0')) = left at *
  rw [← whole] at read isDigit length
  rw [List.length_append,List.length_replicate] at length
  rw [List.all_append,Bool.and_eq_true] at isDigit
  by_cases none : left = []
  · subst none
    obtain rfl : zeros = 9 := by simpa using length
    rw [← read]
    decide
  · have padded : (left ++ List.replicate 9 '0').take 9 = left ++ List.replicate zeros '0' := by
      rw [List.take_append,List.take_of_length_le (by omega),List.take_replicate]
      congr 2
      omega
    rw [if_neg none,List.cons_append,readFraction,List.getLast?_concat,List.dropLast_concat,if_pos ⟨rfl,none,isDigit.1⟩,padded,read]

theorem readChar_cons (c : Char) (text : List Char) : readChar c (c :: text) = some text := if_pos rfl

theorem parseTime_formatTime {t : Int} (low : -62167219200000000000 ≤ t) (high : t < 253402300800000000000) :
    parseTime (formatTime t) = some t := by
  obtain ⟨same,first,last,one,inMonth⟩ := dateOf_spec (t / 86400000000000 + 719468)
  have years := @dateOf_year (t / 86400000000000 + 719468) (by omega) (by omega)
  have short := inMonth.trans (daysIn_le _)
  obtain ⟨nanos,rest⟩ : ∃ nanos : Nat, (t % 86400000000000).toNat = nanos := ⟨_,rfl⟩
  have below : nanos < 86400000000000 := by omega
  unfold parseTime formatTime
  dsimp only
  rw [rest]
  generalize dateOf (t / 86400000000000 + 719468) = date at *
  obtain ⟨year,named⟩ := Int.eq_ofNat_of_zero_le years.1
  obtain ⟨month,named'⟩ := Int.eq_ofNat_of_zero_le (show 0 ≤ date.month by omega)
  obtain ⟨day,named''⟩ := Int.eq_ofNat_of_zero_le (show 0 ≤ date.day by omega)
  obtain rfl : date = ⟨year,month,day⟩ := by rw [← named,← named',← named'']
  dsimp only at *
  have printed : yearText year = decimals year 4 := by
    rw [yearText,if_neg (by omega),if_pos (by omega),Int.natAbs_natCast]
  simp only [printed,String.toList_ofList,List.append_assoc,List.cons_append,Int.toNat_natCast]
  simp only [bind,Option.bind]
  iterate 6
    rw [readNumber_decimals (by omega) (by omega) (by omega)]
    simp only [readChar_cons]
  rw [readFraction_digits (Nat.mod_lt nanos (by decide))]
  simp only [if_pos inMonth,same]
  congr 1
  omega

def word : Nat := 2 ^ 32

def rotateRight (n x : Nat) : Nat := (x >>> n ||| x <<< (32 - n)) % word

def roundConstants : List Nat :=
  [0x428a2f98,0x71374491,0xb5c0fbcf,0xe9b5dba5,0x3956c25b,0x59f111f1,0x923f82a4,0xab1c5ed5,0xd807aa98,0x12835b01,
    0x243185be,0x550c7dc3,0x72be5d74,0x80deb1fe,0x9bdc06a7,0xc19bf174,0xe49b69c1,0xefbe4786,0x0fc19dc6,0x240ca1cc,
    0x2de92c6f,0x4a7484aa,0x5cb0a9dc,0x76f988da,0x983e5152,0xa831c66d,0xb00327c8,0xbf597fc7,0xc6e00bf3,0xd5a79147,
    0x06ca6351,0x14292967,0x27b70a85,0x2e1b2138,0x4d2c6dfc,0x53380d13,0x650a7354,0x766a0abb,0x81c2c92e,0x92722c85,
    0xa2bfe8a1,0xa81a664b,0xc24b8b70,0xc76c51a3,0xd192e819,0xd6990624,0xf40e3585,0x106aa070,0x19a4c116,0x1e376c08,
    0x2748774c,0x34b0bcb5,0x391c0cb3,0x4ed8aa4a,0x5b9cca4f,0x682e6ff3,0x748f82ee,0x78a5636f,0x84c87814,0x8cc70208,
    0x90befffa,0xa4506ceb,0xbef9a3f7,0xc67178f2]

/-- The next words of the message schedule, the newest first. -/
def schedule : Nat → List Nat → List Nat
  | 0,words => words
  | n + 1,words =>
    let old := words.getD 14 0
    let new := words.getD 1 0
    schedule n ((((rotateRight 17 new ^^^ rotateRight 19 new ^^^ new >>> 10) + words.getD 6 0 +
      (rotateRight 7 old ^^^ rotateRight 18 old ^^^ old >>> 3) + words.getD 15 0) % word) :: words)

/-- One round, with the sum of its constant and its word. -/
def round (state : List Nat) (k : Nat) : List Nat :=
  match state with
  | [a,b,c,d,e,f,g,h] =>
    let t := h + (rotateRight 6 e ^^^ rotateRight 11 e ^^^ rotateRight 25 e) + ((e &&& f) ^^^ ((word - 1 - e) &&& g)) + k
    [(t + (rotateRight 2 a ^^^ rotateRight 13 a ^^^ rotateRight 22 a) + ((a &&& b) ^^^ (a &&& c) ^^^ (b &&& c))) % word,
      a,b,c,(d + t) % word,e,f,g]
  | _ => state

def compress (state block : List Nat) : List Nat :=
  let sums := List.zipWith (· + ·) roundConstants (schedule 48 block.reverse).reverse
  List.zipWith (fun x y => (x + y) % word) state (sums.foldl round state)

def words : List Nat → List Nat
  | a :: b :: c :: d :: rest => (((a * 256 + b) * 256 + c) * 256 + d) :: words rest
  | _ => []

def pad (message : List Nat) : List Nat :=
  message ++ (0x80 :: List.replicate ((119 - message.length % 64) % 64) 0) ++ digits 256 (8 * message.length) 8

def sum256 (message : List Nat) : List Nat :=
  ((words (pad message)).toChunks 16).foldl compress
    [0x6a09e667,0xbb67ae85,0x3c6ef372,0xa54ff53a,0x510e527f,0x9b05688c,0x1f83d9ab,0x5be0cd19]

def hexDigest (message : List Nat) : List Char := (sum256 message).flatMap (fun n => (digits 16 n 8).map Nat.digitChar)

example : hexDigest [97,98,99] = "ba7816bf8f01cfea414140de5dae2223b00361a396177a9cb410ff61f20015ad".toList := by decide +kernel

def bytes (text : String) : List Nat := text.toUTF8.data.toList.map UInt8.toNat

end TgsRl.Texts
