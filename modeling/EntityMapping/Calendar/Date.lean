import EntityMapping.Number.Numeral
import EntityMapping.Text.Chars

/-!
Dates of the Gregorian calendar, extended without end in both directions. A date is written
year, month, day with hyphens; a year outside four digits carries its sign. Reading is more
lenient than writing: white space may stand before each number and the leading zeros of each
may be left out.
-/

namespace EntityMapping

structure Date where
  year : Int
  month : Nat
  day : Nat
  deriving DecidableEq, Repr

namespace Date

/-! ### Counting days -/

def isLeap (year : Int) : Bool := year % 4 = 0 && (year % 100 != 0 || year % 400 = 0)

def daysInMonth (year : Int) (month : Nat) : Nat :=
  if month = 2 then if isLeap year then 29 else 28
  else if month = 4 ∨ month = 6 ∨ month = 9 ∨ month = 11 then 30
  else 31

def of? (year : Int) (month day : Nat) : Option Date :=
  if 1 ≤ month ∧ month ≤ 12 ∧ 1 ≤ day ∧ day ≤ daysInMonth year month then
    some ⟨year, month, day⟩
  else none

def epoch : Date := ⟨1970, 1, 1⟩

/-- The number of days from the epoch. Years are counted from March, so that the leap day is
their last one. -/
def toDays (d : Date) : Int :=
  let y : Int := if d.month ≤ 2 then d.year - 1 else d.year
  let m : Int := if d.month ≤ 2 then d.month + 9 else (d.month : Int) - 3
  let era := y.fdiv 400
  let yearOfEra := y - era * 400
  let dayOfYear := (153 * m + 2) / 5 + d.day - 1
  era * 146097 + yearOfEra * 365 + yearOfEra / 4 - yearOfEra / 100 + dayOfYear - 719468

/-- The date a number of days after the epoch. -/
def ofDays (days : Int) : Date :=
  let z := days + 719468
  let era := z.fdiv 146097
  let dayOfEra := z - era * 146097
  let yearOfEra := (dayOfEra - dayOfEra / 1460 + dayOfEra / 36524 - dayOfEra / 146096) / 365
  let dayOfYear := dayOfEra - (365 * yearOfEra + yearOfEra / 4 - yearOfEra / 100)
  let m := (5 * dayOfYear + 2) / 153
  let month := if m < 10 then m + 3 else m - 9
  let year := yearOfEra + era * 400 + if month ≤ 2 then 1 else 0
  ⟨year, month.toNat, (dayOfYear - (153 * m + 2) / 5 + 1).toNat⟩

def compare : Date → Date → Ordering :=
  compareLex (compareOn year) (compareLex (compareOn month) (compareOn day))

instance : Ord Date := ⟨compare⟩

instance : Std.TransOrd Date :=
  inferInstanceAs (Std.TransCmp (compareLex (compareOn year)
    (compareLex (compareOn month) (compareOn day))))

/-! ### Writing -/

/-- A year of four digits; outside them the sign shows and counts into the width. -/
def yearChars (year : Int) : List Char :=
  if 0 ≤ year ∧ year ≤ 9999 then Numeral.padded 4 year.toNat
  else (if year < 0 then '-' else '+') :: Numeral.padded 4 year.natAbs

def toChars (d : Date) : List Char :=
  yearChars d.year ++ '-' :: Numeral.padded 2 d.month ++ '-' :: Numeral.padded 2 d.day

instance : ToString Date := ⟨fun d => String.ofList d.toChars⟩

/-! ### Reading -/

/-- The first and the last year that are read. -/
def firstYear : Int := -262143

def lastYear : Int := 262142

/-- A number of at least one and at most `width` digits at the front. -/
def scan (width : Nat) (cs : List Char) : Option (Nat × List Char) :=
  let ds := (cs.take width).takeWhile Char.isDigit
  if ds = [] then none else some (Nat.ofDigitChars 10 ds 0, cs.drop ds.length)

/-- A number of any length behind a sign, at most `width` digits without one. -/
def scanSigned (width : Nat) (cs : List Char) : Option (Int × List Char) :=
  match cs with
  | '-' :: rest => (scan rest.length rest).map fun (n, rest) => (-(n : Int), rest)
  | '+' :: rest => (scan rest.length rest).map fun (n, rest) => ((n : Int), rest)
  | _ => (scan width cs).map fun (n, rest) => ((n : Int), rest)

def expect (c : Char) : List Char → Option (List Char)
  | d :: rest => if d = c then some rest else none
  | [] => none

/-- Reads a whole text as a date. -/
def ofChars? (cs : List Char) : Option Date := do
  let (year, cs) ← scanSigned 4 (Text.trimFront cs)
  let cs ← expect '-' cs
  let (month, cs) ← scan 2 (Text.trimFront cs)
  let cs ← expect '-' cs
  let (day, cs) ← scan 2 (Text.trimFront cs)
  if cs = [] ∧ firstYear ≤ year ∧ year ≤ lastYear then of? year month day else none

end Date

end EntityMapping
