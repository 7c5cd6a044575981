import EntityMapping.Calendar.Date

/-!
Points in time: seconds from the epoch and nanoseconds. A leap second is the second before
it with a whole second added to the nanoseconds, so the two stay apart and in order. The
text form names the date, the time of day and the offset from universal time.
-/

namespace EntityMapping

/-- A point in time. -/
structure Timestamp where
  seconds : Int
  nanos : Nat
  deriving DecidableEq, Repr

namespace Timestamp

def compare : Timestamp → Timestamp → Ordering := compareLex (compareOn seconds) (compareOn nanos)

instance : Ord Timestamp := ⟨compare⟩

instance : Std.TransOrd Timestamp :=
  inferInstanceAs (Std.TransCmp (compareLex (compareOn seconds) (compareOn nanos)))

def date (t : Timestamp) : Date := Date.ofDays (t.seconds.fdiv 86400)

/-! ### Writing -/

/-- A fraction of a second in groups of three digits, as many as it needs. -/
def fractionChars (nanos : Nat) : List Char :=
  if nanos = 0 then []
  else if nanos % 1000000 = 0 then '.' :: Numeral.padded 3 (nanos / 1000000)
  else if nanos % 1000 = 0 then '.' :: Numeral.padded 6 (nanos / 1000)
  else '.' :: Numeral.padded 9 nanos

/-- Date, time of day and the zero offset; a leap second is the sixtieth of its minute. -/
def toChars (t : Timestamp) : List Char :=
  let ofDay := (t.seconds.fmod 86400).toNat
  let leap := 1000000000 ≤ t.nanos
  let second := ofDay % 60 + if leap then 1 else 0
  let nanos := if leap then t.nanos - 1000000000 else t.nanos
  t.date.toChars ++ 'T' :: Numeral.padded 2 (ofDay / 3600)
    ++ ':' :: Numeral.padded 2 (ofDay / 60 % 60)
    ++ ':' :: Numeral.padded 2 second ++ fractionChars nanos ++ "+00:00".toList

instance : ToString Timestamp := ⟨fun t => String.ofList t.toChars⟩

/-! ### Reading -/

/-- A number of exactly `width` digits at the front. -/
def scanFixed (width : Nat) (cs : List Char) : Option (Nat × List Char) :=
  let ds := cs.take width
  if ds.length = width ∧ ds.all Char.isDigit then
    some (Nat.ofDigitChars 10 ds 0, cs.drop width)
  else none

/-- A fraction of a second behind its point; digits after the ninth are dropped. -/
def scanFraction : List Char → Option (Nat × List Char)
  | '.' :: cs =>
    let (ds, rest) := cs.span Char.isDigit
    if ds = [] then none
    else
      let kept := ds.take 9
      some (Nat.ofDigitChars 10 kept 0 * tenTo (9 - kept.length), rest)
  | cs => some (0, cs)

/-- An offset in seconds: a letter for zero, or a sign, hours and minutes, below a day. The
sign may be the minus sign of typography. -/
def scanOffset : List Char → Option (Int × List Char)
  | [] => none
  | c :: cs =>
    if c = 'Z' ∨ c = 'z' then some (0, cs)
    else if c = '+' ∨ c = '-' ∨ c = '\u2212' then do
      let (hours, cs) ← scanFixed 2 cs
      let cs ← Date.expect ':' cs
      let (minutes, cs) ← scanFixed 2 cs
      if minutes ≤ 59 ∧ hours ≤ 23 then
        let seconds : Int := hours * 3600 + minutes * 60
        some (if c = '+' then seconds else -seconds, cs)
      else none
    else none

/-- Reads a whole text as a point in time. The sixtieth second of any minute is a leap
second. -/
def ofChars? (cs : List Char) : Option Timestamp := do
  let (year, cs) ← scanFixed 4 cs
  let cs ← Date.expect '-' cs
  let (month, cs) ← scanFixed 2 cs
  let cs ← Date.expect '-' cs
  let (day, cs) ← scanFixed 2 cs
  let cs ← match cs with
    | c :: cs => if c = 'T' ∨ c = 't' ∨ c = ' ' then some cs else none
    | [] => none
  let (hour, cs) ← scanFixed 2 cs
  let cs ← Date.expect ':' cs
  let (minute, cs) ← scanFixed 2 cs
  let cs ← Date.expect ':' cs
  let (second, cs) ← scanFixed 2 cs
  let (nanos, cs) ← scanFraction cs
  let (offset, cs) ← scanOffset cs
  let date ← Date.of? year month day
  if cs = [] ∧ hour ≤ 23 ∧ minute ≤ 59 ∧ second ≤ 60 then
    let leap := second = 60
    let second := if leap then 59 else second
    some ⟨date.toDays * 86400 + hour * 3600 + minute * 60 + second - offset,
      nanos + if leap then 1000000000 else 0⟩
  else none

end Timestamp

end EntityMapping
