import EntityMapping.Number.Binary

/-!
Decimal numerals. An integer is spelled by its digits behind an optional minus sign and
read with an optional sign of either kind; reading takes back every spelling. A decimal
fraction is a natural number with a power of ten, and stands for the binary number nearest
to it.
-/

namespace EntityMapping.Numeral

def ofNat (n : Nat) : List Char := Nat.toDigits 10 n

def ofInt : Int → List Char
  | .ofNat n => ofNat n
  | .negSucc n => '-' :: ofNat (n + 1)

/-- The number of a run of digits that fills the whole text. -/
def nat? (cs : List Char) : Option Nat :=
  if cs ≠ [] ∧ cs.all Char.isDigit then some (Nat.ofDigitChars 10 cs 0) else none

/-- An integer with an optional sign. -/
def int? : List Char → Option Int
  | '+' :: cs => (nat? cs).map Int.ofNat
  | '-' :: cs => (nat? cs).map fun n => -(n : Int)
  | cs => (nat? cs).map Int.ofNat

/-- An integer as one of 64 bits, if it is in their range. -/
def fit? (n : Int) : Option Int64 :=
  if Int64.minValue.toInt ≤ n ∧ n ≤ Int64.maxValue.toInt then some (Int64.ofInt n) else none

/-- An integer of 64 bits with an optional sign. -/
def int64? (cs : List Char) : Option Int64 := (int? cs).bind fit?

/-- A natural number padded with zeros to a width. -/
def padded (width n : Nat) : List Char :=
  let ds := ofNat n
  List.replicate (width - ds.length) '0' ++ ds

end EntityMapping.Numeral

namespace EntityMapping

abbrev tenTo (n : Nat) : Nat := Nat.pow 10 n

/-- A decimal fraction `digits * 10 ^ exponent`. -/
structure Decimal where
  digits : Nat
  exponent : Int
  deriving DecidableEq, Repr

namespace Decimal

/-- The number nearest to a decimal fraction. Beyond four hundred places either way no
format has anything but zero and infinity, so the powers of ten stay small. -/
def toBinary (f : Format) (negative : Bool) (d : Decimal) : Binary f :=
  if d.digits = 0 then .zero f negative
  else
    let places : Int := (Numeral.ofNat d.digits).length + d.exponent
    if 400 < places then .infinite negative
    else if places < -400 then .zero f negative
    else if 0 ≤ d.exponent then .ofRatio f negative (d.digits * tenTo d.exponent.toNat) 1
    else .ofRatio f negative d.digits (tenTo (-d.exponent).toNat)

/-- An exponent: an optional sign and digits, to the end. -/
def exponent? (cs : List Char) : Option Int :=
  Numeral.int? cs

/-- A decimal fraction as people type it: digits with an optional point among or beside
them, and an optional exponent. -/
def ofChars? (cs : List Char) : Option Decimal :=
  let (whole, rest) := cs.span Char.isDigit
  let (fraction, rest) := match rest with
    | '.' :: rest => rest.span Char.isDigit
    | _ => ([], rest)
  if whole = [] ∧ fraction = [] then none
  else
    let digits := Nat.ofDigitChars 10 (whole ++ fraction) 0
    match rest with
    | [] => some ⟨digits, -(fraction.length : Int)⟩
    | c :: rest =>
      if c = 'e' ∨ c = 'E' then
        (exponent? rest).map fun e => ⟨digits, e - fraction.length⟩
      else none

end Decimal

namespace Double

/-- A double as people type it: an optional sign, then a word for infinity or for what is
not a number, in any case, or a decimal fraction. -/
def ofChars? (cs : List Char) : Option Double :=
  let (negative, cs) := match cs with
    | '+' :: cs => (false, cs)
    | '-' :: cs => (true, cs)
    | cs => (false, cs)
  let word := String.ofList (cs.map Char.toLower)
  if word = "inf" ∨ word = "infinity" then some (.infinite negative)
  else if word = "nan" then some .nan
  else (Decimal.ofChars? cs).map (Decimal.toBinary .double negative)

end Double

end EntityMapping
