import EntityMapping.Json.Basic
import EntityMapping.Number.Numeral

/-!
What a JSON numeral stands for. Without point and exponent it is an integer if it fits 64
bits, counted without sign for a positive one; minus zero and all else are doubles. The
double is found in two rounded steps, not one: as many leading digits as fit 64 bits are
rounded to a double, which is then multiplied or divided by a rounded power of ten. A
numeral beyond the largest double stands for nothing.
-/

namespace EntityMapping.Json

/-- The parts of a numeral as they are written. -/
structure Numeral where
  negative : Bool
  whole : List Char
  fraction : Option (List Char)
  exponent : Option (Bool × List Char)

namespace Numeral

/-- The greatest significand that is kept. -/
def significandLimit : Nat := UInt64.size - 1

/-- The greatest exponent that is read. -/
def exponentLimit : Nat := Int32.maxValue.toInt.toNat

def digitValue (c : Char) : Nat := c.toNat - '0'.toNat

/-- The leading digits whose number fits, and how many digits of the whole part follow. -/
def wholePart (significand : Nat) : List Char → Nat × Nat
  | [] => (significand, 0)
  | c :: rest =>
    let next := 10 * significand + digitValue c
    if next ≤ significandLimit then wholePart next rest else (significand, rest.length + 1)

/-- Takes in the digits behind the point until one does not fit. -/
def fractionPart (significand taken : Nat) : List Char → Nat × Nat
  | [] => (significand, taken)
  | c :: rest =>
    let next := 10 * significand + digitValue c
    if next ≤ significandLimit then fractionPart next (taken + 1) rest else (significand, taken)

def power (k : Nat) : Double := .ofRatio .double false (tenTo k) 1

/-- The greatest power of ten that a double holds. -/
def greatestPower : Nat := 308

/-- A double times a power of ten, in steps that a double holds. -/
def scale (steps : Nat) (x : Double) (e : Int) : Option Double :=
  match steps with
  | 0 => some x
  | steps + 1 =>
    if e.natAbs ≤ greatestPower then
      if 0 ≤ e then
        let y := x.mul (power e.natAbs)
        if y.isFinite then some y else none
      else some (x.div (power e.natAbs))
    else if x.magnitude = 0 then some x
    else if 0 ≤ e then none
    else scale steps (x.div (power greatestPower)) (e + greatestPower)

/-- A double of a significand and a power of ten. Five steps down every double is zero. -/
def double? (negative : Bool) (significand : Nat) (e : Int) : Option Double :=
  (scale 5 (.ofInt .double significand) e).map fun x => if negative then x.negate else x

/-- An integer in range, or the double nearest to it. -/
def integer (negative : Bool) (n : Nat) : Json :=
  if !negative then .integer n
  else if n = 0 ∨ -(n : Int) < Int64.minValue.toInt then .double (Binary.ofInt .double n).negate
  else .integer (-(n : Int))

/-- What a numeral stands for. -/
def resolve (l : Numeral) : Option Json :=
  let (significand, dropped) := wholePart 0 l.whole
  match l.fraction, l.exponent with
  | none, none =>
    if dropped = 0 then some (integer l.negative significand)
    else (double? l.negative significand dropped).map .double
  | fraction, exponent =>
    let (significand, taken) := fractionPart significand 0 (fraction.getD [])
    let start : Int := (dropped : Int) - taken
    match exponent with
    | none => (double? l.negative significand start).map .double
    | some (down, ds) =>
      let e := Nat.ofDigitChars 10 ds 0
      if e ≤ exponentLimit then
        (double? l.negative significand (if down then start - e else start + e)).map .double
      else if significand ≠ 0 ∧ !down then none
      else some (.double (.zero .double l.negative))

end Numeral

end EntityMapping.Json
