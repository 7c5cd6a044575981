import EntityMapping.Number.Numeral

/-!
The shortest decimal of a binary number. The reals that round to a finite number form an
interval around it, whose ends belong to it when the significand is even. Of all decimal
grids, from the coarsest down, the first one with a point in the interval gives the fewest
digits, and of its points there the nearest to the number is taken. Two printers differ in
how they break a tie between two points and in how they lay the digits out.
-/

namespace EntityMapping

/-- What to do when two decimals of equal length are equally near. -/
inductive Tie where
  | up
  | toEven
  deriving DecidableEq, Repr

namespace Binary

variable {f : Format}

/-- The interval of reals that round to a number, in quarters of a unit. -/
structure Interval where
  value : Nat
  low : Nat
  high : Nat
  closed : Bool

/-- The interval of a significand and an exponent. Below a full significand the numbers
are twice as dense. -/
def interval (f : Format) (m e : Nat) : Interval where
  value := 4 * m * twoTo e
  low := 4 * m * twoTo e - (if m = twoTo (f.precision - 1) then 1 else 2) * twoTo e
  high := 4 * m * twoTo e + 2 * twoTo e
  closed := m % 2 = 0

/-- Whether a point, given as a ratio to the unit of the interval, lies in it. -/
def Interval.contains (i : Interval) (n d : Nat) : Bool :=
  if i.closed then i.low * d ≤ n && n ≤ i.high * d else i.low * d < n && n < i.high * d

/-- The point of the grid of `10 ^ k` that is in the interval and nearest to the value. -/
def Interval.onGrid? (f : Format) (tie : Tie) (i : Interval) (k : Int) : Option Nat :=
  let up := tenTo k.toNat * (4 * twoTo f.scale)
  let down := tenTo (-k).toNat
  let below := i.value * down / up
  let left := i.value * down % up
  match i.contains (below * up) down && below != 0, i.contains ((below + 1) * up) down with
  | false, false => none
  | true, false => some below
  | false, true => some (below + 1)
  | true, true =>
    if 2 * left < up then some below
    else if up < 2 * left then some (below + 1)
    else match tie with
      | .up => some (below + 1)
      | .toEven => some (below + below % 2)

/-- A decimal without zeros at the end of its digits. -/
def trimZeros (fuel : Nat) (d : Decimal) : Decimal :=
  match fuel with
  | 0 => d
  | fuel + 1 =>
    if d.digits % 10 = 0 ∧ d.digits ≠ 0 then trimZeros fuel ⟨d.digits / 10, d.exponent + 1⟩ else d

/-- The shortest decimal that rounds to a finite number, without its sign. -/
def shortest (tie : Tie) : Binary f → Decimal
  | .finite _ m e _ =>
    if m = 0 then ⟨0, 0⟩
    else
      let i := interval f m e
      let hit := (List.range (310 + f.scale)).findSome? fun (j : Nat) =>
        let k : Int := 309 - (j : Int)
        (i.onGrid? f tie k).map fun n => Decimal.mk n k
      let d := hit.getD ⟨0, 0⟩
      trimZeros (Numeral.ofNat d.digits).length d
  | _ => ⟨0, 0⟩

end Binary

namespace Decimal

/-- The digits and the power of ten of the first one. -/
def scientific (d : Decimal) : List Char × Int :=
  let ds := Numeral.ofNat d.digits
  (ds, d.exponent + ds.length - 1)

/-- A decimal written out with a point and no exponent; `fraction` is what stands after a
whole number. -/
def positional (fraction : List Char) (d : Decimal) : List Char :=
  let ds := Numeral.ofNat d.digits
  if 0 ≤ d.exponent then ds ++ List.replicate d.exponent.toNat '0' ++ fraction
  else
    let places := (-d.exponent).toNat
    if places < ds.length then ds.take (ds.length - places) ++ '.' :: ds.drop (ds.length - places)
    else '0' :: '.' :: (List.replicate (places - ds.length) '0' ++ ds)

/-- A decimal written with one digit before the point and a signed exponent. -/
def exponential (d : Decimal) : List Char :=
  let (ds, e) := d.scientific
  let mantissa := match ds with
    | [c] => [c]
    | c :: rest => c :: '.' :: rest
    | [] => []
  mantissa ++ 'e' :: (if 0 ≤ e then '+' :: Numeral.ofInt e else Numeral.ofInt e)

end Decimal

namespace Double

/-- Puts a minus sign in front when it is called for. -/
def signed (negative : Bool) (cs : List Char) : List Char := if negative then '-' :: cs else cs

/-- The text of a double: names for what is not finite, all other numbers written out, a tie
between two shortest decimals going up. -/
def display (x : Double) : String :=
  match x with
  | .nan => "NaN"
  | .infinite s => String.ofList (signed s "Infinity".toList)
  | .finite s .. => String.ofList (signed s ((x.shortest .up).positional []))

/-- The JSON numeral of a finite double: written out from `10 ^ -5` to below `10 ^ 16`, with
a point in every case, and with an exponent outside; a tie goes to the even digit. -/
def jsonNumeral (x : Double) : String :=
  let d := x.shortest .toEven
  let e := d.scientific.2
  String.ofList <| signed x.isNegative <|
    if d.digits = 0 then "0.0".toList
    else if -5 ≤ e ∧ e < 16 then d.positional ".0".toList
    else d.exponential

end Double

end EntityMapping
