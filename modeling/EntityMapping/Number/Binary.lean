/-!
Binary floating-point numbers as data. A finite number is a sign, a significand and a
spacing: its value is `significand * 2 ^ exponent` times the least spacing of its format,
so every finite number is an integer multiple of one unit, and comparing, subtracting and
rounding are exact arithmetic on naturals. There is one number that is not a number.
Rounding goes to the nearest number, a tie to the even significand.
-/

namespace EntityMapping

abbrev twoTo (n : Nat) : Nat := Nat.pow 2 n

/-- A binary format: the digits of a significand, the unit `2 ^ -scale`, and the largest
exponent of a spacing, counted from the unit. -/
structure Format where
  precision : Nat
  scale : Nat
  top : Nat
  deriving DecidableEq, Repr

def Format.double : Format := ⟨53, 1074, 2045⟩

def Format.single : Format := ⟨24, 149, 253⟩

/-- A significand and an exponent that a format holds; each magnitude has exactly one such
pair, because a spacing above the least one needs a full significand. -/
structure Format.Holds (f : Format) (significand exponent : Nat) : Prop where
  lt : significand < twoTo f.precision
  full : exponent = 0 ∨ twoTo (f.precision - 1) ≤ significand
  le : exponent ≤ f.top

instance (f : Format) (m e : Nat) : Decidable (f.Holds m e) :=
  if h : m < twoTo f.precision ∧ (e = 0 ∨ twoTo (f.precision - 1) ≤ m) ∧ e ≤ f.top then
    isTrue ⟨h.1, h.2.1, h.2.2⟩
  else
    isFalse fun g => h ⟨g.lt, g.full, g.le⟩

/-- A number of a binary format. -/
inductive Binary (f : Format) where
  | nan
  | infinite (negative : Bool)
  | finite (negative : Bool) (significand exponent : Nat) (holds : f.Holds significand exponent)
  deriving DecidableEq

abbrev Double := Binary .double

abbrev Single := Binary .single

/-- The natural nearest to `n / d`; a tie goes to the even one. -/
def roundHalfEven (n d : Nat) : Nat :=
  let q := n / d
  let r := n % d
  if 2 * r < d then q else if d < 2 * r then q + 1 else q + q % 2

namespace Binary

variable {f : Format}

/-! ### Building -/

/-- The number of a significand and an exponent, with a carry out of the significand moved
to the exponent. What the format cannot hold is infinite. -/
def make (f : Format) (negative : Bool) (m e : Nat) : Binary f :=
  let (m, e) := if m = twoTo f.precision then (twoTo (f.precision - 1), e + 1) else (m, e)
  if h : f.Holds m e then .finite negative m e h else .infinite negative

/-- The number nearest to `n / d` units. -/
def round (f : Format) (negative : Bool) (n d : Nat) : Binary f :=
  let q := n / d
  let e := if q < twoTo f.precision then 0 else q.log2 + 1 - f.precision
  make f negative (roundHalfEven n (d * twoTo e)) e

def ofRatio (f : Format) (negative : Bool) (n d : Nat) : Binary f :=
  round f negative (n * twoTo f.scale) d

def ofInt (f : Format) (i : Int) : Binary f := ofRatio f (decide (i < 0)) i.natAbs 1

def zero (f : Format) (negative : Bool) : Binary f := make f negative 0 0

instance : Inhabited (Binary f) := ⟨.nan⟩

/-! ### Views -/

def isNaN : Binary f → Bool
  | .nan => true
  | _ => false

def isFinite : Binary f → Bool
  | .finite .. => true
  | _ => false

def isNegative : Binary f → Bool
  | .nan => false
  | .infinite s => s
  | .finite s .. => s

/-- The magnitude of a finite number, in units. -/
def magnitude : Binary f → Nat
  | .finite _ m e _ => m * twoTo e
  | _ => 0

/-- The value of a finite number, in units. -/
def scaled (x : Binary f) : Int := if x.isNegative then -(x.magnitude : Int) else x.magnitude

/-- A finite number without its fraction. -/
def truncate? : Binary f → Option Int
  | .finite s m e _ =>
    let n : Nat := m * twoTo e / twoTo f.scale
    some (if s then -(n : Int) else n)
  | _ => none

/-! ### Order and arithmetic -/

/-- Where a number stands among the infinities, the finite numbers and what is no number. -/
def rank : Binary f → Nat
  | .infinite true => 0
  | .finite .. => 1
  | .infinite false => 2
  | .nan => 3

/-- Numbers by value, the two zeros alike; what is not a number equals itself and comes
after every number. -/
def compare : Binary f → Binary f → Ordering :=
  compareLex (compareOn rank) (compareOn scaled)

instance : Ord (Binary f) := ⟨compare⟩

instance : Std.TransOrd (Binary f) :=
  inferInstanceAs (Std.TransCmp (compareLex (compareOn rank) (compareOn scaled)))

def negate : Binary f → Binary f
  | .nan => .nan
  | .infinite s => .infinite (!s)
  | .finite s m e h => .finite (!s) m e h

/-- The magnitude of the difference, rounded. Two infinities of one sign have none. -/
def distance : Binary f → Binary f → Binary f
  | .nan, _ => .nan
  | _, .nan => .nan
  | .infinite s, .infinite t => if s = t then .nan else .infinite false
  | .infinite _, .finite .. => .infinite false
  | .finite .., .infinite _ => .infinite false
  | x@(.finite ..), y@(.finite ..) => round f false (x.scaled - y.scaled).natAbs 1

/-- The rounded product. -/
def mul : Binary f → Binary f → Binary f
  | .nan, _ => .nan
  | _, .nan => .nan
  | .infinite s, y => if y.isFinite && y.magnitude = 0 then .nan else .infinite (s != y.isNegative)
  | x, .infinite t => if x.magnitude = 0 then .nan else .infinite (x.isNegative != t)
  | x@(.finite s ..), y@(.finite t ..) =>
    round f (s != t) (x.magnitude * y.magnitude) (twoTo f.scale)

/-- The rounded quotient. -/
def div : Binary f → Binary f → Binary f
  | .nan, _ => .nan
  | _, .nan => .nan
  | .infinite _, .infinite _ => .nan
  | .infinite s, .finite t .. => .infinite (s != t)
  | .finite s .., .infinite t => zero f (s != t)
  | x@(.finite s ..), y@(.finite t ..) =>
    if y.magnitude = 0 then
      if x.magnitude = 0 then .nan else .infinite (s != t)
    else
      round f (s != t) (x.magnitude * twoTo f.scale) y.magnitude

def convert (g : Format) : Binary f → Binary g
  | .nan => .nan
  | .infinite s => .infinite s
  | .finite s m e _ => round g s (m * twoTo e * twoTo g.scale) (twoTo f.scale)

/-! ### Words

The interchange form of a number: sign, biased exponent, fraction. -/

def exponentBits (f : Format) : Nat := (f.top + 2).log2 + 1

/-- The word of a number; the one that is not a number has only the top fraction bit. -/
def toWord : Binary f → Nat
  | .nan => (twoTo (exponentBits f) - 1) * twoTo (f.precision - 1) + twoTo (f.precision - 2)
  | .infinite s => sign s + (twoTo (exponentBits f) - 1) * twoTo (f.precision - 1)
  | .finite s m e _ =>
    sign s + if m < twoTo (f.precision - 1) then m
      else (e + 1) * twoTo (f.precision - 1) + (m - twoTo (f.precision - 1))
where
  sign (s : Bool) : Nat := if s then twoTo (exponentBits f + f.precision - 1) else 0

/-- The number of a word. -/
def ofWord (f : Format) (w : Nat) : Binary f :=
  let fraction := w % twoTo (f.precision - 1)
  let biased := w / twoTo (f.precision - 1) % twoTo (exponentBits f)
  let negative := w / twoTo (exponentBits f + f.precision - 1) % 2 = 1
  if biased = twoTo (exponentBits f) - 1 then
    if fraction = 0 then .infinite negative else .nan
  else if biased = 0 then make f negative fraction 0
  else make f negative (twoTo (f.precision - 1) + fraction) (biased - 1)

end Binary

namespace Double

/-- How far apart two doubles may be and still count as equal: `2 ^ -52`. -/
def tolerance : Double := Binary.make .double false (twoTo 52) 970

/-- Whether two doubles count as equal: both are not a number, or their rounded distance is
below the tolerance. An infinity equals nothing, not even itself. -/
def near (a b : Double) : Bool :=
  (a.isNaN && b.isNaN) || (a.distance b).compare tolerance == .lt

end Double

end EntityMapping
