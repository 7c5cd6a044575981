import EntityMapping.Text.Chars

/-!
Universally unique identifiers: 128 bits, written as hexadecimal digits in five groups. They
are read with or without the hyphens, in braces, or behind the prefix of their name space;
the last two only with hyphens.
-/

namespace EntityMapping

/-- An identifier of 128 bits. -/
structure Uuid where
  bits : BitVec 128
  deriving DecidableEq

namespace Uuid

/-- The identifier whose bits are all zero. -/
def nil : Uuid := ⟨0⟩

/-- Identifiers as numbers. -/
def compare : Uuid → Uuid → Ordering := compareOn bits

instance : Ord Uuid := ⟨compare⟩

instance : Std.TransOrd Uuid := inferInstanceAs (Std.TransCmp (compareOn bits))

/-- The hexadecimal digits, all thirty-two of them. -/
def digits (u : Uuid) : List Char :=
  let ds := Text.hex u.bits.toNat
  List.replicate (32 - ds.length) '0' ++ ds

def toChars (u : Uuid) : List Char :=
  let ds := u.digits
  ds.take 8 ++ '-' :: (ds.drop 8).take 4 ++ '-' :: (ds.drop 12).take 4 ++ '-' :: (ds.drop 16).take 4
    ++ '-' :: ds.drop 20

instance : ToString Uuid := ⟨fun u => String.ofList u.toChars⟩

/-- The value of a hexadecimal digit of either case. -/
def hexValue? (c : Char) : Option Nat :=
  if c.isDigit then some (c.toNat - '0'.toNat)
  else if 'a' ≤ c ∧ c ≤ 'f' then some (c.toNat - 'a'.toNat + 10)
  else if 'A' ≤ c ∧ c ≤ 'F' then some (c.toNat - 'A'.toNat + 10)
  else none

/-- The number of a run of hexadecimal digits. -/
def hexNumber? (cs : List Char) : Option Nat :=
  cs.foldlM (fun n c => (hexValue? c).map (16 * n + ·)) 0

/-- Thirty-two digits. -/
def ofDigits? (cs : List Char) : Option Uuid :=
  if cs.length = 32 then (hexNumber? cs).map fun n => ⟨BitVec.ofNat 128 n⟩ else none

/-- Five groups of digits with hyphens between them. -/
def ofGroups? (cs : List Char) : Option Uuid :=
  if cs.length = 36 ∧ [8, 13, 18, 23].all (fun i => cs[i]? = some '-') then
    ofDigits? (cs.filter (· ≠ '-'))
  else none

/-- Reads a whole text as an identifier. -/
def ofChars? (cs : List Char) : Option Uuid :=
  let name := "urn:uuid:".toList
  if cs.length = 32 then ofDigits? cs
  else if cs.head? = some '\x7b' then
    if cs.length = 38 ∧ cs.getLast? = some '\x7d' then ofGroups? (cs.drop 1).dropLast else none
  else if (cs.take name.length).map Char.toLower = name then ofGroups? (cs.drop name.length)
  else ofGroups? cs

end Uuid

end EntityMapping
