import EntityMapping.Text.CaseTable
import EntityMapping.Text.PrintTable

/-!
Classes and case of characters. White space, case and visibility are those of the whole
character set, not only of its first block. Lower-casing a text looks around a capital
sigma: at the end of a word it becomes the final small sigma. Folding compares single
characters without regard to case and never changes the length of a text; a few capitals
that lower-casing knows fold to themselves.
-/

namespace EntityMapping.Text

/-- Whether a code point is in one of some ranges. -/
def inRanges (ranges : List (Nat × Nat)) (c : Char) : Bool :=
  ranges.any fun (low, high) => low ≤ c.toNat && c.toNat ≤ high

/-! ### White space -/

/-- White space of any script. -/
def isBlank (c : Char) : Bool :=
  inRanges [(0x9, 0xd), (0x20, 0x20), (0x85, 0x85), (0xa0, 0xa0), (0x1680, 0x1680),
    (0x2000, 0x200a), (0x2028, 0x2029), (0x202f, 0x202f), (0x205f, 0x205f), (0x3000, 0x3000)] c

/-- A text without the white space at its front. -/
def trimFront (cs : List Char) : List Char := cs.dropWhile isBlank

/-- A text without the white space at both ends. -/
def trim (cs : List Char) : List Char := (trimFront (trimFront cs).reverse).reverse

/-! ### Case -/

/-- The small form of a character, if it is a single character of its own. -/
def toSmall (c : Char) : Char :=
  let n := c.toNat
  match lowerRuns.find? fun (first, last, step, _) =>
      first ≤ n && n ≤ last && (n - first) % step = 0 with
  | some (_, _, _, distance) => Char.ofNat ((n : Int) + distance).toNat
  | none => c

/-- The representative of the characters that differ from this one in case only. -/
def fold (c : Char) : Char :=
  if inRanges unfoldedRanges c then c
  else
    match foldExceptions.lookup c.toNat with
    | some n => Char.ofNat n
    | none => toSmall c

/-- The characters that differ from this one in case only, and itself, in order. -/
def alike (c : Char) : List Char :=
  let small := fold c
  let capitals := lowerRuns.filterMap fun (first, last, step, distance) =>
    let n := ((small.toNat : Int) - distance).toNat
    if first ≤ n ∧ n ≤ last ∧ (n - first) % step = 0 then some (Char.ofNat n) else none
  let others := foldExceptions.filterMap fun (n, m) =>
    if m = small.toNat then some (Char.ofNat n) else none
  let candidates := (small :: capitals ++ others).filter fun d => fold d = small
  (candidates.mergeSort fun d e => d.toNat ≤ e.toNat).eraseReps

/-- Whether the first character that is not passed over has a case. -/
def nextIsCased (cs : List Char) : Bool :=
  match cs.dropWhile (inRanges caseIgnorableRanges) with
  | c :: _ => inRanges casedRanges c
  | [] => false

/-- The lower-case form of a text behind what was read of it, last character first. -/
def lowerAfter (before : List Char) : List Char → List Char
  | [] => []
  | c :: rest =>
    let small :=
      if c = 'Σ' then [if nextIsCased before && !nextIsCased rest then 'ς' else 'σ']
      else if c = 'İ' then ['i', '\u0307']
      else [toSmall c]
    small ++ lowerAfter (c :: before) rest

/-- The lower-case form of a text. -/
def lower (cs : List Char) : List Char := lowerAfter [] cs

/-! ### Visibility -/

/-- Whether a character shows on its own. -/
def isPrintable (c : Char) : Bool := !inRanges unprintableRanges c

/-- Whether a character extends the one before it. -/
def isExtending (c : Char) : Bool := inRanges extendingRanges c

/-- A number in lower-case hexadecimal. -/
def hex (n : Nat) : List Char := Nat.toDigits 16 n

/-- A character inside a quoted text: the quote, the backslash and the common controls behind
a backslash, what does not show on its own by its number. -/
def quotedChar (c : Char) : List Char :=
  if c = '"' then ['\\', '"']
  else if c = '\\' then ['\\', '\\']
  else if c = '\n' then ['\\', 'n']
  else if c = '\r' then ['\\', 'r']
  else if c = '\t' then ['\\', 't']
  else if c = '\x00' then ['\\', '0']
  else if isExtending c || !isPrintable c then
    ['\\', 'u', '\x7b'] ++ hex c.toNat ++ ['\x7d']
  else [c]

/-- A text in quotes, fit to be shown on one line. -/
def quoted (s : String) : String :=
  String.ofList ('"' :: s.toList.flatMap quotedChar ++ ['"'])

end EntityMapping.Text
