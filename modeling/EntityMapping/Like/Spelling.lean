import EntityMapping.Text.Chars

/-!
Characters as bytes. Several characters are spelled by ranges of bytes, a list of ranges for
neighbours that differ in the last byte only.
-/

namespace EntityMapping.Like

/-- The bytes of a character, or of neighbouring ones, as the range of each place. -/
abbrev Spelling := List (Nat × Nat)

def spelling (c : Char) : Spelling :=
  (String.utf8EncodeChar c).map fun b => (b.toNat, b.toNat)

/-- Adds a character in front of greater ones. Neighbours that differ in the last byte only
become one spelling. -/
def joinSpelling (c : Char) : List Spelling → List Spelling
  | [] => [spelling c]
  | s :: rest =>
    let t := spelling c
    match t.getLast?, s.getLast? with
    | some (low, high), some (next, last) =>
      if t.dropLast = s.dropLast ∧ high + 1 = next then (t.dropLast ++ [(low, last)]) :: rest
      else t :: s :: rest
    | _, _ => t :: s :: rest

/-- The spellings of some characters that stand in order. -/
def spellings (cs : List Char) : List Spelling := cs.foldr joinSpelling []

/-- The spellings of every character but the line feed. -/
def anySpellings : List Spelling :=
  let any := (0x80, 0xbf)
  [[(0x0, 0x9)], [(0xb, 0x7f)], [(0xc2, 0xdf), any],
    [(0xe0, 0xe0), (0xa0, 0xbf), any], [(0xe1, 0xec), any, any],
    [(0xed, 0xed), (0x80, 0x9f), any], [(0xee, 0xef), any, any],
    [(0xf0, 0xf0), (0x90, 0xbf), any, any], [(0xf1, 0xf3), any, any, any],
    [(0xf4, 0xf4), (0x80, 0x8f), any, any]]

/-- The ways in which some spellings go on after a beginning. -/
def continuations (ss : List Spelling) (start : Spelling) : List Spelling :=
  (ss.filter fun s => start.isPrefixOf s).map fun s => s.drop start.length

/-- The beginnings of a spelling: all of them but the spelling itself. -/
def beginnings (s : Spelling) : List Spelling := (List.range s.length).map fun n => s.take n

end EntityMapping.Like
