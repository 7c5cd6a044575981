import EntityMapping.Error
import EntityMapping.Like.Pattern
import EntityMapping.Text.Chars

/-!
Matching by LIKE patterns. Patterns without underscore and backslash and with percent signs at
their ends only are answered by looking for their text as a whole, at one end or anywhere;
there a percent sign also stands for line feeds. The others are matched part by part, as far as
there are automata for them. Without regard to case, the text as a whole is lower-cased, and
single characters are folded.
-/

namespace EntityMapping.Like

/-! ### Matching

The parts are taken from the last one back. For each tail of the text a row says whether the
parts taken so far match it, so a part looks at the row behind it and never tries twice. -/

def front : List Bool → Bool
  | b :: _ => b
  | [] => false

/-- The row of no parts: only the empty tail matches. -/
def lastRow : List Char → List Bool
  | [] => [true]
  | _ :: cs => false :: lastRow cs

/-- The row of a part in front of a row. -/
def rowBefore (same : Char → Char → Bool) (t : Token) : List Bool → List Char → List Bool
  | row, [] => [match t with | .run => front row | _ => false]
  | row, d :: cs =>
    let rest := rowBefore same t row.tail cs
    let here := match t with
      | .literal c => front row.tail && same c d
      | .one => front row.tail && d != '\n'
      | .run => front row || (front rest && d != '\n')
    here :: rest

def row (same : Char → Char → Bool) (ts : List Token) (text : List Char) : List Bool :=
  ts.foldr (fun t r => rowBefore same t r text) (lastRow text)

def matchTokens (same : Char → Char → Bool) (ts : List Token) (text : List Char) : Bool :=
  front (row same ts text)

def sameChar (caseSensitive : Bool) (c d : Char) : Bool :=
  if caseSensitive then c == d else Text.fold c == Text.fold d

/-- Matches part by part, if there is an automaton for the parts. -/
def byTokens (mode : Mode) (text pattern : List Char) : Except MapperError Bool :=
  let ts := tokens pattern
  if mode.fits ts then .ok (matchTokens (sameChar mode.caseSensitive) ts text)
  else .error .patternTooLarge

def occursIn (part : List Char) : List Char → Bool
  | [] => part.isEmpty
  | c :: cs => part.isPrefixOf (c :: cs) || occursIn part cs

/-- The answer for patterns that ask for a text as a whole, at an end or anywhere. -/
def byShape? (caseSensitive : Bool) (text pattern : List Char) : Option Bool :=
  if '_' ∈ pattern ∨ '\\' ∈ pattern then none
  else
    let text := if caseSensitive then text else Text.lower text
    let pattern := if caseSensitive then pattern else Text.lower pattern
    let atFront := pattern.head? = some '%'
    let atEnd := pattern.getLast? = some '%'
    match pattern.count '%' with
    | 0 => some (text == pattern)
    | 1 =>
      if atEnd then some (pattern.dropLast.isPrefixOf text)
      else if atFront then some (pattern.tail.isSuffixOf text)
      else none
    | 2 => if atFront ∧ atEnd then some (occursIn pattern.tail.dropLast text) else none
    | _ => none

end EntityMapping.Like

namespace EntityMapping

/-- Whether a text matches a pattern. -/
def like (mode : Like.Mode) (text pattern : String) : Except MapperError Bool :=
  let cs := text.toList
  let ps := pattern.toList
  match Like.byShape? mode.caseSensitive cs ps with
  | some b => .ok b
  | none => Like.byTokens mode cs ps

end EntityMapping
