import EntityMapping.Json.Numeral
import EntityMapping.Uuid

/-!
Reading JSON. A text is first cut into a draft that only has to obey the grammar: numerals
keep their digits and a string may have escaped halves of characters that do not fit
together. A draft becomes a document if its numerals have a value, its strings are text and
it is not nested too deeply. What a reader skips needs to be a draft only.
-/

namespace EntityMapping.Json

/-- A text that obeys the grammar. A string without a value has an escape without its
other half. -/
inductive Draft where
  | null
  | bool (b : Bool)
  | number (n : Numeral)
  | string (s : Option String)
  | array (items : List Draft)
  | object (members : List (Option String × Draft))

/-! ### Grammar -/

def isSpace (c : Char) : Bool := c = ' ' || c = '\n' || c = '\r' || c = '\t'

def skipSpace (cs : List Char) : List Char := cs.dropWhile isSpace

def word? (w : String) (cs : List Char) : Option (List Char) :=
  if w.toList.isPrefixOf cs then some (cs.drop w.length) else none

def digits? (cs : List Char) : Option (List Char × List Char) :=
  let (ds, rest) := cs.span Char.isDigit
  if ds = [] then none else some (ds, rest)

/-- The digits before the point: a zero alone or digits that do not begin with one. -/
def whole? (cs : List Char) : Option (List Char × List Char) := do
  let (ds, rest) ← digits? cs
  if ds.head? = some '0' ∧ ds.length ≠ 1 then none else some (ds, rest)

def fraction? : List Char → Option (Option (List Char) × List Char)
  | '.' :: cs => (digits? cs).map fun (ds, rest) => (some ds, rest)
  | cs => some (none, cs)

/-- The exponent, if there is one, with whether it is negative. -/
def exponent? : List Char → Option (Option (Bool × List Char) × List Char)
  | [] => some (none, [])
  | c :: cs =>
    if c = 'e' ∨ c = 'E' then
      let (down, cs) := match cs with
        | '+' :: cs => (false, cs)
        | '-' :: cs => (true, cs)
        | cs => (false, cs)
      (digits? cs).map fun (ds, rest) => (some (down, ds), rest)
    else some (none, c :: cs)

def number? (cs : List Char) : Option (Numeral × List Char) := do
  let (negative, cs) := match cs with
    | '-' :: cs => (true, cs)
    | cs => (false, cs)
  let (whole, cs) ← whole? cs
  let (fraction, cs) ← fraction? cs
  let (exponent, cs) ← exponent? cs
  some (⟨negative, whole, fraction, exponent⟩, cs)

/-- A unit of a string: a character, or half of one that an escape names. -/
inductive StringUnit where
  | char (c : Char)
  | half (code : Nat)

/-- The character of an escape of one letter. -/
def escapeChar? : Char → Option Char
  | '"' => some '"'
  | '\\' => some '\\'
  | '/' => some '/'
  | 'b' => some '\x08'
  | 'f' => some '\x0c'
  | 'n' => some '\n'
  | 'r' => some '\r'
  | 't' => some '\t'
  | _ => none

/-- The unit of an escape by number. -/
def unitOfCode (n : Nat) : StringUnit :=
  if 0xd800 ≤ n ∧ n ≤ 0xdfff then .half n else .char (Char.ofNat n)

/-- The units of a string up to its closing quote. -/
def units? : List Char → Option (List StringUnit × List Char)
  | [] => none
  | '"' :: rest => some ([], rest)
  | '\\' :: 'u' :: a :: b :: c :: d :: rest => do
    let n ← Uuid.hexNumber? [a, b, c, d]
    let (us, rest) ← units? rest
    some (unitOfCode n :: us, rest)
  | '\\' :: e :: rest => do
    let c ← escapeChar? e
    let (us, rest) ← units? rest
    some (.char c :: us, rest)
  | c :: rest =>
    if c.toNat < 32 then none
    else do
      let (us, rest) ← units? rest
      some (.char c :: us, rest)

/-- The characters of a string, if every first half meets a second one. -/
def chars? : List StringUnit → Option (List Char)
  | [] => some []
  | .char c :: rest => (chars? rest).map (c :: ·)
  | .half a :: .half b :: rest =>
    if a < 0xdc00 ∧ 0xdc00 ≤ b then
      (chars? rest).map (Char.ofNat (0x10000 + (a - 0xd800) * 0x400 + (b - 0xdc00)) :: ·)
    else none
  | .half _ :: _ => none

def string? (cs : List Char) : Option (Option String × List Char) :=
  (units? cs).map fun (us, rest) => ((chars? us).map String.ofList, rest)

mutual

/-- A value at the front of a text, within a number of steps. -/
def draft? (steps : Nat) (cs : List Char) : Option (Draft × List Char) :=
  match steps with
  | 0 => none
  | steps + 1 =>
    match cs with
    | [] => none
    | '"' :: rest => (string? rest).map fun (s, rest) => (.string s, rest)
    | '[' :: rest =>
      match skipSpace rest with
      | ']' :: rest => some (.array [], rest)
      | rest => (items? steps rest).map fun (ds, rest) => (.array ds, rest)
    | '\x7b' :: rest =>
      match skipSpace rest with
      | '\x7d' :: rest => some (.object [], rest)
      | rest => (members? steps rest).map fun (ms, rest) => (.object ms, rest)
    | 'n' :: _ => (word? "null" cs).map fun rest => (.null, rest)
    | 't' :: _ => (word? "true" cs).map fun rest => (.bool true, rest)
    | 'f' :: _ => (word? "false" cs).map fun rest => (.bool false, rest)
    | _ => (number? cs).map fun (n, rest) => (.number n, rest)

/-- The items of an array up to its end. -/
def items? (steps : Nat) (cs : List Char) : Option (List Draft × List Char) :=
  match steps with
  | 0 => none
  | steps + 1 => do
    let (d, rest) ← draft? steps (skipSpace cs)
    match skipSpace rest with
    | ',' :: rest =>
      let (ds, rest) ← items? steps rest
      some (d :: ds, rest)
    | ']' :: rest => some ([d], rest)
    | _ => none

/-- The members of an object up to its end. -/
def members? (steps : Nat) (cs : List Char) : Option (List (Option String × Draft) × List Char) :=
  match steps with
  | 0 => none
  | steps + 1 =>
    match skipSpace cs with
    | '"' :: rest => do
      let (name, rest) ← string? rest
      match skipSpace rest with
      | ':' :: rest =>
        let (d, rest) ← draft? steps (skipSpace rest)
        match skipSpace rest with
        | ',' :: rest =>
          let (ms, rest) ← members? steps rest
          some ((name, d) :: ms, rest)
        | '\x7d' :: rest => some ([(name, d)], rest)
        | _ => none
      | _ => none
    | _ => none

end

/-- Reads a whole text as a draft. Every two steps take a character. -/
def Draft.ofString? (s : String) : Option Draft := do
  let cs := s.toList
  let (d, rest) ← draft? (2 * cs.length + 2) (skipSpace cs)
  if skipSpace rest = [] then some d else none

/-! ### Documents -/

/-- How deeply arrays and objects may be nested. -/
def depthLimit : Nat := 127

mutual

/-- The document of a draft within a depth; of repeated members the last one counts. -/
def Draft.toJson? (depth : Nat) : Draft → Option Json
  | .null => some .null
  | .bool b => some (.bool b)
  | .number n => n.resolve
  | .string s => s.map .string
  | .array items =>
    match depth with
    | 0 => none
    | depth + 1 => (Draft.itemsToJson? depth items).map .array
  | .object members =>
    match depth with
    | 0 => none
    | depth + 1 => (Draft.membersToJson? depth members).map fun ms => .object (Keyed.sorted ms)

def Draft.itemsToJson? (depth : Nat) : List Draft → Option (List Json)
  | [] => some []
  | d :: rest => do
    let j ← Draft.toJson? depth d
    let js ← Draft.itemsToJson? depth rest
    some (j :: js)

def Draft.membersToJson? (depth : Nat) :
    List (Option String × Draft) → Option (List (String × Json))
  | [] => some []
  | (name, d) :: rest => do
    let name ← name
    let j ← Draft.toJson? depth d
    let js ← Draft.membersToJson? depth rest
    some ((name, j) :: js)

end

def parse? (s : String) : Option Json := do
  let d ← Draft.ofString? s
  d.toJson? depthLimit

end EntityMapping.Json
