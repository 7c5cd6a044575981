import EntityMapping.Like.Pattern
import EntityMapping.Like.Spelling

/-!
The room that a pattern takes. A pattern stands for two automata over the bytes of a text, one
that reads it forward and one that reads it backward, and is refused if either of them takes
more than ten mebibytes. A literal is a state for each of its bytes. Where a part stands for
several characters, reading forward two states are one if the same bytes can follow them;
reading backward, characters share the states of the bytes that they begin with, as far as
these are remembered.
-/

namespace EntityMapping.Like

/-! ### Sizes -/

/-- What an automaton is made of. A transition leads on by a range of bytes and a branch
without a byte; a state that leads on in one way only has neither of its own. -/
structure Size where
  states : Nat
  transitions : Nat
  branches : Nat
  deriving DecidableEq, Repr

namespace Size

instance : Add Size :=
  ⟨fun s t => ⟨s.states + t.states, s.transitions + t.transitions, s.branches + t.branches⟩⟩

def chain (n : Nat) : Size := ⟨n, 0, 0⟩

/-- A state that branches to two others. -/
def fork : Size := ⟨1, 0, 2⟩

def room (s : Size) : Nat := 32 * s.states + 8 * s.transitions + 4 * s.branches

end Size

/-! ### Reading forward -/

/-- A choice of characters: a state for each set of continuations, and the end. -/
def forwardChoice (ss : List Spelling) : Size :=
  let nodes := ((ss.flatMap beginnings).map (continuations ss)).eraseDups
  ⟨nodes.length + 1, (nodes.flatMap fun node => (node.filterMap (·.head?)).eraseDups).length, 0⟩

/-! ### Reading backward

The states are numbered as they arise. What a state is entered by, the state that it leads to
and a range of bytes, has one of a thousand places, and each place remembers the latest state
only. -/

/-- What a state is entered by: a range of bytes that leads to another state. -/
structure Entrance where
  target : Nat
  bytes : Nat × Nat
  deriving DecidableEq, Repr

/-- The place of an entrance: its numbers go one after the other into a word, each by
exclusive or and a multiplication that spreads it. -/
def Entrance.place (e : Entrance) : Nat :=
  let mix (h : UInt64) (n : Nat) := (h ^^^ UInt64.ofNat n) * 1099511628211
  (mix (mix (mix 14695981039346656037 e.target) e.bytes.1) e.bytes.2).toNat % 1000

/-- The states that arose, the latest first, each behind its place and its entrance. -/
abbrev Memory := List (Nat × Entrance × Nat)

/-- The state that is remembered for an entrance. -/
def Memory.recall (m : Memory) (e : Entrance) : Option Nat :=
  match m.lookup e.place with
  | some (f, n) => if f = e then some n else none
  | none => none

/-- Adds the states of a spelling that are not remembered, in front of a state. `count` is the
number of states so far. -/
def addSpelling (m : Memory) (count target : Nat) : Spelling → Memory × Nat
  | [] => (m, count)
  | bytes :: rest =>
    let e : Entrance := ⟨target, bytes⟩
    match m.recall e with
    | some n => addSpelling m count n rest
    | none => addSpelling ((e.place, e, count) :: m) (count + 1) count rest

/-- Adds a choice of characters: a state that branches to the spellings, one where they end,
and their own. Single bytes need no branches. -/
def addChoice (s : Size) (ss : List Spelling) : Size :=
  if ss.all (·.length = 1) then s + forwardChoice ss
  else
    let (_, count) := ss.foldl
      (fun (m, count) t => addSpelling m count (s.states + 1) t) ([], s.states + 2)
    ⟨count, s.transitions, s.branches + ss.length⟩

/-! ### Patterns -/

namespace Token

/-- What a part adds to the automaton that reads forward. -/
def forward (caseSensitive : Bool) : Token → Size
  | .literal c =>
    match if caseSensitive then [c] else Text.alike c with
    | [c] => .chain (spelling c).length
    | cs => forwardChoice (spellings cs)
  | .one => forwardChoice anySpellings
  | .run => .fork + forwardChoice anySpellings

/-- The automaton that reads backward with a part in front. -/
def addBackward (caseSensitive : Bool) (s : Size) : Token → Size
  | .literal c =>
    match if caseSensitive then [c] else Text.alike c with
    | [c] => s + .chain (spelling c).length
    | cs => addChoice s (spellings cs)
  | .one => addChoice s anySpellings
  | .run => addChoice (s + .fork) anySpellings

end Token

/-- The automaton that reads forward: the parts, a state for each end of the text and of what
is found in it, one to begin and one to accept. -/
def forwardSize (caseSensitive : Bool) (ts : List Token) : Size :=
  ts.foldl (fun s t => s + t.forward caseSensitive) (.chain 6)

/-- The automaton that reads backward: a state to begin and one for the end of the text, the
parts from the last one on, one for the front of the text and one to accept. -/
def backwardSize (caseSensitive : Bool) (ts : List Token) : Size :=
  ts.foldr (fun t s => t.addBackward caseSensitive s) (.chain 2) + .chain 2

/-- The most that an automaton may take, in bytes. -/
def roomLimit : Nat := 10485760

/-- Whether both automata of some parts keep to the limit. -/
def fits (caseSensitive : Bool) (ts : List Token) : Bool :=
  (forwardSize caseSensitive ts).room ≤ roomLimit &&
    (backwardSize caseSensitive ts).room ≤ roomLimit

/-- Matching by automata that keep to the limit. -/
def Mode.ofCase (caseSensitive : Bool) : Mode := ⟨caseSensitive, Like.fits caseSensitive⟩

end EntityMapping.Like
