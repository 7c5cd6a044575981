/-!
LIKE patterns: a percent sign stands for any run of characters, an underscore for one
character, a backslash takes the character after it at its word, and a backslash at the end
stands for itself. Neither wildcard stands for a line feed.
-/

namespace EntityMapping.Like

inductive Token where
  | literal (c : Char)
  | one
  | run
  deriving DecidableEq, Repr

/-- How patterns are matched: whether capitals are told from small letters, and which parts an
automaton can be had for. -/
structure Mode where
  caseSensitive : Bool
  fits : List Token → Bool

/-- The parts of a pattern. -/
def tokens : List Char → List Token
  | [] => []
  | ['\\'] => [.literal '\\']
  | '\\' :: c :: rest => .literal c :: tokens rest
  | '%' :: rest => .run :: tokens rest
  | '_' :: rest => .one :: tokens rest
  | c :: rest => .literal c :: tokens rest

/-- What a list of parts matches, when `same` tells which characters a literal stands for. -/
inductive Matches (same : Char → Char → Bool) : List Token → List Char → Prop
  | nil : Matches same [] []
  | literal {c d ts cs} : same c d → Matches same ts cs → Matches same (.literal c :: ts) (d :: cs)
  | one {d ts cs} : d ≠ '\n' → Matches same ts cs → Matches same (.one :: ts) (d :: cs)
  | runEnd {ts cs} : Matches same ts cs → Matches same (.run :: ts) cs
  | runMore {d ts cs} :
    d ≠ '\n' → Matches same (.run :: ts) cs → Matches same (.run :: ts) (d :: cs)

end EntityMapping.Like
