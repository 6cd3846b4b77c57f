import Nameplate.Tsx.Grammar.Phrase
import Nameplate.Tsx.Terminal

/-!
# Rules

A rule says how a phrase is written: with which terminals and phrases, in which order, with which
choices and repetitions. What the order of reading leaves open is settled by annotations: how
strongly the parts of a phrase hold together (`Strength`), to which side (`Side`), and by how much
a reading is preferred that uses the rule (`Rule.weight`). Two more say what a part is in the tree
(`Rule.role`, `Rule.kind`).
-/

namespace Nameplate.Tsx

/-- The levels of the operators and of what competes with them; `Grammar.ranks` orders them. -/
inductive Level where
  | member | templateCall | call | new | unaryVoid | power | times | plus | shift | relation
  | equality | bitwiseAnd | bitwiseXor | bitwiseOr | logicalAnd | logicalOr | ternary | assign
  | declare | literal | objectLiteral | instantiation | unary | binary | heritage
deriving DecidableEq

/-- How strongly the parts of a phrase hold together. -/
inductive Strength where
  | level (l : Level)
  /-- Numbers are compared with numbers, and with the absence of any annotation, which is zero. -/
  | number (n : Int)
deriving DecidableEq

/-- To which side a phrase goes on that may end or go on. -/
inductive Side where
  /-- The phrase ends: operators group to the left. -/
  | left
  /-- The phrase goes on: operators group to the right. -/
  | right
deriving DecidableEq

/-- How a phrase is written. -/
inductive Rule where
  | terminal (t : Terminal)
  | phrase (p : Phrase)
  | empty
  | both (first second : Rule)
  | either (left right : Rule)
  /-- One or more. -/
  | series (r : Rule)
  | strength (s : Strength) (r : Rule)
  | side (s : Side) (r : Rule)
  /-- A reading that uses the rule counts more, or less, by a number. -/
  | weight (n : Int) (r : Rule)
  /-- The part has a role in its phrase. -/
  | role (f : Field) (r : Rule)
  /-- The part counts as a node of a kind. -/
  | kind (k : Kind) (r : Rule)
deriving DecidableEq

namespace Rule

instance : Coe String Rule := ⟨fun text => .terminal (.literal text)⟩

instance : Coe Lexeme Rule := ⟨fun l => .terminal (.lexeme l)⟩

instance : Coe Mark Rule := ⟨fun m => .terminal (.mark m)⟩

instance : Coe Phrase Rule := ⟨.phrase⟩

/-- One rule after the other. -/
def seq : List Rule → Rule
  | [] => .empty
  | [r] => r
  | r :: rest => .both r (seq rest)

/-- One rule of several. -/
def oneOf : List Rule → Rule
  | [] => .empty
  | [r] => r
  | r :: rest => .either r (oneOf rest)

/-- The rule or nothing. -/
def maybe (r : Rule) : Rule := .either r .empty

/-- Any number of times, or not at all. -/
def many (r : Rule) : Rule := maybe (.series r)

/-- One or more, with a separator between any two. -/
def separated (separator r : Rule) : Rule := .both r (many (.both separator r))

/-- One or more, with commas between them. -/
def commaSeparated (r : Rule) : Rule := separated "," r

/-- A list with commas in which places may be left free. -/
def elements (r : Rule) : Rule := commaSeparated (maybe r)

def atLevel (l : Level) (r : Rule) : Rule := .strength (.level l) r

def leftward (r : Rule) : Rule := .side .left r

def rightward (r : Rule) : Rule := .side .right r

end Rule

end Nameplate.Tsx
