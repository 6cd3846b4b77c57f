import Nameplate.Tsx.Automaton.Basic
import Nameplate.Tsx.Token.Mark
import Nameplate.Tsx.Token.Match

/-!
# The next token in a state

Marks come first, then the tokens with a pattern. Keywords are read as words: a word that is spelled
like a keyword is that keyword if something can be done with it in the state, and a name otherwise.
-/

namespace Nameplate.Tsx

/-- The number of the keyword that is spelled like a word. -/
def keyword? (word : String) : Option Nat :=
  if (Terminal.literal word).isKeyword then table.numbers[Terminal.literal word]? else none

/-- The set of the keywords. -/
def keywords : Nat :=
  table.terminals.zipIdx.foldl
    (fun set (t, i) => if t.isKeyword then set ||| single i else set) 0

/-- The terminals to read for in a state: a name in place of keywords, and comments. -/
def readable (expected : Nat) : Nat :=
  let named := single (table.number (.lexeme .identifier))
  let words := expected &&& keywords
  let others := expected ^^^ words
  (if words == 0 then others else others ||| named) ||| single (table.number (.lexeme .comment))

/-- The next token from `i` on in a state. -/
def Source.next? (s : Source) (i : Nat) (state : Nat) (a : Automaton) : Option Token × Automaton :=
  let expected := (a.state state).expected
  match s.mark? (fun t => expected.testBit (table.number t)) i with
  | some (m, start, stop) => (some ⟨table.number (.mark m), start, stop, false⟩, a)
  | none =>
    match s.tokenOf? i (readable expected) with
    | none => (none, a)
    | some token =>
      if token.terminal != table.number (.lexeme .identifier) then (some token, a)
      else
        match keyword? (s.textBetween token.start token.stop) with
        | none => (some token, a)
        | some k =>
          let (found, a) := a.actions table state k
          let terminal := if found.isEmpty then token.terminal else k
          (some { token with terminal, isWord := true }, a)

end Nameplate.Tsx
