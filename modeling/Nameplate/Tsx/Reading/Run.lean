import Nameplate.Tsx.Reading.Basic

/-!
# Reading to the end

Round by round all readings take a token, until the program has ended or none of them can go on. Two
faults are passed over: a closing bracket that has no place where it stands becomes a token of its
own that may stand anywhere, and at the end of the text closing braces are supplied as long as they
help. What was read then holds an unexpected or a missing token.

* `Reading.recover`: passes over a fault;
* `Source.derivations?`: the derivation of the program, with the comments around it.
-/

namespace Nameplate.Tsx

namespace Reading

/-- A reading passes over a fault: a closing bracket that has no place here, or the end of the text
where a closing brace is missing. -/
def recoverAt (s : Source) (i : Nat) : StateM Reading Unit := do
  let v := (← get).top i
  let j := s.skipWhile isGap v.position
  if s.atEnd j then
    setStatus i .active
    let brace := table.number (.literal "\x7d")
    consume i .missing (maxReductions s) ⟨brace, v.position, v.position, false⟩
  else if [')', ']', '\x7d'].contains (s.peek j) then
    setStatus i .active
    let bracket : Token := ⟨table.number .endOfText, j, j + 1, false⟩
    pushOn i (.ofToken bracket true .unexpected) v.state

/-- All readings pass over a fault. -/
def recover (s : Source) : StateM Reading Unit := do
  for i in List.range (← get).heads.size do
    recoverAt s i

/-- Reads on round by round. -/
def run (s : Source) : Nat → StateM Reading Unit
  | 0 => pure ()
  | fuel + 1 => do
    round s
    let r ← get
    if !r.isStuck then run s fuel
    else if r.finished.isNone then
      recover s
      if !(← get).isStuck then run s fuel

end Reading

/-- The derivation of the program with the comments around it; `none` if a text is no program. -/
def Source.derivations? (s : Source) : Option (List Derivation) :=
  ((Reading.run s (4 * s.size + 100)).run .start).2.finished.map Prod.snd

end Nameplate.Tsx
