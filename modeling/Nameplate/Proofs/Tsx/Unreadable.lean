import Nameplate.Proofs.Tsx.FirstTerminal
import Nameplate.Tsx.Parse

/-!
# Texts that cannot be read

A NUL ends every token and starts none, and at the start of a text no token is expected that has no
characters. So a text that starts with a NUL cannot be read, whatever follows.

* `Source.tokenOf?_nul`: no token with a pattern is read at a NUL;
* `Source.next?_nul`: at the start of a text there is no other token either;
* `parse_nul`: a text that starts with a NUL is no program.
-/

namespace Nameplate.Tsx

/-! ## Tokens with a pattern -/

theorem CharSet.contains_nul (set : CharSet) : set.contains '\x00' = false := by
  cases set <;> rfl

/-- No pattern goes on with a NUL. -/
theorem Pattern.after_nul (p : Pattern) : p.after '\x00' = [] := by
  induction p with
  | empty => rfl
  | one set => rw [after, CharSet.contains_nul]; rfl
  | both p q ihp ihq => simp [after, ihp, ihq]
  | either p q ihp ihq => simp [after, ihp, ihq]
  | series p ih => simp [after, ih]

theorem Thread.after_nul (t : Thread) : t.after '\x00' = [] := by
  rw [after, Pattern.after_nul, List.map_nil]

/-- No token of the grammar is empty. -/
theorem not_nullable_of_mem {t : Terminal} (ht : t ∈ table.terminals) {p : Pattern}
    (hp : t.pattern? = some p) : p.nullable = false := by
  have hall : ∀ x ∈ Grammar.rules, ∀ u ∈ x.2.terminals,
      (u.pattern?.all fun p => !p.nullable) = true := by decide +kernel
  rcases Table.mem_terminalOrder.mp ((Table.numbering sortedRules).mem t ht) with
    rfl | ⟨r, hr, ht⟩ | rfl | rfl | rfl
  · obtain rfl := Option.some.inj hp
    rfl
  · obtain ⟨x, hx, rfl⟩ := List.mem_map.mp hr
    simpa [hp] using hall x (List.mem_mergeSort.mp hx) t ht
  · obtain rfl := Option.some.inj hp
    rfl
  · cases hp
  · cases hp

/-- The form of a terminal of the grammar is not empty either. -/
theorem not_nullable_of_form {terminal : Nat} {f : Form} (hf : (forms[terminal]?).join = some f) :
    f.pattern.nullable = false := by
  have hform : forms[terminal]? = some (some f) := Option.join_eq_some_iff.mp hf
  rw [forms, Array.getElem?_map] at hform
  obtain ⟨t, ht, hpattern⟩ := Option.map_eq_some_iff.mp hform
  obtain ⟨p, hp, rfl⟩ := Option.map_eq_some_iff.mp hpattern
  exact not_nullable_of_mem (Array.mem_of_getElem? ht) hp

/-- No token under way has come to its end before it has any characters. -/
theorem Thread.ended?_eq_none {live : List Thread} (h : ∀ t ∈ live, t.pattern.nullable = false) :
    Thread.ended? live = none := by
  unfold Thread.ended?
  induction live with
  | nil => rfl
  | cons t live ih =>
    obtain ⟨ht, hlive⟩ := List.forall_mem_cons.mp h
    simpa [ht] using ih hlive

namespace Source

variable {s : Source} {i : Nat}

theorem tokenFrom_nul (hi : s.chars[i]? = some '\x00') {free live : List Thread}
    (hlive : ∀ t ∈ live, t.pattern.nullable = false) (endExpected gap ending : Bool)
    (start : Nat) : s.tokenFrom free endExpected i start live gap ending none = none := by
  obtain ⟨hlt, hchar⟩ := Array.getElem?_eq_some_iff.mp hi
  have hgoing : live.flatMap (Thread.after '\x00') = [] :=
    List.flatMap_eq_nil_iff.mpr fun t _ => Thread.after_nul t
  have hgap : isGap '\x00' = false := by decide
  rw [tokenFrom]
  simp only [Thread.ended?_eq_none hlive, hlt, hchar, dite_true, hgoing, hgap]
  simp

/-- No token with a pattern is read at a NUL. -/
theorem tokenOf?_nul (hi : s.chars[i]? = some '\x00') (expected : Nat) :
    s.tokenOf? i expected = none := by
  refine tokenFrom_nul hi (fun t ht => ?_) ..
  obtain ⟨x, hx, rfl⟩ := List.mem_map.mp ht
  obtain ⟨terminal, -, hsome⟩ := List.mem_filterMap.mp hx
  split at hsome
  · obtain ⟨f, hf, rfl⟩ := Option.map_eq_some_iff.mp hsome
    exact not_nullable_of_form hf
  · cases hsome

/-! ## Other tokens -/

theorem peek_eq {c : Char} (hi : s.chars[i]? = some c) : s.peek i = c := by
  rw [peek, Array.getD_eq_getD_getElem?, hi, Option.getD_some]

/-- Nothing is skipped if the first character fails the test. -/
theorem skipWhile_eq {c : Char} (hi : s.chars[i]? = some c) {p : Char → Bool} (hp : p c = false) :
    s.skipWhile p i = i := by
  obtain ⟨hlt, hchar⟩ := Array.getElem?_eq_some_iff.mp hi
  rw [skipWhile, dif_pos hlt, hchar, hp, if_neg Bool.false_ne_true]

/-- A NUL is no mark if no semicolon is inserted before it. -/
theorem mark?_nul (hi : s.chars[i]? = some '\x00') {expected : Terminal → Bool}
    (hsemicolon : expected (.mark .semicolon) = false)
    (hsignature : expected (.mark .signatureEnd) = false) : s.mark? expected i = none := by
  have hpeek := peek_eq hi
  have hlt := (Array.getElem?_eq_some_iff.mp hi).1
  have htemplate : s.templateTextEnd? i = none := by
    rw [templateTextEnd?, size, if_pos hlt, hpeek]
    rfl
  have htext : s.jsxTextEnd i = i := skipWhile_eq hi (by decide)
  have hvisible : s.isVisibleText i i = false := by simp [isVisibleText]
  have hconditional : s.conditional? i = none := by
    simp [conditional?, skipWhile_eq hi (p := isBlank) (by decide), hpeek]
  have hhtml : s.htmlComment? i = none := by
    simp only [htmlComment?]
    rw [skipWhile_eq hi (by decide)]
    simp [startsWith, matchesAt, hpeek]
  unfold mark?
  simp [hsemicolon, hsignature, htemplate, htext, hvisible, hconditional, hhtml]

/-- At the start of a text a NUL is no token. -/
theorem next?_nul (hi : s.chars[0]? = some '\x00') :
    s.next? 0 0 (.fresh table) = (none, .fresh table) := by
  have hmark : s.mark? (fun t => (State.ofKernel table table.startKernel).expected.testBit
      (table.number t)) 0 = none :=
    mark?_nul hi (not_expected_start (.inl rfl)) (not_expected_start (.inr rfl))
  have hstate : (Automaton.fresh table).state 0 = State.ofKernel table table.startKernel := rfl
  rw [next?, hstate]
  simp only [hmark, tokenOf?_nul hi]

end Source

/-! ## Readings -/

namespace Reading

variable {s : Source} {r : Reading}

/-- The only reading has not come any further than the start, and cannot go on. -/
structure Stalled (r : Reading) : Prop where
  heads : r.heads = #[⟨0, .paused⟩]
  graph : r.graph = .initial
  finished : r.finished = none
  furthest : r.furthest = 0

-- The equations of the library leave `Id` behind its `pure` and `bind`, these leave a reading.

theorem run_bind {α β : Type} (x : StateM Reading α) (f : α → StateM Reading β) (r : Reading) :
    (x >>= f).run r = (f (x.run r).1).run (x.run r).2 :=
  rfl

theorem run_get (r : Reading) : (get : StateM Reading Reading).run r = (r, r) :=
  rfl

theorem run_modify (f : Reading → Reading) (r : Reading) :
    (modify f : StateM Reading Unit).run r = ((), f r) :=
  rfl

/-- A token that was not looked for before is looked for now, and what was found is kept. -/
theorem run_token?_of_new {place state : Nat} (h : r.tokens[(place, state)]? = none) :
    (token? s place state).run r =
      ((s.next? place state r.automaton).1,
        { r with
          automaton := (s.next? place state r.automaton).2
          tokens := r.tokens.insert (place, state) (s.next? place state r.automaton).1 }) := by
  obtain ⟨automaton, tokens, graph, heads, finished, furthest⟩ := r
  rw [token?, StateT.run_modifyGet]
  simp only [h]
  rfl

theorem stalled_advance (hi : s.chars[0]? = some '\x00') :
    Stalled ((advance s 0).run start).2 := by
  have htoken : (token? s 0 0).run start =
      (none, { start with tokens := start.tokens.insert (0, 0) none }) := by
    rw [run_token?_of_new (by simp [start]), show start.automaton = .fresh table from rfl,
      s.next?_nul hi]
    rfl
  simp only [advance, run_bind, run_get]
  rw [show (start.top 0).position = 0 from rfl, show (start.top 0).state = 0 from rfl, htoken]
  exact ⟨rfl, rfl, rfl, rfl⟩

/-- A reading that cannot go on takes no token. -/
theorem Stalled.catchUp (h : Stalled r) (fuel : Nat) : (catchUp s 0 fuel).run r = ((), r) := by
  cases fuel with
  | zero => rfl
  | succ fuel =>
    simp only [Reading.catchUp, run_bind, run_get, h.heads]
    rfl

theorem Stalled.position (h : Stalled r) : (r.top 0).position = 0 := by
  rw [top, h.heads, h.graph]
  rfl

theorem stalled_catchUp (hi : s.chars[0]? = some '\x00') (fuel : Nat) :
    Stalled ((Reading.catchUp s 0 (fuel + 1)).run start).2 := by
  have hstalled := stalled_advance hi
  generalize hr : ((advance s 0).run start).2 = r at hstalled
  have hstep : (Reading.catchUp s 0 (fuel + 1)).run start =
      (if r.furthest < (r.top 0).position || (0 < 0 && (r.top 0).position == r.furthest) then
        modify fun x => { x with furthest := (r.top 0).position }
      else Reading.catchUp s 0 fuel).run r := by
    rw [← hr]
    rfl
  rw [hstep, hstalled.position, hstalled.furthest, if_neg (by decide), hstalled.catchUp]
  exact hstalled

theorem run_catchUpFrom (fuel i : Nat) (r : Reading) :
    (catchUpFrom s (fuel + 1) i).run r =
      if i < r.heads.size then
        (catchUpFrom s fuel (i + 1)).run ((Reading.catchUp s i (2 * s.size + 10)).run r).2
      else ((), r) := by
  rw [catchUpFrom, run_bind, run_get]
  split <;> rfl

theorem stalled_catchUpFrom (hi : s.chars[0]? = some '\x00') {fuel : Nat} (hfuel : 2 ≤ fuel) :
    Stalled ((catchUpFrom s fuel 0).run start).2 := by
  obtain ⟨fuel, rfl⟩ := Nat.exists_eq_add_of_le' hfuel
  have hstalled := stalled_catchUp hi (2 * s.size + 9)
  rw [run_catchUpFrom, if_pos (by decide), run_catchUpFrom, if_neg (by simp [hstalled.heads])]
  exact hstalled

theorem Stalled.condense (h : Stalled r) : Stalled (Reading.condense.run r).2 := by
  simp only [Reading.condense, run_modify, h.heads, h.graph]
  exact ⟨rfl, rfl, h.finished, h.furthest⟩

theorem stalled_round (hi : s.chars[0]? = some '\x00') : Stalled ((round s).run start).2 := by
  rw [round, run_bind]
  exact (stalled_catchUpFrom hi (Nat.le_add_left_of_le (by decide))).condense

theorem Stalled.isStuck (h : Stalled r) : r.isStuck = true := by
  simp [Reading.isStuck, h.heads]

/-- A NUL is no bracket without a place, and not the end of the text. -/
theorem Stalled.recoverAt (h : Stalled r) (hi : s.chars[0]? = some '\x00') :
    (recoverAt s 0).run r = ((), r) := by
  have hskip : s.skipWhile isGap 0 = 0 := s.skipWhile_eq hi (by decide)
  have hend : s.atEnd 0 = false :=
    decide_eq_false (Nat.not_le.mpr (Array.getElem?_eq_some_iff.mp hi).1)
  simp only [Reading.recoverAt, run_bind, run_get, h.position, hskip, hend, s.peek_eq hi]
  rfl

theorem Stalled.recover (h : Stalled r) (hi : s.chars[0]? = some '\x00') :
    (Reading.recover s).run r = ((), r) := by
  have hone : (Reading.recover s).run r = (Reading.recoverAt s 0).run r := by
    rw [Reading.recover, run_bind, run_get, h.heads]
    rfl
  rw [hone, h.recoverAt hi]

theorem finished_run (hi : s.chars[0]? = some '\x00') {fuel : Nat} (hfuel : 0 < fuel) :
    ((run s fuel).run start).2.finished = none := by
  obtain ⟨fuel, rfl⟩ := Nat.exists_eq_add_one.mpr hfuel
  have hstalled := stalled_round hi
  rw [run, run_bind]
  generalize ((round s).run start).2 = r at hstalled
  rw [run_bind, run_get]
  dsimp only
  rw [if_neg (by simp [hstalled.isStuck]), if_pos (by simp [hstalled.finished]), run_bind,
    hstalled.recover hi, run_bind, run_get]
  dsimp only
  rw [if_neg (by simp [hstalled.isStuck])]
  exact hstalled.finished

end Reading

theorem Source.derivations?_nul {s : Source} (hi : s.chars[0]? = some '\x00') :
    s.derivations? = none := by
  rw [derivations?, Reading.finished_run hi (Nat.add_pos_right _ (by decide))]
  rfl

/-- What a text is read as that is no program. -/
def broken (text : List Char) : Node :=
  let s := Source.ofList text
  .mk { kind := .error, start := s.point 0, stop := s.point s.size, hasError := true } []

theorem parse_of_derivations?_none {text : List Char}
    (h : (Source.ofList text).derivations? = none) : parse text = broken text := by
  -- The derivations are rewritten before the tree is computed: they cannot be worked out.
  dsimp -iota only [parse]
  rw [h]
  rfl

/-- A text that starts with a NUL is no program. -/
theorem parse_nul (rest : List Char) : parse ('\x00' :: rest) = broken ('\x00' :: rest) :=
  parse_of_derivations?_none (Source.derivations?_nul rfl)

end Nameplate.Tsx
