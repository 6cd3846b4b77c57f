import Mathlib.Data.List.Basic
import Mathlib.Data.List.Induction
import Nameplate.Tsx.Automaton.Basic

/-!
# What a text may start with

A phrase is written by its rule, whose first symbol is a terminal, another phrase or a series. If no
rule starts with a terminal itself, then no phrase does, however far its first phrases are followed.
The inserted semicolon is such a terminal: something is written before it everywhere.

* `Rule.opens`: a rule starts with a terminal itself;
* `Rule.startsAs_of_mem_alternatives`: a sequence that a rule stands for starts as the rule does;
* `Numbering`: what the numbers of the terminals tell;
* `Table.Unopened.testBit_first`: no phrase starts with a terminal with which no rule starts;
* `Table.Unopened.expected_start`: such a terminal is not expected at the start of a text;
* `not_expected_start`: an inserted semicolon is one.
-/

namespace Nameplate.Tsx

/-! ## Rules -/

namespace Rule

/-- A rule may stand for no symbol at all. -/
def isOptional : Rule → Bool
  | terminal _ | phrase _ | series _ => false
  | empty => true
  | both r s => r.isOptional && s.isOptional
  | either r s => r.isOptional || s.isOptional
  | strength _ r | side _ r | weight _ r | role _ r | kind _ r => r.isOptional

/-- A rule may start with a terminal, other than by a phrase that starts with it. -/
def opens (t : Terminal) : Rule → Bool
  | terminal u => u == t
  | phrase _ | empty => false
  | both r s => r.opens t || (r.isOptional && s.opens t)
  | either r s => r.opens t || s.opens t
  | series r | strength _ r | side _ r | weight _ r | role _ r | kind _ r => r.opens t

end Rule

/-- A symbol starts with a terminal, other than by a phrase that starts with it. -/
def Symbol.opens (t : Terminal) : Symbol → Bool
  | .terminal u => u == t
  | .phrase _ => false
  | .series item => item.opens t

namespace Alternative

def symbols (a : Alternative) : List Symbol := a.steps.map Step.symbol

@[simp] theorem symbols_append (a b : Alternative) :
    (a.append b).symbols = a.symbols ++ b.symbols :=
  List.map_append

/-- Annotations are not symbols. -/
theorem symbols_mapLast {f : Step → Step} (hf : ∀ s, (f s).symbol = s.symbol) (a : Alternative) :
    (a.mapLast f).symbols = a.symbols := by
  unfold mapLast
  cases h : a.steps.reverse with
  | nil => rfl
  | cons s before =>
    have hsteps : a.steps = before.reverse ++ [s] := by
      rw [List.reverse_eq_iff.mp h, List.reverse_cons]
    simp [symbols, hsteps, hf]

/-- Changing the annotation of the last step changes no symbol. -/
theorem mem_annotated {as : List Alternative} {final : Bool} {f : Step → Step} {a : Alternative}
    (ha : a ∈ if final then as else as.map (·.mapLast f))
    (hf : ∀ s, (f s).symbol = s.symbol) : ∃ b ∈ as, a.symbols = b.symbols := by
  cases final with
  | true => exact ⟨a, ha, rfl⟩
  | false =>
    obtain ⟨b, hb, rfl⟩ := List.mem_map.mp ha
    exact ⟨b, hb, symbols_mapLast hf b⟩

end Alternative

variable {t : Terminal}

/-- A sequence starts as a rule does: it is empty only if the rule is optional, and starts with a
terminal only if the rule does. -/
structure Alternative.StartsAs (t : Terminal) (r : Rule) (a : Alternative) : Prop where
  empty : a.symbols = [] → r.isOptional = true
  first : ∀ x ∈ a.symbols.head?, x.opens t = true → r.opens t = true

theorem Alternative.StartsAs.both {r s : Rule} {a b : Alternative} (ha : a.StartsAs t r)
    (hb : b.StartsAs t s) : (a.append b).StartsAs t (.both r s) := by
  constructor
  · rw [symbols_append, List.append_eq_nil_iff]
    rintro ⟨hnil, hnil'⟩
    simp [Rule.isOptional, ha.empty hnil, hb.empty hnil']
  · intro x hx hopens
    rw [symbols_append, List.head?_append] at hx
    cases hsymbols : a.symbols with
    | nil =>
      rw [hsymbols, List.head?_nil, Option.none_or] at hx
      simp [Rule.opens, ha.empty hsymbols, hb.first x hx hopens]
    | cons y ys =>
      have hfirst : x ∈ a.symbols.head? := by simpa [hsymbols] using hx
      simp [Rule.opens, ha.first x hfirst hopens]

theorem Alternative.StartsAs.congr {r : Rule} {a b : Alternative} (ha : a.StartsAs t r)
    (h : b.symbols = a.symbols) : b.StartsAs t r :=
  ⟨by rw [h]; exact ha.empty, by rw [h]; exact ha.first⟩

/-- The sequences that a rule stands for start as the rule does. -/
theorem Rule.startsAs_of_mem_alternatives (r : Rule) {scope : Scope} {final : Bool}
    {a : Alternative} (ha : a ∈ r.alternatives scope final) : a.StartsAs t r := by
  induction r generalizing scope final a with
  | terminal u =>
    obtain rfl := List.mem_singleton.mp ha
    exact ⟨nofun, by simp [Alternative.symbols, Symbol.opens, opens]⟩
  | phrase p =>
    obtain rfl := List.mem_singleton.mp ha
    exact ⟨nofun, by simp [Alternative.symbols, Symbol.opens]⟩
  | empty =>
    obtain rfl := List.mem_singleton.mp ha
    exact ⟨fun _ => rfl, nofun⟩
  | both r s ihr ihs =>
    obtain ⟨b, hb, ha⟩ := List.mem_flatMap.mp ha
    obtain ⟨c, hc, rfl⟩ := List.mem_map.mp ha
    exact (ihr hb).both (ihs hc)
  | either r s ihr ihs =>
    rcases List.mem_append.mp ha with ha | ha
    · exact ⟨fun h => by simp [isOptional, (ihr ha).empty h],
        fun x hx h => by simp [opens, (ihr ha).first x hx h]⟩
    · exact ⟨fun h => by simp [isOptional, (ihs ha).empty h],
        fun x hx h => by simp [opens, (ihs ha).first x hx h]⟩
  | series r _ =>
    obtain rfl := List.mem_singleton.mp ha
    exact ⟨nofun, by simp [Alternative.symbols, Symbol.opens, opens]⟩
  | strength x r ih =>
    rw [alternatives] at ha
    obtain ⟨b, hb, hsymbols⟩ := Alternative.mem_annotated ha fun _ => rfl
    exact ⟨((ih hb).congr hsymbols).empty, ((ih hb).congr hsymbols).first⟩
  | side x r ih =>
    rw [alternatives] at ha
    obtain ⟨b, hb, hsymbols⟩ := Alternative.mem_annotated ha fun _ => rfl
    exact ⟨((ih hb).congr hsymbols).empty, ((ih hb).congr hsymbols).first⟩
  | weight n r ih =>
    obtain ⟨b, hb, rfl⟩ := List.mem_map.mp ha
    exact ⟨(ih hb).empty, (ih hb).first⟩
  | role f r ih => exact ⟨(ih ha).empty, (ih ha).first⟩
  | kind k r ih => exact ⟨(ih ha).empty, (ih ha).first⟩

/-! ## Numbers -/

/-- What numbers tell about the values of a list: each value has one, a value is found under its
number, and the first value has the number zero. -/
structure Numbering {α : Type} [BEq α] [Hashable α] (values : List α)
    (n : Array α × Std.HashMap α Nat) : Prop where
  mem : ∀ x ∈ n.1, x ∈ values
  known : ∀ x ∈ values, x ∈ n.2
  get : ∀ (x : α) (i : Nat), n.2[x]? = some i → n.1[i]? = some x
  first : n.1[0]? = values.head?

namespace Numbering

section

variable {α : Type} [BEq α] [LawfulBEq α] [Hashable α] {values : List α}
  {n : Array α × Std.HashMap α Nat}

/-- Only values have numbers. -/
theorem mem_of_contains (h : Numbering values n) {x : α} (hx : n.2.contains x = true) :
    x ∈ values := by
  cases hi : n.2[x]? with
  | none => simp [Std.HashMap.contains_eq_isSome_getElem?, hi] at hx
  | some i => exact h.mem x (Array.mem_of_getElem? (h.get x i hi))

/-- A value that has a number keeps it. -/
theorem again (h : Numbering values n) {x : α} (hx : n.2.contains x = true) :
    Numbering (values ++ [x]) n := by
  have hmem : x ∈ values := h.mem_of_contains hx
  constructor
  case mem => exact fun y hy => List.mem_append_left _ (h.mem y hy)
  case known =>
    intro y hy
    rcases List.mem_append.mp hy with hy | hy
    · exact h.known y hy
    · obtain rfl := List.mem_singleton.mp hy
      exact hx
  case get => exact h.get
  case first =>
    rw [h.first, List.head?_append, Option.or_of_isSome]
    exact List.isSome_head?.mpr (List.ne_nil_of_mem hmem)

/-- Another value gets the next number. -/
theorem next (h : Numbering values n) (x : α) :
    Numbering (values ++ [x]) (n.1.push x, n.2.insert x n.1.size) := by
  constructor
  case mem =>
    intro y hy
    rcases Array.mem_push.mp hy with hy | rfl
    · exact List.mem_append_left _ (h.mem y hy)
    · exact List.mem_append_right _ (List.mem_singleton_self _)
  case known =>
    intro y hy
    rw [Std.HashMap.mem_insert]
    rcases List.mem_append.mp hy with hy | hy
    · exact .inr (h.known y hy)
    · exact .inl (beq_iff_eq.mpr (List.mem_singleton.mp hy).symm)
  case get =>
    intro y i hy
    rw [Std.HashMap.getElem?_insert] at hy
    split at hy
    · rename_i heq
      obtain rfl := Option.some.inj hy
      rw [Array.getElem?_push_size, eq_of_beq heq]
    · have hold := h.get y i hy
      rw [Array.getElem?_push_lt (Array.getElem?_eq_some_iff.mp hold).1]
      exact (Array.getElem?_eq_getElem _).symm.trans hold
  case first =>
    rw [Array.getElem?_push, List.head?_append, ← h.first]
    split
    · rename_i hempty
      rw [Array.getElem?_eq_none (Nat.le_of_eq hempty.symm), Option.none_or]
      rfl
    · rename_i hsome
      rw [Option.or_of_isSome]
      simpa using Nat.pos_of_ne_zero (Ne.symm hsome)

theorem numbered (values : List α) : Numbering values (Table.numbered values) := by
  unfold Table.numbered
  induction values using List.reverseRecOn with
  | nil => exact ⟨by simp, nofun, by simp, rfl⟩
  | append_singleton vs x ih =>
    rw [List.foldl_append, List.foldl_cons, List.foldl_nil]
    generalize List.foldl _ _ vs = n at ih
    obtain ⟨seen, index⟩ := n
    dsimp only
    split
    case isTrue hx => exact ih.again hx
    case isFalse => exact ih.next x

/-- Values that are not the first have numbers of their own. -/
theorem getD_ne (h : Numbering values n) {x y : α} (hx : x ∈ values)
    (hfirst : values.head? ≠ some x) (hne : y ≠ x) : n.2.getD y 0 ≠ n.2.getD x 0 := by
  obtain ⟨i, hi⟩ : ∃ i, n.2[x]? = some i := by
    rw [← Option.isSome_iff_exists, ← Std.HashMap.contains_eq_isSome_getElem?]
    exact h.known x hx
  rw [Std.HashMap.getD_eq_getD_getElem?, Std.HashMap.getD_eq_getD_getElem?, hi, Option.getD_some]
  rintro rfl
  cases hy : n.2[y]? with
  | none =>
    rw [hy] at hi
    exact hfirst (h.first ▸ h.get x 0 hi)
  | some j =>
    rw [hy] at hi
    exact hne (Option.some.inj ((h.get y j hy).symm.trans (h.get x j hi)))

theorem getD_lt (h : Numbering values n) (hne : values ≠ []) (x : α) :
    n.2.getD x 0 < n.1.size := by
  rw [Std.HashMap.getD_eq_getD_getElem?]
  cases hx : n.2[x]? with
  | none =>
    have hsome : n.1[0]?.isSome = true := by
      rw [h.first]
      exact List.isSome_head?.mpr hne
    simpa using hsome
  | some i => exact (Array.getElem?_eq_some_iff.mp (h.get x i hx)).1

end

end Numbering

namespace Table

/-- The terminals of some rules with their numbers. -/
def numbersOf (rules : List (Phrase × Rule)) : Array Terminal × Std.HashMap Terminal Nat :=
  numbered (terminalOrder (rules.map Prod.snd))

/-- The numbers of the symbols of some rules. -/
def symbolNumber (rules : List (Phrase × Rule)) : Symbol → Nat :=
  numberOf (numbersOf rules) rules.length (serialsOf rules)

/-- The heads of some rules with the symbols that their productions start with. -/
def corners (rules : List (Phrase × Rule)) : Array (Nat × Nat) :=
  cornersOf (written (symbolNumber rules) rules (serialsOf rules))

/-- How the heads are written, by their numbers. -/
def bodies (rules : List (Phrase × Rule)) : List Rule := rules.map Prod.snd ++ serialsOf rules

variable {rules : List (Phrase × Rule)} {number : Symbol → Nat} {p : Production} {head : Nat}
  {r item : Rule} {s : NumberedStep}

/-- The first symbol of a production starts with a terminal only if the rule does. -/
theorem first_of_mem_productionsOf (t : Terminal) (hp : p ∈ productionsOf number head r)
    (hs : p.steps[0]? = some s) :
    p.head = head ∧ ∃ x : Symbol, s.symbol = number x ∧ (x.opens t = true → r.opens t = true) := by
  obtain ⟨a, ha, rfl⟩ := List.mem_map.mp hp
  rw [List.getElem?_toArray, List.getElem?_map] at hs
  obtain ⟨x, hx, rfl⟩ := Option.map_eq_some_iff.mp hs
  refine ⟨rfl, x.symbol, rfl, (r.startsAs_of_mem_alternatives ha).first x.symbol ?_⟩
  simp [Alternative.symbols, List.head?_eq_getElem?, hx]

theorem first_of_mem_seriesProductions (t : Terminal)
    (hp : p ∈ seriesProductions number head item) (hs : p.steps[0]? = some s) :
    p.head = head ∧
      ∃ x : Symbol, s.symbol = number x ∧ (x.opens t = true → item.opens t = true) := by
  rcases List.mem_cons.mp hp with rfl | hp
  · obtain rfl := Option.some.inj hs
    exact ⟨rfl, .series item, rfl, id⟩
  · exact first_of_mem_productionsOf t hp hs

theorem mem_corners (t : Terminal) {symbol : Nat} (h : (head, symbol) ∈ corners rules) :
    ∃ (r : Rule) (x : Symbol), (bodies rules)[head]? = some r ∧ symbol = symbolNumber rules x ∧
      (x.opens t = true → r.opens t = true) := by
  rw [corners, cornersOf, List.mem_toArray] at h
  obtain ⟨p, hp, hcorner⟩ := List.mem_filterMap.mp h
  obtain ⟨s, hs, heq⟩ := Option.map_eq_some_iff.mp hcorner
  obtain ⟨rfl, rfl⟩ := Prod.mk.inj heq
  rcases List.mem_append.mp hp with hp | hp
  · obtain ⟨⟨x, i⟩, hx, hp⟩ := List.mem_flatMap.mp hp
    obtain ⟨rfl, y, hy, hopens⟩ := first_of_mem_productionsOf t hp hs
    have hrule : rules[p.head]? = some x := List.mem_zipIdx_iff_getElem?.mp hx
    refine ⟨x.2, y, ?_, hy, hopens⟩
    have hlt : p.head < (rules.map Prod.snd).length := by
      simpa using (List.getElem?_eq_some_iff.mp hrule).1
    rw [bodies, List.getElem?_append_left hlt, List.getElem?_map, hrule, Option.map_some]
  · obtain ⟨⟨item, i⟩, hx, hp⟩ := List.mem_flatMap.mp hp
    obtain ⟨hhead, y, hy, hopens⟩ := first_of_mem_seriesProductions t hp hs
    have hitem : (serialsOf rules)[i]? = some item := List.mem_zipIdx_iff_getElem?.mp hx
    refine ⟨item, y, ?_, hy, hopens⟩
    simp [bodies, hhead, List.getElem?_append, hitem]

/-! ## First terminals -/

/-- A terminal with which none of some rules starts. It occurs in them, and so that it has a number
of its own it is not the first terminal. -/
structure Unopened (rules : List (Phrase × Rule)) (t : Terminal) : Prop where
  opens : ∀ x ∈ rules, x.2.opens t = false
  phrases : ∀ p : Phrase, p.ctorIdx < rules.length
  occurs : ∃ x ∈ rules, t ∈ x.2.terminals
  other : t ≠ .lexeme .identifier

/-- No head whose rule does not start with a terminal has it among its first terminals. -/
def Avoids (rules : List (Phrase × Rule)) (t : Terminal) (firsts : Array Nat) : Prop :=
  ∀ i, (∀ r, (bodies rules)[i]? = some r → r.opens t = false) →
    (firsts.getD i 0).testBit ((numbersOf rules).2.getD t 0) = false

variable {t : Terminal} {firsts : Array Nat}

theorem testBit_single {i j : Nat} (h : i ≠ j) : (single i).testBit j = false := by
  rw [single, Nat.one_shiftLeft]
  exact Nat.testBit_two_pow_of_ne h

theorem numbering (rules : List (Phrase × Rule)) :
    Numbering (terminalOrder (rules.map Prod.snd)) (numbersOf rules) :=
  .numbered _

theorem mem_terminalOrder {rs : List Rule} {u : Terminal} : u ∈ terminalOrder rs ↔
    u = .lexeme .identifier ∨ (∃ r ∈ rs, u ∈ r.terminals) ∨ u = .lexeme .comment ∨
      u = .mark .htmlComment ∨ u = .endOfText := by
  -- A terminal that occurs is put before or behind the comments, as it is no mark or a mark.
  cases u <;> simp [terminalOrder]

namespace Unopened

variable (h : Unopened rules t)

include h

theorem mem : t ∈ terminalOrder (rules.map Prod.snd) := by
  obtain ⟨x, hx, ht⟩ := h.occurs
  exact mem_terminalOrder.mpr (.inr (.inl ⟨x.2, List.mem_map_of_mem hx, ht⟩))

/-- Other terminals have other numbers. -/
theorem number_ne {u : Terminal} (hne : u ≠ t) :
    (numbersOf rules).2.getD u 0 ≠ (numbersOf rules).2.getD t 0 :=
  (numbering rules).getD_ne h.mem (fun hfirst => h.other (Option.some.inj hfirst).symm) hne

/-- A symbol that does not start with the terminal does not have it among its first terminals. -/
theorem testBit_firstIn (havoids : Avoids rules t firsts) {x : Symbol} (hx : x.opens t = false) :
    (firstIn (numbersOf rules).1.size firsts (symbolNumber rules x)).testBit
      ((numbersOf rules).2.getD t 0) = false := by
  cases x with
  | terminal u =>
    have hne : u ≠ t := by simpa [Symbol.opens] using hx
    have hlt := (numbering rules).getD_lt (List.ne_nil_of_mem h.mem) u
    rw [symbolNumber, numberOf, firstIn, if_pos hlt]
    exact testBit_single (h.number_ne hne)
  | phrase p =>
    rw [symbolNumber, numberOf, firstIn, if_neg (Nat.not_lt.mpr (Nat.le_add_right ..)),
      Nat.add_sub_cancel_left]
    refine havoids _ fun r hr => ?_
    rw [bodies, List.getElem?_append_left (by simpa using h.phrases p), List.getElem?_map] at hr
    obtain ⟨x, hx, rfl⟩ := Option.map_eq_some_iff.mp hr
    exact h.opens x (List.mem_of_getElem? hx)
  | series item =>
    rw [symbolNumber, numberOf, firstIn, if_neg (by omega), Nat.add_assoc, Nat.add_sub_cancel_left]
    refine havoids _ fun r hr => ?_
    rw [bodies, List.getElem?_append_right (by simp), List.length_map,
      Nat.add_sub_cancel_left] at hr
    by_cases hmem : item ∈ serialsOf rules
    · have hlt := List.idxOf_lt_length_iff.mpr hmem
      rw [List.getElem?_eq_getElem hlt, List.getElem_idxOf hlt] at hr
      exact Option.some.inj hr ▸ hx
    · rw [List.idxOf_of_notMem hmem, List.getElem?_eq_none (Nat.le_refl _)] at hr
      cases hr

theorem avoids_modify (havoids : Avoids rules t firsts) {head symbol : Nat}
    (hcorner : (head, symbol) ∈ corners rules) :
    Avoids rules t
      (firsts.modify head (· ||| firstIn (numbersOf rules).1.size firsts symbol)) := by
  intro i hi
  rw [Array.getD_eq_getD_getElem?, Array.getElem?_modify]
  have hold := havoids i hi
  rw [Array.getD_eq_getD_getElem?] at hold
  split
  · rename_i hhead
    obtain ⟨r, x, hr, rfl, hopens⟩ := mem_corners t hcorner
    have hr := hi r (hhead ▸ hr)
    have hx : x.opens t = false := Bool.eq_false_iff.mpr fun hx => by
      rw [hopens hx] at hr
      cases hr
    cases hfirst : firsts[i]? with
    | none => simp
    | some m =>
      rw [hfirst] at hold
      simpa [Nat.testBit_or, h.testBit_firstIn havoids hx] using hold
  · exact hold

theorem avoids_widen (havoids : Avoids rules t firsts) :
    Avoids rules t (widen (numbersOf rules).1.size (corners rules) firsts) := by
  unfold widen
  refine Array.foldl_induction (fun _ f => Avoids rules t f) havoids fun i f hf => ?_
  exact h.avoids_modify hf (Array.getElem_mem i.2)

end Unopened

theorem stable_induction {α : Type} [BEq α] {P : α → Prop} {step : α → α}
    (hstep : ∀ x, P x → P (step x)) (fuel : Nat) {x : α} (hx : P x) : P (stable step fuel x) := by
  induction fuel generalizing x with
  | zero => exact hx
  | succ fuel ih =>
    rw [stable]
    split
    · exact hx
    · exact ih (hstep x hx)

theorem terminals_ofSorted (rules : List (Phrase × Rule)) :
    (ofSorted rules).terminals = (numbersOf rules).1 :=
  rfl

theorem number_ofSorted (rules : List (Phrase × Rule)) (t : Terminal) :
    (ofSorted rules).number t = (numbersOf rules).2.getD t 0 :=
  rfl

theorem firsts_ofSorted (rules : List (Phrase × Rule)) : ∃ heads : Nat,
    (ofSorted rules).firsts = stable (widen (numbersOf rules).1.size (corners rules)) heads
      (Array.replicate heads 0) :=
  ⟨_, rfl⟩

/-- No phrase starts with the terminal. -/
theorem Unopened.testBit_first (h : Unopened rules t) (p : Phrase) :
    ((ofSorted rules).first (symbolNumber rules (.phrase p))).testBit
      ((ofSorted rules).number t) = false := by
  have hempty (n : Nat) : Avoids rules t (Array.replicate n 0) := by
    intro i _
    simp only [Array.getD_eq_getD_getElem?, Array.getElem?_replicate]
    split <;> simp
  have hfirsts : Avoids rules t (ofSorted rules).firsts := by
    obtain ⟨heads, hstable⟩ := firsts_ofSorted rules
    rw [hstable]
    exact stable_induction (P := Avoids rules t) (fun _ => h.avoids_widen) heads (hempty heads)
  rw [number_ofSorted, first, terminals_ofSorted]
  exact h.testBit_firstIn hfirsts rfl

theorem production_start (rules : List (Phrase × Rule)) : ∃ head : Nat,
    (ofSorted rules).production (ofSorted rules).start =
      ⟨head, #[⟨{}, symbolNumber rules (.phrase .program)⟩], 0⟩ := by
  let last (head : Nat) : Production := ⟨head, #[⟨{}, symbolNumber rules (.phrase .program)⟩], 0⟩
  obtain ⟨ps, head, hps⟩ : ∃ (ps : List Production) (head : Nat),
      (ofSorted rules).productions = (ps ++ [last head]).toArray := ⟨_, _, rfl⟩
  exact ⟨head, by simp [production, start, hps, last]⟩

/-- The terminal is not expected at the start of a text. -/
theorem Unopened.expected_start (h : Unopened rules t) (hend : t ≠ .endOfText) :
    (State.ofKernel (ofSorted rules) (ofSorted rules).startKernel).expected.testBit
      ((ofSorted rules).number t) = false := by
  obtain ⟨head, hstart⟩ := production_start rules
  have hnext : (ofSorted rules).next? ⟨(ofSorted rules).start, 0⟩ =
      some ⟨{}, symbolNumber rules (.phrase .program)⟩ := by
    rw [next?, hstart]
    rfl
  have hend : (single ((ofSorted rules).number .endOfText)).testBit
      ((ofSorted rules).number t) = false := testBit_single (h.number_ne hend.symm)
  simpa [State.ofKernel, startKernel, hnext] using ⟨h.testBit_first .program, hend⟩

end Table

/-! ## The grammar of a file -/

/-- The rules in the order of their phrases. -/
def sortedRules : List (Phrase × Rule) :=
  Grammar.rules.mergeSort fun x y => x.1.ctorIdx ≤ y.1.ctorIdx

theorem table_eq : table = .ofSorted sortedRules :=
  rfl

theorem ctorIdx_lt_length_rules (p : Phrase) : p.ctorIdx < Grammar.rules.length := by
  have hlength : Grammar.rules.length = 193 := by rfl
  rw [hlength]
  cases p <;> decide

theorem unopened_sortedRules {t : Terminal} (hopens : ∀ x ∈ Grammar.rules, x.2.opens t = false)
    (hoccurs : ∃ x ∈ Grammar.rules, t ∈ x.2.terminals) (hother : t ≠ .lexeme .identifier) :
    Table.Unopened sortedRules t where
  opens x hx := hopens x (List.mem_mergeSort.mp hx)
  phrases p := by
    rw [sortedRules, List.length_mergeSort]
    exact ctorIdx_lt_length_rules p
  occurs := hoccurs.imp fun x hx => ⟨List.mem_mergeSort.mpr hx.1, hx.2⟩
  other := hother

/-- Neither an inserted semicolon nor the end of a signature is expected at the start of a text:
something stands before them everywhere. -/
theorem not_expected_start {m : Mark} (hm : m = .semicolon ∨ m = .signatureEnd) :
    (State.ofKernel table table.startKernel).expected.testBit (table.number (.mark m)) = false := by
  have hopens : ∀ x ∈ Grammar.rules, x.2.opens (.mark m) = false := by
    rcases hm with rfl | rfl <;> decide +kernel
  have hoccurs : ∃ x ∈ Grammar.rules, .mark m ∈ x.2.terminals := by
    rcases hm with rfl | rfl <;> decide +kernel
  rw [table_eq]
  exact (unopened_sortedRules hopens hoccurs nofun).expected_start nofun

end Nameplate.Tsx
