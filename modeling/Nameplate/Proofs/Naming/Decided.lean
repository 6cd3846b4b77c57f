import Nameplate.Proofs.Component.Attributed
import Nameplate.Proofs.Naming.Batch
import Nameplate.Proofs.Naming.Literal

/-!
# What is decided for a component

A component gets a statement, another literal, or nothing. This module says exactly when, and what
is written then.

* `Decided`: the three decisions, each with the condition for it;
* `decided_draft`: the plan before siblings are looked at is decided so, for every component;
* `plans_decided`: so is the plan, for the components of a file: no sibling is ever touched, and a
  name that is left alone says what it should say;
* `LinesOf`: a text has no line ends but the carriage returns of a label;
* `written_lines`: what is written has these line ends, apart from the one before a statement;
* `written_return`: a carriage return in a label ends up inside a literal.
-/

namespace Nameplate.Naming

open Text (Range slice)
open Tsx (Node Stacked sampleText sampleTree fileText fileTree)

/-! ## The three decisions -/

/-- What is done about a component, and when. -/
structure Decided (c : Candidate) (identification lineEnding : String) (p : Plan) : Prop where
  /-- A statement is inserted behind the declaration if the component has no name. -/
  insert_iff : ∀ e, p = .insert e ↔ c.existing = none ∧
    e = ⟨c.name, .empty c.insertionPoint, statementText c.name identification lineEnding⟩
  /-- A literal is replaced, in the same quotes, if it is not written as it should be. -/
  replace_iff : ∀ e, p = .replace e ↔ ∃ r raw range quote,
    c.existing = some ⟨r, .literal raw range quote⟩ ∧ raw ≠ escapeString quote identification ∧
      e = ⟨c.name, range, quote.toString ++ escapeString quote identification ++ quote.toString⟩
  /-- Nothing is done if the name is computed, or is written as it should be. -/
  nothing_iff : p = .nothing ↔ ∃ r, c.existing = some ⟨r, .computed⟩ ∨
    ∃ range quote, c.existing = some ⟨r, .literal (escapeString quote identification) range quote⟩

/-- That is how a plan is made before siblings are looked at. -/
theorem decided_draft (c : Candidate) (identification lineEnding : String) :
    Decided c identification lineEnding (draft c identification lineEnding) := by
  cases hx : c.existing with
  | none =>
    have hdraft : draft c identification lineEnding = .insert
        ⟨c.name, .empty c.insertionPoint, statementText c.name identification lineEnding⟩ := by
      simp only [draft, hx]
    constructor <;> simp [hdraft, hx, eq_comm]
  | some x =>
    obtain ⟨r, value⟩ := x
    cases value with
    | computed =>
      have hdraft : draft c identification lineEnding = .nothing := by simp only [draft, hx]
      constructor <;> simp [hdraft, hx]
    | literal raw range quote =>
      by_cases hraw : raw = escapeString quote identification
      · have hdraft : draft c identification lineEnding = .nothing := by
          simp only [draft, hx, if_pos hraw]
        constructor <;> simp [hdraft, hx, hraw]
      · have hdraft : draft c identification lineEnding = .replace ⟨c.name, range,
            quote.toString ++ escapeString quote identification ++ quote.toString⟩ := by
          simp only [draft, hx, if_neg hraw]
        constructor <;> simp [hdraft, hx, hraw, eq_comm]

/-! ## The components of a file -/

/-- The text of a string or a template starts with a quote. -/
def OpensWithQuote (source : List Char) (root : Node) : Prop :=
  ∀ n ∈ root.nodes, n.kind = .string ∨ n.kind = .template →
    ∀ q ∈ (sourceText source n).toList.head?, IsQuote q

instance (source : List Char) (root : Node) : Decidable (OpensWithQuote source root) :=
  decidable_of_iff (∀ n ∈ root.nodes, n.kind = .string ∨ n.kind = .template →
      ((sourceText source n).toList.head?.all fun q => decide (IsQuote q)) = true)
    (by simp [OpensWithQuote, Option.all_eq_true])

section

variable {source : List Char} {root : Node} {c : Candidate}

/-- A name that is a literal stands in quotes. -/
theorem isQuote_of_literal (quotes : OpensWithQuote source root)
    (hc : c ∈ candidatesIn source root.children) {r range : Range} {raw : String} {quote : Char}
    (hx : c.existing = some ⟨r, .literal raw range quote⟩) : IsQuote quote := by
  obtain ⟨t, ht, a, ha, -, -, hxa⟩ := assigned_of_existing hc hx
  obtain ⟨e, l, o, p, right, hassigns, rfl⟩ := assignmentOf_eq_some.mp ha
  obtain ⟨hstring, hrange, rest, hs, -⟩ :=
    valueOfRight_eq_literal.mp (ExistingName.mk.inj hxa).2.symm
  have hmem : unwrap right ∈ root.nodes := Node.nodes_trans (unwrap_mem_nodes right)
    (Node.nodes_trans hassigns.right_mem_nodes (Node.nodes_of_child ht))
  refine quotes _ hmem ((isStringLiteral_iff.mp hstring).imp_right And.left) quote ?_
  rw [sourceText, ← hrange, hs, Option.getD_some, String.toList_ofList]
  rfl

/-- What is decided for the components of a file without faults. No sibling stands in the way of an
edit, so that a component without a name, or with another literal, is never passed over; and a
literal that is left alone stands for the name that the component should have. -/
theorem plans_decided (clean : root.label.hasError = false) (stacked : Stacked root)
    (source : List Char) (identification lineEnding : String) :
    ∃ candidates, analyzeTree root source = .ok candidates ∧ ∀ c ∈ candidates,
      Decided c identification lineEnding (plan c identification lineEnding) ∧
      (∀ e ∈ (draft c identification lineEnding).edit?, ∀ s ∈ c.siblings,
        touches e.range s = false) ∧
      (OpensWithQuote source root → ∀ r raw range quote,
        c.existing = some ⟨r, .literal raw range quote⟩ →
          plan c identification lineEnding = .nothing →
            unescape raw.toList = identification.toList) := by
  refine ⟨_, analyzeTree_eq clean source, fun c hc => ?_⟩
  rw [plan_eq_draft stacked hc]
  have hdecided := decided_draft c identification lineEnding
  refine ⟨hdecided, fun e he s hs => draft_touches stacked hc he hs, ?_⟩
  intro quotes r raw range quote hx hnothing
  obtain ⟨r', hcomputed | ⟨range', quote', hwritten⟩⟩ := hdecided.nothing_iff.mp hnothing
  · rw [hx] at hcomputed
    simp at hcomputed
  · rw [hx] at hwritten
    obtain ⟨rfl, hvalue⟩ := ExistingName.mk.inj (Option.some.inj hwritten)
    obtain ⟨rfl, rfl, rfl⟩ := NameValue.literal.inj hvalue
    rw [escapeString, String.toList_ofList, unescape_escape (isQuote_of_literal quotes hc hx)]

end

/-- In the file one component has the right name, and the other one has a sibling but no name. -/
theorem plans_decided_sample :
    fileTree.label.hasError = false ∧ Stacked fileTree ∧ OpensWithQuote fileText fileTree ∧
    ∃ candidates, analyzeTree fileTree fileText = .ok candidates ∧
      candidates.map (fun c => (c.siblings.length, plan c "X" "\n")) =
        [(0, .nothing), (1, .insert ⟨"B", ⟨38, 38⟩, "\nB.displayName = \"X\";"⟩)] ∧
      ∀ c ∈ candidates, Decided c "X" "\n" (plan c "X" "\n") ∧
        ∀ r raw range quote, c.existing = some ⟨r, .literal raw range quote⟩ →
          plan c "X" "\n" = .nothing → unescape raw.toList = ['X'] := by
  have clean : fileTree.label.hasError = false := rfl
  have stacked : Stacked fileTree := ⟨by decide +kernel, by decide +kernel, by decide +kernel⟩
  have quotes : OpensWithQuote fileText fileTree := by decide +kernel
  obtain ⟨candidates, h, hdecided⟩ := plans_decided clean stacked fileText "X" "\n"
  refine ⟨clean, stacked, quotes, candidates, h, ?_,
    fun c hc => ⟨(hdecided c hc).1, (hdecided c hc).2.2 quotes⟩⟩
  have hplans : (analyzeTree fileTree fileText).toOption.map
      (fun cs => cs.map fun c => (c.siblings.length, plan c "X" "\n")) =
        some [(0, .nothing), (1, .insert ⟨"B", ⟨38, 38⟩, "\nB.displayName = \"X\";"⟩)] := by
    decide +kernel
  rw [h] at hplans
  exact Option.some.inj hplans

/-! ## Line ends -/

/-- A text has no line ends. -/
def OneLine (text : String) : Prop := '\n' ∉ text.toList ∧ '\r' ∉ text.toList

instance (text : String) : Decidable (OneLine text) := inferInstanceAs (Decidable (_ ∧ _))

/-- A text has no line feed, and as many carriage returns as a label. -/
def LinesOf (label text : String) : Prop :=
  '\n' ∉ text.toList ∧ text.toList.count '\r' = label.toList.count '\r'

theorem OneLine.append {a b : String} (ha : OneLine a) (hb : OneLine b) : OneLine (a ++ b) := by
  simp only [OneLine, String.toList_append, List.mem_append, not_or]
  exact ⟨⟨ha.1, hb.1⟩, ha.2, hb.2⟩

theorem LinesOf.oneLine_iff {label text : String} (h : LinesOf label text) :
    OneLine text ↔ '\r' ∉ label.toList := by
  rw [OneLine, ← List.count_eq_zero (a := '\r') (l := label.toList), ← h.2, List.count_eq_zero]
  exact and_iff_right h.1

/-- More text without line ends on both sides. -/
theorem LinesOf.between {label text front back : String} (h : LinesOf label text)
    (hfront : OneLine front) (hback : OneLine back) : LinesOf label (front ++ text ++ back) := by
  simp only [LinesOf, String.toList_append, List.mem_append, not_or, List.count_append,
    List.count_eq_zero.mpr hfront.2, List.count_eq_zero.mpr hback.2, Nat.zero_add, Nat.add_zero]
  exact ⟨⟨⟨hfront.1, h.1⟩, hback.1⟩, h.2⟩

theorem linesOf_escapeString (quote : Char) {name : String} (h : OneLine name) (label : String) :
    LinesOf label (escapeString quote (displayName name label)) := by
  rw [LinesOf, escapeString, String.toList_ofList]
  refine ⟨lineFeed_not_mem_escape quote _, ?_⟩
  rw [count_return_escape, displayName, String.toList_append, List.count_append,
    List.count_eq_zero.mpr h.2, Nat.add_zero]

theorem draft_of_plan {c : Candidate} {identification lineEnding : String} {p : Plan}
    (h : plan c identification lineEnding = p) (hp : p ≠ .nothing) :
    draft c identification lineEnding = p := by
  unfold plan at h
  dsimp only at h
  split at h
  · split at h
    · exact absurd h.symm hp
    · exact h
  · exact h

/-- What is written for a component whose own name has no line ends, apart from the line ending
before a statement, has no line feed, and as many carriage returns as the label. So it is one line
exactly if the label has no carriage return. -/
theorem written_lines {c : Candidate} (name : OneLine c.name)
    (quotes : ∀ r raw range quote, c.existing = some ⟨r, .literal raw range quote⟩ → IsQuote quote)
    (label lineEnding : String) :
    (∀ e, planFor label lineEnding c = .insert e → ∃ body, e.newText = lineEnding ++ body ∧
      LinesOf label body ∧ (OneLine body ↔ '\r' ∉ label.toList)) ∧
    ∀ e, planFor label lineEnding c = .replace e →
      LinesOf label e.newText ∧ (OneLine e.newText ↔ '\r' ∉ label.toList) := by
  have hdecided := decided_draft c (displayName c.name label) lineEnding
  constructor
  · intro e he
    obtain ⟨-, rfl⟩ := (hdecided.insert_iff e).mp (draft_of_plan he (by simp))
    have hfront : OneLine (c.name ++ "." ++ displayNameProperty ++ " = \"") :=
      ((name.append (by decide)).append (by decide)).append (by decide)
    have hlines := (linesOf_escapeString '"' name label).between hfront
      (show OneLine "\";" by decide)
    refine ⟨_, ?_, hlines, hlines.oneLine_iff⟩
    simp only [statementText, String.append_assoc]
  · intro e he
    obtain ⟨r, raw, range, quote, hx, -, rfl⟩ :=
      (hdecided.replace_iff e).mp (draft_of_plan he (by simp))
    have hquote : OneLine quote.toString := by
      obtain rfl | rfl | rfl := quotes r raw range quote hx <;> decide
    have hlines := (linesOf_escapeString quote name label).between hquote hquote
    exact ⟨hlines, hlines.oneLine_iff⟩

/-- A component whose name is another template. -/
def templated : Candidate where
  name := "A"
  form := .arrowConst
  range := ⟨0, 18⟩
  insertionPoint := 18
  existing := some ⟨⟨19, 39⟩, .literal "B" ⟨35, 38⟩ '`'⟩
  siblings := []

/-- A line feed in a label is escaped. -/
theorem written_lines_template :
    OneLine templated.name ∧
    planFor "X\n" "\r\n" templated = .replace ⟨"A", ⟨35, 38⟩, "`X\\nA`"⟩ ∧
    OneLine "`X\\nA`" := by
  have name : OneLine templated.name := by decide
  have quotes : ∀ r raw range quote,
      templated.existing = some ⟨r, .literal raw range quote⟩ → IsQuote quote := by
    intro r raw range quote hx
    obtain ⟨-, hvalue⟩ := ExistingName.mk.inj (Option.some.inj hx)
    obtain ⟨-, -, rfl⟩ := NameValue.literal.inj hvalue
    decide
  have hplan : planFor "X\n" "\r\n" templated = .replace ⟨"A", ⟨35, 38⟩, "`X\\nA`"⟩ := by
    decide +kernel
  exact ⟨name, hplan, ((written_lines name quotes "X\n" "\r\n").2 _ hplan).2.mpr (by decide)⟩

/-- A carriage return in a label is not escaped: it is written into the statement that is inserted
for one component, and into the literal that is replaced for the other. -/
theorem written_return :
    (analyzeTree sampleTree sampleText).toOption.map (List.map (planFor "X\r" "\n")) =
      some [.insert ⟨"A", ⟨14, 14⟩, "\n" ++ "A.displayName = \"X\rA\";"⟩,
        .replace ⟨"B", ⟨42, 45⟩, "'X\rB'"⟩] ∧
    OneLine "A" ∧ OneLine "B" ∧ ¬ OneLine "A.displayName = \"X\rA\";" ∧ ¬ OneLine "'X\rB'" :=
  ⟨by decide +kernel, by decide, by decide, by decide, by decide⟩

end Nameplate.Naming
