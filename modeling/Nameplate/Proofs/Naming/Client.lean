import Nameplate.Document.Analysis
import Nameplate.Proofs.Naming.Batch
import Nameplate.Proofs.Text.Position

/-!
# What a client makes of the edits

A client gets edits by positions and finds the places itself. It goes through its text once, from
the first place to the last.

* `PositionedEdit.located`: the edit that a client carries out;
* `clientText`: what a client makes of a text;
* `clientText_eq`: it is what was meant, if what stands before the ends of the edits is plain, and a
  client finds the end of an edit exactly if that is so;
* `clientText_lone`: a carriage return that no line feed follows is enough to put a statement into a
  comment.
-/

namespace Nameplate.Text

/-! ## Places -/

/-- Whether what stands before an offset is plain. -/
def plainAt (text : List Char) (offset : Nat) : Bool := (takeBytes offset text).any plain

/-- The offset at which a client finds a position. -/
def Position.located (text : List Char) (p : Position) : Nat := locate p.line p.character text

/-- The range that a client finds between two positions. -/
def Span.located (text : List Char) (s : Span) : Range :=
  ⟨s.start.located text, s.stop.located text⟩

/-- A client finds an offset between two characters at its position exactly if what stands before
it is plain. -/
theorem located_position {text : List Char} {offset : Nat} (h : StandsAt text offset []) :
    ∃ p, (LineIndex.ofText text).position offset = some p ∧
      (p.located text = offset ↔ plainAt text offset = true) := by
  obtain ⟨front, back, rfl, rfl⟩ := h
  refine ⟨_, position_ofText front _, ?_⟩
  rw [plainAt, takeBytes_append, Option.any_some]
  exact locate_position_iff front _

/-- The same for both ends of a range. -/
theorem located_span {text : List Char} {r : Range} (h : (slice text r).isSome) :
    ∃ s, (LineIndex.ofText text).span r = some s ∧
      (s.located text = r ↔ plainAt text r.start = true ∧ plainAt text r.stop = true) := by
  obtain ⟨p, hp, hpiff⟩ := located_position (standsAt_start h)
  obtain ⟨q, hq, hqiff⟩ := located_position (standsAt_stop h)
  refine ⟨⟨p, q⟩, ?_, ?_⟩
  · rw [LineIndex.span, hp, hq]
    rfl
  · rw [← hpiff, ← hqiff]
    exact ⟨fun he => ⟨congrArg Range.start he, congrArg Range.stop he⟩,
      fun ⟨hs, ht⟩ => by rw [Span.located, hs, ht]⟩

/-! ## Edits -/

namespace Edit

/-- A text with edits carried out from the first to the last; the text starts at an offset of the
text that they refer to. There is none if an edit starts before another one stops. -/
def walk : Nat → List Edit → List Char → Option (List Char)
  | _, [], text => some text
  | offset, e :: edits, text =>
    if offset ≤ e.range.start ∧ e.range.start ≤ e.range.stop then do
      let gap ← takeBytes (e.range.start - offset) text
      let rest ← dropBytes (e.range.stop - offset) text
      let done ← walk e.range.stop edits rest
      pure (gap ++ (e.newText.toList ++ done))
    else none

theorem walk_spliced {offset : Nat} {edits : List Edit} {text text' : List Char}
    (h : Spliced offset edits text text') : walk offset edits text = some text' := by
  induction h with
  | done => rfl
  | @step offset e edits gap old text text' hgap hold _ ih =>
    have htake : takeBytes (e.range.start - offset) (gap ++ (old ++ text)) = some gap :=
      takeBytes_eq_some.mpr ⟨old ++ text, rfl, by omega⟩
    have hdrop : dropBytes (e.range.stop - offset) (gap ++ (old ++ text)) = some text :=
      dropBytes_eq_some.mpr ⟨gap ++ old, by simp, by rw [byteLength_append]; omega⟩
    rw [walk, if_pos (by omega), htake, hdrop]
    simp [ih]

end Edit

end Nameplate.Text

namespace Nameplate.Naming

open Text (Edit LineIndex plainAt slice_eq_some)
open Text.Edit (inOrder walk)
open Tsx (Node Placed sampleText sampleTree placed_sample rowPhrase functionTree)

/-- The edit that a client carries out. -/
def PositionedEdit.located (text : List Char) (e : PositionedEdit) : Edit :=
  ⟨e.span.located text, e.newText⟩

/-- What a client makes of its text: it finds all places first, and then carries out the edits in
the order of their places, those at one place in the order of the list. -/
def clientText (edits : List PositionedEdit) (text : List Char) : Option (List Char) :=
  walk 0 (inOrder (edits.map (PositionedEdit.located text))) text

/-- Whether what stands before both ends of an edit is plain. -/
def NameEdit.plainIn (text : List Char) (e : NameEdit) : Bool :=
  plainAt text e.range.start && plainAt text e.range.stop

/-- An edit has positions, and a client finds it there exactly if what stands before it is plain. -/
theorem located_positionedIn {source : List Char} {e : NameEdit}
    (h : (Text.slice source e.range).isSome) :
    e.positioned (.ofText source) = some (positionedIn (.ofText source) e) ∧
      ((positionedIn (.ofText source) e).located source = e.toEdit ↔ e.plainIn source = true) := by
  obtain ⟨s, hs, hiff⟩ := Text.located_span h
  have hpos : positionedIn (.ofText source) e = ⟨s, e.newText⟩ := by
    rw [positionedIn, spanIn, hs]
    rfl
  rw [hpos, NameEdit.plainIn, Bool.and_eq_true, ← hiff]
  refine ⟨?_, fun he => congrArg Edit.range he, fun he => ?_⟩
  · rw [NameEdit.positioned, hs]
    rfl
  · rw [PositionedEdit.located, he]
    rfl

/-- A client finds an edit where it was meant exactly if what stands before it is plain. If that is
so of all edits of a document, with its own line ending, then the client ends up with the text that
was meant. -/
theorem clientText_eq {source : List Char} {root : Node} (placed : Placed source root)
    (clean : root.label.hasError = false) (label : String) :
    ∃ candidates source', analyzeTree root source = .ok candidates ∧
      Edit.applyAll (textEdits (editsFor candidates label (Text.lineEnding source))) source =
        some source' ∧
      (∀ e ∈ editsFor candidates label (Text.lineEnding source),
        e.positioned (.ofText source) = some (positionedIn (.ofText source) e) ∧
        ((positionedIn (.ofText source) e).located source = e.toEdit ↔
          e.plainIn source = true)) ∧
      ((∀ e ∈ editsFor candidates label (Text.lineEnding source), e.plainIn source = true) →
        clientText ((editsFor candidates label (Text.lineEnding source)).map
          (positionedIn (.ofText source))) source = some source') := by
  obtain ⟨source', spliced, applied⟩ :=
    exists_spliced_batch placed label (Text.lineEnding source)
  refine ⟨_, source', analyzeTree_eq clean source, applied, fun e he => ?_, fun hplain => ?_⟩
  · exact located_positionedIn (fits placed he)
  · have hfound : ((batch source root label (Text.lineEnding source)).map
        (positionedIn (.ofText source))).map (PositionedEdit.located source) =
        textEdits (batch source root label (Text.lineEnding source)) := by
      rw [List.map_map, textEdits]
      exact List.map_congr_left fun e he =>
        (located_positionedIn (fits placed he)).2.mpr (hplain e he)
    rw [show editsFor _ label _ = batch source root label (Text.lineEnding source) from rfl,
      clientText, hfound]
    exact Edit.walk_spliced spliced

/-- In the sample there are no carriage returns. -/
theorem clientText_sample :
    ∃ source', Edit.applyAll (textEdits (batch sampleText sampleTree "X" "\n")) sampleText =
        some source' ∧
      clientText ((batch sampleText sampleTree "X" "\n").map (positionedIn (.ofText sampleText)))
        sampleText = some source' := by
  obtain ⟨candidates, source', hok, happlied, -, hclient⟩ :=
    clientText_eq placed_sample rfl "X"
  obtain rfl := Except.ok.inj ((analyzeTree_eq rfl sampleText).symm.trans hok)
  have hending : Text.lineEnding sampleText = "\n" := by decide +kernel
  rw [hending] at happlied hclient
  refine ⟨source', happlied, hclient ?_⟩
  show ∀ e ∈ batch sampleText sampleTree "X" "\n", e.plainIn sampleText = true
  rw [batch_sample]
  decide +kernel

/-! ## A carriage return alone -/

/-- A component behind a comment with a carriage return in it. -/
def loneText : List Char := "/*\r*/function A()\x7b\x7d".toList

def loneTree : Node :=
  rowPhrase .program 0 0 19
    [.mk { kind := .comment, start := ⟨0, 0⟩, stop := ⟨5, 0⟩, extra := true } [],
      functionTree 0 5]

theorem placed_lone : Placed loneText loneTree where
  covers := by decide +kernel
  inOrder := by decide +kernel
  inside := by decide +kernel
  sides := by decide +kernel

/-- The component should be named behind its declaration, but a client writes the name into the
comment: for the client a line ends at the carriage return, and it looks for a column behind it. -/
theorem clientText_lone :
    Placed loneText loneTree ∧ loneTree.label.hasError = false ∧
      batch loneText loneTree "X_" (Text.lineEnding loneText) =
        [⟨"A", ⟨19, 19⟩, "\nA.displayName = \"X_A\";"⟩] ∧
      Edit.applyAll (textEdits (batch loneText loneTree "X_" (Text.lineEnding loneText))) loneText =
        some "/*\r*/function A()\x7b\x7d\nA.displayName = \"X_A\";".toList ∧
      clientText ((batch loneText loneTree "X_" (Text.lineEnding loneText)).map
        (positionedIn (.ofText loneText))) loneText =
          some "/*\nA.displayName = \"X_A\";\r*/function A()\x7b\x7d".toList := by
  have hbatch : batch loneText loneTree "X_" (Text.lineEnding loneText) =
      [⟨"A", ⟨19, 19⟩, "\nA.displayName = \"X_A\";"⟩] := by decide +kernel
  refine ⟨placed_lone, rfl, hbatch, ?_, ?_⟩
  · rw [hbatch, textEdits, Edit.applyAll, Edit.ordered, List.map_singleton,
      List.mergeSort_singleton]
    decide +kernel
  · rw [hbatch, clientText, inOrder, List.map_singleton, List.map_singleton,
      List.mergeSort_singleton]
    decide +kernel

end Nameplate.Naming
