import Nameplate.Proofs.Naming.Remaining

/-!
# Naming one component at a time

The components of a file can be named one at a time, with the file read again after each edit, or
all at once. The text is the same in the end.

* `nameOne`, `nameInTurn`: naming one component, and several in turn;
* `Faithful`: what a parser promises about a text and all texts that come of it;
* `Agenda`: an order in which components can be named, and what one edit leaves of it;
* `nameInTurn_eq`: naming in that order gives the text of all edits at once;
* `nameInTurn_confluent`: that holds of the last component first, and of any order if no statement
  declares two components.
-/

namespace Nameplate.Naming

open Text (Range Edit)
open Tsx (Node Placed Moved exists_of_forall₂ sampleText sampleTree placed_sample rowPhrase rowMark
  functionTree namingTree)

/-! ## Naming in turn -/

/-- A text with one of its components named: the text is analyzed, and the edit of the component is
carried out, if it needs one. -/
def nameOne (parse : List Char → Node) (label lineEnding : String) (text : List Char)
    (name : String) : Option (List Char) := do
  let candidates ← (analyzeTree (parse text) text).toOption
  let c ← candidates.find? fun c => c.name == name
  match (planFor label lineEnding c).edit? with
  | some e => e.toEdit.apply text
  | none => some text

/-- A text with components named one after the other, analyzed anew each time. -/
def nameInTurn (parse : List Char → Node) (label lineEnding : String) (names : List String)
    (text : List Char) : Option (List Char) :=
  names.foldlM (nameOne parse label lineEnding) text

/-- The texts that come of a text by edits that name components, one at a time. -/
inductive Reached (parse : List Char → Node) (label lineEnding : String) (source : List Char) :
    List Char → Prop where
  | start : Reached parse label lineEnding source source
  | edit {text text' : List Char} {e : NameEdit} : Reached parse label lineEnding source text →
      e ∈ batch text (parse text) label lineEnding → e.toEdit.apply text = some text' →
      Reached parse label lineEnding source text'

/-- What a parser promises about a text and all texts that come of it: it places their nodes, and
after an edit it finds the same nodes again, with the statement that the edit adds or rewrites. -/
structure Faithful (parse : List Char → Node) (label lineEnding : String) (source : List Char) :
    Prop where
  legible : ∀ text, Reached parse label lineEnding source text → Legible text (parse text)
  reparsed : ∀ text, Reached parse label lineEnding source text →
    ∀ e ∈ batch text (parse text) label lineEnding, ∀ text', e.toEdit.apply text = some text' →
      Reparsed [e] lineEnding text' (parse text) (parse text')

section

variable {parse : List Char → Node} {label lineEnding : String} {source source' : List Char}
  {e : NameEdit}

theorem Reached.trans {text : List Char} (h : Reached parse label lineEnding source source')
    (h' : Reached parse label lineEnding source' text) :
    Reached parse label lineEnding source text := by
  induction h' with
  | start => exact h
  | edit _ he happly ih => exact ih.edit he happly

theorem Faithful.after (h : Faithful parse label lineEnding source)
    (he : e ∈ batch source (parse source) label lineEnding)
    (happly : e.toEdit.apply source = some source') :
    Faithful parse label lineEnding source' :=
  have hreached := Reached.start.edit he happly
  ⟨fun text ht => h.legible text (hreached.trans ht),
    fun text ht => h.reparsed text (hreached.trans ht)⟩

theorem Faithful.placed (h : Faithful parse label lineEnding source) :
    Placed source (parse source) := (h.legible source .start).placed

theorem Faithful.turn (h : Faithful parse label lineEnding source)
    (he : e ∈ batch source (parse source) label lineEnding)
    (happly : e.toEdit.apply source = some source') :
    Turn source source' (parse source) (parse source') label lineEnding e where
  legible := h.legible source .start
  legible' := h.legible source' (Reached.start.edit he happly)
  chosen := he
  applied := happly
  reparsed := h.reparsed source .start e he source' happly

/-- What naming one component does. -/
theorem nameOne_eq (placed : Placed source (parse source))
    (clean : (parse source).label.hasError = false) {c : Candidate}
    (hc : c ∈ candidatesIn source (parse source).children) :
    nameOne parse label lineEnding source c.name =
      match (draft c (displayName c.name label) lineEnding).edit? with
      | some e => e.toEdit.apply source
      | none => some source := by
  have hfind : (candidatesIn source (parse source).children).find? (fun d => d.name == c.name) =
      some c := by
    cases hfind : (candidatesIn source (parse source).children).find? fun d => d.name == c.name with
    | none =>
      have := List.find?_eq_none.mp hfind c hc
      simp at this
    | some d =>
      have hname : d.name = c.name := by simpa using List.find?_some hfind
      rw [candidatesIn_unique (List.mem_of_find?_eq_some hfind) hc hname]
  rw [nameOne, analyzeTree_eq clean]
  simp only [Except.toOption, Option.bind_eq_bind, Option.bind_some, hfind, planFor,
    plan_eq_draft placed.stacked hc]

end

/-! ## Orders -/

/-- An order in which the components of a file can be named one at a time: each that needs an edit
has its turn, and of two at one place the later one comes first. -/
structure Agenda (source : List Char) (root : Node) (label lineEnding : String)
    (names : List String) : Prop where
  nodup : names.Nodup
  found : ∀ name ∈ names, ∃ c ∈ candidatesIn source root.children, c.name = name
  complete : ∀ e ∈ batch source root label lineEnding, e.name ∈ names
  ordered : ∀ d e, [d, e].Sublist (batch source root label lineEnding) →
    d.range.start = e.range.start → [e.name, d.name].Sublist names

theorem pair_sublist_of_ne {α : Type} {a b c : α} {l : List α} (hne : a ≠ c)
    (h : [a, b].Sublist (c :: l)) : [a, b].Sublist l :=
  (List.sublist_cons_iff.mp h).resolve_right (by simp [hne])

namespace Agenda

variable {source source' : List Char} {root root' : Node} {label lineEnding name : String}
  {names : List String}

/-- A component that needs no edit is passed over. -/
theorem tail (h : Agenda source root label lineEnding (name :: names))
    (hnone : ∀ e ∈ batch source root label lineEnding, e.name ≠ name) :
    Agenda source root label lineEnding names where
  nodup := (List.nodup_cons.mp h.nodup).2
  found n hn := h.found n (List.mem_cons_of_mem _ hn)
  complete e he := (List.mem_cons.mp (h.complete e he)).resolve_left (hnone e he)
  ordered d e hde heq :=
    pair_sublist_of_ne (hnone e (hde.subset (by simp))) (h.ordered d e hde heq)

/-- The first component has its turn before every other one at its place. -/
theorem start_ne {e : NameEdit} (h : Agenda source root label lineEnding (e.name :: names))
    (placed : Placed source root) {d : NameEdit}
    (hed : [e, d].Sublist (batch source root label lineEnding)) :
    d.range.start ≠ e.range.start := by
  intro heq
  have hnames := (batch_pairwise placed label lineEnding).sublist hed
  have hne : e.name ≠ d.name := by simpa using hnames
  have hlater := pair_sublist_of_ne hne.symm (h.ordered e d hed heq.symm)
  exact (List.nodup_cons.mp h.nodup).1 (hlater.subset (by simp))

/-- What one edit leaves of an order. -/
theorem after {e : NameEdit} (h : Agenda source root label lineEnding (e.name :: names))
    (hturn : Turn source source' root root' label lineEnding e) :
    Agenda source' root' label lineEnding names where
  nodup := (List.nodup_cons.mp h.nodup).2
  found n hn := by
    obtain ⟨c, hc, rfl⟩ := h.found n (List.mem_cons_of_mem _ hn)
    obtain ⟨c', hc', hcc⟩ := exists_of_forall₂ hturn.remains hc
    exact ⟨c', hc', hcc.name⟩
  complete d' hd' := by
    rw [hturn.batch_eq] at hd'
    obtain ⟨d, hd, rfl⟩ := List.mem_map.mp hd'
    obtain ⟨hd, hne⟩ := List.mem_filter.mp hd
    exact (List.mem_cons.mp (h.complete d hd)).resolve_left (by simpa using hne)
  ordered c' d' hcd' heq := by
    rw [hturn.batch_eq] at hcd'
    obtain ⟨l, hl, hpair⟩ := List.sublist_map_iff.mp hcd'
    obtain ⟨c, d, rfl⟩ : ∃ c d, l = [c, d] := List.length_eq_two.mp (by
      simpa using congrArg List.length hpair.symm)
    obtain ⟨rfl, rfl⟩ : c' = e.after c ∧ d' = e.after d := by simpa using hpair
    have hmem : ∀ f ∈ [c, d], f ∈ batch source root label lineEnding ∧ f.name ≠ e.name :=
      fun f hf => by simpa using List.mem_filter.mp (hl.subset hf)
    obtain ⟨hc, hcne⟩ := hmem c (by simp)
    obtain ⟨hd, hdne⟩ := hmem d (by simp)
    have hle := (hturn.start_after_le_iff hc hcne hd hdne).mp (Nat.le_of_eq heq)
    have hge := (hturn.start_after_le_iff hd hdne hc hcne).mp (Nat.le_of_eq heq.symm)
    exact pair_sublist_of_ne hdne
      (h.ordered c d (hl.trans List.filter_sublist) (Nat.le_antisymm hle hge))

end Agenda

/-- Components that are named in turn get the names that all edits at once give them. -/
theorem nameInTurn_eq {parse : List Char → Node} {label lineEnding : String} {source : List Char}
    (faithful : Faithful parse label lineEnding source)
    (clean : (parse source).label.hasError = false) {names : List String}
    (agenda : Agenda source (parse source) label lineEnding names) :
    nameInTurn parse label lineEnding names source =
      Edit.applyAll (textEdits (batch source (parse source) label lineEnding)) source := by
  induction names generalizing source with
  | nil =>
    have hnone : batch source (parse source) label lineEnding = [] :=
      List.eq_nil_iff_forall_not_mem.mpr fun e he => List.not_mem_nil (agenda.complete e he)
    rw [hnone]
    simp [nameInTurn, textEdits, Edit.applyAll, Edit.ordered]
  | cons name names ih =>
    obtain ⟨c, hc, rfl⟩ := agenda.found name List.mem_cons_self
    rw [nameInTurn, List.foldlM_cons, nameOne_eq faithful.placed clean hc]
    cases he : (draft c (displayName c.name label) lineEnding).edit? with
    | none =>
      refine ih faithful clean (agenda.tail fun e hmem hname => ?_)
      obtain ⟨d, hd, hde⟩ := (mem_batch faithful.placed).mp hmem
      obtain rfl := candidatesIn_unique hd hc ((draft_cases hde).1.symm.trans hname)
      rw [he] at hde
      cases hde
    | some e =>
      have hmem := (mem_batch faithful.placed).mpr ⟨c, hc, he⟩
      have hname : e.name = c.name := (draft_cases he).1
      obtain ⟨source', -, happly⟩ := exists_spliced_of_mem faithful.placed hmem
      have hturn := faithful.turn hmem happly
      rw [← hname] at agenda
      simp only [happly]
      rw [← hturn.applyAll_eq fun d hed => agenda.start_ne faithful.placed hed]
      exact ih (faithful.after hmem happly) hturn.reparsed.clean (agenda.after hturn)

/-! ## All orders -/

section

variable {source : List Char} {root : Node} {label lineEnding : String}

/-- The edits are in the order of the components. -/
theorem names_sublist (placed : Placed source root) (label lineEnding : String) :
    ((batch source root label lineEnding).map NameEdit.name).Sublist
      ((candidatesIn source root.children).map Candidate.name) := by
  rw [batch_eq_drafts placed]
  induction candidatesIn source root.children with
  | nil => exact .slnil
  | cons c cs ih =>
    rw [List.filterMap_cons]
    cases hd : (draft c (displayName c.name label) lineEnding).edit? with
    | none => exact ih.cons _
    | some d =>
      rw [List.map_cons, List.map_cons, (draft_cases hd).1]
      exact ih.cons_cons _

/-- An order of all components, if it says which of two edits at one place comes first. -/
theorem agenda_of_perm (placed : Placed source root) {names : List String}
    (hperm : names.Perm ((candidatesIn source root.children).map Candidate.name))
    (hordered : ∀ d e, [d, e].Sublist (batch source root label lineEnding) →
      d.range.start = e.range.start → [e.name, d.name].Sublist names) :
    Agenda source root label lineEnding names where
  nodup := hperm.symm.nodup (List.pairwise_map.mpr (candidatesIn_pairwise source root.children))
  found _ hn := List.mem_map.mp (hperm.mem_iff.mp hn)
  complete e he := hperm.mem_iff.mpr ((names_sublist placed label lineEnding).subset
    (List.mem_map.mpr ⟨e, he, rfl⟩))
  ordered := hordered

/-- The last component first. -/
theorem agenda_reverse (placed : Placed source root) (label lineEnding : String) :
    Agenda source root label lineEnding
      ((candidatesIn source root.children).map Candidate.name).reverse := by
  refine agenda_of_perm placed (List.reverse_perm _) fun d e hde _ => ?_
  exact ((hde.map NameEdit.name).trans (names_sublist placed label lineEnding)).reverse

/-- Two edits are at one place only if one statement declares both components. -/
theorem range_eq_of_start (legible : Legible source root) {d e : NameEdit}
    (hd : d ∈ batch source root label lineEnding) (he : e ∈ batch source root label lineEnding)
    (hne : d.name ≠ e.name) (heq : d.range.start = e.range.start) :
    ∃ b ∈ candidatesIn source root.children, ∃ c ∈ candidatesIn source root.children,
      b.name ≠ c.name ∧ b.range = c.range := by
  obtain ⟨hid, hie⟩ := (batch_apart legible.placed hd he hne).2 heq
  obtain ⟨b, hb, hdb, -, hbrange, -⟩ := insertion_of_mem legible.placed hd hid
  obtain ⟨c, hc, hec, -, hcrange, -⟩ := insertion_of_mem legible.placed he hie
  rw [hbrange, hcrange] at heq
  exact ⟨b, hb, c, hc, hdb ▸ hec ▸ hne, legible.range_eq_of_insertionPoint hb hc heq⟩

/-- Any order, if no statement declares two components. -/
theorem agenda_of_ranges (legible : Legible source root)
    (hranges : (candidatesIn source root.children).Pairwise fun c d => c.range ≠ d.range)
    {names : List String}
    (hperm : names.Perm ((candidatesIn source root.children).map Candidate.name)) :
    Agenda source root label lineEnding names := by
  refine agenda_of_perm legible.placed hperm fun d e hde heq => ?_
  have hnames := (batch_pairwise legible.placed label lineEnding).sublist hde
  obtain ⟨b, hb, c, hc, hne, hrange⟩ := range_eq_of_start legible (hde.subset (by simp))
    (hde.subset (by simp)) (by simpa using hnames) heq
  have hbc := List.inj_on_of_nodup_map (List.pairwise_map.mpr hranges) hb hc hrange
  exact absurd (congrArg Candidate.name hbc) hne

end

/-- The components of a file without faults are named one at a time, the last one first, and the
text is that of all edits at once. If no statement declares two of them, the text is the same in any
order. -/
theorem nameInTurn_confluent {parse : List Char → Node} {label lineEnding : String}
    {source : List Char} (faithful : Faithful parse label lineEnding source)
    (clean : (parse source).label.hasError = false) :
    ∃ candidates final, analyzeTree (parse source) source = .ok candidates ∧
      Edit.applyAll (textEdits (editsFor candidates label lineEnding)) source = some final ∧
      nameInTurn parse label lineEnding (candidates.map Candidate.name).reverse source =
        some final ∧
      (candidates.Pairwise (fun c d => c.range ≠ d.range) →
        ∀ names, names.Perm (candidates.map Candidate.name) →
          nameInTurn parse label lineEnding names source = some final) := by
  have legible := faithful.legible source .start
  obtain ⟨final, -, applied⟩ := exists_spliced_batch legible.placed label lineEnding
  refine ⟨_, final, analyzeTree_eq clean source, applied, ?_, fun hranges names hperm => ?_⟩
  · rw [nameInTurn_eq faithful clean (agenda_reverse legible.placed label lineEnding), applied]
  · rw [nameInTurn_eq faithful clean (agenda_of_ranges legible hranges hperm), applied]

/-! ## A file with two components -/

/-- The statement that the sample lacks. -/
def addition : NameEdit := ⟨"A", ⟨14, 14⟩, "\nA.displayName = \"XA\";"⟩

/-- The literal that the sample should have, at the place of the one it has. -/
def correction (start : Nat) : NameEdit := ⟨"B", ⟨start, start + 3⟩, "'XB'"⟩

/-- The sample with the statement. -/
def addedText : List Char :=
  "function A()\x7b\x7d".toList ++ "\nA.displayName = \"XA\";".toList ++
    "function B()\x7b\x7d".toList ++ "B.displayName='C'".toList

def addedTree : Node :=
  .mk { kind := .program, start := ⟨0, 0⟩, stop := ⟨67, 1⟩ }
    [functionTree 0 0,
      rowPhrase .expressionStatement 1 15 36 [namingTree "\"" 1 15 1 35, rowMark ";" 1 35],
      functionTree 1 36, rowPhrase .expressionStatement 1 50 67 [namingTree "'" 1 50 0 67]]

/-- The sample with the literal. -/
def correctedText : List Char :=
  "function A()\x7b\x7d".toList ++ "function B()\x7b\x7d".toList ++ "B.displayName='XB'".toList

def correctedTree : Node :=
  rowPhrase .program 0 0 46
    [functionTree 0 0, functionTree 0 14,
      rowPhrase .expressionStatement 0 28 46 [namingTree "'" 0 28 0 46]]

/-- A parser of the texts that come of the sample. -/
def sampleParse (text : List Char) : Node :=
  if text = addedText then addedTree
  else if text = correctedText then correctedTree
  else if text = namedText then namedTree
  else sampleTree

theorem legible_sample : Legible sampleText sampleTree ∧ Legible addedText addedTree ∧
    Legible correctedText correctedTree ∧ Legible namedText namedTree := by
  decide +kernel

/-- The edits of these texts, and what they make of them. -/
theorem batch_apply_sample :
    (batch addedText addedTree "X" "\n" = [correction 64] ∧
      batch correctedText correctedTree "X" "\n" = [addition] ∧
      batch namedText namedTree "X" "\n" = []) ∧
    addition.toEdit.apply sampleText = some addedText ∧
    (correction 42).toEdit.apply sampleText = some correctedText ∧
    (correction 64).toEdit.apply addedText = some namedText ∧
    addition.toEdit.apply correctedText = some namedText := by
  decide +kernel

theorem sampleParse_eq : sampleParse sampleText = sampleTree ∧ sampleParse addedText = addedTree ∧
    sampleParse correctedText = correctedTree ∧ sampleParse namedText = namedTree := by
  have hne : (sampleText ≠ addedText ∧ sampleText ≠ correctedText ∧ sampleText ≠ namedText) ∧
      correctedText ≠ addedText ∧ namedText ≠ addedText ∧ namedText ≠ correctedText := by
    decide +kernel
  obtain ⟨⟨h1, h2, h3⟩, h4, h5, h6⟩ := hne
  refine ⟨?_, if_pos rfl, ?_, ?_⟩
  · rw [sampleParse, if_neg h1, if_neg h2, if_neg h3]
  · rw [sampleParse, if_neg h4, if_pos rfl]
  · rw [sampleParse, if_neg h5, if_neg h6, if_pos rfl]

/-- The statement is added before or after the literal is replaced. -/
theorem rebuilt_sample :
    Rebuilt [addition] "\n" addedText [] [addition] sampleTree.children addedTree.children ∧
    Rebuilt [correction 42] "\n" correctedText [] [correction 42] sampleTree.children
      correctedTree.children ∧
    Rebuilt [correction 64] "\n" namedText [] [correction 64] addedTree.children
      namedTree.children ∧
    Rebuilt [addition] "\n" namedText [] [addition] correctedTree.children
      namedTree.children := by
  have hadds : Adds "\n" addition 14
      (rowPhrase .expressionStatement 1 15 36 [namingTree "\"" 1 15 1 35, rowMark ";" 1 35]) := by
    refine ⟨rfl, by decide +kernel, namingTree "\"" 1 15 1 35, _, _, _, _,
      ⟨rfl, rfl, rfl, rfl, rfl, rfl, rfl, rfl, rfl, rfl⟩, ?_, ?_, rfl, ?_⟩
    all_goals decide +kernel
  refine ⟨.kept ?_ (.added rfl hadds (.kept ?_ (.kept ?_ .done))),
    .kept ?_ (.kept ?_ (.replaced (by decide) (.kept ?_ .done))),
    .kept ?_ (.kept ?_ (.kept ?_ (.replaced (by decide) (.kept ?_ .done)))),
    .kept ?_ (.added rfl hadds (.kept ?_ (.kept ?_ .done)))⟩
  all_goals
    repeat' first
      | exact .nil
      | refine .cons ?_ ?_
      | refine Moved.literal ⟨rfl, rfl, rfl, rfl⟩ ?_ (.inl rfl)
          ⟨⟨_, List.mem_singleton_self _, rfl, by decide⟩, fun h => absurd h (by decide +kernel)⟩
      | refine Moved.kept ⟨rfl, rfl, rfl, rfl⟩ ?_ ?_
    all_goals decide +kernel

/-- What the parser makes of these texts, and of what an edit makes of them. -/
theorem step_sample {text : List Char}
    (h : text ∈ [sampleText, addedText, correctedText, namedText]) :
    Legible text (sampleParse text) ∧
    ∀ e ∈ batch text (sampleParse text) "X" "\n", ∀ text', e.toEdit.apply text = some text' →
      text' ∈ [sampleText, addedText, correctedText, namedText] ∧
      Reparsed [e] "\n" text' (sampleParse text) (sampleParse text') := by
  obtain ⟨hparse, hparse1, hparse2, hparse3⟩ := sampleParse_eq
  obtain ⟨hlegible, hlegible1, hlegible2, hlegible3⟩ := legible_sample
  obtain ⟨⟨hbatch1, hbatch2, hbatch3⟩, happly1, happly2, happly3, happly4⟩ := batch_apply_sample
  obtain ⟨hrebuilt1, hrebuilt2, hrebuilt3, hrebuilt4⟩ := rebuilt_sample
  have hone : ∀ e, inPlaces [e] = [e] := fun e => List.mergeSort_singleton ..
  simp only [List.mem_cons, List.not_mem_nil, or_false] at h
  rcases h with rfl | rfl | rfl | rfl
  · rw [hparse, batch_sample]
    refine ⟨hlegible, fun e he text' happly => ?_⟩
    rcases List.mem_cons.mp he with rfl | he
    · obtain rfl := Option.some.inj (happly1.symm.trans happly)
      rw [hparse1]
      exact ⟨by simp, rfl, by rw [hone]; exact hrebuilt1⟩
    · obtain rfl := List.mem_singleton.mp he
      obtain rfl := Option.some.inj (happly2.symm.trans happly)
      rw [hparse2]
      exact ⟨by simp, rfl, by rw [hone]; exact hrebuilt2⟩
  · rw [hparse1, hbatch1]
    refine ⟨hlegible1, fun e he text' happly => ?_⟩
    obtain rfl := List.mem_singleton.mp he
    obtain rfl := Option.some.inj (happly3.symm.trans happly)
    rw [hparse3]
    exact ⟨by simp, rfl, by rw [hone]; exact hrebuilt3⟩
  · rw [hparse2, hbatch2]
    refine ⟨hlegible2, fun e he text' happly => ?_⟩
    obtain rfl := List.mem_singleton.mp he
    obtain rfl := Option.some.inj (happly4.symm.trans happly)
    rw [hparse3]
    exact ⟨by simp, rfl, by rw [hone]; exact hrebuilt4⟩
  · rw [hparse3, hbatch3]
    exact ⟨hlegible3, fun e he => absurd he List.not_mem_nil⟩

theorem faithful_sample : Faithful sampleParse "X" "\n" sampleText := by
  have hreached : ∀ text, Reached sampleParse "X" "\n" sampleText text →
      text ∈ [sampleText, addedText, correctedText, namedText] := fun text h => by
    induction h with
    | start => exact List.mem_cons_self
    | edit _ he happly ih => exact ((step_sample ih).2 _ he _ happly).1
  exact ⟨fun text h => (step_sample (hreached text h)).1, fun text h e he text' happly =>
    ((step_sample (hreached text h)).2 e he text' happly).2⟩

/-- In the sample the second component is renamed and the first one named, or the other way
round. -/
theorem nameInTurn_confluent_sample :
    Faithful sampleParse "X" "\n" sampleText ∧ (sampleParse sampleText).label.hasError = false ∧
    nameInTurn sampleParse "X" "\n" ["B", "A"] sampleText = some namedText ∧
    nameInTurn sampleParse "X" "\n" ["A", "B"] sampleText = some namedText := by
  have clean : (sampleParse sampleText).label.hasError = false := by
    rw [sampleParse_eq.1]
    rfl
  refine ⟨faithful_sample, clean, ?_⟩
  obtain ⟨candidates, final, hok, happly, hreverse, hany⟩ :=
    nameInTurn_confluent faithful_sample clean
  obtain rfl := Except.ok.inj ((analyzeTree_eq clean sampleText).symm.trans hok)
  rw [sampleParse_eq.1] at happly hreverse hany
  obtain rfl := Option.some.inj (applyAll_sample.symm.trans happly)
  have hnames : (candidatesIn sampleText sampleTree.children).map Candidate.name = ["A", "B"] := by
    decide +kernel
  rw [hnames] at hreverse hany
  exact ⟨hreverse, hany (by decide +kernel) ["A", "B"] (.refl _)⟩

end Nameplate.Naming
