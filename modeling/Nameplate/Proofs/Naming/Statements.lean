import Nameplate.Proofs.Naming.Reparsed

/-!
# Statements of a named file

What the matcher finds in the statements of a file after its components have been named.

* `Carried.redeclares`: a statement declares what it declared before;
* `Carried.givesName_eq`: it gives a name to a component exactly if it did so before;
* `Carried.valueOf`, `Carried.valueOf_rewritten`: what it assigns.
-/

namespace Nameplate.Naming

open Text (Range Edit slice slice_eq_some StandsAt byteLength byteLength_append)
open Text.Edit (Spliced inOrder moved)
open Tsx (Node Placed Moved)

variable {source source' : List Char} {root : Node} {label lineEnding : String}

/-- Every edit writes something. -/
theorem newText_ne_nil (placed : Placed source root) {e : NameEdit}
    (he : e ∈ batch source root label lineEnding) : e.newText.toList ≠ [] := by
  obtain ⟨c, -, he⟩ := (mem_batch placed).mp he
  obtain ⟨-, ⟨-, -, ht⟩ | ⟨_, _, _, -, -, ht⟩⟩ := draft_cases he
  · simp [ht, statementText]
  · simp [ht]

/-- Only statements with an expression are rewritten. -/
theorem apart_of_kind (placed : Placed source root) {n : Node} (hn : n ∈ root.children)
    (hk : n.kind ≠ .expressionStatement) {e : NameEdit}
    (he : e ∈ batch source root label lineEnding) : e.range.Apart n.range := by
  refine (apart_or_rewrites placed he hn).resolve_right ?_
  rintro ⟨a, _, _, ha, -⟩
  obtain ⟨_, _, _, _, _, hm, -⟩ := assignmentOf_eq_some.mp ha
  exact hk hm.statement

/-- An insertion is for a component without a name. -/
theorem insertion_of_mem (placed : Placed source root) {e : NameEdit}
    (he : e ∈ batch source root label lineEnding) (hi : e.range.start = e.range.stop) :
    ∃ c ∈ candidatesIn source root.children, e.name = c.name ∧ c.existing = none ∧
      e.range = .empty c.insertionPoint ∧
      e.newText = statementText e.name (displayName e.name label) lineEnding := by
  obtain ⟨c, hc, he⟩ := (mem_batch placed).mp he
  obtain ⟨hname, ⟨hx, hr, ht⟩ | ⟨r, raw, quote, hx, -, -⟩⟩ := draft_cases he
  · exact ⟨c, hc, hname, hx, hr, hname ▸ ht⟩
  · obtain ⟨t, ht, hrw⟩ := rewrites_of_literal hc hx hname
    have := (hrw.inside (placed.child ht)).2.2.1
    omega

theorem mem_inPlaces {edits : List NameEdit} {e : NameEdit} : e ∈ inPlaces edits ↔ e ∈ edits :=
  List.mem_mergeSort

theorem textEdits_inPlaces (edits : List NameEdit) :
    textEdits (inPlaces edits) = inOrder (textEdits edits) :=
  List.map_mergeSort fun _ _ _ _ => rfl

namespace Carried

variable {edits : List NameEdit}

/-! ## Texts -/

theorem sourceText_eq (h : Carried source source' root label lineEnding edits) {m m' : Node}
    (hm : m ∈ root.nodes) (hap : ∀ e ∈ edits, e.range.Apart m.range)
    (hr : m'.range = moved (textEdits edits) m.range) :
    sourceText source' m' = sourceText source m := by
  rw [sourceText, sourceText, hr, h.slice_eq (h.placed.covers m hm) hap]

theorem reads (h : Carried source source' root label lineEnding edits) {n : Node}
    (hn : n ∈ root.nodes) (hap : ∀ e ∈ edits, e.range.Apart n.range) :
    Reads (moved (textEdits edits)) source source' n :=
  fun _ hm _ => h.sourceText_eq (Node.nodes_trans hm hn) fun e he =>
    (hap e he).mono ((h.placed.of_mem hn).inside_root hm)

/-- Where no edit is, nothing is reworded. -/
theorem shifted (h : Carried source source' root label lineEnding edits) {n n' : Node}
    (hn : n ∈ root.nodes) (hap : ∀ e ∈ edits, e.range.Apart n.range)
    (hb : Becomes edits source' n n') :
    Shifted (moved (textEdits edits)) n n' := by
  refine hb.mono fun m hm m' hre => ?_
  obtain ⟨f, hf, hr, hpos⟩ := hre.replaced
  obtain ⟨e, he, rfl⟩ := List.mem_map.mp hf
  have hin := (h.placed.of_mem hn).inside_root hm
  have := (hap e he).mono hin
  rw [← hr] at this
  simp only [Range.Apart, NameEdit.toEdit] at this hpos
  omega

/-! ## Declarations -/

/-- A statement declares what it declared before. -/
theorem redeclares (h : Carried source source' root label lineEnding edits) {n n' : Node}
    (hn : n ∈ root.children)
    (hb : Becomes edits source' n n') :
    List.Forall₂ (Redeclares (moved (textEdits edits)))
      (declarationsOf source n) (declarationsOf source' n') := by
  by_cases hk : n.kind = .expressionStatement
  · have hnone : ∀ {text : List Char} {m : Node}, m.kind = .expressionStatement →
        declarationsOf text m = [] := fun hm =>
      List.eq_nil_iff_forall_not_mem.mpr fun d hd => (range_of_mem_declarationsOf hd).2 hm
    rw [hnone hk, hnone (hb.kind_eq.trans hk)]
    exact .nil
  · have hap : ∀ e ∈ edits, e.range.Apart n.range :=
      fun e he => apart_of_kind h.placed hn hk (h.mem_batch he)
    exact declarationsOf_shifted (h.shifted (Node.nodes_of_child hn) hap hb)
      (h.reads (Node.nodes_of_child hn) hap)

/-! ## Order -/

/-- A statement with a text keeps one. -/
theorem start_lt_stop (h : Carried source source' root label lineEnding edits) {n : Node}
    (hn : n ∈ root.children) (hpos : n.start.byte < n.stop.byte) :
    (moved (textEdits edits) n.range).start <
      (moved (textEdits edits) n.range).stop := by
  obtain ⟨part, part', hp, hp', hs⟩ := h.slice_statement hn
  have hlen : n.stop.byte = n.start.byte + byteLength part := (slice_eq_some.mp hp).2
  have hne : part' ≠ [] := by
    refine hs.ne_nil (fun hnil => ?_) fun f hf => ?_
    · rw [hnil, Text.byteLength_nil] at hlen
      omega
    · obtain ⟨e, he, rfl⟩ := List.mem_map.mp
        ((Edit.inOrder_perm _).mem_iff.mp (List.mem_filter.mp hf).1)
      exact newText_ne_nil h.placed (h.mem_batch he)
  have hzero := mt Text.byteLength_eq_zero.mp hne
  have hlen' := (slice_eq_some.mp hp').2
  omega

/-- Statements keep their order, and none comes before another that it did not precede. -/
theorem stop_le_start_iff (h : Carried source source' root label lineEnding edits) {s n : Node}
    (hs : s ∈ root.children) (hn : n ∈ root.children) (hne : s ≠ n)
    (hpos : n.start.byte < n.stop.byte) :
    (moved (textEdits edits) s.range).stop ≤
        (moved (textEdits edits) n.range).start ↔
      s.stop.byte ≤ n.start.byte := by
  refine ⟨fun hle => ?_, h.stop_le_start hs hn⟩
  rcases h.placed.apart hs hn hne with hsn | hns
  · exact hsn
  · have := h.stop_le_start hn hs hns
    have := h.start_lt_stop hn hpos
    obtain ⟨_, _, -, hp', -⟩ := h.slice_statement hs
    have := (slice_eq_some.mp hp').2
    omega

/-! ## Assignments -/

/-- No edit is in the left side of an assignment. -/
theorem left_apart (h : Carried source source' root label lineEnding edits) {n e l o p r : Node}
    (hn : n ∈ root.children) (ha : Assigns n e l o p r) {d : NameEdit}
    (hd : d ∈ edits) : d.range.Apart l.range := by
  have hp := h.placed.child hn
  obtain ⟨hl, -, -, -, hlr⟩ := ha.places hp
  rcases h.apart_or_rewrites hd hn with hap | ⟨a, raw, quote, hasg, -, -, hval⟩
  · exact hap.mono hl
  · obtain ⟨_, _, _, _, _, ha', rfl⟩ := assignmentOf_eq_some.mp hasg
    obtain ⟨-, -, -, rfl⟩ := ha.unique ha'
    obtain ⟨-, hr, -⟩ := valueOfRight_eq_literal.mp hval
    have hin := (hp.of_mem ha.right_mem_nodes).inside_root (unwrap_mem_nodes r)
    rw [← hr] at hin
    exact .inr (Nat.le_trans hlr hin.1)

/-- A statement about a component is not rewritten by the edit of another one. -/
theorem apart_of_name_ne (h : Carried source source' root label lineEnding edits)
    {n e l o p r : Node} (hn : n ∈ root.children) (ha : Assigns n e l o p r) {d : NameEdit}
    (hd : d ∈ edits) (hne : d.name ≠ sourceText source o) : d.range.Apart n.range := by
  refine (h.apart_or_rewrites hd hn).resolve_right ?_
  rintro ⟨a, _, _, hasg, hobject, -, -⟩
  obtain rfl := Option.some.inj ((ha.assignmentOf_eq source).symm.trans hasg)
  exact hne hobject.symm

/-- An assignment is found again with its two names. -/
theorem assigns (h : Carried source source' root label lineEnding edits) {n n' e l o p r : Node}
    (hn : n ∈ root.children) (hb : Becomes edits source' n n')
    (ha : Assigns n e l o p r) :
    ∃ e' l' o' p' r', Assigns n' e' l' o' p' r' ∧ sourceText source' o' = sourceText source o ∧
      sourceText source' p' = sourceText source p ∧
      Becomes edits source' r r' := by
  obtain ⟨e', l', o', p', r', ha', ho, hp, hr⟩ :=
    assigns_of_corresponds (Moved.corresponds _ _) hb ha
  obtain ⟨-, hol, hpl, -, -⟩ := ha.places (h.placed.child hn)
  have hmem : ∀ m ∈ l.children, m ∈ root.nodes := fun m hm =>
    Node.nodes_trans (Node.nodes_of_child hm) (Node.nodes_trans
      (Node.nodes_of_child (Node.child_of_field? ha.left)) (Node.nodes_trans
        (Node.nodes_of_child (Node.child_of_head?_parts ha.first)) (Node.nodes_of_child hn)))
  exact ⟨e', l', o', p', r', ha',
    h.sourceText_eq (hmem o (Node.child_of_field? ha.object))
      (fun d hd => (h.left_apart hn ha hd).mono hol) ho.range_eq,
    h.sourceText_eq (hmem p (Node.child_of_field? ha.property))
      (fun d hd => (h.left_apart hn ha hd).mono hpl) hp.range_eq, hr⟩

/-- A statement gives a name to a component exactly if it did so before. -/
theorem givesName_eq (h : Carried source source' root label lineEnding edits) {s n n' : Node}
    (hs : s ∈ root.children) (hk : s.kind ≠ .expressionStatement) (hn : n ∈ root.children)
    (hb : Becomes edits source' n n') (name : String) :
    givesName source name s.stop.byte n = givesName source' name
      (moved (textEdits edits) s.range).stop n' := by
  have hstart : n'.start.byte =
      (moved (textEdits edits) n.range).start :=
    congrArg Range.start hb.range_eq
  have horder : ∀ {e l o p r : Node}, Assigns n e l o p r →
      sourceText source p = displayNameProperty →
      ((moved (textEdits edits) s.range).stop ≤ n'.start.byte ↔
        s.stop.byte ≤ n.start.byte) := by
    intro e l o p r ha hp
    have hroom := ha.room (h.placed.child hn) hp
    rw [hstart]
    refine h.stop_le_start_iff hs hn (fun hsn => hk ?_) (by omega)
    rw [hsn]
    exact ha.statement
  rw [Bool.eq_iff_iff, givesName_iff, givesName_iff, hb.isPart_eq]
  refine and_congr_right fun _ => ⟨?_, ?_⟩
  · rintro ⟨e, l, o, p, r, ha, ho, hp, hle⟩
    obtain ⟨e', l', o', p', r', ha', ho', hp', -⟩ := h.assigns hn hb ha
    exact ⟨e', l', o', p', r', ha', ho'.trans ho, hp'.trans hp, (horder ha hp).mpr hle⟩
  · rintro ⟨e', l', o', p', r', ha', ho', hp', hle⟩
    obtain ⟨e, l, o, p, r, ha, -⟩ := assigns_of_corresponds (Moved.corresponds _ _).flip hb ha'
    obtain ⟨_, _, _, _, _, ha'', ho, hp, -⟩ := h.assigns hn hb ha
    obtain ⟨-, rfl, rfl, -⟩ := ha'.unique ha''
    have hp := hp.symm.trans hp'
    exact ⟨e, l, o, p, r, ha, ho.symm.trans ho', hp, (horder ha hp).mp hle⟩

/-! ## Values -/

/-- A statement that no edit rewrites assigns what it assigned before. -/
theorem valueOf (h : Carried source source' root label lineEnding edits) {n e l o p r r' : Node}
    (hn : n ∈ root.children) (ha : Assigns n e l o p r)
    (hap : ∀ d ∈ edits, d.range.Apart n.range)
    (hb : Becomes edits source' r r') :
    valueOfRight source' r' = (valueOfRight source r).movedBy
      (moved (textEdits edits)) := by
  have hp := h.placed.child hn
  have hr := Node.nodes_trans ha.right_mem_nodes (Node.nodes_of_child hn)
  have hrap : ∀ d ∈ edits, d.range.Apart r.range := fun d hd =>
    (hap d hd).mono (hp.inside_root ha.right_mem_nodes)
  have hshift := h.shifted hr hrap hb
  refine valueOfRight_shifted hshift ?_
  rw [(unwrap_moved hshift).range_eq]
  have hu := unwrap_mem_nodes r
  exact h.slice_eq (h.placed.covers _ (Node.nodes_trans hu hr)) fun d hd =>
    (hrap d hd).mono ((h.placed.of_mem hr).inside_root hu)

/-- The text of an edit that replaces a literal stands where the literal stood. -/
theorem slice_replaced (h : Carried source source' root label lineEnding edits) {d : NameEdit}
    (hd : d ∈ edits) (hpos : d.range.start < d.range.stop) :
    slice source' (moved (textEdits edits) d.range) =
      some d.newText.toList := by
  have hperm := Edit.inOrder_perm (textEdits edits)
  have hother : ∀ f ∈ edits, f.name ≠ d.name → f.range.Apart d.range := fun f hf hne =>
    (batch_apart h.placed (h.mem_batch hf) (h.mem_batch hd) hne).1
  obtain ⟨part, hp⟩ := Option.isSome_iff_exists.mp (fits h.placed (h.mem_batch hd))
  obtain ⟨part', hs, hp'⟩ := h.spliced.slice_moved hp fun f hf => by
    obtain ⟨f, hmem, rfl⟩ := List.mem_map.mp (hperm.mem_iff.mp hf)
    by_cases hfd : f.name = d.name
    · obtain rfl := batch_unique h.placed (h.mem_batch hmem) (h.mem_batch hd) hfd
      exact .inr ⟨Nat.le_refl _, Nat.le_refl _⟩
    · exact .inl (hother f hmem hfd)
  have hpairwise := (batch_pairwise h.placed label lineEnding).sublist h.chosen
  rw [within_singleton hpairwise hd ⟨Nat.le_refl _, Nat.le_refl _⟩ hpos hother] at hs
  rw [Edit.moved_perm hperm] at hp'
  rw [hp', Spliced.single (e := d.toEdit) hs (slice_eq_some.mp hp).2.symm]
  rfl

/-- A literal that has been replaced is a literal still: no template opens a substitution. -/
theorem isStringLiteral_rewritten {edits : List NameEdit} {m m' : Node} {quote : Char}
    {identification : String} (hb : Becomes edits source' m m') (hm : isStringLiteral m = true)
    (ht : slice source' m'.range =
      some (quote :: (escape quote identification.toList ++ [quote]))) :
    isStringLiteral m' = true := by
  cases hb with
  | kept ha _ hcs => rw [isStringLiteral_kept ha hcs, hm]
  | literal ha hr hk hre =>
    rw [isStringLiteral, ha.kind]
    rcases hk with hk | hk
    · rw [hk]
    · rw [hk]
      refine List.all_eq_true.mpr fun p hp => ?_
      by_contra hsub
      obtain ⟨body, hbody, hopen⟩ := hre.template ⟨p, hp, by simpa using hsub⟩
      obtain ⟨rfl, hbody⟩ := List.cons.inj (Option.some.inj (ht.symm.trans hbody))
      rw [← List.append_cancel_right hbody, opensSubstitution_escape] at hopen
      cases hopen

theorem toList_quoted (quote : Char) (identification : String) :
    (quote.toString ++ escapeString quote identification ++ quote.toString).toList =
      quote :: (escape quote identification.toList ++ [quote]) := by
  simp [escapeString]

/-- A right side with a text between quotes is a literal. -/
theorem valueOfRight_quoted {r : Node} {quote : Char} {identification : String}
    (hl : isStringLiteral (unwrap r) = true)
    (ht : slice source' (unwrap r).range =
      some (quote :: (escape quote identification.toList ++ [quote]))) :
    valueOfRight source' r =
      .literal (escapeString quote identification) (unwrap r).range quote := by
  refine valueOfRight_eq_literal.mpr ⟨hl, rfl, _, ht, ?_, by simp [escapeString]⟩
  have := quote.utf8Size_pos
  simp only [Text.byteLength_cons, byteLength_append, Text.byteLength_nil]
  omega

/-- A statement that an edit rewrites assigns what the edit says. -/
theorem valueOf_rewritten (h : Carried source source' root label lineEnding edits) {r r' : Node}
    {d : NameEdit} {raw identification : String} {quote : Char}
    (hd : d ∈ edits) (hpos : d.range.start < d.range.stop)
    (hval : valueOfRight source r = .literal raw d.range quote)
    (hnew : d.newText = quote.toString ++ escapeString quote identification ++ quote.toString)
    (hb : Becomes edits source' r r') :
    ∃ range, valueOfRight source' r' =
      .literal (escapeString quote identification) range quote := by
  obtain ⟨hl, hr, -⟩ := valueOfRight_eq_literal.mp hval
  have hu := unwrap_moved hb
  have htext : slice source' (unwrap r').range =
      some (quote :: (escape quote identification.toList ++ [quote])) := by
    rw [hu.range_eq, ← hr, h.slice_replaced hd hpos, hnew, toList_quoted]
  exact ⟨_, valueOfRight_quoted (isStringLiteral_rewritten hu hl htext) htext⟩

/-! ## Statements that are added -/

theorem toList_statementText (name identification lineEnding : String) :
    (statementText name identification lineEnding).toList =
      lineEnding.toList ++ (name.toList ++ (".".toList ++ (displayNameProperty.toList ++
        (" = ".toList ++ (('"' :: (escape '"' identification.toList ++ ['"'])) ++ [';']))))) := by
  simp [statementText, escapeString]

/-- The texts of the two names and of the string in a statement that is added. -/
theorem slice_added {name text identification lineEnding : String} {offset : Nat} {s o p r : Node}
    (hat : StandsAt source' offset text.toList)
    (htext : text = statementText name identification lineEnding)
    (hs : s.start.byte = offset + byteLength lineEnding.toList)
    (ho : o.range = ⟨s.start.byte, s.start.byte + byteLength name.toList⟩)
    (hp : p.range = ⟨o.stop.byte + 1, o.stop.byte + 12⟩)
    (hr : r.range = ⟨p.stop.byte + 3, offset + byteLength text.toList - 1⟩) :
    slice source' o.range = some name.toList ∧
      slice source' p.range = some displayNameProperty.toList ∧
      slice source' r.range = some ('"' :: (escape '"' identification.toList ++ ['"'])) := by
  have hlength := congrArg (byteLength ∘ String.toList) htext
  rw [htext, toList_statementText] at hat
  simp only [Function.comp_apply, toList_statementText, byteLength_append] at hlength
  have hdot : byteLength ".".toList = 1 := by decide
  have hproperty : byteLength displayNameProperty.toList = 11 := by decide
  have hequals : byteLength " = ".toList = 3 := by decide
  have hsemicolon : byteLength [';'] = 1 := by decide
  have hostop : o.stop.byte = s.start.byte + byteLength name.toList := congrArg Range.stop ho
  have hpstop : p.stop.byte = o.stop.byte + 12 := congrArg Range.stop hp
  refine ⟨slice_eq_some.mpr ⟨?_, by rw [ho]⟩, slice_eq_some.mpr ⟨?_, by rw [hp, hproperty]⟩,
    slice_eq_some.mpr ⟨?_, ?_⟩⟩
  · rw [ho, hs]
    exact hat.right.left
  · rw [hp, hostop, hs, ← hdot]
    exact hat.right.right.right.left
  · have hliteral := hat.right.right.right.right.right.left
    rw [hdot, hproperty, hequals] at hliteral
    rw [hr, hpstop, hostop, hs]
    exact hliteral
  · rw [hr]
    simp only
    omega

/-- The text of an edit stands where the edits before it put it. -/
theorem landing (h : Carried source source' root label lineEnding edits) {fs gs : List NameEdit}
    {e : NameEdit} (hes : inPlaces edits = fs ++ e :: gs) :
    StandsAt source' (Edit.shifted (textEdits fs) e.range.start) e.newText.toList := by
  have hs := h.spliced
  rw [← textEdits_inPlaces, hes, textEdits, List.map_append, List.map_cons] at hs
  exact hs.landing

/-- The text of an edit stands behind every statement before it. -/
theorem moved_stop_le (h : Carried source source' root label lineEnding edits)
    {fs gs : List NameEdit} {e : NameEdit} (hes : inPlaces edits = fs ++ e :: gs) {s : Node}
    (hs : s ∈ root.children) (hle : s.stop.byte ≤ e.range.start) :
    (moved (textEdits edits) s.range).stop ≤
      Edit.shifted (textEdits fs) e.range.start := by
  have hperm := Edit.inOrder_perm (textEdits edits)
  have hsp := h.spliced
  have hres := h.respects hs
  rw [← Edit.moved_perm hperm]
  rw [← textEdits_inPlaces, hes, textEdits, List.map_append, List.map_cons] at hsp hres ⊢
  exact hsp.moved_stop_le_landing (h.placed.covers s (Node.nodes_of_child hs)) hres hle

/-- What a statement says that an insertion adds. -/
theorem assignmentOf_added (h : Carried source source' root label lineEnding edits)
    {fs gs : List NameEdit} {e : NameEdit} {s : Node}
    (hes : inPlaces edits = fs ++ e :: gs)
    (hi : e.range.start = e.range.stop)
    (hs : Adds lineEnding e (Edit.shifted (textEdits fs) e.range.start) s) :
    ∃ range, assignmentOf source' s = some ⟨e.name, displayNameProperty, s.range,
      .literal (escapeString '"' (displayName e.name label)) range '"'⟩ := by
  have he : e ∈ edits := mem_inPlaces.mp (by simp [hes])
  obtain ⟨-, -, -, -, -, hnew⟩ := insertion_of_mem h.placed (h.mem_batch he) hi
  obtain ⟨-, hstart, a, l, o, p, r, ha, ho, hp, hk, hr⟩ := hs
  obtain ⟨hotext, hptext, hrtext⟩ := slice_added (h.landing hes) hnew hstart ho hp hr
  have hu : unwrap r = r := by rw [unwrap_eq, if_neg (by rw [hk]; decide)]
  have hval : valueOfRight source' r =
      .literal (escapeString '"' (displayName e.name label)) r.range '"' := by
    conv => rhs; rw [← hu]
    exact valueOfRight_quoted (by rw [hu, isStringLiteral, hk]) (by rw [hu, hrtext])
  refine ⟨r.range, assignmentOf_eq_some.mpr ⟨a, l, o, p, r, ha, ?_⟩⟩
  rw [hval, sourceText, sourceText, hotext, hptext]
  simp

end Carried

end Nameplate.Naming
