import Nameplate.Proofs.Naming.Statements

/-!
# Naming twice

A file whose components have been named needs no further edit: the second analysis finds the same
components, each with the name it should have.

* `Settled`: a display name that is left alone;
* `Carried.redeclares_all`: the same components are declared;
* `Carried.settled_of_named`, `Carried.settled_of_unnamed`: each component has such a name, whether
  it had one before or not;
* `Carried.settled_again`, `Named.settled_again`: so has each component that the second analysis
  finds;
* `editsFor_idempotent`: there is nothing left to do.
-/

namespace Nameplate.Naming

open Text (Range Edit)
open Text.Edit (moved)
open Tsx (Node Placed Moved sampleText sampleTree placed_sample rowPhrase rowMark functionTree
  namingTree)

/-- A display name that is left alone: it is computed, or a literal with the right text. -/
def Settled (identification : String) : NameValue → Prop
  | .computed => True
  | .literal raw _ quote => raw = escapeString quote identification

theorem Settled.movedBy {identification : String} {value : NameValue}
    (h : Settled identification value) (place : Range → Range) :
    Settled identification (value.movedBy place) := by
  cases value with
  | computed => trivial
  | literal raw range quote => exact h

theorem draft_eq_nothing {c : Candidate} {identification lineEnding : String} :
    draft c identification lineEnding = .nothing ↔
      ∃ x, c.existing = some x ∧ Settled identification x.value := by
  unfold draft
  split
  · rename_i hx
    simp [hx]
  · rename_i hx
    simp [hx, Settled]
  · rename_i hx
    simp [hx, Settled]

variable {source source' : List Char} {root : Node} {label lineEnding : String}

namespace Carried

variable {edits : List NameEdit}

/-- The same components are declared in the same order. -/
theorem redeclares_all (h : Carried source source' root label lineEnding edits)
    {before after : List NameEdit} {nodes nodes' : List Node}
    (hr : Rebuilt edits lineEnding source' before after nodes nodes')
    (hn : ∀ n ∈ nodes, n ∈ root.children) :
    List.Forall₂
      (fun d d' => Redeclares (moved (textEdits edits)) d.1 d'.1)
      (declarationsIn source nodes) (declarationsIn source' nodes') := by
  have hrel : List.Forall₂ (Redeclares (moved (textEdits edits)))
      ((nodes.filter fun n => n.label.named && !n.label.extra).flatMap (declarationsOf source))
      ((nodes'.filter fun n => n.label.named && !n.label.extra).flatMap
        (declarationsOf source')) := by
    induction hr with
    | done => exact .nil
    | @kept _ _ n n' nodes nodes' hb _ ih =>
      have hrest := ih fun m hm => hn m (List.mem_cons_of_mem _ hm)
      rw [List.filter_cons, List.filter_cons, hb.isPart_eq]
      split
      · exact List.rel_append (h.redeclares (hn n List.mem_cons_self) hb) hrest
      · exact hrest
    | @added _ _ _ s _ _ _ hs _ ih =>
      obtain ⟨hpart, -, _, _, _, _, _, ha, -⟩ := hs
      have hnone : declarationsOf source' s = [] :=
        List.eq_nil_iff_forall_not_mem.mpr fun d hd =>
          (range_of_mem_declarationsOf hd).2 ha.statement
      rw [List.filter_cons, if_pos hpart, List.flatMap_cons, hnone]
      exact ih hn
    | replaced _ _ ih => exact ih hn
  rw [← declarationsIn_map_fst, ← declarationsIn_map_fst] at hrel
  exact List.forall₂_map_right_iff.mp (List.forall₂_map_left_iff.mp hrel)

/-- The value of the statement that names a component is left alone afterwards. -/
theorem settled_value (h : Carried source source' root label lineEnding edits) {c : Candidate}
    (hc : c ∈ candidatesIn source root.children)
    (hdone : ∀ e, (draft c (displayName c.name label) lineEnding).edit? = some e → e ∈ edits)
    {n m l o p r r' : Node} (hn : n ∈ root.children)
    (ha : Assigns n m l o p r) (ho : sourceText source o = c.name)
    (hx : c.existing = some ⟨n.range, valueOfRight source r⟩)
    (hb : Becomes edits source' r r') :
    Settled (displayName c.name label) (valueOfRight source' r') := by
  cases he : (draft c (displayName c.name label) lineEnding).edit? with
  | none =>
    obtain ⟨x, hx', hsettled⟩ := draft_eq_nothing.mp (Plan.edit?_eq_none.mp he)
    obtain rfl := Option.some.inj (hx.symm.trans hx')
    have hap : ∀ d ∈ edits, d.range.Apart n.range := by
      intro d hd
      refine h.apart_of_name_ne hn ha hd fun hobject => ?_
      obtain ⟨c', hc', hd⟩ := (Naming.mem_batch h.placed).mp (h.mem_batch hd)
      obtain rfl := candidatesIn_unique hc' hc ((draft_cases hd).1.symm.trans (hobject.trans ho))
      rw [he] at hd
      cases hd
    rw [h.valueOf hn ha hap hb]
    exact hsettled.movedBy _
  | some e =>
    have hmem := hdone e he
    obtain ⟨hname, ⟨hnone, -, -⟩ | ⟨range, raw, quote, hx', -, hnew⟩⟩ := draft_cases he
    · rw [hx] at hnone
      cases hnone
    · obtain ⟨t, ht, hrw⟩ := rewrites_of_literal hc hx' hname
      have hval := congrArg ExistingName.value (Option.some.inj (hx.symm.trans hx'))
      obtain ⟨range', hval'⟩ := h.valueOf_rewritten hmem
        (hrw.inside (h.placed.child ht)).2.2.1 hval hnew hb
      rw [hval']
      rfl

/-- The statement that names a component is found again, if none is added that names it. -/
theorem rel_find?_givesName (h : Carried source source' root label lineEnding edits)
    {nodes' : List Node}
    (hr : Rebuilt edits lineEnding source' [] (inPlaces edits) root.children nodes') {name : String}
    (hname : ∀ e ∈ edits, e.range.start = e.range.stop → e.name ≠ name) {s : Node}
    (hs : s ∈ root.children) (hk : s.kind ≠ .expressionStatement) :
    Option.Rel (fun n n' => n ∈ root.children ∧ Becomes edits source' n n')
      (root.children.find? (givesName source name s.stop.byte))
      (nodes'.find? (givesName source' name (moved (textEdits edits) s.range).stop)) := by
  refine hr.rel_find? (fun n hn n' hb => h.givesName_eq hs hk hn hb name) ?_
  intro fs e gs hes t hi ht
  obtain ⟨range, hat⟩ := h.assignmentOf_added hes hi ht
  have he : e ∈ edits := mem_inPlaces.mp (by rw [show inPlaces _ = _ from hes]; simp)
  simp [givesName, hat, hname e he hi]

/-- A component whose name is given by a statement: the statement is found again, and it gives a
name that is left alone. -/
theorem settled_of_named (h : Carried source source' root label lineEnding edits)
    {nodes' : List Node}
    (hr : Rebuilt edits lineEnding source' [] (inPlaces edits) root.children nodes')
    {c : Candidate} (hc : c ∈ candidatesIn source root.children)
    (hdone : ∀ e, (draft c (displayName c.name label) lineEnding).edit? = some e → e ∈ edits)
    {s n : Node} (hs : s ∈ root.children) (hk : s.kind ≠ .expressionStatement)
    (hfind : root.children.find? (givesName source c.name s.stop.byte) = some n)
    (hx : c.existing = (assignmentOf source n).map fun a => ⟨a.range, a.value⟩) :
    ∃ n' a', nodes'.find? (givesName source' c.name (moved (textEdits edits) s.range).stop) =
        some n' ∧
      assignmentOf source' n' = some a' ∧ Settled (displayName c.name label) a'.value := by
  obtain ⟨-, m, l, o, p, r, ha, ho, -, -⟩ := givesName_iff.mp (List.find?_some hfind)
  rw [ha.assignmentOf_eq, Option.map_some] at hx
  -- No statement about this component is added, as it has a name.
  have hother : ∀ e ∈ edits, e.range.start = e.range.stop → e.name ≠ c.name := fun e he hi hec => by
    obtain ⟨d, hd, hed, hnone, -⟩ := insertion_of_mem h.placed (h.mem_batch he) hi
    obtain rfl := candidatesIn_unique hd hc (hed.symm.trans hec)
    rw [hx] at hnone
    cases hnone
  have hrel := h.rel_find?_givesName hr hother hs hk
  rw [hfind] at hrel
  obtain ⟨n', hfind', hn, hb⟩ := Tsx.rel_some_left hrel
  obtain ⟨m', l', o', p', r', ha', -, -, hbr⟩ := h.assigns hn hb ha
  exact ⟨n', _, hfind', ha'.assignmentOf_eq source', h.settled_value hc hdone hn ha ho hx hbr⟩

/-- A component without a name: the statement that is added for it gives it the right one. -/
theorem settled_of_unnamed (h : Carried source source' root label lineEnding edits)
    {nodes' : List Node}
    (hr : Rebuilt edits lineEnding source' [] (inPlaces edits) root.children nodes')
    {c : Candidate}
    (hdone : ∀ e, (draft c (displayName c.name label) lineEnding).edit? = some e → e ∈ edits)
    {s : Node} (hs : s ∈ root.children) (hk : s.kind ≠ .expressionStatement)
    (hstop : s.stop.byte ≤ c.insertionPoint)
    (hfind : root.children.find? (givesName source c.name s.stop.byte) = none)
    (hx : c.existing = none) :
    ∃ n' a', nodes'.find? (givesName source' c.name (moved (textEdits edits) s.range).stop) =
        some n' ∧
      assignmentOf source' n' = some a' ∧ Settled (displayName c.name label) a'.value := by
  obtain ⟨e, he, hname, hrange⟩ : ∃ e ∈ edits, e.name = c.name ∧
      e.range = .empty c.insertionPoint :=
    ⟨_, hdone _ (by rw [draft, hx]; rfl), rfl, rfl⟩
  have hi : e.range.start = e.range.stop := by rw [hrange]; rfl
  obtain ⟨fs, gs, t, hes, ht, hfind'⟩ := hr.find?_added (mem_inPlaces.mpr he) hi
    (q := givesName source' c.name (moved (textEdits edits) s.range).stop)
    (fun n hn n' hb => by
      rw [← h.givesName_eq hs hk hn hb c.name]
      simpa using List.find?_eq_none.mp hfind n hn)
    (fun fs d gs hes t hi ht => by
      obtain ⟨range, hat⟩ := h.assignmentOf_added hes hi ht
      have hd : d ∈ edits := mem_inPlaces.mp (by rw [show inPlaces _ = _ from hes]; simp)
      by_cases hde : d = e
      · subst hde
        have hbehind := h.moved_stop_le hes hs (by rw [hrange]; exact hstop)
        have hstart : t.range.start = _ := ht.2.1
        rw [decide_eq_true rfl, givesName, ht.1, hat]
        simp only [Option.any_some, hname, beq_self_eq_true, Bool.true_and, Bool.and_true,
          decide_eq_true_eq]
        omega
      · have hne : d.name ≠ c.name := fun hdc =>
          hde (batch_unique h.placed (h.mem_batch hd) (h.mem_batch he) (hdc.trans hname.symm))
        simp [givesName, hat, hne, hde])
  obtain ⟨range, hat⟩ := h.assignmentOf_added hes hi ht
  exact ⟨t, _, hfind', hat, by rw [hname]; rfl⟩

/-- A component whose edit has been carried out, or that needs none, has a name afterwards that is
left alone. -/
theorem settled_again (h : Carried source source' root label lineEnding edits) {nodes' : List Node}
    (hr : Rebuilt edits lineEnding source' []
      (inPlaces edits) root.children nodes')
    {d d' : Declaration} {i i' : Nat}
    (hd : (d, i) ∈ firstOfEachName (declarationsIn source root.children))
    (hdone : ∀ e, (draft (candidateOf (assignmentsIn source root.children) d i)
      (displayName d.name label) lineEnding).edit? = some e → e ∈ edits)
    (hre : Redeclares (moved (textEdits edits)) d d') :
    ∃ x, (candidateOf (assignmentsIn source' nodes') d' i').existing = some x ∧
      Settled (displayName d'.name label) x.value := by
  have hc : candidateOf (assignmentsIn source root.children) d i ∈
      candidatesIn source root.children := List.mem_map.mpr ⟨(d, i), hd, rfl⟩
  have hx := existing_candidateOf source root.children d i
  obtain ⟨front, s, following, hs, hk, hrange, hpoint⟩ := declared_of_mem hc
  have hmem : s ∈ root.children := by simp [hs]
  have hrange : d.range = s.range := hrange
  have hstop : d.range.stop = s.stop.byte := congrArg Range.stop hrange
  rw [hstop] at hx
  obtain ⟨n', a', hfind, ha, hset⟩ : ∃ n' a', nodes'.find? (givesName source' d.name
        (moved (textEdits edits) s.range).stop) = some n' ∧
      assignmentOf source' n' = some a' ∧ Settled (displayName d.name label) a'.value := by
    cases hfind : root.children.find? (givesName source d.name s.stop.byte) with
    | none =>
      rw [hfind, Option.bind_none] at hx
      exact h.settled_of_unnamed hr hdone hmem hk
        (hpoint ▸ stop_le_insertionPoint h.placed hs) hfind hx
    | some n =>
      rw [hfind, Option.bind_some] at hx
      exact h.settled_of_named hr hc hdone hmem hk hfind hx
  rw [existing_candidateOf, hre.name, hre.range, hrange, hfind, Option.bind_some, ha]
  exact ⟨_, rfl, hset⟩

end Carried

namespace Named

/-- The same components are declared in the same order. -/
theorem redeclares_all (h : Named source source' root label lineEnding)
    {before after : List NameEdit} {nodes nodes' : List Node}
    (hr : Rebuilt (batch source root label lineEnding) lineEnding source' before after nodes nodes')
    (hn : ∀ n ∈ nodes, n ∈ root.children) :
    List.Forall₂
      (fun d d' => Redeclares (moved (textEdits (batch source root label lineEnding))) d.1 d'.1)
      (declarationsIn source nodes) (declarationsIn source' nodes') :=
  h.carried.redeclares_all hr hn

/-- A component of the file has a name afterwards that is left alone. -/
theorem settled_again (h : Named source source' root label lineEnding) {nodes' : List Node}
    (hr : Rebuilt (batch source root label lineEnding) lineEnding source' []
      (inPlaces (batch source root label lineEnding)) root.children nodes')
    {d d' : Declaration} {i i' : Nat}
    (hd : (d, i) ∈ firstOfEachName (declarationsIn source root.children))
    (hre : Redeclares (moved (textEdits (batch source root label lineEnding))) d d') :
    ∃ x, (candidateOf (assignmentsIn source' nodes') d' i').existing = some x ∧
      Settled (displayName d'.name label) x.value :=
  h.carried.settled_again hr hd
    (fun _ he => (mem_batch h.placed).mpr ⟨_, List.mem_map.mpr ⟨(d, i), hd, rfl⟩, he⟩) hre

end Named

/-- A component that is found again, with a name that is left alone. -/
structure Unchanged (label : String) (c c' : Candidate) : Prop where
  name : c'.name = c.name
  form : c'.form = c.form
  settled : ∃ x, c'.existing = some x ∧ Settled (displayName c'.name label) x.value

theorem Unchanged.plan_eq {c c' : Candidate} (h : Unchanged label c c') (lineEnding : String) :
    planFor label lineEnding c' = .nothing := by
  rw [planFor, plan, draft_eq_nothing.mpr h.settled]
  rfl

/-- Two analyses that find the same components, all of which the second one leaves alone. -/
theorem forall_of_unchanged {cs cs' : List Candidate} (h : List.Forall₂ (Unchanged label) cs cs')
    (lineEnding : String) :
    (∀ c ∈ cs', planFor label lineEnding c = .nothing ∧
      ∃ x, c.existing = some x ∧ Settled (displayName c.name label) x.value) ∧
      cs'.map (fun c => (c.name, c.form)) = cs.map fun c => (c.name, c.form) := by
  induction h with
  | nil => simp
  | cons hc _ ih =>
    refine ⟨List.forall_mem_cons.mpr ⟨⟨hc.plan_eq lineEnding, hc.settled⟩, ih.1⟩, ?_⟩
    rw [List.map_cons, List.map_cons, hc.name, hc.form, ih.2]

/-- The edits that name the components of a file without faults can be carried out, and however the
file is then read again, the second analysis finds the same components, each with the name it should
have, and leaves them alone. -/
theorem editsFor_idempotent {source : List Char} {root : Node} (placed : Placed source root)
    (clean : root.label.hasError = false) (label lineEnding : String) :
    ∃ candidates source', analyzeTree root source = .ok candidates ∧
      Edit.applyAll (textEdits (editsFor candidates label lineEnding)) source = some source' ∧
      ∀ root', Reparsed (editsFor candidates label lineEnding) lineEnding source' root root' →
        ∃ candidates', analyzeTree root' source' = .ok candidates' ∧
          editsFor candidates' label lineEnding = [] ∧
          (∀ c ∈ candidates', planFor label lineEnding c = .nothing ∧
            ∃ x, c.existing = some x ∧ Settled (displayName c.name label) x.value) ∧
          candidates'.map (fun c => (c.name, c.form)) =
            candidates.map (fun c => (c.name, c.form)) := by
  obtain ⟨source', spliced, applied⟩ := exists_spliced_batch placed label lineEnding
  have h : Named source source' root label lineEnding := ⟨placed, spliced⟩
  refine ⟨_, source', analyzeTree_eq clean source, applied, fun root' hroot => ?_⟩
  have hpairs := (List.forall₂_and_left _ _).mpr ⟨fun d hd => hd, firstOfEachName_rel
    (fun _ _ hd => hd.name) (h.redeclares_all hroot.rebuilt fun n hn => hn)⟩
  have hsame : List.Forall₂ (Unchanged label) (candidatesIn source root.children)
      (candidatesIn source' root'.children) :=
    List.rel_map (fun _ _ hd => ⟨hd.2.name, hd.2.form, h.settled_again hroot.rebuilt hd.1 hd.2⟩)
      hpairs
  obtain ⟨halone, hnames⟩ := forall_of_unchanged hsame lineEnding
  exact ⟨_, analyzeTree_eq hroot.clean source',
    editsFor_eq_nil.mpr fun c hc => (halone c hc).1, halone, hnames⟩

/-- The sample with its components named. -/
def namedText : List Char :=
  "function A()\x7b\x7d\nA.displayName = \"XA\";function B()\x7b\x7dB.displayName='XB'".toList

def namedTree : Node :=
  .mk { kind := .program, start := ⟨0, 0⟩, stop := ⟨68, 1⟩ }
    [functionTree 0 0,
      rowPhrase .expressionStatement 1 15 36 [namingTree "\"" 1 15 1 35, rowMark ";" 1 35],
      functionTree 1 36, rowPhrase .expressionStatement 1 50 68 [namingTree "'" 1 50 0 68]]

/-- What a parser makes of it. -/
theorem reparsed_sample :
    Reparsed (batch sampleText sampleTree "X" "\n") "\n" namedText sampleTree namedTree := by
  refine ⟨rfl, ?_⟩
  rw [batch_sample, inPlaces, List.mergeSort_of_pairwise (by decide)]
  refine .kept ?first (.added rfl ?added (.kept ?second (.replaced (by decide)
    (.kept ?naming .done))))
  case added =>
    refine ⟨rfl, by decide +kernel, namingTree "\"" 1 15 1 35, _, _, _, _,
      ⟨rfl, rfl, rfl, rfl, rfl, rfl, rfl, rfl, rfl, rfl⟩, ?_, ?_, rfl, ?_⟩
    all_goals decide +kernel
  all_goals
    repeat' first
      | exact .nil
      | refine .cons ?_ ?_
      | refine Moved.literal ⟨rfl, rfl, rfl, rfl⟩ ?_ (.inl rfl)
          ⟨⟨⟨⟨42, 45⟩, "'XB'"⟩, by simp [textEdits, NameEdit.toEdit], rfl, by decide⟩,
            fun h => absurd h (by decide +kernel)⟩
      | refine Moved.kept ⟨rfl, rfl, rfl, rfl⟩ ?_ ?_
    all_goals decide +kernel

theorem applyAll_sample :
    Edit.applyAll (textEdits (batch sampleText sampleTree "X" "\n")) sampleText =
      some namedText := by
  rw [batch_sample, Edit.applyAll, Edit.ordered, List.mergeSort_of_pairwise (by decide)]
  decide +kernel

/-- In the sample one component was named and one renamed; a second time nothing is left to do. -/
theorem editsFor_idempotent_sample :
    Placed sampleText sampleTree ∧ sampleTree.label.hasError = false ∧
    Reparsed (batch sampleText sampleTree "X" "\n") "\n" namedText sampleTree namedTree ∧
    ∃ candidates', analyzeTree namedTree namedText = .ok candidates' ∧
      editsFor candidates' "X" "\n" = [] ∧
      candidates'.map (fun c => (c.name, c.form)) =
        [("A", .functionDeclaration), ("B", .functionDeclaration)] := by
  refine ⟨placed_sample, rfl, reparsed_sample, ?_⟩
  obtain ⟨candidates, source', hok, happ, hagain⟩ :=
    editsFor_idempotent placed_sample rfl "X" "\n"
  obtain rfl := Except.ok.inj ((analyzeTree_eq rfl sampleText).symm.trans hok)
  obtain rfl := Option.some.inj (applyAll_sample.symm.trans happ)
  obtain ⟨candidates', hok', hedits, -, hnames⟩ := hagain namedTree reparsed_sample
  refine ⟨candidates', hok', hedits, hnames.trans ?_⟩
  decide +kernel

end Nameplate.Naming
