import Nameplate.Proofs.Component.First
import Nameplate.Proofs.Component.Trimmed

/-!
# Which names are components

A name is one of a component if some place at the top of a file declares it as one. The places of a
file have an order, and of several that declare the same name the first one counts.

* `Bare`: a node without the parentheses around it;
* `HasForm`: a value makes a component of the name it is given to;
* `Site`, `sitesIn`: the places where components may be declared, in their order;
* `Declares`: a place declares a component;
* `formOfValue_iff`, `declarationAt_iff`: that is how values and places are read;
* `FirstAt`: the first place that declares a name;
* `recognized_exactly`: the candidates of a file are the names that its places declare.
-/

namespace Nameplate

open Text (Range)
open Tsx (Node Kind)

/-! ## Values -/

/-- `Bare n m`: what is left of `n` without the parentheses around it is `m`. -/
inductive Bare : Node → Node → Prop where
  | plain {n : Node} : n.kind ≠ .parenthesized → Bare n n
  | hollow {n : Node} : n.kind = .parenthesized → n.parts = [] → Bare n n
  | inner {n c m : Node} : n.kind = .parenthesized → n.parts.head? = some c → Bare c m → Bare n m

/-- A function value. -/
def IsFunction (n : Node) : Prop := n.kind = .arrowFunction ∨ n.kind = .functionExpression

/-- A function value, in parentheses or not. -/
def HoldsFunction (n : Node) : Prop := ∃ m, Bare n m ∧ IsFunction m

/-- `Wraps call callee f`: a call of `callee` whose last argument is the function `f`, and none of
whose other arguments is a function. -/
structure Wraps (call callee f : Node) : Prop where
  kind : call.kind = .call
  callee : call.field? .function = some callee
  arguments : ∃ arguments front last, call.field? .arguments = some arguments ∧
    arguments.parts = front ++ [last] ∧ (∀ a ∈ front, ¬ HoldsFunction a) ∧ Bare last f
  function : IsFunction f

/-- A value makes a component, in a form. -/
inductive HasForm (v : Node) : DeclarationForm → Prop where
  | function {f : Node} : Bare v f → IsFunction f → HasForm v .arrowConst
  | namespaced {call callee f : Node} : Bare v call → Wraps call callee f →
      callee.kind = .member → HasForm v (.wrapped .namespaced)
  | bare {call callee f : Node} : Bare v call → Wraps call callee f → callee.kind = .identifier →
      f.kind = .arrowFunction → HasForm v (.wrapped .bare)
  | bareWithFunction {call callee f : Node} : Bare v call → Wraps call callee f →
      callee.kind = .identifier → f.kind = .functionExpression →
      HasForm v (.wrapped .bareWithFunction)

theorem bare_unwrap (n : Node) : Bare n (unwrap n) := by
  induction n with
  | mk l cs ih =>
    rw [unwrap_eq]
    split
    · rename_i hk
      cases hp : (Node.mk l cs).parts.head? with
      | none => exact .hollow hk (List.head?_eq_none_iff.mp hp)
      | some c => exact .inner hk hp (ih c (Node.child_of_head?_parts hp))
    · rename_i hk
      exact .plain hk

/-- There is one way to take parentheses away. -/
theorem bare_iff {n m : Node} : Bare n m ↔ unwrap n = m := by
  constructor
  · intro h
    induction h with
    | plain hk => rw [unwrap_eq, if_neg hk]
    | hollow hk hp => rw [unwrap_eq, if_pos hk, hp]; rfl
    | inner hk hp _ ih => rw [unwrap_eq, if_pos hk, hp]; exact ih
  · rintro rfl
    exact bare_unwrap n

theorem isFunctionValue_iff {n : Node} : isFunctionValue n = true ↔ IsFunction n := by
  simp [isFunctionValue, IsFunction]

theorem holdsFunction_iff {n : Node} : isFunctionValue (unwrap n) = true ↔ HoldsFunction n := by
  rw [isFunctionValue_iff]
  constructor
  · exact fun h => ⟨unwrap n, bare_unwrap n, h⟩
  · rintro ⟨m, hm, hf⟩
    rwa [bare_iff.mp hm]

/-- Exactly one member of a list has a property and it is the last one, exactly if no member before
the last one has it. -/
theorem filter_concat_length {α : Type} {p : α → Bool} {front : List α} {last : α} :
    ((front ++ [last]).filter p).length = 1 ∧ p last = true ↔
      (∀ a ∈ front, p a = false) ∧ p last = true := by
  refine and_congr_left fun hlast => ?_
  rw [List.filter_append, List.length_append, List.filter_singleton, hlast]
  simp [List.filter_eq_nil_iff]

/-- The form a call gives to a component, by what is called and the function it is called with. -/
def callForm (callee last : Node) : Option DeclarationForm :=
  match callee.kind with
  | .member => some (.wrapped .namespaced)
  | .identifier =>
    some (.wrapped (if last.kind == .arrowFunction then .bare else .bareWithFunction))
  | _ => none

theorem formOfValue_call {v : Node} {form : DeclarationForm} (hk : (unwrap v).kind = .call) :
    formOfValue v = some form ↔
      ∃ callee f, Wraps (unwrap v) callee f ∧ callForm callee f = some form := by
  have hnot : isFunctionValue (unwrap v) = false := by simp [isFunctionValue, hk]
  simp only [formOfValue, hnot, hk, Bool.false_eq_true, if_false, beq_self_eq_true, if_true,
    Option.bind_eq_bind, Option.bind_eq_some_iff]
  constructor
  · rintro ⟨callee, hcallee, arguments, harguments, last, hlast, h⟩
    obtain ⟨front, hfront⟩ := List.getLast?_eq_some_iff.mp hlast
    split at h <;> [skip; cases h]
    rename_i hcount
    simp only [Bool.and_eq_true, beq_iff_eq, hfront] at hcount
    have hlone := filter_concat_length.mp hcount
    refine ⟨callee, unwrap last, ?_, h⟩
    refine ⟨hk, hcallee, ⟨arguments, front, last, harguments, hfront, fun a ha => ?_,
      bare_unwrap last⟩, isFunctionValue_iff.mp hcount.2⟩
    rw [← holdsFunction_iff, hlone.1 a ha]
    exact Bool.false_ne_true
  · rintro ⟨callee, f, hwraps, h⟩
    obtain ⟨arguments, front, last, harguments, hparts, hfront, hbare⟩ := hwraps.arguments
    obtain rfl := bare_iff.mp hbare
    refine ⟨callee, hwraps.callee, arguments, harguments, last, by rw [hparts]; simp, ?_⟩
    have hfunction := isFunctionValue_iff.mpr hwraps.function
    have hcount := (filter_concat_length (p := fun a => isFunctionValue (unwrap a))).mpr
      ⟨fun a ha => Bool.eq_false_iff.mpr (mt holdsFunction_iff.mp (hfront a ha)), hfunction⟩
    rw [hparts, if_pos (by simpa using hcount)]
    exact h

theorem callForm_iff {v callee f : Node} {form : DeclarationForm} (h : Wraps (unwrap v) callee f)
    (hform : callForm callee f = some form) : HasForm v form := by
  unfold callForm at hform
  split at hform
  · rename_i hk
    obtain rfl := Option.some.inj hform
    exact .namespaced (bare_unwrap v) h hk
  · rename_i hk
    obtain rfl := Option.some.inj hform
    split
    · rename_i hf
      exact .bare (bare_unwrap v) h hk (by simpa using hf)
    · rename_i hf
      exact .bareWithFunction (bare_unwrap v) h hk (h.function.resolve_left (by simpa using hf))
  · cases hform

/-- A value makes a component exactly if it has a form. -/
theorem formOfValue_iff {v : Node} {form : DeclarationForm} :
    formOfValue v = some form ↔ HasForm v form := by
  constructor
  · intro h
    by_cases hf : isFunctionValue (unwrap v) = true
    · simp only [formOfValue, hf, if_true, Option.some.injEq] at h
      subst h
      exact .function (bare_unwrap v) (isFunctionValue_iff.mp hf)
    · by_cases hk : (unwrap v).kind = .call
      · obtain ⟨callee, f, hwraps, hform⟩ := (formOfValue_call hk).mp h
        exact callForm_iff hwraps hform
      · simp [formOfValue, hf, hk] at h
  · intro h
    cases h with
    | function hbare hf =>
      obtain rfl := bare_iff.mp hbare
      simp only [formOfValue, isFunctionValue_iff.mpr hf, if_true]
    | namespaced hbare hwraps hk =>
      obtain rfl := bare_iff.mp hbare
      exact (formOfValue_call hwraps.kind).mpr ⟨_, _, hwraps, by simp only [callForm, hk]⟩
    | bare hbare hwraps hk hf =>
      obtain rfl := bare_iff.mp hbare
      exact (formOfValue_call hwraps.kind).mpr ⟨_, _, hwraps, by simp [callForm, hk, hf]⟩
    | bareWithFunction hbare hwraps hk hf =>
      obtain rfl := bare_iff.mp hbare
      exact (formOfValue_call hwraps.kind).mpr ⟨_, _, hwraps, by simp [callForm, hk, hf]⟩

/-! ## Places -/

/-- A place where a component may be declared: a statement at the top of a file, the declaration in
it, and the part of the declaration that has the name. -/
structure Site where
  statement : Node
  declaration : Node
  part : Node

/-- The declaration of a statement, which may stand behind `export`. -/
def declared? (s : Node) : Option Node :=
  if s.kind = .exportStatement then s.field? .declaration else some s

/-- The parts of a declaration that have names: a function declares its own, any other declaration
may declare one with each of its parts. -/
def namedParts (d : Node) : List Node := if d.kind = .functionDeclaration then [d] else d.parts

/-- The places of a statement. -/
def sitesOf (s : Node) : List Site :=
  (declared? s).toList.flatMap fun d => (namedParts d).map fun p => ⟨s, d, p⟩

/-- The places of a file, in their order. -/
def sitesIn (nodes : List Node) : List Site :=
  (nodes.filter fun n => n.label.named && !n.label.extra).flatMap sitesOf

/-- A place declares a component with a name: it is a function with that name, or a part of a
`const` declaration that gives the name a value which makes a component. -/
inductive Declares (source : List Char) : Site → String → DeclarationForm → Prop where
  | function {s d name : Node} : d.kind = .functionDeclaration → d.field? .name = some name →
      Declares source ⟨s, d, d⟩ (sourceText source name) .functionDeclaration
  | const {s d p name value : Node} {form : DeclarationForm} : d.kind = .lexicalDeclaration →
      d.children.head?.map Node.kind = some (.token "const") → p.kind = .declarator →
      p.field? .name = some name → name.kind = .identifier → p.field? .value = some value →
      HasForm value form → Declares source ⟨s, d, p⟩ (sourceText source name) form

/-- What a place declares. -/
def declarationAt (source : List Char) (site : Site) : Option Declaration :=
  match site.declaration.kind with
  | .functionDeclaration =>
    (site.declaration.field? .name).map fun name =>
      ⟨sourceText source name, .functionDeclaration, site.statement.range⟩
  | .lexicalDeclaration =>
    if site.declaration.children.head?.map Node.kind == some (.token "const") then
      declaratorComponent source site.statement.range site.part
    else none
  | _ => none

theorem declaratorComponent_iff {source : List Char} {range : Range} {p : Node} {d : Declaration} :
    declaratorComponent source range p = some d ↔
      p.kind = .declarator ∧ ∃ name, p.field? .name = some name ∧ name.kind = .identifier ∧
        ∃ value, p.field? .value = some value ∧ HasForm value d.form ∧
          d.name = sourceText source name ∧ d.range = range := by
  simp only [declaratorComponent, Option.bind_eq_bind, Option.bind_eq_some_iff,
    Option.guard_eq_some', Option.pure_def, Option.some.injEq, beq_iff_eq]
  constructor
  · rintro ⟨_, hk, name, hname, _, hid, value, hvalue, form, hform, rfl⟩
    exact ⟨hk, name, hname, hid, value, hvalue, formOfValue_iff.mp hform, rfl, rfl⟩
  · rintro ⟨hk, name, hname, hid, value, hvalue, hform, hn, hr⟩
    exact ⟨(), hk, name, hname, (), hid, value, hvalue, d.form, formOfValue_iff.mpr hform,
      by rw [← hn, ← hr]⟩

/-- A place of a declaration declares what it is read as, and covers its statement. -/
theorem declarationAt_iff {source : List Char} {site : Site} {d : Declaration}
    (hpart : site.part ∈ namedParts site.declaration) :
    declarationAt source site = some d ↔
      Declares source site d.name d.form ∧ d.range = site.statement.range := by
  obtain ⟨s, decl, p⟩ := site
  obtain ⟨name, form, range⟩ := d
  unfold declarationAt
  constructor
  · intro h
    split at h
    · rename_i hk
      dsimp only at hk hpart h
      obtain ⟨n, hn, he⟩ := Option.map_eq_some_iff.mp h
      obtain ⟨rfl, rfl, rfl⟩ := Declaration.mk.inj he
      obtain rfl : p = decl := by simpa [namedParts, hk] using hpart
      exact ⟨.function hk hn, rfl⟩
    · rename_i hk
      split at h <;> [skip; cases h]
      rename_i hconst
      obtain ⟨hp, n, hn, hid, value, hvalue, hform, rfl, hr⟩ := declaratorComponent_iff.mp h
      exact ⟨.const hk (by simpa using hconst) hp hn hid hvalue hform, hr⟩
    · cases h
  · rintro ⟨h, rfl⟩
    cases h with
    | function hk hn => simp only [hk, hn]; rfl
    | const hk hconst hp hn hid hvalue hform =>
      simp only [hk, hconst, beq_self_eq_true, if_true]
      exact declaratorComponent_iff.mpr ⟨hp, _, hn, hid, _, hvalue, hform, rfl, rfl⟩

theorem part_of_mem_sitesOf {s : Node} {site : Site} (h : site ∈ sitesOf s) :
    site.part ∈ namedParts site.declaration := by
  obtain ⟨d, -, h⟩ := List.mem_flatMap.mp h
  obtain ⟨p, hp, rfl⟩ := List.mem_map.mp h
  exact hp

theorem componentsOf_eq (source : List Char) (s d : Node) :
    componentsOf source s.range d =
      ((namedParts d).map (Site.mk s d)).filterMap (declarationAt source) := by
  rw [List.filterMap_map]
  unfold componentsOf namedParts
  split
  · rename_i hk
    simp only [hk, reduceCtorEq, if_false]
    split
    · rename_i hconst
      exact List.filterMap_congr fun p _ => by simp [declarationAt, hk, hconst]
    · rename_i hconst
      exact (List.filterMap_eq_nil_iff.mpr fun p _ => by simp [declarationAt, hk, hconst]).symm
  · rename_i hk
    cases hn : d.field? .name <;> simp [declarationAt, hk, hn]
  · rename_i hl hf
    refine (List.filterMap_eq_nil_iff.mpr fun p _ => ?_).symm
    simp only [Function.comp_apply, declarationAt]

/-- A statement declares what its places declare, in their order. -/
theorem declarationsOf_eq (source : List Char) (s : Node) :
    declarationsOf source s = (sitesOf s).filterMap (declarationAt source) := by
  unfold declarationsOf sitesOf declared?
  by_cases hk : s.kind = .exportStatement
  · simp only [hk, beq_self_eq_true, if_true]
    cases s.field? .declaration with
    | none => rfl
    | some d => simpa using componentsOf_eq source s d
  · simpa [hk] using componentsOf_eq source s s

/-! ## Files -/

/-- The places of a file, each with the offset behind its statement. -/
def placedSites (nodes : List Node) : List (Site × Nat) :=
  (statementsOf nodes).flatMap fun (s, following) =>
    (sitesOf s).map fun site => (site, insertionPoint s following)

theorem placedSites_map_fst (nodes : List Node) :
    (placedSites nodes).map Prod.fst = sitesIn nodes := by
  rw [sitesIn, ← statementsOf_map_fst, List.flatMap_map, placedSites, List.map_flatMap]
  simp [Function.comp_def]

/-- What a place declares, with the offset behind it. -/
def placedDeclaration (source : List Char) (x : Site × Nat) : Option (Declaration × Nat) :=
  (declarationAt source x.1).map fun d => (d, x.2)

theorem declarationsIn_eq (source : List Char) (nodes : List Node) :
    declarationsIn source nodes = (placedSites nodes).filterMap (placedDeclaration source) := by
  rw [declarationsIn, placedSites, List.filterMap_flatMap]
  refine List.flatMap_congr fun x _ => ?_
  obtain ⟨s, following⟩ := x
  simp only [declarationsOf_eq, List.filterMap_map, List.map_filterMap]
  rfl

section

variable {source : List Char} {nodes : List Node}

theorem part_of_mem_sitesIn {site : Site} (h : site ∈ sitesIn nodes) :
    site.part ∈ namedParts site.declaration := by
  obtain ⟨s, -, hs⟩ := List.mem_flatMap.mp h
  exact part_of_mem_sitesOf hs

theorem mem_sitesIn_of_mem_placedSites {x : Site × Nat} (h : x ∈ placedSites nodes) :
    x.1 ∈ sitesIn nodes := by
  rw [← placedSites_map_fst]
  exact List.mem_map_of_mem h

theorem names_iff {x : Site × Nat} (hx : x ∈ placedSites nodes) {name : String} :
    Names (placedDeclaration source) name x ↔ ∃ form, Declares source x.1 name form := by
  have hpart := part_of_mem_sitesIn (mem_sitesIn_of_mem_placedSites hx)
  constructor
  · rintro ⟨_, h, rfl⟩
    obtain ⟨d, hd, rfl⟩ := Option.map_eq_some_iff.mp h
    exact ⟨d.form, ((declarationAt_iff hpart).mp hd).1⟩
  · rintro ⟨form, h⟩
    have hd : declarationAt source x.1 = some ⟨name, form, x.1.statement.range⟩ :=
      (declarationAt_iff hpart).mpr ⟨h, rfl⟩
    exact ⟨(⟨name, form, x.1.statement.range⟩, x.2), by simp [placedDeclaration, hd], rfl⟩

end

/-- A place is the first of a file that declares a name. -/
def FirstAt (source : List Char) (nodes : List Node) (name : String) (i : Nat) : Prop :=
  FirstWhere (fun site => ∃ form, Declares source site name form) (sitesIn nodes) i

theorem firstAt_iff {source : List Char} {nodes : List Node} {name : String} {i : Nat} :
    FirstAt source nodes name i ↔
      FirstWhere (Names (placedDeclaration source) name) (placedSites nodes) i := by
  rw [FirstAt, ← placedSites_map_fst]
  exact (firstWhere_map (q := fun site => ∃ form, Declares source site name form)
    fun _ hx => names_iff hx).symm

/-- The candidates of a file are the components that its places declare. -/
structure Recognized (source : List Char) (nodes : List Node) (candidates : List Candidate) :
    Prop where
  /-- A candidate has a name exactly if a place declares a component with that name. -/
  name_iff : ∀ name, (∃ c ∈ candidates, c.name = name) ↔
    ∃ site ∈ sitesIn nodes, ∃ form, Declares source site name form
  /-- There is one candidate of a name. -/
  unique : candidates.Pairwise fun c d => c.name ≠ d.name
  /-- A candidate has its form from the first place that declares its name, and covers the
  statement of that place. -/
  first : ∀ c ∈ candidates, ∃ i site, (sitesIn nodes)[i]? = some site ∧
    FirstAt source nodes c.name i ∧ Declares source site c.name c.form ∧
      c.range = site.statement.range
  /-- Candidates stand in the order of these places. -/
  ordered : candidates.Pairwise fun c d => ∀ i j,
    FirstAt source nodes c.name i → FirstAt source nodes d.name j → i < j

/-- A candidate is declared at the first place that declares its name. -/
theorem first_of_mem_candidatesIn {source : List Char} {nodes : List Node} {c : Candidate}
    (h : c ∈ candidatesIn source nodes) :
    ∃ i site, (sitesIn nodes)[i]? = some site ∧ FirstAt source nodes c.name i ∧
      Declares source site c.name c.form ∧ c.range = site.statement.range := by
  obtain ⟨⟨d, offset⟩, hd, rfl⟩ := List.mem_map.mp h
  rw [declarationsIn_eq] at hd
  obtain ⟨i, x, hx, hg, hfirst⟩ := first_of_mem_firstOfEachName hd
  obtain ⟨d', hd', he⟩ := Option.map_eq_some_iff.mp hg
  obtain ⟨rfl, rfl⟩ := Prod.mk.inj he
  have hmem := mem_sitesIn_of_mem_placedSites (List.mem_of_getElem? hx)
  obtain ⟨hdeclares, hrange⟩ := (declarationAt_iff (part_of_mem_sitesIn hmem)).mp hd'
  refine ⟨i, x.1, ?_, firstAt_iff.mpr hfirst, hdeclares, hrange⟩
  rw [← placedSites_map_fst, List.getElem?_map, hx]
  rfl

/-- A name that a place declares is the name of a candidate. -/
theorem exists_candidate_of_declares {source : List Char} {nodes : List Node} {site : Site}
    {name : String} {form : DeclarationForm} (hs : site ∈ sitesIn nodes)
    (h : Declares source site name form) : ∃ c ∈ candidatesIn source nodes, c.name = name := by
  rw [← placedSites_map_fst] at hs
  obtain ⟨x, hx, rfl⟩ := List.mem_map.mp hs
  obtain ⟨d, hd, rfl⟩ := (names_iff hx).mpr ⟨form, h⟩
  have hmem : d ∈ declarationsIn source nodes := by
    rw [declarationsIn_eq]
    exact List.mem_filterMap.mpr ⟨x, hx, hd⟩
  obtain ⟨e, he, hname⟩ := exists_mem_firstOfEachName hmem
  exact ⟨_, List.mem_map_of_mem he, hname⟩

theorem candidatesIn_recognized (source : List Char) (nodes : List Node) :
    Recognized source nodes (candidatesIn source nodes) where
  name_iff name := by
    constructor
    · rintro ⟨c, hc, rfl⟩
      obtain ⟨i, site, hsite, -, hdeclares, -⟩ := first_of_mem_candidatesIn hc
      exact ⟨site, List.mem_of_getElem? hsite, c.form, hdeclares⟩
    · rintro ⟨site, hsite, form, h⟩
      exact exists_candidate_of_declares hsite h
  unique := candidatesIn_pairwise source nodes
  first _ := first_of_mem_candidatesIn
  ordered := by
    rw [candidatesIn, List.pairwise_map, declarationsIn_eq]
    refine (firstOfEachName_ordered _).imp fun h i j hi hj => ?_
    exact h i j (firstAt_iff.mp hi) (firstAt_iff.mp hj)

/-- The candidates of a tree without an error are exactly the components that its places declare,
each as its first place declares it and in the order of these places. What stands inside of
functions, blocks, patterns and declarations that are not constant has no part in it. -/
theorem recognized_exactly {root : Node} (clean : root.label.hasError = false)
    (source : List Char) :
    ∃ candidates, analyzeTree root source = .ok candidates ∧
      Recognized source root.children candidates ∧
      analyzeTree (.mk root.label (root.children.map trimmed)) source = .ok candidates := by
  refine ⟨_, analyzeTree_eq clean source, candidatesIn_recognized source root.children, ?_⟩
  have clean : (Node.mk root.label (root.children.map trimmed)).label.hasError = false := clean
  rw [analyzeTree_eq clean]
  exact congrArg Except.ok (candidatesIn_trimmed source root.children)

theorem recognized_exactly_sample : Tsx.fileTree.label.hasError = false ∧
    ∃ candidates, analyzeTree Tsx.fileTree Tsx.fileText = .ok candidates ∧
      candidates.map (fun c => (c.name, c.form)) =
        [("A", .arrowConst), ("B", .wrapped .bare)] ∧
      Recognized Tsx.fileText Tsx.fileTree.children candidates := by
  have clean : Tsx.fileTree.label.hasError = false := rfl
  obtain ⟨candidates, h, hrecognized, -⟩ := recognized_exactly clean Tsx.fileText
  refine ⟨clean, candidates, h, ?_, hrecognized⟩
  have hnames : (analyzeTree Tsx.fileTree Tsx.fileText).toOption.map
      (fun cs => cs.map fun c => (c.name, c.form)) =
        some [("A", .arrowConst), ("B", .wrapped .bare)] := by decide +kernel
  rw [h] at hnames
  exact Option.some.inj hnames

end Nameplate
