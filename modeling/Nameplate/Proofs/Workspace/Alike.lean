import Nameplate.Proofs.Workspace.Live
import Nameplate.Workspace.Path

/-!
# Files that are open and files that are not

Whether a file counts is seen from its path, and whether a document is searched for components from
its URI and its language. A file that counts is planned in the same way if it is open and if it is
not.

* `namesOf`: the names on a path;
* `isTsxUri_ofComponents`: the URI of a file that counts ends like that of a TSX file;
* `Alike`: two plans that differ in the version only;
* `planned_alike`: the plan from a document and the plan from the disk are alike if the texts are
  the same.
-/

namespace Nameplate

open Text (LineIndex bytesOf ofBytes?_bytesOf)

/-! ## Letters -/

theorem isAlpha_iff {c : Char} : c.isAlpha = true ↔ c.isUpper = true ∨ c.isLower = true := by
  show (c.isUpper || c.isLower) = true ↔ _
  rw [Bool.or_eq_true]

theorem toNat_lt_of_isAlpha {c : Char} (h : c.isAlpha = true) : c.toNat < 128 := by
  have hle : c.val ≤ 'z'.val := by
    rcases isAlpha_iff.mp h with hupper | hlower
    · exact UInt32.le_trans (of_decide_eq_true hupper).2 (by decide)
    · exact of_decide_eq_true (Bool.and_eq_true_iff.mp hlower).2
  exact Nat.lt_of_le_of_lt (UInt32.le_iff_toNat_le.mp hle) (by decide)

theorem isAlpha_of_toLower {c : Char} (h : c.toLower.isAlpha = true) : c.isAlpha = true := by
  unfold Char.toLower at h
  split at h
  · rename_i hupper
    exact isAlpha_iff.mpr (.inl (decide_eq_true hupper))
  · exact h

namespace Uri

/-- Letters are never encoded. -/
theorem inSegment_of_isAlpha {c : Char} (h : c.isAlpha = true) : inSegment c = false := by
  have hall : ∀ n < 128, (Char.ofNat n).isAlpha = true → inSegment (Char.ofNat n) = false := by
    decide
  simpa using hall c.toNat (toNat_lt_of_isAlpha h) (by simpa using h)

/-- A text of letters is written as it is. -/
theorem encode_of_isAlpha {text : List Char} (h : ∀ c ∈ text, c.isAlpha = true) :
    encode inSegment text = text := by
  induction text with
  | nil => rfl
  | cons c text ih =>
    have hc := inSegment_of_isAlpha (h c List.mem_cons_self)
    have htext := ih fun d hd => h d (List.mem_cons_of_mem _ hd)
    rw [encode, List.flatMap_cons, ← encode, htext, encodeChar, hc]
    rfl

theorem encode_append (encoded : Char → Bool) (front back : List Char) :
    encode encoded (front ++ back) = encode encoded front ++ encode encoded back :=
  List.flatMap_append

/-- The last name of a path stands at the end of its URI. -/
theorem path_ofComponents_append (names : List String) (name : String) :
    ∃ front, (ofComponents (names ++ [name])).path.toList =
      front ++ encode inSegment name.toList := by
  refine ⟨(names.flatMap fun n => '/' :: encode inSegment n.toList) ++ ['/'], ?_⟩
  simp [ofComponents]

end Uri

namespace Workspace

/-! ## The URI of a TSX file -/

/-- The names on an absolute path. -/
def namesOf (path : String) : List String := (componentsOf path.toList).map String.ofList

/-- The extension stands at the end of a name, behind a dot. -/
theorem eq_of_extension? {name e : List Char} (h : extension? name = some e) :
    ∃ stem, name = stem ++ '.' :: e := by
  unfold extension? at h
  dsimp only at h
  split at h <;> [skip; cases h]
  rename_i dot next front hdrop
  obtain rfl := Option.some.inj h
  obtain rfl : dot = '.' := by
    have hhead := List.head?_dropWhile_not (· != '.') name.reverse
    rw [hdrop] at hhead
    simpa using hhead
  have hback := @List.takeWhile_append_dropWhile _ (· != '.') name.reverse
  rw [hdrop] at hback
  refine ⟨(next :: front).reverse, ?_⟩
  calc name = name.reverse.reverse := (List.reverse_reverse name).symm
    _ = (name.reverse.takeWhile (· != '.') ++ '.' :: next :: front).reverse := by rw [hback]
    _ = _ := by simp

theorem eq_of_fileName? {path name : List Char} (h : fileName? path = some name) :
    ∃ names, componentsOf path = names ++ [name] := by
  unfold fileName? at h
  split at h <;> [skip; cases h]
  rename_i last hlast
  split at h <;> [cases h; skip]
  obtain rfl := Option.some.inj h
  exact List.getLast?_eq_some_iff.mp hlast

/-- A path to a TSX file has a last name, which ends with a dot and the extension. -/
theorem namesOf_of_isTsxPath {path : String} (h : isTsxPath path = true) :
    ∃ names stem e, namesOf path = names ++ [String.ofList (stem ++ '.' :: e)] ∧
      e.map Char.toLower = ['t', 's', 'x'] := by
  unfold isTsxPath at h
  split at h <;> [skip; cases h]
  rename_i e hextension
  obtain ⟨name, hname, he⟩ := Option.bind_eq_some_iff.mp hextension
  obtain ⟨stem, rfl⟩ := eq_of_extension? he
  obtain ⟨names, hnames⟩ := eq_of_fileName? hname
  refine ⟨names.map String.ofList, stem, e, ?_, by simpa using h⟩
  rw [namesOf, hnames, List.map_append, List.map_singleton]

/-- The URI of a TSX file ends like that of a TSX file. -/
theorem isTsxUri_ofComponents {path : String} (h : isTsxPath path = true) :
    isTsxUri (Uri.ofComponents (namesOf path)) = true := by
  obtain ⟨names, stem, e, hnames, he⟩ := namesOf_of_isTsxPath h
  have halpha : ∀ c ∈ e, c.isAlpha = true := by
    intro c hc
    have hmem : c.toLower ∈ e.map Char.toLower := List.mem_map_of_mem hc
    rw [he] at hmem
    simp only [List.mem_cons, List.not_mem_nil, or_false] at hmem
    apply isAlpha_of_toLower
    rcases hmem with h | h | h <;> rw [h] <;> rfl
  have hencode : Uri.encode Uri.inSegment (stem ++ '.' :: e) =
      Uri.encode Uri.inSegment stem ++ '.' :: e := by
    rw [Uri.encode_append, ← List.singleton_append, Uri.encode_append, Uri.encode_of_isAlpha halpha]
    rfl
  obtain ⟨front, hfront⟩ := Uri.path_ofComponents_append names (String.ofList (stem ++ '.' :: e))
  rw [String.toList_ofList, hencode, ← List.append_assoc] at hfront
  rw [isTsxUri, hnames, hfront, List.map_append, List.map_cons, he, List.reverse_append]
  rfl

/-- A document whose URI ends like that of a TSX file is searched for components, in whatever
language it is opened. -/
theorem analyzable_run {u : Uri} (hu : isTsxUri u = true) (ops : List Operation) :
    ∀ p ∈ Reference.run ops u, p.analyzable = true := by
  induction ops using List.reverseRecOn with
  | nil => nofun
  | append_singleton ops op ih =>
    intro p hp
    rw [Reference.run_append_singleton, Reference.step] at hp
    split at hp <;> [skip; exact ih p hp]
    rename_i hop
    cases op with
    | opening v given text language =>
      obtain rfl := Option.some.inj hp
      obtain rfl : v = u := hop
      simp [isTsxDocument, hu]
    | change v given text =>
      obtain ⟨q, hq, rfl⟩ := Option.map_eq_some_iff.mp hp
      exact ih q hq
    | close v => cases hp
    | analyze v => exact ih p hp
    | version v => exact ih p hp
    | state v => exact ih p hp

/-! ## Plans -/

/-- Two plans for a file, from a document with a version and from the disk: there is the same to do,
and nothing but the version of an edit is different. A file that can be planned is not skipped. -/
inductive Alike (u : Uri) (version : Int) : FilePlan → FilePlan → Prop where
  | edit (edits : List Naming.PositionedEdit) :
      Alike u version (.edit ⟨u, some version, edits⟩) (.edit ⟨u, none, edits⟩)
  | upToDate : Alike u version .upToDate .upToDate
  | failure (e : AnalysisError) : Alike u version (.failure e) (.failure e)

theorem alike_planOutcome (label : String) (u : Uri) (version : Int) (index : LineIndex)
    (outcome : Outcome) :
    Alike u version (planOutcome label u (some version) index outcome)
      (planOutcome label u none index outcome) := by
  cases outcome with
  | failure e => exact .failure e
  | components candidates =>
    simp only [planOutcome]
    split
    · exact .upToDate
    · exact .edit _

/-- A TSX file is planned alike from a document and from the disk, if the text is the same; and its
URI is that of a document that is searched for components, whatever the language. -/
theorem planned_alike {path : String} (hpath : isTsxPath path = true) (label : String)
    (ops ops' : List Operation) (disk disk' : Entry) {d : OpenDocument}
    (hopen : (Store.run {} ops).get? (Uri.ofComponents (namesOf path)) = some d)
    (hclosed : (Store.run {} ops').isOpen (Uri.ofComponents (namesOf path)) = false)
    (hread : disk'.read? (namesOf path) = some (bytesOf d.document.text)) :
    (∀ language, isTsxDocument (Uri.ofComponents (namesOf path)) language = true) ∧
    Alike (Uri.ofComponents (namesOf path)) d.version
      (planFile disk (Store.run {} ops) label (namesOf path)).1
      (planFile disk' (Store.run {} ops') label (namesOf path)).1 := by
  have hu := isTsxUri_ofComponents hpath
  refine ⟨fun language => by simp [isTsxDocument, hu], ?_⟩
  have hpage : Reference.run ops (Uri.ofComponents (namesOf path)) = some d.document.page := by
    rw [← Store.page_run, hopen]
    rfl
  have hnone : Reference.run ops' (Uri.ofComponents (namesOf path)) = none := by
    rw [← Store.page_run]
    simpa [Store.isOpen] using hclosed
  have hanalyzable : d.document.analyzable = true := analyzable_run hu ops _ hpage
  have hversion : d.document.version = d.version := (Store.sound_run ops _ d hopen).version.symm
  have htext := ofBytes?_bytesOf (String.ofList d.document.text)
  rw [String.toList_ofList] at htext
  -- The first plan is made from the page and the second one from the bytes of its text.
  rw [planFile_run, planFile_run, planOf, planOf, hpage, hnone]
  simp only [planPage, planContent, hread, Option.bind_some, htext, String.toList_ofList,
    Page.analysis, Document.page, hanalyzable, hversion, if_true]
  exact alike_planOutcome ..

/-- A document under the URI of a path: it was opened as a plain text, and changed. -/
def plainHistory (path : String) (text : List Char) : List Operation :=
  [.opening (Uri.ofComponents (namesOf path)) 3 ['a'] "plaintext",
    .change (Uri.ofComponents (namesOf path)) 7 text]

/-- A file with a blank in its name and an extension in capitals. -/
theorem planned_alike_sample :
    let path := "/src/./My Card.TSX"
    let text := "const A = () => 1;".toList
    let disk := (Entry.directory []).write (namesOf path) (.file (bytesOf text))
    isTsxPath path = true ∧
      (Uri.ofComponents (namesOf path)).text = "file:///src/My%20Card.TSX" ∧
      Alike (Uri.ofComponents (namesOf path)) 7
        (planFile (.directory []) (Store.run {} (plainHistory path text)) "X_" (namesOf path)).1
        (planFile disk (Store.run {} []) "X_" (namesOf path)).1 := by
  intro path text disk
  have hpath : isTsxPath path = true := by decide +kernel
  have hpage : Reference.run (plainHistory path text) (Uri.ofComponents (namesOf path)) =
      some ⟨7, text, true⟩ := by decide +kernel
  rw [← Store.page_run] at hpage
  obtain ⟨d, hd, hdpage⟩ := Option.map_eq_some_iff.mp hpage
  have hversion : d.version = 7 :=
    (Store.sound_run _ _ d hd).version.trans (congrArg Page.version hdpage)
  have htext : d.document.text = text := congrArg Page.text hdpage
  have halike := planned_alike hpath "X_" (plainHistory path text) [] (.directory []) disk hd
    (by decide +kernel) (by rw [htext]; exact Entry.read?_write ..)
  exact ⟨hpath, by decide +kernel, hversion ▸ halike.2⟩

end Workspace

end Nameplate
