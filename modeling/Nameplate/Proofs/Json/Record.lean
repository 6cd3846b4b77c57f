import Mathlib.Data.List.Nodup
import Nameplate.Json.Record

/-!
# Records that can be read

Of the members of an object that have one name the last counts. An object is a record if each of
the members that count is what the field of its name asks for and no required field is missing. The
order of its members does not matter.

* `mem_sortedMembers`: of members with one name the last counts;
* `sortedMembers_perm`: members of different names all count;
* `valueOf_sortedMembers`: a record has under a name what the object has under it;
* `checkMembers_eq_ok_iff`, `checkMissing_eq_ok_iff`: what the two checks ask for;
* `fromObject_eq_ok`: an object is a record exactly if its members are what the fields ask for;
* `fromArray_eq_ok`: and an array, if it has a value for each of them;
* `members_object`: an object that is a record is read, and gives each of its members;
* `keyedMembers_of_sorted`: so is one with parts, if its members stand in their order.
-/

namespace Nameplate.Json

variable {ms : List (String × Value)} {fields : List Field}

/-! ## Members that count -/

/-- Of the members with one name the last. -/
def lastMembers (ms : List (String × Value)) : List (String × Value) :=
  ms.foldr (fun m found => if found.any (fun f => f.1 == m.1) then found else m :: found) []

theorem lastMembers_cons (m : String × Value) (ms : List (String × Value)) :
    lastMembers (m :: ms) =
      if (lastMembers ms).any (fun f => f.1 == m.1) then lastMembers ms else m :: lastMembers ms :=
  rfl

theorem sortedMembers_perm_lastMembers (ms : List (String × Value)) :
    (Value.sortedMembers ms).Perm (lastMembers ms) :=
  List.mergeSort_perm ..

theorem get?_cons (m : String × Value) (ms : List (String × Value)) (name : String) :
    (Value.object (m :: ms)).get? name =
      ((Value.object ms).get? name).or (if m.1 = name then some m.2 else none) := by
  simp only [Value.get?, List.reverse_cons, List.find?_append, Option.map_or]
  by_cases h : m.1 = name <;> simp [h]

theorem mem_lastMembers {m : String × Value} :
    m ∈ lastMembers ms ↔ (Value.object ms).get? m.1 = some m.2 := by
  induction ms generalizing m with
  | nil => simp [lastMembers, Value.get?]
  | cons c ms ih =>
    have hany : (lastMembers ms).any (fun f => f.1 == c.1) = true ↔
        ∃ v, (Value.object ms).get? c.1 = some v := by
      simp only [List.any_eq_true, beq_iff_eq]
      constructor
      · rintro ⟨f, hf, hname⟩
        exact ⟨f.2, hname ▸ ih.mp hf⟩
      · rintro ⟨v, hv⟩
        exact ⟨(c.1, v), ih.mpr hv, rfl⟩
    rw [lastMembers_cons, get?_cons]
    split
    · rename_i hlater
      obtain ⟨v, hv⟩ := hany.mp hlater
      rw [ih]
      by_cases hname : c.1 = m.1
      · rw [← hname, hv]
        rfl
      · rw [if_neg hname, Option.or_none]
    · rename_i hlast
      have hnone : (Value.object ms).get? c.1 = none := by
        simpa [Option.eq_none_iff_forall_ne_some] using mt hany.mpr hlast
      rw [List.mem_cons, ih]
      by_cases hname : c.1 = m.1
      · rw [if_pos hname, ← hname, hnone, Option.none_or, Option.some.injEq, Prod.ext_iff, hname]
        simp [eq_comm]
      · rw [if_neg hname, Option.or_none, or_iff_right]
        rintro rfl
        exact hname rfl

theorem nodup_lastMembers (ms : List (String × Value)) :
    ((lastMembers ms).map Prod.fst).Nodup := by
  induction ms with
  | nil => exact List.nodup_nil
  | cons c ms ih =>
    rw [lastMembers_cons]
    split
    · exact ih
    · rename_i hlast
      refine List.nodup_cons.mpr ⟨fun hmem => hlast ?_, ih⟩
      obtain ⟨f, hf, hname⟩ := List.mem_map.mp hmem
      exact List.any_eq_true.mpr ⟨f, hf, beq_iff_eq.mpr hname⟩

theorem mem_sortedMembers {m : String × Value} :
    m ∈ Value.sortedMembers ms ↔ (Value.object ms).get? m.1 = some m.2 := by
  rw [← mem_lastMembers]
  exact (sortedMembers_perm_lastMembers ms).mem_iff

theorem nodup_sortedMembers (ms : List (String × Value)) :
    ((Value.sortedMembers ms).map Prod.fst).Nodup :=
  ((sortedMembers_perm_lastMembers ms).map Prod.fst).nodup_iff.mpr (nodup_lastMembers ms)

/-- Members of different names are all kept, in another order. -/
theorem sortedMembers_perm (h : (ms.map Prod.fst).Nodup) : (Value.sortedMembers ms).Perm ms := by
  have hkept : lastMembers ms = ms := by
    induction ms with
    | nil => rfl
    | cons m ms ih =>
      obtain ⟨hm, hms⟩ := List.nodup_cons.mp h
      rw [lastMembers_cons, ih hms, if_neg]
      simp only [List.any_eq_true, beq_iff_eq]
      rintro ⟨f, hf, hfm⟩
      exact hm (List.mem_map.mpr ⟨f, hf, hfm⟩)
  exact (sortedMembers_perm_lastMembers ms).trans (.of_eq hkept)

theorem valueOf_eq (h : (ms.map Prod.fst).Nodup) {m : String × Value} (hm : m ∈ ms) :
    valueOf ms m.1 = m.2 := by
  cases hfind : ms.find? fun f => f.1 == m.1 with
  | none =>
    have hno := List.find?_eq_none.mp hfind m hm
    simp at hno
  | some f =>
    have hname : f.1 = m.1 := by simpa using List.find?_some hfind
    obtain rfl := List.inj_on_of_nodup_map h (List.mem_of_find?_eq_some hfind) hm hname
    rw [valueOf, hfind]
    rfl

/-- What a record has under a name is what the object has under it. -/
theorem valueOf_sortedMembers (ms : List (String × Value)) (name : String) :
    valueOf (Value.sortedMembers ms) name = ((Value.object ms).get? name).getD .null := by
  cases h : (Value.object ms).get? name with
  | some v =>
    have hmem : (name, v) ∈ Value.sortedMembers ms := mem_sortedMembers.mpr h
    exact valueOf_eq (nodup_sortedMembers ms) hmem
  | none =>
    have hnone : (Value.sortedMembers ms).find? (fun m => m.1 == name) = none := by
      refine List.find?_eq_none.mpr fun m hm hname => ?_
      have hsome := mem_sortedMembers.mp hm
      rw [beq_iff_eq.mp hname, h] at hsome
      cases hsome
    rw [valueOf, hnone]
    rfl

/-! ## When an object is a record -/

theorem bind_eq_ok {α β : Type} {x : Except Mismatch α} {f : α → Except Mismatch β} {b : β} :
    x >>= f = .ok b ↔ ∃ a, x = .ok a ∧ f a = .ok b := by
  cases x <;> simp [bind, Except.bind]

theorem checked_eq_ok {α : Type} {read : Reader α} {v : Value} :
    checked read v = .ok () ↔ ∃ a, read v = .ok a := by
  rw [checked]
  cases read v <;> simp [Except.map]

theorem checkMembers_eq_ok_iff : checkMembers fields .ignored ms = .ok () ↔
    ∀ m ∈ ms, ∀ f, fields.find? (fun f => f.name == m.1) = some f → f.check m.2 = .ok () := by
  induction ms with
  | nil => simp [checkMembers]
  | cons m ms ih =>
    rw [List.forall_mem_cons, ← ih, checkMembers]
    cases hfind : fields.find? fun f => f.name == m.1 with
    | none => simp
    | some f =>
      have hunit : (∃ u, f.check m.2 = .ok u) ↔ f.check m.2 = .ok () :=
        ⟨fun ⟨_, h⟩ => h, fun h => ⟨_, h⟩⟩
      simp [bind_eq_ok, hunit]

/-- Members that are what their fields ask for pass. -/
theorem checkMembers_eq_ok (h : ∀ m ∈ ms, ∀ f ∈ fields, f.name = m.1 → f.check m.2 = .ok ()) :
    checkMembers fields .ignored ms = .ok () :=
  checkMembers_eq_ok_iff.mpr fun m hm f hf =>
    h m hm f (List.mem_of_find?_eq_some hf) (by simpa using List.find?_some hf)

theorem checkMissing_eq_ok_iff : checkMissing ms fields = .ok () ↔
    ∀ f ∈ fields, f.presence = .required → ∃ m ∈ ms, m.1 = f.name := by
  induction fields with
  | nil => simp [checkMissing]
  | cons f fields ih =>
    rw [List.forall_mem_cons, ← ih, checkMissing]
    by_cases hthere : ∃ m ∈ ms, m.1 = f.name
    · have hany : (ms.any fun m => m.1 == f.name) = true := by simpa using hthere
      simp [hany, hthere]
    · have hany : (ms.any fun m => m.1 == f.name) = false := by
        simpa [Bool.eq_false_iff] using hthere
      by_cases hf : f.presence = .required <;> simp [hany, hf, hthere]

/-- A field finds what it asks for under its name, or nothing at all if it may be left out. -/
def Field.Passes (f : Field) (v : Option Value) : Prop :=
  (∀ w, v = some w → f.check w = .ok ()) ∧ (f.presence = .required → ∃ w, v = some w)

/-- A field that is read as no null may not be left out. -/
theorem Field.of_passes_iff {α : Type} {name : String} {read : Reader α} {v : Option Value}
    (hnull : ∀ a, read .null ≠ .ok a) :
    (Field.of name read).Passes v ↔ ∃ a, read (v.getD .null) = .ok a := by
  cases v with
  | none => simp [Passes, Field.of, hnull]
  | some w => simp [Passes, Field.of, checked_eq_ok]

/-- A field that may be left out is read as null then. -/
theorem Field.optional_passes_iff {α : Type} {name : String} {read : Reader α} {v : Option Value} :
    (Field.optional name read).Passes v ↔ ∃ a, Json.optional read (v.getD .null) = .ok a := by
  cases v with
  | none => simp [Passes, Field.optional, Field.of, Json.optional]
  | some w => simp [Passes, Field.optional, Field.of, checked_eq_ok]

/-- The members pass exactly if what is there under the name of a field is what it asks for. -/
theorem checkMembers_sortedMembers (hnames : (fields.map Field.name).Nodup) :
    checkMembers fields .ignored (Value.sortedMembers ms) = .ok () ↔
      ∀ f ∈ fields, ∀ v, (Value.object ms).get? f.name = some v → f.check v = .ok () := by
  rw [checkMembers_eq_ok_iff]
  constructor
  · intro h f hf v hv
    refine h (f.name, v) (mem_sortedMembers.mpr hv) f ?_
    cases hfind : fields.find? fun g => g.name == f.name with
    | none => simpa using List.find?_eq_none.mp hfind f hf
    | some g =>
      have hname : g.name = f.name := by simpa using List.find?_some hfind
      rw [List.inj_on_of_nodup_map hnames (List.mem_of_find?_eq_some hfind) hf hname]
  · intro h m hm f hf
    have hname : f.name = m.1 := by simpa using List.find?_some hf
    exact h f (List.mem_of_find?_eq_some hf) m.2 (hname ▸ mem_sortedMembers.mp hm)

theorem checkMissing_sortedMembers : checkMissing (Value.sortedMembers ms) fields = .ok () ↔
    ∀ f ∈ fields, f.presence = .required → ∃ v, (Value.object ms).get? f.name = some v := by
  rw [checkMissing_eq_ok_iff]
  refine forall₂_congr fun f _ => imp_congr_right fun _ => ?_
  constructor
  · rintro ⟨m, hm, hname⟩
    exact ⟨m.2, hname ▸ mem_sortedMembers.mp hm⟩
  · rintro ⟨v, hv⟩
    exact ⟨(f.name, v), mem_sortedMembers.mpr hv, rfl⟩

/-- An object is a record exactly if each field passes with what is there under its name. -/
theorem fromObject_eq_ok (hnames : (fields.map Field.name).Nodup)
    {read : List (String × Value)} : fromObject fields .ignored ms = .ok read ↔
      read = Value.sortedMembers ms ∧ ∀ f ∈ fields, f.Passes ((Value.object ms).get? f.name) := by
  simp only [Field.Passes]
  rw [forall₂_and, ← checkMembers_sortedMembers hnames, ← checkMissing_sortedMembers, fromObject]
  simp only [bind_eq_ok]
  constructor
  · rintro ⟨_, hmembers, _, hmissing, hread⟩
    exact ⟨(Except.ok.inj hread).symm, hmembers, hmissing⟩
  · rintro ⟨rfl, hmembers, hmissing⟩
    exact ⟨(), hmembers, (), hmissing, rfl⟩

/-- An array is a record exactly if it has a value for each field and each is what its field asks
for. -/
theorem fromArray_eq_ok {record : String} {count length n : Nat} {vs : List Value}
    {read : List (String × Value)} (hfields : ∀ f ∈ fields, f.presence ≠ .defaulted) :
    fromArray record count length n fields vs = .ok read ↔
      List.Forall₂ (fun f v => f.check v = .ok ()) fields vs ∧
        read = List.zipWith (fun f v => (f.name, v)) fields vs := by
  induction fields generalizing n vs read with
  | nil => cases vs <;> simp [fromArray, eq_comm]
  | cons f fields ih =>
    obtain ⟨hf, hfields⟩ := List.forall_mem_cons.mp hfields
    cases vs with
    | nil => simp [fromArray, hf]
    | cons v vs =>
      simp only [fromArray, bind_eq_ok, ih hfields, List.forall₂_cons, List.zipWith_cons_cons]
      constructor
      · rintro ⟨_, hcheck, _, ⟨hrest, rfl⟩, hread⟩
        exact ⟨⟨hcheck, hrest⟩, (Except.ok.inj hread).symm⟩
      · rintro ⟨⟨hcheck, hrest⟩, rfl⟩
        exact ⟨(), hcheck, _, ⟨hrest, rfl⟩, rfl⟩

/-- An object that has all fields of a record, each as the record asks for it, is read, and gives
each of its members. -/
theorem members_object (record : String) (fields : List Field) (ms : List (String × Value))
    (hnodup : (ms.map Prod.fst).Nodup)
    (hcheck : ∀ m ∈ ms, ∀ f ∈ fields, f.name = m.1 → f.check m.2 = .ok ())
    (hthere : ∀ f ∈ fields, ∃ m ∈ ms, m.1 = f.name) :
    ∃ read, members record fields .ignored (.object ms) = .ok read ∧
      ∀ m ∈ ms, valueOf read m.1 = m.2 := by
  have hperm := sortedMembers_perm hnodup
  refine ⟨Value.sortedMembers ms, ?_, fun m hm => ?_⟩
  · have hok : checkMembers fields .ignored (Value.sortedMembers ms) = .ok () :=
      checkMembers_eq_ok fun m hm => hcheck m (hperm.mem_iff.mp hm)
    have hnone : checkMissing (Value.sortedMembers ms) fields = .ok () :=
      checkMissing_eq_ok_iff.mpr fun f hf _ => by
        obtain ⟨m, hm, hname⟩ := hthere f hf
        exact ⟨m, hperm.mem_iff.mpr hm, hname⟩
    rw [members, fromObject, hok]
    show (checkMissing (Value.sortedMembers ms) fields >>= fun _ => _) = _
    rw [hnone]
    rfl
  · exact valueOf_eq ((hperm.map Prod.fst).nodup_iff.mpr hnodup) (hperm.mem_iff.mpr hm)

/-! ## Members in their order -/

/-- Members that stand in the order of their names stay in it. -/
theorem fromObject_of_sorted (hsorted : Value.sortedMembers ms = ms)
    (hcheck : checkMembers fields .ignored ms = .ok ())
    (hmissing : checkMissing ms fields = .ok ()) : fromObject fields .ignored ms = .ok ms := by
  rw [fromObject, hsorted, hcheck]
  change checkMissing ms fields >>= _ = _
  rw [hmissing]
  rfl

/-- A record with parts is read if it is one without them and so is each of its parts. -/
theorem keyedMembers_of_sorted {record : String} {parts : List (List Field)}
    (hown : fromObject fields .ignored ms = .ok ms)
    (hparts : ∀ part ∈ parts, fromObject part .ignored ms = .ok ms) :
    keyedMembers record fields parts (.object ms) = .ok ms := by
  have hforM : (parts.forM fun part =>
      ((fromObject part .ignored ms).map fun _ => ()).mapError Mismatch.ofPart) = .ok () := by
    induction parts with
    | nil => rfl
    | cons part parts ih =>
      rw [List.forM_eq_forM, List.forM_cons, hparts part List.mem_cons_self]
      exact ih fun part hpart => hparts part (List.mem_cons_of_mem _ hpart)
  rw [keyedMembers, hown]
  change ((parts.forM fun part =>
    ((fromObject part .ignored ms).map fun _ => ()).mapError Mismatch.ofPart) >>= fun _ =>
      Except.ok ms) = Except.ok ms
  rw [hforM]
  rfl

end Nameplate.Json
