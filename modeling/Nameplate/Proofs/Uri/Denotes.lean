import Nameplate.Proofs.Text.Bytes
import Nameplate.Workspace.Disk

/-!
# The URI of a path

A path is written as a URI with some characters encoded. The URI stands for this path again.

* `decode_encode`: an encoded text stands for its bytes, if percent signs are encoded;
* `IsPath`: a list of names that a path may have;
* `pathOf?_ofComponents`: the URI of a path stands for the path.
-/

namespace Nameplate

open Text (bytesOf ofBytes? ascii_of_mem_utf8EncodeChar)

/-! ## Percent-encoding -/

namespace Uri

theorem hexValue_hexDigit : ∀ n < 16, hexValue (hexDigit n) = some n := by decide

theorem decode_cons {c : Char} (hc : c ≠ '%') (rest : List Char) :
    decode (c :: rest) = String.utf8EncodeChar c ++ decode rest := by
  rw [decode]
  rintro a b more rfl -
  exact hc rfl

theorem decode_encodeByte (b : UInt8) (rest : List Char) :
    decode (encodeByte b ++ rest) = b :: decode rest := by
  have hb : b.toNat < 256 := UInt8.toNat_lt b
  have hsum : b.toNat / 16 * 16 + b.toNat % 16 = b.toNat := by omega
  show decode ('%' :: hexDigit (b.toNat / 16) :: hexDigit (b.toNat % 16) :: rest) = _
  rw [decode, hexValue_hexDigit _ (by omega), hexValue_hexDigit _ (by omega)]
  simp only [hsum, UInt8.ofNat_toNat]

theorem decode_encodeBytes (bytes : List UInt8) (rest : List Char) :
    decode (bytes.flatMap encodeByte ++ rest) = bytes ++ decode rest := by
  induction bytes with
  | nil => rfl
  | cons b bytes ih => rw [List.flatMap_cons, List.append_assoc, decode_encodeByte, ih,
      List.cons_append]

/-- An encoded text stands for the bytes of the text. A percent sign in the text has to be among
what is encoded: otherwise it would be read as the start of a byte. -/
theorem decode_encode {encoded : Char → Bool} (h : encoded '%' = true) (text rest : List Char) :
    decode (encode encoded text ++ rest) = bytesOf text ++ decode rest := by
  induction text with
  | nil => rfl
  | cons c text ih =>
    have htail : encode encoded (c :: text) ++ rest =
        encodeChar encoded c ++ (encode encoded text ++ rest) := by
      rw [encode, List.flatMap_cons, List.append_assoc, ← encode]
    have hbytes : bytesOf (c :: text) = String.utf8EncodeChar c ++ bytesOf text := by
      rw [bytesOf, List.flatMap_cons, ← bytesOf]
    rw [htail, hbytes, List.append_assoc, ← ih]
    unfold encodeChar
    split
    · exact decode_encodeBytes _ _
    · rename_i hc
      have hne : c ≠ '%' := by
        rintro rfl
        exact hc h
      exact decode_cons hne _

/-! ## Bytes between slashes -/

theorem slash_not_mem_bytesOf {text : List Char} (h : '/' ∉ text) :
    (0x2F : UInt8) ∉ bytesOf text := by
  intro hmem
  obtain ⟨c, hc, hb⟩ := List.mem_flatMap.mp hmem
  have hcode : '/'.toNat = c.toNat := ascii_of_mem_utf8EncodeChar (by decide) hb
  exact h (Char.toNat_inj.mp hcode ▸ hc)

open fileComponents? (splitBytes)

theorem splitBytes_append {bytes : List UInt8} (h : 0x2F ∉ bytes) (rest : List UInt8) :
    splitBytes (bytes ++ 0x2F :: rest) = bytes :: splitBytes rest := by
  induction bytes with
  | nil => rfl
  | cons b bytes ih =>
    rw [List.mem_cons, not_or] at h
    obtain ⟨hb, hbytes⟩ := h
    rw [List.cons_append, splitBytes, List.foldr_cons, ← splitBytes, ih hbytes,
      if_neg (by simpa using fun he => hb he.symm)]

theorem splitBytes_of_not_mem {bytes : List UInt8} (h : 0x2F ∉ bytes) :
    splitBytes bytes = [bytes] := by
  induction bytes with
  | nil => rfl
  | cons b bytes ih =>
    rw [List.mem_cons, not_or] at h
    obtain ⟨hb, hbytes⟩ := h
    rw [splitBytes, List.foldr_cons, ← splitBytes, ih hbytes,
      if_neg (by simpa using fun he => hb he.symm)]

/-- The names in the text of a path are found between its slashes. -/
theorem splitBytes_decode (name : String) (names : List String)
    (h : ∀ n ∈ name :: names, '/' ∉ n.toList) :
    splitBytes (decode (encode inSegment name.toList ++
        names.flatMap fun n => '/' :: encode inSegment n.toList)) =
      (name :: names).map fun n => bytesOf n.toList := by
  induction names generalizing name with
  | nil =>
    have hdecode : decode (encode inSegment name.toList ++ []) = bytesOf name.toList ++ decode [] :=
      decode_encode rfl name.toList []
    rw [List.flatMap_nil, hdecode, decode, List.append_nil,
      splitBytes_of_not_mem (slash_not_mem_bytesOf (h name List.mem_cons_self))]
    rfl
  | cons next names ih =>
    have hslash : ∀ rest, decode ('/' :: rest) = 0x2F :: decode rest :=
      fun rest => decode_cons (by decide) rest
    rw [List.flatMap_cons, List.cons_append, decode_encode rfl, hslash,
      splitBytes_append (slash_not_mem_bytesOf (h name List.mem_cons_self)),
      ih next fun n hn => h n (List.mem_cons_of_mem _ hn)]
    rfl

end Uri

/-! ## Paths -/

/-- The bytes of a text are read back as the text. -/
theorem Text.ofBytes?_bytesOf (s : String) : ofBytes? (bytesOf s.toList) = some s := by
  have hbytes : (⟨(bytesOf s.toList).toArray⟩ : ByteArray) = s.toByteArray := by
    rw [← String.utf8Encode_toList, List.utf8Encode]
    exact ByteArray.ext List.data_toByteArray.symm
  rw [ofBytes?, hbytes, String.fromUTF8?, dif_pos s.isValidUTF8]
  rfl

namespace Workspace

/-- The names on the way to a file: a name is not empty, and there is no slash in it. -/
def IsPath (path : List String) : Prop := ∀ name ∈ path, name ≠ "" ∧ '/' ∉ name.toList

instance (path : List String) : Decidable (IsPath path) :=
  inferInstanceAs (Decidable (∀ name ∈ path, name ≠ "" ∧ '/' ∉ name.toList))

/-- The URI of a path stands for the path. -/
theorem pathOf?_ofComponents {path : List String} (h : IsPath path) :
    pathOf? (Uri.ofComponents path) = some path := by
  cases path with
  | nil => decide +kernel
  | cons name names =>
    have hparts : (Uri.ofComponents (name :: names)).fileComponents? =
        some ((name :: names).map fun n => bytesOf n.toList) := by
      have htext : (Uri.ofComponents (name :: names)).path.toList =
          '/' :: (Uri.encode Uri.inSegment name.toList ++
            names.flatMap fun n => '/' :: Uri.encode Uri.inSegment n.toList) := by
        simp [Uri.ofComponents]
      have hlocal : (Uri.ofComponents (name :: names)).isLocal = true := rfl
      rw [Uri.fileComponents?, hlocal, htext, List.head?_cons, List.drop_one, List.tail_cons,
        Uri.splitBytes_decode name names fun n hn => (h n hn).2]
      rfl
    have hfull : ∀ bytes ∈ (name :: names).map (fun n => bytesOf n.toList), bytes != [] := by
      intro bytes hbytes
      obtain ⟨n, hn, rfl⟩ := List.mem_map.mp hbytes
      have hempty : bytesOf n.toList = [] → n = "" := by
        simp [bytesOf, ← List.eq_nil_iff_forall_not_mem]
      simpa using fun he => (h n hn).1 (hempty he)
    have hread : (fun n : String => (ofBytes? (bytesOf n.toList)).getD "") = id := by
      funext n
      rw [Text.ofBytes?_bytesOf]
      rfl
    rw [pathOf?, hparts, Option.map_some, List.filter_eq_self.mpr hfull, List.map_map]
    exact congrArg some ((congrArg (List.map · _) hread).trans (List.map_id _))

end Workspace

end Nameplate
