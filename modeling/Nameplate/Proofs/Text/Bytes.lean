import Nameplate.Text.Bytes
import Nameplate.Text.Range

/-!
# The bytes of a text

What is known of the UTF-8 bytes of a text: how many there are, and where ASCII codes stand among
them.

* `ascii_of_mem_utf8EncodeChar`: a character of several bytes has no ASCII code among them;
* `length_bytesOf`, `take_bytesOf`: bytes and byte offsets;
* `count_lineFeed_bytesOf`: line feeds are counted alike in characters and in bytes.
-/

namespace Nameplate.Text

/-- A byte of a character that is an ASCII code is the code of the character. -/
theorem ascii_of_mem_utf8EncodeChar {c : Char} {b : UInt8} (hb : b.toNat < 0x80)
    (h : b ∈ String.utf8EncodeChar c) : b.toNat = c.toNat := by
  have hlt : ∀ n, n < 256 → (UInt8.ofNat n).toNat = n := fun n hn => UInt8.toNat_ofNat_of_lt' hn
  unfold String.utf8EncodeChar at h
  dsimp only at h
  split at h
  · rw [List.mem_singleton.mp h, hlt _ (by omega)]
    rfl
  -- In a character of several bytes none of them is an ASCII code.
  · exfalso
    split at h
    · simp only [List.mem_cons, List.not_mem_nil, or_false] at h
      obtain rfl | rfl := h <;> rw [hlt _ (by omega)] at hb <;> omega
    · split at h
      · simp only [List.mem_cons, List.not_mem_nil, or_false] at h
        obtain rfl | rfl | rfl := h <;> rw [hlt _ (by omega)] at hb <;> omega
      · simp only [List.mem_cons, List.not_mem_nil, or_false] at h
        obtain rfl | rfl | rfl | rfl := h <;> rw [hlt _ (by omega)] at hb <;> omega

@[simp] theorem bytesOf_cons (c : Char) (text : List Char) :
    bytesOf (c :: text) = String.utf8EncodeChar c ++ bytesOf text := List.flatMap_cons

theorem bytesOf_append (a b : List Char) : bytesOf (a ++ b) = bytesOf a ++ bytesOf b :=
  List.flatMap_append

theorem length_bytesOf (text : List Char) : (bytesOf text).length = byteLength text := by
  induction text with
  | nil => rfl
  | cons c text ih =>
    rw [bytesOf_cons, List.length_append, String.length_utf8EncodeChar, ih, byteLength_cons]

/-- The bytes before an offset are the bytes of what stands before it. -/
theorem take_bytesOf (front back : List Char) :
    (bytesOf (front ++ back)).take (byteLength front) = bytesOf front := by
  rw [bytesOf_append, ← length_bytesOf, List.take_left]

theorem lineFeed_not_mem_utf8EncodeChar {c : Char} (h : c ≠ '\n') :
    (0x0A : UInt8) ∉ String.utf8EncodeChar c := by
  intro hmem
  have hcode : '\n'.toNat = c.toNat := ascii_of_mem_utf8EncodeChar (by decide) hmem
  exact h (Char.toNat_inj.mp hcode).symm

theorem count_lineFeed_bytesOf (text : List Char) :
    (bytesOf text).count 0x0A = text.count '\n' := by
  induction text with
  | nil => rfl
  | cons c text ih =>
    rw [bytesOf_cons, List.count_append, List.count_cons, ih]
    by_cases hc : c = '\n'
    · subst hc
      exact Nat.add_comm _ _
    · rw [List.count_eq_zero.mpr (lineFeed_not_mem_utf8EncodeChar hc), if_neg (by simpa using hc)]
      omega

end Nameplate.Text
