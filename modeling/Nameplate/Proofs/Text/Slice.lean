import Nameplate.Text.Range

/-!
# Parts of a text

A part of a text is best described by what stands before and behind it. This module says so of the
functions that cut a text at byte offsets:

* `StandsAt text offset part`: the part stands in the text at the offset;
* `dropBytes_eq_some`, `takeBytes_eq_some`, `slice_eq_some`: the three ways to cut, in those words;
* `StandsAt.left`, `StandsAt.right`, `StandsAt.between`: parts side by side;
* `standsAt_start`, `standsAt_stop`: a part starts and stops between two characters.
-/

namespace Nameplate.Text

theorem byteLength_eq_zero {text : List Char} : byteLength text = 0 ↔ text = [] := by
  cases text with
  | nil => simp
  | cons c text =>
    have := c.utf8Size_pos
    simp only [byteLength_cons, reduceCtorEq, iff_false]
    omega

/-- Of two ways to cut a text in two, the one with the shorter front comes first. -/
theorem append_eq_append_of_byteLength_le {a b c d : List Char} (h : a ++ b = c ++ d)
    (hle : byteLength a ≤ byteLength c) : ∃ m, c = a ++ m ∧ b = m ++ d := by
  rcases List.append_eq_append_iff.mp h with ⟨m, hc, hb⟩ | ⟨m, ha, hd⟩
  · exact ⟨m, hc, hb⟩
  · have hm : m = [] := by
      rw [ha, byteLength_append] at hle
      exact byteLength_eq_zero.mp (by omega)
    subst hm
    exact ⟨[], by simpa using ha.symm, by simpa using hd.symm⟩

/-! ## Cutting -/

theorem dropBytes_append (front rest : List Char) :
    dropBytes (byteLength front) (front ++ rest) = some rest := by
  induction front with
  | nil => simp [dropBytes]
  | cons c front ih =>
    have hc := c.utf8Size_pos
    obtain ⟨n, hn⟩ : ∃ n, c.utf8Size + byteLength front = n + 1 :=
      ⟨c.utf8Size + byteLength front - 1, by omega⟩
    rw [byteLength_cons, List.cons_append, hn, dropBytes, if_pos (by omega),
      show n + 1 - c.utf8Size = byteLength front by omega, ih]

theorem takeBytes_append (front rest : List Char) :
    takeBytes (byteLength front) (front ++ rest) = some front := by
  induction front with
  | nil => simp [takeBytes]
  | cons c front ih =>
    have hc := c.utf8Size_pos
    obtain ⟨n, hn⟩ : ∃ n, c.utf8Size + byteLength front = n + 1 :=
      ⟨c.utf8Size + byteLength front - 1, by omega⟩
    rw [byteLength_cons, List.cons_append, hn, takeBytes, if_pos (by omega),
      show n + 1 - c.utf8Size = byteLength front by omega, ih, Option.map_some]

theorem dropBytes_eq_some {n : Nat} {text rest : List Char} :
    dropBytes n text = some rest ↔ ∃ front, text = front ++ rest ∧ byteLength front = n := by
  constructor
  · intro h
    fun_induction dropBytes n text with
    | case1 text => exact ⟨[], by simpa using h, rfl⟩
    | case2 => cases h
    | case3 n c text hc ih =>
      obtain ⟨front, rfl, hl⟩ := ih h
      exact ⟨c :: front, rfl, by rw [byteLength_cons]; omega⟩
    | case4 => cases h
  · rintro ⟨front, rfl, rfl⟩
    exact dropBytes_append front rest

theorem takeBytes_eq_some {n : Nat} {text front : List Char} :
    takeBytes n text = some front ↔ ∃ rest, text = front ++ rest ∧ byteLength front = n := by
  constructor
  · intro h
    fun_induction takeBytes n text generalizing front with
    | case1 text => cases h; exact ⟨text, rfl, rfl⟩
    | case2 => cases h
    | case3 n c text hc ih =>
      obtain ⟨front, hf, rfl⟩ := Option.map_eq_some_iff.mp h
      obtain ⟨rest, rfl, hl⟩ := ih hf
      exact ⟨rest, rfl, by rw [byteLength_cons]; omega⟩
    | case4 => cases h
  · rintro ⟨rest, rfl, rfl⟩
    exact takeBytes_append front rest

/-! ## Parts -/

/-- A part stands in a text at a byte offset. -/
def StandsAt (text : List Char) (offset : Nat) (part : List Char) : Prop :=
  ∃ front back, text = front ++ (part ++ back) ∧ byteLength front = offset

theorem slice_eq_some {text part : List Char} {r : Range} :
    slice text r = some part ↔ StandsAt text r.start part ∧ r.stop = r.start + byteLength part := by
  unfold slice
  constructor
  · intro h
    split at h
    · rename_i hr
      obtain ⟨rest, hd, ht⟩ := Option.bind_eq_some_iff.mp h
      obtain ⟨front, rfl, hf⟩ := dropBytes_eq_some.mp hd
      obtain ⟨back, rfl, hp⟩ := takeBytes_eq_some.mp ht
      exact ⟨⟨front, back, rfl, hf⟩, by omega⟩
    · cases h
  · rintro ⟨⟨front, back, rfl, hf⟩, hs⟩
    rw [if_pos (by omega), ← hf, dropBytes_append, Option.bind_some, hs, hf,
      Nat.add_sub_cancel_left, takeBytes_append]

theorem start_le_stop_of_slice {text : List Char} {r : Range} (h : (slice text r).isSome) :
    r.start ≤ r.stop := by
  obtain ⟨part, hp⟩ := Option.isSome_iff_exists.mp h
  have := (slice_eq_some.mp hp).2
  omega

theorem StandsAt.left {text a b : List Char} {offset : Nat} (h : StandsAt text offset (a ++ b)) :
    StandsAt text offset a := by
  obtain ⟨f, r, rfl, hf⟩ := h
  exact ⟨f, b ++ r, by simp, hf⟩

theorem StandsAt.right {text a b : List Char} {offset : Nat} (h : StandsAt text offset (a ++ b)) :
    StandsAt text (offset + byteLength a) b := by
  obtain ⟨f, r, rfl, hf⟩ := h
  exact ⟨f ++ a, r, by simp, by rw [byteLength_append, hf]⟩

/-- A part starts between two characters. -/
theorem standsAt_start {text : List Char} {r : Range} (h : (slice text r).isSome) :
    StandsAt text r.start [] := by
  obtain ⟨part, hp⟩ := Option.isSome_iff_exists.mp h
  exact StandsAt.left (a := []) (slice_eq_some.mp hp).1

/-- A part stops between two characters. -/
theorem standsAt_stop {text : List Char} {r : Range} (h : (slice text r).isSome) :
    StandsAt text r.stop [] := by
  obtain ⟨part, hp⟩ := Option.isSome_iff_exists.mp h
  obtain ⟨hat, hstop⟩ := slice_eq_some.mp hp
  rw [hstop]
  exact StandsAt.right (a := part) (b := []) (by simpa using hat)

theorem slice_empty_of_slice {text : List Char} {r : Range} (h : (slice text r).isSome) :
    (slice text (.empty r.stop)).isSome :=
  Option.isSome_iff_exists.mpr ⟨[], slice_eq_some.mpr ⟨standsAt_stop h, rfl⟩⟩

/-- A part ends inside the text. -/
theorem StandsAt.le_byteLength {text a : List Char} {offset : Nat} (h : StandsAt text offset a) :
    offset + byteLength a ≤ byteLength text := by
  obtain ⟨f, r, rfl, hf⟩ := h
  simp only [byteLength_append]
  omega

/-- What stands between two parts. -/
theorem StandsAt.between {text a b : List Char} {i j : Nat} (ha : StandsAt text i a)
    (hb : StandsAt text j b) (hi : i + byteLength a ≤ j) :
    ∃ gap, StandsAt text (i + byteLength a) gap ∧ i + byteLength a + byteLength gap = j := by
  obtain ⟨f, r, rfl, hf⟩ := ha
  obtain ⟨f', r', h, hf'⟩ := hb
  obtain ⟨m, rfl, h⟩ := append_eq_append_of_byteLength_le
    (show (f ++ a) ++ r = f' ++ (b ++ r') by simpa using h) (by rw [byteLength_append]; omega)
  simp only [byteLength_append] at hf'
  exact ⟨m, ⟨f ++ a, b ++ r', by simp [h], by rw [byteLength_append, hf]⟩, by omega⟩

end Nameplate.Text
