import Nameplate.Proofs.Text.Bytes
import Nameplate.Proofs.Text.Position

/-!
# Positions are exact

What a `LineIndex` makes of the offsets of a text, and how to come back from a position to the
offset.

* `mem_lineStartsFrom`, `lineStartsFrom_pairwise`: the table of line starts;
* `Search`: what a search in a table may answer, and `Search.lineOf_eq`, which line that means;
* `before_append`: positions have the order of their offsets;
* `resolve`: the offset of a line and a column, and `resolve_append`, `exists_of_resolve`: which
  offset that is;
* `position_eq_some_iff`: the offsets that have a position;
* `Exact`: what follows for a text, and `exact_ofText`, for every text.
-/

namespace Nameplate.Text

/-! ## The table of line starts -/

/-- A line feed does not stand among other bytes. -/
theorem getElem?_append_eq_lineFeed {a b : List UInt8} (h : (0x0A : UInt8) ∉ a) {i : Nat} :
    (a ++ b)[i]? = some 0x0A ↔ ∃ j, b[j]? = some 0x0A ∧ i = a.length + j := by
  rcases Nat.lt_or_ge i a.length with hi | hi
  · rw [List.getElem?_append_left hi]
    constructor
    · exact fun hget => absurd (List.mem_of_getElem? hget) h
    · rintro ⟨j, -, rfl⟩
      omega
  · rw [List.getElem?_append_right hi]
    constructor
    · exact fun hget => ⟨_, hget, by omega⟩
    · rintro ⟨j, hget, rfl⟩
      rwa [Nat.add_sub_cancel_left]

/-- Lines start behind the bytes that are line feeds. -/
theorem mem_lineStartsFrom {offset n : Nat} {text : List Char} :
    n ∈ lineStartsFrom offset text ↔
      ∃ i, (bytesOf text)[i]? = some 0x0A ∧ n = offset + i + 1 := by
  induction text generalizing offset with
  | nil => simp [lineStartsFrom, bytesOf]
  | cons c text ih =>
    rw [lineStartsFrom, bytesOf_cons]
    by_cases hc : c = '\n'
    · subst hc
      rw [if_pos rfl, List.mem_cons, ih, show String.utf8EncodeChar '\n' = [0x0A] from rfl,
        show '\n'.utf8Size = 1 from rfl, List.singleton_append]
      constructor
      · rintro (rfl | ⟨i, hi, rfl⟩)
        · exact ⟨0, rfl, rfl⟩
        · exact ⟨i + 1, hi, by omega⟩
      · rintro ⟨i, hi, rfl⟩
        cases i with
        | zero => exact .inl rfl
        | succ i => exact .inr ⟨i, hi, by omega⟩
    · rw [if_neg hc, ih]
      simp only [getElem?_append_eq_lineFeed (lineFeed_not_mem_utf8EncodeChar hc),
        String.length_utf8EncodeChar]
      constructor
      · rintro ⟨i, hi, rfl⟩
        exact ⟨_, ⟨i, hi, rfl⟩, by omega⟩
      · rintro ⟨_, ⟨i, hi, rfl⟩, rfl⟩
        exact ⟨i, hi, by omega⟩

theorem lineStartsFrom_pairwise (offset : Nat) (text : List Char) :
    (lineStartsFrom offset text).Pairwise (· < ·) := by
  induction text generalizing offset with
  | nil => exact List.Pairwise.nil
  | cons c text ih =>
    rw [lineStartsFrom]
    split
    · exact List.Pairwise.cons (fun n hn => (lt_of_mem_lineStartsFrom hn).1) (ih _)
    · exact ih _

/-! ## The search in the table -/

namespace LineIndex

/-- What a search for a value in an increasing table may answer: where the value stands, or where it
would have to be put. -/
inductive Search (table : Array Nat) (value : Nat) : Except Nat Nat → Prop where
  | found {i : Nat} : table[i]? = some value → Search table value (.ok i)
  | absent {next : Nat} : next ≤ table.size → (∀ i < next, ∀ n ∈ table[i]?, n < value) →
      (∀ i, next ≤ i → ∀ n ∈ table[i]?, value < n) → Search table value (.error next)

/-- The line that an answer stands for: the one that starts at the value, or the one before the
place where the value would have to be put. -/
def lineFound : Except Nat Nat → Nat
  | .ok line => line
  | .error next => next - 1

section

variable {table : Array Nat} {value : Nat}

theorem lt_of_increasing (increasing : table.toList.Pairwise (· < ·)) {i j m n : Nat}
    (hij : i < j) (hm : table[i]? = some m) (hn : table[j]? = some n) : m < n := by
  rw [← Array.getElem?_toList, List.getElem?_eq_some_iff] at hm hn
  obtain ⟨hi, rfl⟩ := hm
  obtain ⟨hj, rfl⟩ := hn
  exact List.pairwise_iff_getElem.mp increasing i j hi hj hij

/-- Bisection of a whole table. -/
theorem lineOf_size {k : Nat} (hk : k < table.size) (before : ∀ i ≤ k, ∀ n ∈ table[i]?, n ≤ value)
    (behind : ∀ i, k < i → ∀ n ∈ table[i]?, value < n) :
    lineOf table value 0 table.size = k := by
  have hget {i : Nat} (hi : i < table.size) : table.getD i 0 ∈ table[i]? := by
    rw [Array.getD_eq_getD_getElem?, Array.getElem?_eq_getElem hi, Option.getD_some]
    rfl
  exact lineOf_eq (Nat.zero_le _) hk (fun i hi => before i hi _ (hget (by omega)))
    fun i hlt hi => behind i hlt _ (hget hi)

/-- A value that is not in an increasing list has one place in it. -/
theorem exists_place {values : List Nat} (increasing : values.Pairwise (· < ·))
    (hmem : value ∉ values) :
    ∃ next ≤ values.length, (∀ i < next, ∀ n ∈ values[i]?, n < value) ∧
      ∀ i, next ≤ i → ∀ n ∈ values[i]?, value < n := by
  induction values with
  | nil => exact ⟨0, Nat.le_refl _, by simp, by simp⟩
  | cons first values ih =>
    obtain ⟨hfirst, increasing⟩ := List.pairwise_cons.mp increasing
    rw [List.mem_cons, not_or] at hmem
    rcases Nat.lt_or_gt_of_ne hmem.1 with hlt | hgt
    · refine ⟨0, Nat.zero_le _, by simp, fun i _ n hn => ?_⟩
      rcases List.mem_cons.mp (List.mem_of_getElem? hn) with rfl | hn
      · exact hlt
      · exact Nat.lt_trans hlt (hfirst n hn)
    · obtain ⟨next, hnext, before, behind⟩ := ih increasing hmem.2
      refine ⟨next + 1, Nat.succ_le_succ hnext, fun i hi n hn => ?_, fun i hi n hn => ?_⟩
      · cases i with
        | zero => exact Option.some.inj hn ▸ hgt
        | succ i => exact before i (by omega) n hn
      · cases i with
        | zero => omega
        | succ i => exact behind i (by omega) n hn

/-- A search always has an answer. -/
theorem exists_search (increasing : table.toList.Pairwise (· < ·)) (value : Nat) :
    ∃ r, Search table value r := by
  by_cases hmem : value ∈ table
  · obtain ⟨i, hi⟩ := Array.getElem?_of_mem hmem
    exact ⟨_, .found hi⟩
  · obtain ⟨next, hnext, before, behind⟩ :=
      exists_place increasing (fun h => hmem (Array.mem_toList_iff.mp h))
    refine ⟨.error next, .absent (by simpa using hnext) (fun i hi n hn => ?_)
      (fun i hi n hn => ?_)⟩
    · exact before i hi n (by rwa [Array.getElem?_toList])
    · exact behind i hi n (by rwa [Array.getElem?_toList])

/-- In a table that starts with zero every answer stands for a line, and it is the line that
bisection finds. -/
theorem Search.lineOf_eq {r : Except Nat Nat} (h : Search table value r)
    (first : table[0]? = some 0) (increasing : table.toList.Pairwise (· < ·)) :
    lineOf table value 0 table.size = lineFound r ∧ lineFound r < table.size ∧
      ∀ next, r = .error next → 0 < next := by
  cases h with
  | @found line hline =>
    have hsize : line < table.size := (Array.getElem?_eq_some_iff.mp hline).1
    refine ⟨lineOf_size hsize (fun i hi n hn => ?_) (fun i hi n hn => ?_), hsize, by simp⟩
    · rcases Nat.lt_or_eq_of_le hi with hlt | rfl
      · exact Nat.le_of_lt (lt_of_increasing increasing hlt hn hline)
      · exact Nat.le_of_eq (Option.some.inj (hn.symm.trans hline))
    · exact lt_of_increasing increasing hi hline hn
  | @absent next hnext before behind =>
    -- The first entry is zero and so not behind the value: the value is never put in front.
    have hpos : 0 < next := Nat.pos_of_ne_zero fun hzero =>
      Nat.not_lt_zero _ (behind 0 (by omega) 0 first)
    have hsize : next - 1 < table.size := by omega
    have hline : lineOf table value 0 table.size = next - 1 :=
      lineOf_size hsize (fun i hi n hn => Nat.le_of_lt (before i (by omega) n hn))
        fun i hi n hn => behind i (by omega) n hn
    exact ⟨hline, hsize, fun _ hr => Except.error.inj hr ▸ hpos⟩

end

end LineIndex

/-! ## The order of positions -/

theorem unitLength_append (a b : List Char) :
    unitLength (a ++ b) = unitLength a + unitLength b := by
  induction a with
  | nil => simp
  | cons c a ih => simp [ih, Nat.add_assoc]

theorem lastLine_append {a b : List Char} (h : '\n' ∉ b) :
    lastLine (a ++ b) = lastLine a ++ b := by
  induction a with
  | nil => exact lastLine_of_not_mem h
  | cons c a ih =>
    by_cases ha : '\n' ∈ c :: a
    · have hab : '\n' ∈ c :: (a ++ b) := List.mem_append_left b ha
      rw [List.cons_append, lastLine_cons_of_mem hab, ih, lastLine_cons_of_mem ha]
    · rw [lastLine_of_not_mem ha, lastLine_of_not_mem (by simpa [h] using ha)]

/-- A position comes before another: on an earlier line, or further left on the same line. -/
def Position.Before (p q : Position) : Prop :=
  p.line < q.line ∨ p.line = q.line ∧ p.character < q.character

/-- Whatever is added to a text moves its end on. -/
theorem before_append {a b : List Char} (h : b ≠ []) :
    Position.Before ⟨a.count '\n', unitLength (lastLine a)⟩
      ⟨(a ++ b).count '\n', unitLength (lastLine (a ++ b))⟩ := by
  rw [List.count_append]
  by_cases hb : '\n' ∈ b
  · exact .inl (Nat.lt_add_of_pos_right (List.count_pos_iff.mpr hb))
  · obtain ⟨c, b, rfl⟩ := List.exists_cons_of_ne_nil h
    rw [List.count_eq_zero.mpr hb, lastLine_append hb, unitLength_append, unitLength_cons]
    have hpos : 0 < unitSize c + unitLength b := Nat.add_pos_left (unitSize_pos c) _
    exact .inr ⟨rfl, Nat.lt_add_of_pos_right hpos⟩

/-! ## From a position to its offset -/

/-- The offset of a line and a column, if the text has such a line and the line such a column. Only
line feeds end a line. -/
def resolve : Nat → Nat → List Char → Option Nat
  | 0, 0, _ => some 0
  | _, _, [] => none
  | 0, column + 1, c :: text =>
    if c = '\n' ∨ column + 1 < unitSize c then none
    else (resolve 0 (column + 1 - unitSize c) text).map (c.utf8Size + ·)
  | line + 1, column, c :: text =>
    (resolve (if c = '\n' then line else line + 1) column text).map (c.utf8Size + ·)

/-- On its line a character is passed over whole. -/
theorem resolve_zero_cons {c : Char} (h : c ≠ '\n') (column : Nat) (text : List Char) :
    resolve 0 (unitSize c + column) (c :: text) =
      (resolve 0 column text).map (c.utf8Size + ·) := by
  obtain ⟨n, hn⟩ : ∃ n, unitSize c + column = n + 1 :=
    Nat.exists_eq_succ_of_ne_zero (Nat.ne_of_gt (Nat.add_pos_left (unitSize_pos c) column))
  have hin : ¬ (c = '\n' ∨ n + 1 < unitSize c) := by
    rw [not_or]
    exact ⟨h, by omega⟩
  rw [hn, resolve, if_neg hin, ← hn, Nat.add_sub_cancel_left]

/-- The end of a text is found from the line feeds in it and the code units behind the last of
them, whatever follows. -/
theorem resolve_append (front back : List Char) :
    resolve (front.count '\n') (unitLength (lastLine front)) (front ++ back) =
      some (byteLength front) := by
  induction front with
  | nil => rw [List.nil_append, List.count_nil, lastLine, unitLength_nil, resolve, byteLength_nil]
  | cons c front ih =>
    by_cases hmem : '\n' ∈ c :: front
    · obtain ⟨line, hline⟩ := Nat.exists_eq_succ_of_ne_zero
        (Nat.ne_of_gt (List.count_pos_iff.mpr hmem))
      have hrest : (if c = '\n' then line else line + 1) = front.count '\n' := by
        rw [List.count_cons] at hline
        by_cases hc : c = '\n'
        · simpa [hc] using hline.symm
        · simpa [hc] using hline.symm
      rw [hline, lastLine_cons_of_mem hmem, List.cons_append, resolve, hrest, ih]
      rfl
    · rw [List.count_eq_zero.mpr hmem, lastLine_of_not_mem hmem, List.cons_append]
      rw [List.mem_cons, not_or] at hmem
      rw [List.count_eq_zero.mpr hmem.2, lastLine_of_not_mem hmem.2] at ih
      rw [unitLength_cons, resolve_zero_cons (Ne.symm hmem.1), ih]
      rfl

/-- Nothing else is found: before the offset there are that many line feeds, and that many code
units behind the last of them. -/
theorem exists_of_resolve {line column offset : Nat} {text : List Char}
    (h : resolve line column text = some offset) :
    ∃ front back, text = front ++ back ∧ byteLength front = offset ∧
      line = front.count '\n' ∧ column = unitLength (lastLine front) := by
  fun_induction resolve line column text generalizing offset with
  | case1 text => exact ⟨[], text, rfl, Option.some.inj h, rfl, rfl⟩
  | case2 => cases h
  | case3 => cases h
  | case4 column c text hin ih =>
    obtain ⟨rest, hrest, rfl⟩ := Option.map_eq_some_iff.mp h
    obtain ⟨front, back, rfl, rfl, hline, hcolumn⟩ := ih hrest
    rw [not_or] at hin
    have hfront : '\n' ∉ c :: front := by
      rw [List.mem_cons, not_or]
      exact ⟨Ne.symm hin.1, List.count_eq_zero.mp hline.symm⟩
    rw [lastLine_of_not_mem (List.count_eq_zero.mp hline.symm)] at hcolumn
    refine ⟨c :: front, back, rfl, rfl, (List.count_eq_zero.mpr hfront).symm, ?_⟩
    rw [lastLine_of_not_mem hfront, unitLength_cons]
    omega
  | case5 line column c text ih =>
    obtain ⟨rest, hrest, rfl⟩ := Option.map_eq_some_iff.mp h
    obtain ⟨front, back, rfl, rfl, hline, hcolumn⟩ := ih hrest
    have hcount : (c :: front).count '\n' = line + 1 := by
      rw [List.count_cons, ← hline]
      by_cases hc : c = '\n'
      · simp [hc]
      · simp [hc]
    refine ⟨c :: front, back, rfl, rfl, hcount.symm, ?_⟩
    rw [lastLine_cons_of_mem (List.count_pos_iff.mp (by omega)), hcolumn]

theorem resolve_eq_some_iff {line column offset : Nat} {text : List Char} :
    resolve line column text = some offset ↔
      ∃ front back, text = front ++ back ∧ byteLength front = offset ∧
        line = front.count '\n' ∧ column = unitLength (lastLine front) := by
  refine ⟨exists_of_resolve, ?_⟩
  rintro ⟨front, back, rfl, rfl, rfl, rfl⟩
  exact resolve_append front back

/-! ## Every text -/

namespace LineIndex

variable {text : List Char}

theorem position_min (offset : Nat) :
    (ofText text).position offset = (ofText text).position (min offset (byteLength text)) := by
  rw [position, position, show (ofText text).text = text from rfl, Nat.min_assoc, Nat.min_self]

theorem standsAt_of_position {offset : Nat} {p : Position}
    (h : (ofText text).position offset = some p) :
    StandsAt text (min offset (byteLength text)) [] := by
  obtain ⟨part, hpart, -⟩ := Option.bind_eq_some_iff.mp h
  exact standsAt_stop (Option.isSome_of_eq_some hpart)

/-- Exactly the offsets between two characters have a position, and it is read off what stands
before them. -/
theorem position_eq_some_iff {offset : Nat} {p : Position} :
    (ofText text).position offset = some p ↔
      ∃ front back, text = front ++ back ∧ byteLength front = min offset (byteLength text) ∧
        p = ⟨front.count '\n', unitLength (lastLine front)⟩ := by
  constructor
  · intro h
    obtain ⟨front, back, rfl, hfront⟩ := standsAt_of_position h
    refine ⟨front, back, rfl, hfront, Option.some.inj ?_⟩
    rw [← h, position_min, ← hfront]
    exact position_ofText front back
  · rintro ⟨front, back, rfl, hfront, rfl⟩
    rw [position_min, ← hfront, position_ofText]

/-- A position counts the line feeds before an offset, and the code units between the last of them,
or the start of the text, and the offset. -/
def Counts (text : List Char) (offset : Nat) (p : Position) : Prop :=
  p.line = ((bytesOf text).take offset).count 0x0A ∧
    ∃ before line back, text = before ++ (line ++ back) ∧
      byteLength (before ++ line) = min offset (byteLength text) ∧ '\n' ∉ line ∧
      (before = [] ∨ before.getLast? = some '\n') ∧ p.character = unitLength line

/-- What is to be known of the positions in a text. -/
structure Exact (text : List Char) : Prop where
  /-- The first line starts with the text. -/
  first : (ofText text).lineStarts[0]? = some 0
  increasing : (ofText text).lineStarts.toList.Pairwise (· < ·)
  /-- The other lines start behind the line feeds. -/
  mem_iff : ∀ n, n ∈ (ofText text).lineStarts ↔
    n = 0 ∨ ∃ i, (bytesOf text)[i]? = some 0x0A ∧ n = i + 1
  /-- A search for an offset has an answer. -/
  search : ∀ offset, ∃ r, Search (ofText text).lineStarts (min offset (byteLength text)) r
  /-- Whatever the answer, it stands for a line of the table, which is the line taken. -/
  line : ∀ offset r, Search (ofText text).lineStarts (min offset (byteLength text)) r →
    lineOf (ofText text).lineStarts (min offset (byteLength text)) 0
        (ofText text).lineStarts.size = lineFound r ∧
      lineFound r < (ofText text).lineStarts.size ∧ ∀ next, r = .error next → 0 < next
  /-- Offsets behind the text count as its end. -/
  clamped : ∀ offset,
    (ofText text).position offset = (ofText text).position (min offset (byteLength text))
  /-- An offset between two characters has a position. -/
  position : ∀ offset, StandsAt text (min offset (byteLength text)) [] →
    ∃ p, (ofText text).position offset = some p ∧ Counts text offset p
  /-- Positions have the order of their offsets. -/
  ordered : ∀ o o' p p', o < o' → o' ≤ byteLength text → (ofText text).position o = some p →
    (ofText text).position o' = some p' → p.Before p'
  /-- A position resolves to the offset it is the position of, and to no other. -/
  resolved : ∀ p offset, resolve p.line p.character text = some offset ↔
    offset ≤ byteLength text ∧ (ofText text).position offset = some p

theorem first_ofText (text : List Char) : (ofText text).lineStarts[0]? = some 0 := rfl

theorem increasing_ofText (text : List Char) :
    (ofText text).lineStarts.toList.Pairwise (· < ·) :=
  List.Pairwise.cons (fun _ hn => (lt_of_mem_lineStartsFrom hn).1) (lineStartsFrom_pairwise 0 text)

theorem mem_ofText {n : Nat} : n ∈ (ofText text).lineStarts ↔
    n = 0 ∨ ∃ i, (bytesOf text)[i]? = some 0x0A ∧ n = i + 1 := by
  rw [ofText, List.mem_toArray, List.mem_cons, mem_lineStartsFrom]
  simp only [Nat.zero_add]

theorem position_before {o o' : Nat} {p p' : Position} (hlt : o < o') (hle : o' ≤ byteLength text)
    (hp : (ofText text).position o = some p) (hp' : (ofText text).position o' = some p') :
    p.Before p' := by
  obtain ⟨front, back, rfl, hfront, rfl⟩ := position_eq_some_iff.mp hp
  obtain ⟨front', back', htext, hfront', rfl⟩ := position_eq_some_iff.mp hp'
  rw [Nat.min_eq_left hle] at hfront'
  rw [Nat.min_eq_left (by omega)] at hfront
  obtain ⟨gap, rfl, -⟩ := append_eq_append_of_byteLength_le htext (by omega)
  refine before_append fun hgap => ?_
  rw [hgap, List.append_nil] at hfront'
  omega

theorem position_counts {offset : Nat} (h : StandsAt text (min offset (byteLength text)) []) :
    ∃ p, (ofText text).position offset = some p ∧ Counts text offset p := by
  obtain ⟨front, back, htext, hfront⟩ := h
  rw [List.nil_append] at htext
  have htake : (bytesOf text).take offset = bytesOf front := by
    rw [← take_bytesOf front back, ← htext, List.take_eq_take_iff, length_bytesOf, hfront]
    omega
  obtain ⟨before, hbefore, hline, hstart⟩ := lastLine_suffix front
  refine ⟨_, position_eq_some_iff.mpr ⟨front, back, htext, hfront, rfl⟩, ?_,
    before, lastLine front, back, ?_, by rw [← hbefore, hfront], hline, hstart, rfl⟩
  · rw [htake, count_lineFeed_bytesOf]
  · rw [← List.append_assoc, ← hbefore, htext]

theorem resolve_position {p : Position} {offset : Nat} :
    resolve p.line p.character text = some offset ↔
      offset ≤ byteLength text ∧ (ofText text).position offset = some p := by
  rw [resolve_eq_some_iff, position_eq_some_iff]
  constructor
  · rintro ⟨front, back, rfl, rfl, hline, hcharacter⟩
    have hle : byteLength front ≤ byteLength (front ++ back) := by
      rw [byteLength_append]
      omega
    refine ⟨hle, front, back, rfl, (Nat.min_eq_left hle).symm, ?_⟩
    rw [← hline, ← hcharacter]
  · rintro ⟨hle, front, back, htext, hfront, rfl⟩
    exact ⟨front, back, htext, by rw [hfront, Nat.min_eq_left hle], rfl, rfl⟩

/-- Positions are exact in every text. -/
theorem exact_ofText (text : List Char) : Exact text where
  first := first_ofText text
  increasing := increasing_ofText text
  mem_iff _ := mem_ofText
  search _ := exists_search (increasing_ofText text) _
  line _ _ h := h.lineOf_eq (first_ofText text) (increasing_ofText text)
  clamped := position_min
  position _ h := position_counts h
  ordered _ _ _ _ hlt hle hp hp' := position_before hlt hle hp hp'
  resolved _ _ := resolve_position

-- Behind two bytes with one code unit and four bytes with two; no position is between those two.
example : (ofText ['é', '😀', 'x']).position 6 = some ⟨0, 3⟩ ∧
    resolve 0 3 ['é', '😀', 'x'] = some 6 ∧ resolve 0 2 ['é', '😀', 'x'] = none := by decide +kernel

end LineIndex

end Nameplate.Text
