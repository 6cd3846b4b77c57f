import Mathlib.Data.List.GetD
import Nameplate.Proofs.Text.Slice
import Nameplate.Text.LineIndex

/-!
# Positions, and what a client makes of them

A `LineIndex` counts lines in line feeds. A client also ends a line at a carriage return that no
line feed follows, and it does not look behind the end of a line for a column.

* `lineOf_eq`: the bisection finds the line of an offset;
* `position_ofText`: the position of an offset, in terms of what stands before it;
* `locate`: the offset at which a client finds a position;
* `plain`: every carriage return of a text is followed by a line feed;
* `locate_position_iff`: a client finds an offset at its position exactly if what stands before it
  is plain.
-/

namespace Nameplate.Text

/-! ## The line of an offset -/

namespace LineIndex

/-- Bisection finds the last line that starts at or before an offset. -/
theorem lineOf_eq {starts : Array Nat} {offset lo hi k : Nat} (hlo : lo ≤ k) (hhi : k < hi)
    (before : ∀ i ≤ k, starts.getD i 0 ≤ offset)
    (behind : ∀ i, k < i → i < hi → offset < starts.getD i 0) :
    lineOf starts offset lo hi = k := by
  fun_induction lineOf starts offset lo hi with
  | case1 lo hi hgap mid hmid ih =>
    have hle : mid ≤ k := Nat.not_lt.mp fun hlt =>
      Nat.not_lt.mpr hmid (behind mid hlt (by omega))
    exact ih hle hhi behind
  | case2 lo hi hgap mid hmid ih =>
    have hlt : k < mid := Nat.not_le.mp fun hle => hmid (before mid hle)
    exact ih hlo hlt fun i hk hi => behind i hk (by omega)
  | case3 lo hi hgap => omega

end LineIndex

/-- What stands behind the last line feed of a text. -/
def lastLine : List Char → List Char
  | [] => []
  | c :: text => if '\n' ∈ c :: text then lastLine text else c :: text

theorem lastLine_of_not_mem {text : List Char} (h : '\n' ∉ text) : lastLine text = text := by
  cases text with
  | nil => rfl
  | cons c text => rw [lastLine, if_neg h]

theorem lastLine_cons_of_mem {c : Char} {text : List Char} (h : '\n' ∈ c :: text) :
    lastLine (c :: text) = lastLine text := by
  rw [lastLine, if_pos h]

/-- The last line starts with the text, or behind a line feed. -/
theorem lastLine_suffix (text : List Char) :
    ∃ front, text = front ++ lastLine text ∧ '\n' ∉ lastLine text ∧
      (front = [] ∨ front.getLast? = some '\n') := by
  induction text with
  | nil => exact ⟨[], rfl, List.not_mem_nil, .inl rfl⟩
  | cons c text ih =>
    by_cases h : '\n' ∈ c :: text
    · obtain ⟨front, hfront, hline, hend⟩ := ih
      rw [lastLine_cons_of_mem h]
      refine ⟨c :: front, by rw [List.cons_append, ← hfront], hline, .inr ?_⟩
      rcases hend with rfl | hend
      · rw [hfront, List.nil_append, List.mem_cons] at h
        rw [List.getLast?_singleton, h.resolve_right hline]
      · rw [List.getLast?_cons, hend, Option.getD_some]
    · rw [lastLine_of_not_mem h]
      exact ⟨[], rfl, h, .inl rfl⟩

/-! ## Where lines start -/

theorem lineStartsFrom_append (offset : Nat) (a b : List Char) :
    lineStartsFrom offset (a ++ b) =
      lineStartsFrom offset a ++ lineStartsFrom (offset + byteLength a) b := by
  induction a generalizing offset with
  | nil => rfl
  | cons c a ih =>
    rw [List.cons_append, lineStartsFrom, lineStartsFrom, byteLength_cons, ← Nat.add_assoc]
    simp only [ih]
    split
    · rfl
    · rfl

theorem length_lineStartsFrom (offset : Nat) (text : List Char) :
    (lineStartsFrom offset text).length = text.count '\n' := by
  induction text generalizing offset with
  | nil => rfl
  | cons c text ih =>
    rw [lineStartsFrom, List.count_cons]
    by_cases hc : c = '\n'
    · simp [hc, ih]
    · simp [hc, ih]

/-- A line that is not the first starts behind the start of the text, and inside it. -/
theorem lt_of_mem_lineStartsFrom {offset n : Nat} {text : List Char}
    (h : n ∈ lineStartsFrom offset text) : offset < n ∧ n ≤ offset + byteLength text := by
  induction text generalizing offset with
  | nil => cases h
  | cons c text ih =>
    have hc := c.utf8Size_pos
    rw [lineStartsFrom] at h
    rw [byteLength_cons]
    by_cases hcase : c = '\n'
    · simp only [hcase, if_true, List.mem_cons] at h hc ⊢
      rcases h with rfl | h
      · omega
      · have := ih h
        omega
    · simp only [hcase, if_false] at h
      have := ih h
      omega

/-- The last line of a text starts where its length says. -/
theorem getD_lineStarts (offset : Nat) (text : List Char) :
    (offset :: lineStartsFrom offset text).getD (text.count '\n') 0 +
      byteLength (lastLine text) = offset + byteLength text := by
  induction text generalizing offset with
  | nil => rfl
  | cons c text ih =>
    by_cases h : '\n' ∈ c :: text
    · rw [lastLine_cons_of_mem h, byteLength_cons, ← Nat.add_assoc, ← ih]
      congr 1
      by_cases hc : c = '\n'
      · simp [lineStartsFrom, hc]
      · have hcount : 0 < text.count '\n' := by
          rw [List.count_pos_iff]
          simpa [Ne.symm hc] using h
        obtain ⟨n, hn⟩ : ∃ n, text.count '\n' = n + 1 := ⟨text.count '\n' - 1, by omega⟩
        simp [lineStartsFrom, hc, hn]
    · rw [List.count_eq_zero.mpr h, lastLine_of_not_mem h]
      rfl

/-- The line of an offset is the number of line feeds before it, and its column what stands behind
the last of them. -/
theorem position_ofText (front back : List Char) :
    (LineIndex.ofText (front ++ back)).position (byteLength front) =
      some ⟨front.count '\n', unitLength (lastLine front)⟩ := by
  have hstarts : (LineIndex.ofText (front ++ back)).lineStarts =
      ((0 :: lineStartsFrom 0 front) ++ lineStartsFrom (byteLength front) back).toArray := by
    rw [LineIndex.ofText, lineStartsFrom_append, Nat.zero_add, List.cons_append]
  have hlength : (0 :: lineStartsFrom 0 front).length = front.count '\n' + 1 := by
    rw [List.length_cons, length_lineStartsFrom]
  have hget : ∀ i, (LineIndex.ofText (front ++ back)).lineStarts.getD i 0 =
      ((0 :: lineStartsFrom 0 front) ++ lineStartsFrom (byteLength front) back).getD i 0 := by
    intro i
    rw [hstarts]
    simp
  have hsize : (LineIndex.ofText (front ++ back)).lineStarts.size =
      front.count '\n' + 1 + (lineStartsFrom (byteLength front) back).length := by
    rw [hstarts, List.size_toArray, List.length_append, hlength]
  have hline : LineIndex.lineOf (LineIndex.ofText (front ++ back)).lineStarts (byteLength front) 0
      (LineIndex.ofText (front ++ back)).lineStarts.size = front.count '\n' := by
    refine LineIndex.lineOf_eq (Nat.zero_le _) (by omega) (fun i hi => ?_) (fun i hk hi => ?_)
    · have hlt : i < (0 :: lineStartsFrom 0 front).length := by omega
      rw [hget, List.getD_append _ _ _ _ hlt, List.getD_eq_getElem _ _ hlt]
      rcases List.mem_cons.mp (List.getElem_mem hlt) with h | h
      · omega
      · have := lt_of_mem_lineStartsFrom h
        omega
    · have hlt : i - (0 :: lineStartsFrom 0 front).length <
          (lineStartsFrom (byteLength front) back).length := by omega
      rw [hget, List.getD_append_right _ _ _ _ (by omega), List.getD_eq_getElem _ _ hlt]
      exact (lt_of_mem_lineStartsFrom (List.getElem_mem hlt)).1
  have hlast : (LineIndex.ofText (front ++ back)).lineStarts.getD (front.count '\n') 0 +
      byteLength (lastLine front) = byteLength front := by
    rw [hget, List.getD_append _ _ _ _ (by omega), getD_lineStarts, Nat.zero_add]
  have hslice : slice (front ++ back)
      ⟨(LineIndex.ofText (front ++ back)).lineStarts.getD (front.count '\n') 0, byteLength front⟩ =
        some (lastLine front) := by
    obtain ⟨before, hbefore, -⟩ := lastLine_suffix front
    have hlen := congrArg byteLength hbefore
    rw [byteLength_append] at hlen
    refine slice_eq_some.mpr ⟨⟨before, back, ?_, by dsimp only; omega⟩, by dsimp only; omega⟩
    rw [← List.append_assoc, ← hbefore]
  have hmin : min (byteLength front) (byteLength (front ++ back)) = byteLength front := by
    rw [byteLength_append]
    omega
  rw [LineIndex.position, show (LineIndex.ofText (front ++ back)).text = front ++ back from rfl,
    hmin, hline, hslice]
  rfl

/-! ## What a client makes of a position -/

/-- The offset at which a client finds a line and a column. A line ends at a line feed, at a
carriage return, or at both of them together; a column behind the end of a line is its end, and a
line behind the text is the end of the text. -/
def locate : Nat → Nat → List Char → Nat
  | _, _, [] => 0
  | 0, column, c :: text =>
    if c = '\n' ∨ c = '\r' ∨ column < unitSize c then 0
    else c.utf8Size + locate 0 (column - unitSize c) text
  | line + 1, column, '\r' :: '\n' :: text => 2 + locate line column text
  | line + 1, column, c :: text =>
    c.utf8Size + locate (if c = '\n' ∨ c = '\r' then line else line + 1) column text

/-- Every carriage return of a text is followed by a line feed. -/
def plain : List Char → Bool
  | [] => true
  | '\r' :: '\n' :: text => plain text
  | '\r' :: _ => false
  | _ :: text => plain text

/-- The number of lines that end in a text, as a client sees them. -/
def lineEnds : List Char → Nat
  | [] => 0
  | '\r' :: '\n' :: text => lineEnds text + 1
  | c :: text => lineEnds text + if c = '\n' ∨ c = '\r' then 1 else 0

theorem unitSize_pos (c : Char) : 0 < unitSize c := by
  unfold unitSize
  split
  · decide
  · decide

theorem locate_succ {c : Char} {text : List Char} (h : c = '\r' → text.head? ≠ some '\n')
    (line column : Nat) :
    locate (line + 1) column (c :: text) =
      c.utf8Size + locate (if c = '\n' ∨ c = '\r' then line else line + 1) column text := by
  rw [locate]
  rintro rest rfl rfl
  exact h rfl rfl

/-- On a line a client counts columns only. -/
theorem locate_zero {front : List Char} (hn : '\n' ∉ front) (hr : '\r' ∉ front)
    (back : List Char) : locate 0 (unitLength front) (front ++ back) = byteLength front := by
  induction front with
  | nil =>
    cases back with
    | nil => rfl
    | cons c back =>
      rw [unitLength_nil, byteLength_nil, List.nil_append, locate,
        if_pos (.inr (.inr (unitSize_pos c)))]
  | cons c front ih =>
    simp only [List.mem_cons, not_or] at hn hr
    have hin : ¬ (c = '\n' ∨ c = '\r' ∨ unitLength (c :: front) < unitSize c) := by
      rw [unitLength_cons]
      simp only [not_or]
      exact ⟨Ne.symm hn.1, Ne.symm hr.1, by omega⟩
    rw [List.cons_append, locate, if_neg hin, unitLength_cons, Nat.add_sub_cancel_left,
      ih hn.2 hr.2, byteLength_cons]

/-- A client finds a place on a line that ends in a text inside the text. -/
theorem locate_lt {line : Nat} {front : List Char} (h : line < lineEnds front) (column : Nat)
    (back : List Char) : locate line column (front ++ back) < byteLength front := by
  fun_induction lineEnds front generalizing line column with
  | case1 => exact absurd h (Nat.not_lt_zero _)
  | case2 text ih =>
    have hsize : byteLength ('\r' :: '\n' :: text) = 2 + byteLength text := by
      simp only [byteLength_cons, show '\r'.utf8Size = 1 from rfl, show '\n'.utf8Size = 1 from rfl]
      omega
    cases line with
    | zero =>
      rw [List.cons_append, locate, if_pos (.inr (.inl rfl)), hsize]
      omega
    | succ line =>
      have := @ih line (by omega) column
      rw [List.cons_append, List.cons_append, locate, hsize]
      omega
  | case3 c text hlone ih =>
    have hc := c.utf8Size_pos
    rw [List.cons_append, byteLength_cons]
    cases line with
    | zero =>
      rw [locate]
      split
      · omega
      · rename_i hin
        simp only [not_or] at hin
        rw [if_neg (by simp [hin.1, hin.2.1]), Nat.add_zero] at h
        have := @ih 0 h (column - unitSize c)
        omega
    | succ line =>
      have hhead : c = '\r' → (text ++ back).head? ≠ some '\n' := by
        rintro rfl
        cases text with
        | nil => exact absurd h (by simp [lineEnds])
        | cons d text =>
          rintro hd
          obtain rfl : d = '\n' := by simpa using hd
          exact hlone text rfl rfl
      rw [locate_succ hhead]
      split
      · rename_i hend
        rw [if_pos hend] at h
        have := @ih line (by omega) column
        omega
      · rename_i hin
        rw [if_neg hin, Nat.add_zero] at h
        have := @ih (line + 1) h column
        omega

/-! ## Plain texts -/

/-- Of the lines that end in a text, a line feed ends as many as there are line feeds. -/
theorem count_le_lineEnds (text : List Char) : text.count '\n' ≤ lineEnds text := by
  fun_induction lineEnds text with
  | case1 => exact Nat.le_refl _
  | case2 text ih => simpa using ih
  | case3 c text _ ih =>
    rw [List.count_cons]
    by_cases hc : c = '\n'
    · simpa [hc] using ih
    · simp only [beq_iff_eq, hc, if_false, Nat.add_zero]
      omega

/-- If a text is not plain then some line ends at a carriage return only. -/
theorem count_lt_lineEnds {text : List Char} (h : plain text = false) :
    text.count '\n' < lineEnds text := by
  fun_induction plain text with
  | case1 => cases h
  | case2 text ih =>
    rw [lineEnds]
    simpa using ih h
  | case3 text hlone =>
    have hends : lineEnds ('\r' :: text) = lineEnds text + 1 := by
      rw [lineEnds]
      · rfl
      · rintro rest - rfl
        exact hlone rest rfl
    have := count_le_lineEnds text
    rw [hends, List.count_cons]
    simp only [show ('\r' == '\n') = false from rfl, Bool.false_eq_true, if_false]
    omega
  | case4 c text hcrlf hcr ih =>
    have hne : c ≠ '\r' := hcr
    have hends : lineEnds (c :: text) = lineEnds text + if c = '\n' then 1 else 0 := by
      rw [lineEnds]
      · simp only [hne, or_false]
      · exact fun rest hc _ => hne hc
    have := ih h
    rw [hends, List.count_cons]
    simp only [beq_iff_eq]
    omega

/-- In a plain text a carriage return needs a line feed. -/
theorem not_mem_of_plain {text : List Char} (h : plain text = true) (hn : '\n' ∉ text) :
    '\r' ∉ text := by
  fun_induction plain text with
  | case1 => exact List.not_mem_nil
  | case2 text ih => exact absurd (by simp) hn
  | case3 text hlone => cases h
  | case4 c text hcrlf hcr ih =>
    simp only [List.mem_cons, not_or] at hn ⊢
    exact ⟨Ne.symm hcr, ih h hn.2⟩

theorem locate_of_plain {front : List Char} (h : plain front = true) (back : List Char) :
    locate (front.count '\n') (unitLength (lastLine front)) (front ++ back) =
      byteLength front := by
  fun_induction plain front with
  | case1 => exact locate_zero List.not_mem_nil List.not_mem_nil back
  | case2 text ih =>
    have hcount : ('\r' :: '\n' :: text).count '\n' = text.count '\n' + 1 := by simp
    have hlast : lastLine ('\r' :: '\n' :: text) = lastLine text := by
      rw [lastLine_cons_of_mem (by simp), lastLine_cons_of_mem (by simp)]
    rw [hcount, hlast, List.cons_append, List.cons_append, locate, ih h]
    simp only [byteLength_cons, show '\r'.utf8Size = 1 from rfl, show '\n'.utf8Size = 1 from rfl]
    omega
  | case3 text hlone => cases h
  | case4 c text hcrlf hcr ih =>
    have hne : c ≠ '\r' := hcr
    by_cases hn : '\n' ∈ c :: text
    · obtain ⟨line, hline⟩ : ∃ line, (c :: text).count '\n' = line + 1 :=
        Nat.exists_eq_succ_of_ne_zero (Nat.ne_of_gt (List.count_pos_iff.mpr hn))
      have hrest : text.count '\n' = if c = '\n' ∨ c = '\r' then line else line + 1 := by
        rw [List.count_cons] at hline
        simp only [beq_iff_eq] at hline
        simp only [hne, or_false]
        split
        · rename_i hc
          rw [if_pos hc] at hline
          omega
        · rename_i hc
          rw [if_neg hc] at hline
          omega
      rw [hline, lastLine_cons_of_mem hn, List.cons_append,
        locate_succ (fun hc => absurd hc hne), ← hrest, ih h, byteLength_cons]
    · have hplain : plain (c :: text) = true := by
        rwa [plain]
        · exact fun rest hc _ => hne hc
        · exact hne
      rw [List.count_eq_zero.mpr hn, lastLine_of_not_mem hn]
      exact locate_zero hn (not_mem_of_plain hplain hn) back

/-- A client finds an offset at its position exactly if what stands before it is plain. -/
theorem locate_position_iff (front back : List Char) :
    locate (front.count '\n') (unitLength (lastLine front)) (front ++ back) = byteLength front ↔
      plain front = true := by
  refine ⟨fun h => ?_, fun h => locate_of_plain h back⟩
  cases hplain : plain front with
  | true => rfl
  | false => exact absurd h (Nat.ne_of_lt (locate_lt (count_lt_lineEnds hplain) _ back))

end Nameplate.Text
