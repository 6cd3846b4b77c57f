import Mathlib.Logic.Function.Defs
import Nameplate.Naming.Literal

/-!
# Reading a literal that was written

`escape` makes the text that stands between two quotes. A reader of the file finds the end of the
literal, and the text that it stands for, by rules of its own:

* `scan`: where a literal ends that has been opened;
* `unescape`: the text that a literal stands for;
* `escape_cons_cases`: how one character is written;
* `scan_escape`, `unescape_escape`: a literal that was written ends at its own last quote, and
  stands for the text that was meant;
* `lineFeed_not_mem_escape`, `count_return_escape`: the line ends in it;
* `escape_delimited`: both together, so that no two texts are written alike.
-/

namespace Nameplate.Naming

/-! ## A reader of literals -/

/-- The quotes that a literal can stand in. -/
def IsQuote (c : Char) : Prop := c = '"' ∨ c = '\'' ∨ c = '`'

instance (c : Char) : Decidable (IsQuote c) := inferInstanceAs (Decidable (_ ∨ _))

/-- How the search for the end of a literal comes out. -/
inductive Scanned where
  /-- A quote: what stands before it, and what stands behind it. -/
  | closed (content rest : List Char)
  /-- A line feed. -/
  | lineFeed
  /-- A substitution in a template. -/
  | substitution
  /-- The end of the text. -/
  | unclosed
deriving DecidableEq, Repr

/-- The same with more text before the quote. -/
def Scanned.prepend (front : List Char) : Scanned → Scanned
  | closed content rest => closed (front ++ content) rest
  | lineFeed => lineFeed
  | substitution => substitution
  | unclosed => unclosed

/-- The end of a literal, from behind its first quote on. A backslash takes the next character with
it, whatever that is. -/
def scan (quote : Char) : List Char → Scanned
  | [] => .unclosed
  | '\\' :: d :: text => (scan quote text).prepend ['\\', d]
  | c :: text =>
    if c = quote then .closed [] text
    else if c = '\n' then .lineFeed
    else if c = '$' ∧ quote = '`' ∧ text.head? = some '\x7b' then .substitution
    else (scan quote text).prepend [c]

/-- The text that a literal stands for: a backslash before a backslash, a quote or a dollar sign is
left out, one before an `n` makes a line feed of it, and all else stands for itself. -/
def unescape : List Char → List Char
  | [] => []
  | '\\' :: d :: text =>
    if d = '\\' ∨ IsQuote d ∨ d = '$' then d :: unescape text
    else if d = 'n' then '\n' :: unescape text
    else '\\' :: d :: unescape text
  | c :: text => c :: unescape text

section

variable {quote c : Char} {text : List Char}

theorem scan_quote (h : IsQuote quote) (rest : List Char) :
    scan quote (quote :: rest) = .closed [] rest := by
  rw [scan, if_pos rfl]
  rintro d more rfl -
  exact absurd h (by decide)

theorem scan_cons (hc : c ≠ '\\') (hq : c ≠ quote) (hn : c ≠ '\n')
    (hopen : ¬ (c = '$' ∧ quote = '`' ∧ text.head? = some '\x7b')) :
    scan quote (c :: text) = (scan quote text).prepend [c] := by
  rw [scan, if_neg hq, if_neg hn, if_neg hopen]
  exact fun d more h _ => hc h

theorem unescape_cons (hc : c ≠ '\\') : unescape (c :: text) = c :: unescape text := by
  rw [unescape]
  exact fun d more h _ => hc h

end

/-! ## How a character is written -/

/-- `Pair quote c d`: in these quotes the character `c` may be written as a backslash and `d`. -/
inductive Pair (quote : Char) : Char → Char → Prop where
  | backslash : Pair quote '\\' '\\'
  | lineFeed : Pair quote '\n' 'n'
  | dollar : Pair quote '$' '$'
  | quote : quote ≠ '\n' → Pair quote quote quote

theorem Pair.unescape_eq {quote c d : Char} (h : Pair quote c d) (hquote : IsQuote quote)
    (text : List Char) : unescape ('\\' :: d :: text) = c :: unescape text := by
  rw [unescape]
  cases h with
  | backslash => rfl
  | lineFeed => rfl
  | dollar => rfl
  | quote _ => simp only [hquote, true_or, or_true, if_true]

theorem Pair.ne_lineFeed {quote c d : Char} (h : Pair quote c d) : d ≠ '\n' := by
  cases h with
  | backslash => decide
  | lineFeed => decide
  | dollar => decide
  | quote hn => exact hn

theorem Pair.eq_return_iff {quote c d : Char} (h : Pair quote c d) : d = '\r' ↔ c = '\r' := by
  cases h with
  | backslash => decide
  | lineFeed => decide
  | dollar => decide
  | quote _ => exact Iff.rfl

/-- A character is written as a pair, or as itself if it means nothing else between the quotes. -/
theorem escape_cons_cases (quote c : Char) (text : List Char) :
    (∃ d, Pair quote c d ∧ escape quote (c :: text) = '\\' :: d :: escape quote text) ∨
    (c ≠ '\\' ∧ c ≠ quote ∧ c ≠ '\n' ∧ ¬ (c = '$' ∧ quote = '`' ∧ text.head? = some '\x7b') ∧
      escape quote (c :: text) = c :: escape quote text) := by
  rw [escape]
  by_cases hc : c = '\\'
  · subst hc
    exact .inl ⟨'\\', .backslash, rfl⟩
  by_cases hn : c = '\n'
  · subst hn
    exact .inl ⟨'n', .lineFeed, rfl⟩
  rw [if_neg hc, if_neg hn]
  by_cases hopen : c = '$' ∧ quote = '`' ∧ text.head? = some '\x7b'
  · obtain ⟨rfl, hrest⟩ := hopen
    exact .inl ⟨'$', .dollar, if_pos ⟨rfl, hrest⟩⟩
  rw [if_neg hopen]
  by_cases hq : c = quote
  · subst hq
    exact .inl ⟨c, .quote hn, if_pos rfl⟩
  · exact .inr ⟨hc, hq, hn, hopen, if_neg hq⟩

/-- A brace is not escaped, and nothing else is written as one. -/
theorem head?_escape {quote : Char} {text : List Char}
    (h : (escape quote text).head? = some '\x7b') : text.head? = some '\x7b' := by
  cases text with
  | nil => exact h
  | cons c text =>
    obtain ⟨d, -, he⟩ | ⟨-, -, -, -, he⟩ := escape_cons_cases quote c text
    · rw [he] at h
      exact absurd h (by simp)
    · rwa [he] at h

/-! ## What is written is read again -/

theorem scan_escape {quote : Char} (hquote : IsQuote quote) (text rest : List Char) :
    scan quote (escape quote text ++ quote :: rest) = .closed (escape quote text) rest := by
  induction text with
  | nil => exact scan_quote hquote rest
  | cons c text ih =>
    obtain ⟨d, -, he⟩ | ⟨hc, hq, hn, hopen, he⟩ := escape_cons_cases quote c text
    · rw [he, List.cons_append, List.cons_append, scan, ih]
      rfl
    · -- A dollar sign could open a substitution together with what follows it, and behind the last
      -- character of the text that is the quote.
      have hopen' : ¬ (c = '$' ∧ quote = '`' ∧
          (escape quote text ++ quote :: rest).head? = some '\x7b') := by
        rintro ⟨rfl, rfl, hhead⟩
        rw [List.head?_append, Option.or_eq_some_iff] at hhead
        obtain hhead | ⟨-, hhead⟩ := hhead
        · exact hopen ⟨rfl, rfl, head?_escape hhead⟩
        · exact absurd hhead (by simp)
      rw [he, List.cons_append, scan_cons hc hq hn hopen', ih]
      rfl

theorem unescape_escape {quote : Char} (hquote : IsQuote quote) (text : List Char) :
    unescape (escape quote text) = text := by
  induction text with
  | nil => rfl
  | cons c text ih =>
    obtain ⟨d, hd, he⟩ | ⟨hc, -, -, -, he⟩ := escape_cons_cases quote c text
    · rw [he, hd.unescape_eq hquote, ih]
    · rw [he, unescape_cons hc, ih]

/-! ## Line ends -/

/-- No line feed is written, whatever the quotes are. -/
theorem lineFeed_not_mem_escape (quote : Char) (text : List Char) :
    '\n' ∉ escape quote text := by
  induction text with
  | nil => exact List.not_mem_nil
  | cons c text ih =>
    obtain ⟨d, hd, he⟩ | ⟨-, -, hn, -, he⟩ := escape_cons_cases quote c text
    · rw [he, List.mem_cons, List.mem_cons]
      rintro (h | h | h)
      · exact absurd h (by decide)
      · exact hd.ne_lineFeed h.symm
      · exact ih h
    · rw [he, List.mem_cons]
      exact not_or.mpr ⟨Ne.symm hn, ih⟩

/-- A carriage return is written as it is. -/
theorem count_return_escape (quote : Char) (text : List Char) :
    (escape quote text).count '\r' = text.count '\r' := by
  induction text with
  | nil => rfl
  | cons c text ih =>
    obtain ⟨d, hd, he⟩ | ⟨-, -, -, -, he⟩ := escape_cons_cases quote c text
    · rw [he, List.count_cons, List.count_cons, List.count_cons, ih]
      simp [hd.eq_return_iff]
    · rw [he, List.count_cons, List.count_cons, ih]

/-! ## Literals -/

/-- A text that is written between two quotes ends, for a reader, at the second of them: before it
there is no quote, no line feed and no substitution, whatever follows. The reader gets the text
back, so no two texts are written alike. -/
theorem escape_delimited {quote : Char} (hquote : IsQuote quote) :
    (∀ (text : String) (rest : List Char),
      scan quote ((escapeString quote text).toList ++ quote :: rest) =
        .closed (escapeString quote text).toList rest ∧
      '\n' ∉ (escapeString quote text).toList ∧
      unescape (escapeString quote text).toList = text.toList) ∧
    Function.Injective (escapeString quote) := by
  have hread (text : String) : unescape (escapeString quote text).toList = text.toList := by
    rw [escapeString, String.toList_ofList, unescape_escape hquote]
  refine ⟨fun text rest => ⟨?_, ?_, hread text⟩, fun a b hab => ?_⟩
  · rw [escapeString, String.toList_ofList, scan_escape hquote]
  · rw [escapeString, String.toList_ofList]
    exact lineFeed_not_mem_escape quote text.toList
  · rw [← String.toList_inj, ← hread a, hab, hread b]

/-- A dollar sign before another one is left alone, one before a brace is not, and the last one
stands before the quote. -/
theorem escape_delimited_template :
    IsQuote '`' ∧ escapeString '`' "\\$$\x7b`\n$" = "\\\\$\\$\x7b\\`\\n$" ∧
    scan '`' ("\\\\$\\$\x7b\\`\\n$".toList ++ '`' :: "; f(`".toList) =
      .closed "\\\\$\\$\x7b\\`\\n$".toList "; f(`".toList ∧
    '\n' ∉ "\\\\$\\$\x7b\\`\\n$".toList ∧
    unescape "\\\\$\\$\x7b\\`\\n$".toList = "\\$$\x7b`\n$".toList := by
  have hquote : IsQuote '`' := by decide
  have hescape : escapeString '`' "\\$$\x7b`\n$" = "\\\\$\\$\x7b\\`\\n$" := by decide +kernel
  have hread := (escape_delimited hquote).1 "\\$$\x7b`\n$" "; f(`".toList
  rw [hescape] at hread
  exact ⟨hquote, hescape, hread⟩

end Nameplate.Naming
