import Mathlib.Tactic.Common
import SearchQuery.Proofs.Text.Escape
import SearchQuery.Proofs.Token.Faults

/-!
# Quotes and their text

What stands between two double quotes is one token, or the first escape that names no character is
the error.

* `nextAt_quote`: a quote is read as the characters that are spelled in it, whatever follows it.
* `tokenize_namesNone`: wherever reading comes to an escape that names no character, it ends there.
* `next_quote`: a text that is written as a quote is read back, and what follows it is left.
* `tokenize_utf16`: escapes of four digits are the UTF-16 code units of the characters they name.
* `tokenize_braced_iff`: of what can stand in braces, hexadecimal digits alone name a character, but
  for a plus sign before them.
-/

namespace SearchQuery

open Text Text.Escape Lexer

variable {limit levels : Nat} {cur : Cursor} {text before s : List Char}

/-! ## One quote -/

/-- The characters that are spelled between two double quotes are one token. -/
theorem Lexer.nextAt_quote (limit levels : Nat) {rest : List Char}
    (hrest : cur.rest = '"' :: (text ++ '"' :: rest)) (h : SpellsAll text s) :
    nextAt limit levels cur =
      .ok (some (.quote cur.position (String.ofList s))) (cur.advance (text.length + 2)) := by
  have hread : Escape.readQuote (text ++ '"' :: rest) = .closed s (text.length + 1) :=
    readQuote_eq_closed_iff.2 ⟨text, rest, rfl, h, rfl⟩
  exact nextWith_eq_ok.2 (.quote hrest hread)

/-- A text is cut into one token, the quote of `s`, and nothing is left of it. -/
def IsQuote (limit : Nat) (text s : String) : Prop :=
  ∃ pos, tokenize limit text = .ok ⟨[.quote .start s], pos, ""⟩

theorem isQuote_of_spellsAll {source : String} (hsource : source.toList = '"' :: (text ++ ['"']))
    (h : SpellsAll text s) (limit : Nat) : IsQuote limit source (String.ofList s) := by
  have hrest : (Cursor.ofString source).rest = '"' :: (text ++ ['"']) := hsource
  have hnil : ((Cursor.ofString source).advance (text.length + 2)).rest = [] := by
    rw [Cursor.advance_rest, hrest]
    simp
  have hread : tokensAt limit limit (.ofString source) = .ok [.quote .start (String.ofList s)]
      ((Cursor.ofString source).advance (text.length + 2)) := by
    rw [tokensAt_eq_goOn, nextAt_quote limit limit hrest h, Scan.goOn_token (by simp), tokensAt,
      tokensWith_of_rest_eq_nil hnil]
    rfl
  refine ⟨_, tokenize_eq_ok.2 ⟨_, hread, rfl, ?_⟩⟩
  rw [Cursor.remainder, hnil]

/-- A text is not cut into tokens for an escape that names no character. -/
def HasBadEscape (limit : Nat) (text : String) : Prop :=
  ∃ pos escape remainder, tokenize limit text = .error (.invalidEscape pos escape remainder)

theorem IsQuote.unique {text s s' : String} (h : IsQuote limit text s)
    (h' : IsQuote limit text s') : s = s' := by
  obtain ⟨pos, h⟩ := h
  obtain ⟨pos', h'⟩ := h'
  cases h.symm.trans h'
  rfl

theorem IsQuote.not_hasBadEscape {text s : String} (h : IsQuote limit text s) :
    ¬ HasBadEscape limit text := by
  obtain ⟨pos, h⟩ := h
  rintro ⟨pos', escape, remainder, h'⟩
  cases h.symm.trans h'

/-- Where reading comes to a quote with an escape that names no character, the escape is the
error. -/
theorem tokenize_namesNone {source : String}
    (hcomes : Comes limit levels cur limit (.ofString source))
    (hrest : cur.rest = '"' :: (before ++ '\\' :: 'u' :: text)) (hbefore : SpellsAll before s)
    (htext : NamesNone text) :
    ∃ escape, tokenize limit source = .error (.invalidEscape
      (cur.advance (before.length + 1)).position escape (String.ofList ('\\' :: 'u' :: text))) := by
  have hread := readQuote_eq_badCode_iff.2 ⟨before, s, text, rfl, hbefore, htext, rfl, rfl⟩
  have hleft : (cur.advance (before.length + 1)).remainder =
      String.ofList ('\\' :: 'u' :: text) := by
    rw [Cursor.remainder, Cursor.advance_rest, hrest, List.drop_succ_cons, List.drop_left]
  rw [← hleft]
  exact ⟨_, tokenize_eq_error_iff.2 ⟨levels, cur, _, hcomes, .code hrest hread⟩⟩

/-! ## Texts that are written as quotes -/

theorem isLineBreak_upperHexDigit {n : Nat} (h : n < 16) :
    isLineBreak (upperHexDigit n) = false := by
  revert n
  decide

/-- No line ends in what a character is written as between quotes. -/
theorem isLineBreak_of_mem_encodeChar {c d : Char} (h : d ∈ encodeChar c) :
    isLineBreak d = false := by
  unfold encodeChar at h
  have hpair {e : Char} (he : isLineBreak e = false) (h : d ∈ ['\\', e]) :
      isLineBreak d = false := by
    rw [List.mem_pair] at h
    obtain rfl | rfl := h
    · rfl
    · exact he
  split at h
  · exact hpair rfl h
  split at h
  · exact hpair rfl h
  split at h
  · exact hpair rfl h
  split at h
  · exact hpair rfl h
  split at h
  · exact hpair rfl h
  split at h
  · rw [List.mem_cons, List.mem_cons, fourHexDigits, List.mem_map] at h
    obtain rfl | rfl | ⟨n, hn, rfl⟩ := h
    · rfl
    · rfl
    · refine isLineBreak_upperHexDigit ?_
      simp only [List.mem_cons, List.not_mem_nil, or_false] at hn
      omega
  · rename_i hbreak
    rw [List.mem_singleton] at h
    rw [h]
    exact Bool.eq_false_iff.2 hbreak

/-- **Printed quotes.** A text that is written as a quote is read back as its first token, and what
follows it is left. It is written on one line. -/
theorem next_quote (limit : Nat) (s r : String) :
    (∃ next, Lexer.next limit (.ofString ("\"" ++ encode s ++ "\"" ++ r)) =
      .ok (some (.quote .start s)) next ∧ next.remainder = r) ∧
    ∀ c ∈ (encode s).toList, isLineBreak c = false := by
  constructor
  · have hencode : (encode s).toList = s.toList.flatMap encodeChar := String.toList_ofList
    have hrest : (Cursor.ofString ("\"" ++ encode s ++ "\"" ++ r)).rest =
        '"' :: (s.toList.flatMap encodeChar ++ '"' :: r.toList) := by
      simp [Cursor.ofString, hencode]
    have hread := nextAt_quote limit limit hrest (spellsAll_encode s.toList)
    rw [String.ofList_toList, ← next_eq_nextAt] at hread
    refine ⟨_, hread, ?_⟩
    rw [Cursor.remainder, Cursor.advance_rest, hrest, List.drop_succ_cons, List.drop_append]
    simp
  · intro c hc
    rw [encode, String.toList_ofList, List.mem_flatMap] at hc
    obtain ⟨d, -, hd⟩ := hc
    exact isLineBreak_of_mem_encodeChar hd

/-! ## Escapes of code units -/

/-- **Escapes of UTF-16.** Between quotes, the escapes of a character's code units are the quote of
that character. Wherever reading comes to a quote, the escape of a low surrogate, or of a high one
without the escape of a low one right behind it, is the error, at its backslash. -/
theorem tokenize_utf16 (limit : Nat) :
    (∀ (c : Char) (text : List Char), EscapesUnits (utf16 c) text →
      IsQuote limit ("\"" ++ String.ofList text ++ "\"") (String.singleton c)) ∧
    ∀ (source : String) (levels : Nat) (cur : Cursor) (before s digits rest : List Char) (n : Nat),
      Comes limit levels cur limit (.ofString source) →
      cur.rest = '"' :: (before ++ '\\' :: 'u' :: (digits ++ rest)) → SpellsAll before s →
      WritesUnit digits n → IsLone n rest →
      ∃ escape, tokenize limit source = .error (.invalidEscape
        (cur.advance (before.length + 1)).position escape
        (String.ofList ('\\' :: 'u' :: (digits ++ rest)))) := by
  constructor
  · intro c text htext
    have hspells : SpellsAll text [c] := by
      rw [← List.append_nil text]
      exact .cons (spells_utf16 htext) .nil
    exact isQuote_of_spellsAll (by simp) hspells limit
  · intro source levels cur before s digits rest n hcomes hrest hbefore hunit hlone
    exact tokenize_namesNone hcomes hrest hbefore (namesNone_lone hunit hlone)

/-- A pair in digits of either case; and, in a quote inside a group, a high surrogate with the low
one in braces behind it. -/
theorem tokenize_utf16_halves :
    (EscapesUnits (utf16 '😀') "\\uD83d\\uDe00".toList ∧
      IsQuote 1 "\"\\uD83d\\uDe00\"" "😀") ∧
    ∃ cur : Cursor, Comes 1 0 cur 1 (.ofString "a(\"\\n\\ud83D\\u\x7bDE00\x7d\")") ∧
      cur.rest = "\"\\n\\ud83D\\u\x7bDE00\x7d\")".toList ∧ SpellsAll ['\\', 'n'] ['\n'] ∧
      WritesUnit ['d', '8', '3', 'D'] 0xD83D ∧ IsLone 0xD83D "\\u\x7bDE00\x7d\")".toList ∧
      ∃ escape, tokenize 1 "a(\"\\n\\ud83D\\u\x7bDE00\x7d\")" =
        .error (.invalidEscape (cur.advance 3).position escape "\\ud83D\\u\x7bDE00\x7d\")") := by
  have hunit : WritesUnit ['D', '8', '3', 'd'] 0xD83D := ⟨rfl, [13, 8, 3, 13], rfl, rfl⟩
  have hunit' : WritesUnit ['D', 'e', '0', '0'] 0xDE00 := ⟨rfl, [13, 14, 0, 0], rfl, rfl⟩
  have hunits : EscapesUnits (utf16 '😀') "\\uD83d\\uDe00".toList :=
    .cons hunit (.cons hunit' .nil)
  have hcomes : Comes 1 0 ⟨"\"\\n\\ud83D\\u\x7bDE00\x7d\")".toList, ⟨1, 3⟩⟩ 1
      (.ofString "a(\"\\n\\ud83D\\u\x7bDE00\x7d\")") := by
    have hword : nextAt 1 1 (.ofString "a(\"\\n\\ud83D\\u\x7bDE00\x7d\")") =
        .ok (some (.word .start "a")) ⟨"(\"\\n\\ud83D\\u\x7bDE00\x7d\")".toList, ⟨1, 2⟩⟩ := rfl
    exact .token hword (by simp) (.group rfl .here)
  have hbefore : SpellsAll ['\\', 'n'] ['\n'] := .cons (.escape (by decide)) .nil
  have hhigh : WritesUnit ['d', '8', '3', 'D'] 0xD83D := ⟨rfl, [13, 8, 3, 13], rfl, rfl⟩
  have hlone : IsLone 0xD83D "\\u\x7bDE00\x7d\")".toList := by
    refine .inr ⟨rfl, ?_⟩
    rintro ⟨digits, low, tail, hrest, hlow, -⟩
    obtain ⟨c, digits, rfl, hc⟩ := hlow.exists_cons
    have hchars : "\\u\x7bDE00\x7d\")".toList =
        ['\\', 'u', '\x7b', 'D', 'E', '0', '0', '\x7d', '"', ')'] := rfl
    rw [hchars] at hrest
    simp only [List.cons_append, List.cons.injEq, true_and] at hrest
    exact hc hrest.1.symm
  have hquote := (tokenize_utf16 1).1 '😀' _ hunits
  have herror := (tokenize_utf16 1).2 _ _ _ _ _ _ _ _ hcomes rfl hbefore hhigh hlone
  rw [String.ofList_toList] at hquote
  exact ⟨⟨hunits, hquote⟩, _, hcomes, rfl, hbefore, hhigh, hlone, herror⟩

/-! ## Code points in braces -/

/-- The escape with `x` in braces, between quotes. -/
def bracedQuote (x : String) : String := "\"\\u\x7b" ++ x ++ "\x7d\""

/-- One to six hexadecimal digits that write the code point of a character. -/
def NamesByHex (digits : List Char) (c : Char) : Prop :=
  1 ≤ digits.length ∧ digits.length ≤ 6 ∧ WritesHex digits c.toNat

theorem bracesName_iff {c : Char} : BracesName text c.toNat ↔ NamesByHex text c ∨
    ∃ digits, text = '+' :: digits ∧ digits.length ≤ 5 ∧ NamesByHex digits c := by
  constructor
  · rintro ⟨digits, rfl | rfl, hne, hle, hhex⟩
    · exact .inl ⟨List.length_pos_iff.2 hne, hle, hhex⟩
    · have hfive : digits.length ≤ 5 := Nat.le_of_succ_le_succ hle
      exact .inr ⟨digits, rfl, hfive, List.length_pos_iff.2 hne, Nat.le_succ_of_le hfive, hhex⟩
  · rintro (⟨hpos, hle, hhex⟩ | ⟨digits, rfl, hfive, hpos, -, hhex⟩)
    · exact ⟨text, .inl rfl, List.length_pos_iff.1 hpos, hle, hhex⟩
    · exact ⟨digits, .inr rfl, List.length_pos_iff.1 hpos, Nat.succ_le_succ hfive, hhex⟩

section Braces

variable {x : String} {c : Char}

theorem isQuote_braced (h : BracesName x.toList c.toNat) (limit : Nat) :
    IsQuote limit (bracedQuote x) (String.singleton c) := by
  have hspells : Spells ('\\' :: 'u' :: '\x7b' :: (x.toList ++ ['\x7d'])) c := .code (.braces h)
  exact isQuote_of_spellsAll (by simp [bracedQuote]) (.cons hspells .nil) limit

variable (hx : '\x7d' ∉ x.toList)
include hx

theorem hasBadEscape_braced (h : ∀ c : Char, ¬ BracesName x.toList c.toNat) (limit : Nat) :
    HasBadEscape limit (bracedQuote x) := by
  have hnone : NamesNone ('\x7b' :: (x.toList ++ ['\x7d', '"'])) := by
    rw [namesNone_iff]
    intro n used hcode
    obtain ⟨-, hname⟩ := (codePoint_braced_iff hx ['"']).1 hcode
    rw [Option.eq_none_iff_forall_ne_some]
    intro c hc
    rw [scalar?_eq_some_iff.1 hc] at hname
    exact h c hname
  have hrest : (Cursor.ofString (bracedQuote x)).rest =
      '"' :: ([] ++ '\\' :: 'u' :: '\x7b' :: (x.toList ++ ['\x7d', '"'])) := by
    simp [Cursor.ofString, bracedQuote]
  have hcomes : Comes limit limit (.ofString (bracedQuote x)) limit (.ofString (bracedQuote x)) :=
    .here
  obtain ⟨escape, herror⟩ := tokenize_namesNone hcomes hrest .nil hnone
  exact ⟨_, escape, _, herror⟩

theorem isQuote_braced_iff :
    IsQuote limit (bracedQuote x) (String.singleton c) ↔ BracesName x.toList c.toNat := by
  constructor
  · intro h
    by_contra hname
    by_cases hother : ∃ d : Char, BracesName x.toList d.toNat
    · obtain ⟨d, hd⟩ := hother
      have hsame := h.unique (isQuote_braced hd limit)
      rw [String.singleton_inj.1 hsame] at hname
      exact hname hd
    · exact h.not_hasBadEscape (hasBadEscape_braced hx (not_exists.1 hother) limit)
  · intro h
    exact isQuote_braced h limit

/-- **Code points in braces.** What stands in braces is read as the character whose code point it
writes in one to six hexadecimal digits, and is an error otherwise, just if it is not a plus sign
with one to five such digits behind it. -/
theorem tokenize_braced_iff (limit : Nat) :
    ((∀ c, IsQuote limit (bracedQuote x) (String.singleton c) ↔ NamesByHex x.toList c) ∧
      ((∀ c, ¬ NamesByHex x.toList c) → HasBadEscape limit (bracedQuote x))) ↔
    ¬ ∃ digits c, x.toList = '+' :: digits ∧ digits.length ≤ 5 ∧ NamesByHex digits c := by
  constructor
  · rintro ⟨hquote, -⟩ ⟨digits, c, hplus, hfive, hname⟩
    have hread := isQuote_braced (bracesName_iff.2 (.inr ⟨digits, hplus, hfive, hname⟩)) limit
    obtain ⟨-, -, hhex⟩ := (hquote c).1 hread
    rw [hplus] at hhex
    exact not_writesHex_plus hhex
  · intro hplus
    have hbraces (c : Char) : BracesName x.toList c.toNat ↔ NamesByHex x.toList c := by
      rw [bracesName_iff, or_iff_left]
      rintro ⟨digits, h⟩
      exact hplus ⟨digits, c, h⟩
    constructor
    · intro c
      rw [isQuote_braced_iff hx, hbraces]
    · intro hnone
      refine hasBadEscape_braced hx (fun c hc => ?_) limit
      exact hnone c ((hbraces c).1 hc)

end Braces

/-- A code point outside the basic plane, with a leading zero. -/
theorem tokenize_braced_iff_zero :
    '\x7d' ∉ "01f600".toList ∧
    (((∀ c, IsQuote 3 (bracedQuote "01f600") (String.singleton c) ↔ NamesByHex "01f600".toList c) ∧
      ((∀ c, ¬ NamesByHex "01f600".toList c) → HasBadEscape 3 (bracedQuote "01f600"))) ↔
    ¬ ∃ digits c, "01f600".toList = '+' :: digits ∧ digits.length ≤ 5 ∧ NamesByHex digits c) :=
  ⟨by decide, tokenize_braced_iff (by decide) 3⟩

/-- With a plus sign before its digits a code point is read. -/
theorem tokenize_braced_plus : '\x7d' ∉ "+41".toList ∧
    ¬ ((∀ c, IsQuote 128 (bracedQuote "+41") (String.singleton c) ↔ NamesByHex "+41".toList c) ∧
      ((∀ c, ¬ NamesByHex "+41".toList c) → HasBadEscape 128 (bracedQuote "+41"))) := by
  have hx : '\x7d' ∉ "+41".toList := by decide
  have hdigits : WritesHex ['4', '1'] 'A'.toNat := ⟨[4, 1], rfl, rfl⟩
  have hread := isQuote_braced (x := "+41") ⟨['4', '1'], .inr rfl, by simp, by decide, hdigits⟩ 128
  refine ⟨hx, ?_⟩
  rintro ⟨hquote, -⟩
  obtain ⟨-, -, hplus⟩ := (hquote 'A').1 hread
  exact not_writesHex_plus hplus

end SearchQuery
