import Mathlib.Data.List.Basic
import Mathlib.Tactic.Common
import SearchQuery.Proofs.Text.CodePoint

/-!
# Quoted text reads back

Between quotes there is more than one way to write a character. `Spells` lists them, and `Ends` says
where a quoted text cannot go on.

* `readQuote_eq_iff`: a quoted text is read as the characters that are spelled up to where it ends.
* `readQuote_append`, `readQuote_of_append`: what stands behind the closing quote does not count.
* `readQuote_encode`: a text written between quotes reads back as that text.
* `spells_utf16`: a character is spelled by the escapes of its UTF-16 code units.
-/

namespace SearchQuery.Text.Escape

/-- The characters are one way to write the character `c` between quotes. -/
inductive Spells : List Char → Char → Prop where
  | plain {c : Char} (hquote : c ≠ '"') (hslash : c ≠ '\\') : Spells [c] c
  | escape {d : Char} (hd : d ≠ 'u') : Spells ['\\', d] (control d)
  | code {text : List Char} {c : Char} (h : Names text c.toNat) : Spells ('\\' :: 'u' :: text) c

/-- The text writes the characters one after the other. -/
inductive SpellsAll : (text : List Char) → (s : List Char) → Prop where
  | nil : SpellsAll [] []
  | cons {first text s : List Char} {c : Char} (h : Spells first c) (hs : SpellsAll text s) :
      SpellsAll (first ++ text) (c :: s)

/-- How many characters were used to find the code point, or not to find one. -/
def Code.used : Code → Nat
  | value _ used | stuck used => used

/-- What is read where a quoted text does not go on. -/
inductive Ends : (rest : List Char) → Quote → Prop where
  | quote {tail : List Char} : Ends ('"' :: tail) (.closed [] 1)
  | endOfText : Ends [] (.unterminated [] 0)
  | backslash : Ends ['\\'] (.unterminated [] 1)
  | code {tail : List Char} (h : NamesNone tail) :
      Ends ('\\' :: 'u' :: tail) (.badCode 0 ((codePoint tail).used + 2))

/-- The rest of a quoted text after the characters `s`, which took `n` characters to write. -/
def Quote.after (s : List Char) (n : Nat) : Quote → Quote
  | .closed text used => .closed (s ++ text) (n + used)
  | .unterminated text used => .unterminated (s ++ text) (n + used)
  | .badCode start used => .badCode (n + start) (n + used)

variable {text s rest tail : List Char} {n used start : Nat} {c : Char} {q : Quote}

theorem Quote.after_nil (q : Quote) : q.after [] 0 = q := by
  cases q <;> simp [after]

theorem Quote.push_after (q : Quote) (c : Char) (s : List Char) (m n : Nat) :
    (q.after s n).push c m = q.after (c :: s) (m + n) := by
  cases q <;> simp [after, push, Nat.add_assoc]

/-! ## One character -/

theorem readQuote_plain (hquote : c ≠ '"') (hslash : c ≠ '\\') (rest : List Char) :
    readQuote (c :: rest) = (readQuote rest).push c 1 := by
  rw [readQuote]
  · exact hquote
  all_goals simp [hslash]

theorem readQuote_escape (hc : c ≠ 'u') (rest : List Char) :
    readQuote ('\\' :: c :: rest) = (readQuote rest).push (control c) 2 := by
  rw [readQuote]
  exact hc

theorem readQuote_code (h : Names text c.toNat) (rest : List Char) :
    readQuote ('\\' :: 'u' :: (text ++ rest)) = (readQuote rest).push c (text.length + 2) := by
  rw [readQuote, h.codePoint]
  simp only [scalar?_eq_some_iff.2 rfl, List.drop_left]

theorem Spells.readQuote (h : Spells text c) (rest : List Char) :
    readQuote (text ++ rest) = (readQuote rest).push c text.length := by
  cases h with
  | plain hquote hslash => exact readQuote_plain hquote hslash rest
  | escape hd => exact readQuote_escape hd rest
  | code h => exact readQuote_code h rest

theorem readQuote_of_namesNone (h : NamesNone text) :
    readQuote ('\\' :: 'u' :: text) = .badCode 0 ((codePoint text).used + 2) := by
  rw [readQuote]
  cases hcode : codePoint text with
  | stuck used => rfl
  | value n used =>
    simp only [namesNone_iff.1 h n used hcode]
    rfl

/-! ## All characters -/

theorem SpellsAll.readQuote (h : SpellsAll text s) (rest : List Char) :
    readQuote (text ++ rest) = (readQuote rest).after s text.length := by
  induction h with
  | nil => exact (Quote.after_nil _).symm
  | cons h _ ih =>
    rw [List.append_assoc, h.readQuote, ih, Quote.push_after, List.length_append]

/-- Every character takes at least one to be written. -/
theorem SpellsAll.length_le (h : SpellsAll text s) : s.length ≤ text.length := by
  induction h with
  | nil => exact Nat.le_refl _
  | cons h _ ih =>
    rw [List.length_cons, List.length_append]
    cases h with
    | plain | escape | code =>
      simp only [List.length_cons]
      omega

theorem Ends.readQuote (h : Ends rest q) : readQuote rest = q := by
  cases h with
  | quote => rw [Escape.readQuote]
  | endOfText => rw [Escape.readQuote]
  | backslash => rw [Escape.readQuote]
  | code h => exact readQuote_of_namesNone h

/-- Characters are spelled up to where the text does not go on. -/
theorem exists_spellsAll (text : List Char) : ∃ before s rest q,
    text = before ++ rest ∧ SpellsAll before s ∧ Ends rest q := by
  have hcons {first text : List Char} {c : Char} (h : Spells first c)
      (ih : ∃ before s rest q, text = before ++ rest ∧ SpellsAll before s ∧ Ends rest q) :
      ∃ before s rest q, first ++ text = before ++ rest ∧ SpellsAll before s ∧ Ends rest q := by
    obtain ⟨before, s, rest, q, rfl, hs, hends⟩ := ih
    exact ⟨first ++ before, c :: s, rest, q, (List.append_assoc ..).symm, .cons h hs, hends⟩
  fun_induction Escape.readQuote text with
  | case1 => exact ⟨[], [], [], _, rfl, .nil, .endOfText⟩
  | case2 tail => exact ⟨[], [], _, _, rfl, .nil, .quote⟩
  | case3 => exact ⟨[], [], _, _, rfl, .nil, .backslash⟩
  | case4 tail used hstuck =>
    refine ⟨[], [], _, _, rfl, .nil, .code (namesNone_iff.2 ?_)⟩
    intro n m hcode
    cases hstuck.symm.trans hcode
  | case5 tail n used hcode hscalar =>
    refine ⟨[], [], _, _, rfl, .nil, .code (namesNone_iff.2 ?_)⟩
    intro m k hcode'
    cases hcode.symm.trans hcode'
    exact hscalar
  | case6 tail n used hcode c hscalar ih =>
    obtain ⟨code, rest, rfl, rfl, hname⟩ := codePoint_eq_value_iff.1 hcode
    rw [scalar?_eq_some_iff.1 hscalar] at hname
    rw [List.drop_left] at ih
    exact hcons (.code hname) ih
  | case7 c tail hu ih => exact hcons (.escape hu) ih
  | case8 c tail hquote hslash _ hescape ih =>
    refine hcons (.plain hquote ?_) ih
    rintro rfl
    cases tail with
    | nil => exact hslash rfl rfl
    | cons d tail => exact hescape d tail rfl rfl

/-- **Quoted text.** A quoted text is read as the characters that are spelled up to where it does
not go on. -/
theorem readQuote_eq_iff : readQuote text = q ↔ ∃ before s rest q',
    text = before ++ rest ∧ SpellsAll before s ∧ Ends rest q' ∧ q = q'.after s before.length := by
  constructor
  · rintro rfl
    obtain ⟨before, s, rest, q', rfl, hs, hends⟩ := exists_spellsAll text
    refine ⟨before, s, rest, q', rfl, hs, hends, ?_⟩
    rw [hs.readQuote, hends.readQuote]
  · rintro ⟨before, s, rest, q', rfl, hs, hends, rfl⟩
    rw [hs.readQuote, hends.readQuote]

theorem readQuote_eq_closed_iff : readQuote text = .closed s used ↔ ∃ inner rest,
    text = inner ++ '"' :: rest ∧ SpellsAll inner s ∧ used = inner.length + 1 := by
  rw [readQuote_eq_iff]
  constructor
  · rintro ⟨inner, s', rest, q', rfl, hs, hends, hq⟩
    cases hends with
    | quote =>
      cases hq
      exact ⟨inner, _, rfl, by rwa [List.append_nil], rfl⟩
    | _ => cases hq
  · rintro ⟨inner, rest, rfl, hs, rfl⟩
    exact ⟨inner, s, _, _, rfl, hs, .quote, by rw [Quote.after, List.append_nil]⟩

theorem readQuote_eq_badCode_iff : readQuote text = .badCode start used ↔ ∃ before s tail,
    text = before ++ '\\' :: 'u' :: tail ∧ SpellsAll before s ∧ NamesNone tail ∧
      start = before.length ∧ used = before.length + ((codePoint tail).used + 2) := by
  rw [readQuote_eq_iff]
  constructor
  · rintro ⟨before, s, rest, q', rfl, hs, hends, hq⟩
    cases hends with
    | code h =>
      cases hq
      exact ⟨before, s, _, rfl, hs, h, rfl, rfl⟩
    | _ => cases hq
  · rintro ⟨before, s, tail, rfl, hs, h, rfl, rfl⟩
    exact ⟨before, s, _, _, rfl, hs, .code h, rfl⟩

/-! ## Text up to the closing quote -/

/-- A quoted text is read alike whatever stands behind its closing quote. -/
theorem readQuote_append (h : readQuote text = .closed s used) (tail : List Char) :
    readQuote (text ++ tail) = .closed s used ∧ used ≤ text.length := by
  obtain ⟨inner, rest, rfl, hs, rfl⟩ := readQuote_eq_closed_iff.1 h
  constructor
  · exact readQuote_eq_closed_iff.2 ⟨inner, rest ++ tail, by simp, hs, rfl⟩
  · simp

/-- A quoted text is read alike without what stands behind its closing quote. -/
theorem readQuote_of_append (h : readQuote (text ++ tail) = .closed s used)
    (hle : used ≤ text.length) : readQuote text = .closed s used := by
  obtain ⟨inner, rest, htext, hs, rfl⟩ := readQuote_eq_closed_iff.1 h
  have hclosed : inner ++ ['"'] <+: text := by
    refine List.prefix_of_prefix_length_le ⟨rest, ?_⟩ (List.prefix_append text tail) (by simpa)
    rw [htext, List.append_assoc, List.singleton_append]
  obtain ⟨rest', rfl⟩ := hclosed
  exact readQuote_eq_closed_iff.2 ⟨inner, rest', by simp, hs, rfl⟩

/-! ## Written characters -/

theorem spells_encodeChar (c : Char) : Spells (encodeChar c) c := by
  by_cases hslash : c = '\\'
  · subst hslash
    exact .escape (by decide)
  by_cases hquote : c = '"'
  · subst hquote
    exact .escape (by decide)
  by_cases hdot : c = '.'
  · subst hdot
    exact .escape (by decide)
  by_cases hfeed : c = '\n'
  · subst hfeed
    exact .escape (d := 'n') (by decide)
  by_cases hreturn : c = '\r'
  · subst hreturn
    exact .escape (d := 'r') (by decide)
  by_cases hbreak : isLineBreak c
  · have hc : c = '\u0085' ∨ c = '\u2028' ∨ c = '\u2029' := by
      simp only [isLineBreak, Bool.or_eq_true, decide_eq_true_eq] at hbreak
      tauto
    obtain rfl | rfl | rfl := hc
    · exact .code (.unit ⟨rfl, [0, 0, 8, 5], rfl, rfl⟩ rfl)
    · exact .code (.unit ⟨rfl, [2, 0, 2, 8], rfl, rfl⟩ rfl)
    · exact .code (.unit ⟨rfl, [2, 0, 2, 9], rfl, rfl⟩ rfl)
  · have hself : encodeChar c = [c] := by
      simp [encodeChar, hslash, hquote, hdot, hfeed, hreturn, hbreak]
    rw [hself]
    exact .plain hquote hslash

theorem spellsAll_encode (s : List Char) : SpellsAll (s.flatMap encodeChar) s := by
  induction s with
  | nil => exact .nil
  | cons c s ih =>
    rw [List.flatMap_cons]
    exact .cons (spells_encodeChar c) ih

theorem readQuote_encode (text rest : List Char) :
    readQuote (text.flatMap encodeChar ++ '"' :: rest) =
      .closed text ((text.flatMap encodeChar).length + 1) :=
  readQuote_eq_closed_iff.2 ⟨_, rest, rfl, spellsAll_encode text, rfl⟩

/-- A character is spelled by the escapes of its code units. -/
theorem spells_utf16 (h : EscapesUnits (utf16 c) text) : Spells text c := by
  obtain ⟨code, rfl, hname⟩ := names_utf16 h
  exact .code hname

end SearchQuery.Text.Escape
