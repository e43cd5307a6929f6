import Mathlib.Data.List.TakeWhile
import Mathlib.Tactic.Common
import SearchQuery.Proofs.Token.Cut
import SearchQuery.Proofs.Token.Settled

/-!
# Quotes before a colon

A quote that is read before a colon does not hold the text before the colon as it stands: the
opening quote is written there and not read, so the first colon of the quote is read too early.

* `readQuote_colon`: a colon between the quotes is read no later than it is written.
* `quote_ne_before_colon`: the first token of `s:…` is no quote of `s`.
-/

namespace SearchQuery

namespace Text.Escape

variable {text tail : List Char} {n used : Nat}

/-- No name of a code point holds a colon. -/
theorem Names.not_mem_colon (h : Names text n) : ':' ∉ text := by
  have hunit {digits : List Char} {n : Nat} (h : WritesUnit digits n) : ':' ∉ digits := by
    intro hmem
    cases h.2.isSome _ hmem
  cases h with
  | braces h =>
    intro hmem
    simp only [List.mem_cons, List.mem_append, List.not_mem_nil, or_false] at hmem
    obtain hmem | hmem | hmem := hmem
    · cases hmem
    · cases (h.isSome_or_plus _ hmem).resolve_right (by decide)
    · cases hmem
  | unit h => exact hunit h
  | pair h _ h' =>
    simp only [List.mem_append, List.mem_cons, not_or]
    exact ⟨hunit h, by decide, by decide, hunit h'⟩

/-- A colon is written in no other way than as it stands, after a backslash or not. -/
theorem Spells.eq_colon {first : List Char} {c : Char} (h : Spells first c) (hmem : ':' ∈ first) :
    c = ':' := by
  cases h with
  | plain => exact (List.mem_singleton.1 hmem).symm
  | @escape d =>
    obtain rfl : ':' = d := by simpa using hmem
    rfl
  | code h =>
    simp only [List.mem_cons] at hmem
    obtain hmem | hmem | hmem := hmem
    · cases hmem
    · cases hmem
    · exact absurd hmem h.not_mem_colon

/-- A colon between the quotes is read as a colon, and no later than it is written. -/
theorem SpellsAll.mem_take {before s : List Char} (h : SpellsAll text s)
    (htext : text = before ++ ':' :: tail) : ':' ∈ s.take (before.length + 1) := by
  induction h generalizing before with
  | nil => simp at htext
  | @cons first text s c h _ ih =>
    rw [List.take_succ_cons]
    by_cases hmem : ':' ∈ first
    · rw [h.eq_colon hmem]
      exact List.mem_cons_self
    · obtain ⟨before', rfl, rfl⟩ :
          ∃ before', before = first ++ before' ∧ text = before' ++ ':' :: tail := by
        obtain hbefore | ⟨colon, rfl, hcolon⟩ := List.append_eq_append_iff.1 htext
        · exact hbefore
        · cases colon with
          | nil => exact ⟨[], by simp, hcolon.symm⟩
          | cons d colon =>
            cases hcolon
            simp at hmem
      have hfirst : 1 ≤ first.length := by
        cases h <;> simp
      rw [List.length_append]
      exact List.mem_cons_of_mem _ (List.take_subset_take_left s (by omega) (ih rfl))

theorem readQuote_colon {s before : List Char}
    (h : readQuote (before ++ ':' :: tail) = .closed s used) (hused : before.length < used) :
    ':' ∈ s.take (before.length + 1) := by
  obtain ⟨inner, rest, htext, hs, rfl⟩ := readQuote_eq_closed_iff.1 h
  have hprefix : before <+: inner := by
    refine List.prefix_of_prefix_length_le (List.prefix_append before (':' :: tail)) ?_
      (Nat.le_of_lt_succ hused)
    rw [htext]
    exact List.prefix_append inner _
  obtain ⟨mid, rfl⟩ := hprefix
  rw [List.append_assoc, List.append_cancel_left_eq] at htext
  cases mid with
  | nil => cases htext
  | cons c mid =>
    cases htext
    exact hs.mem_take rfl

theorem readQuote_length_lt {s : List Char} (h : readQuote text = .closed s used) :
    s.length < used := by
  obtain ⟨inner, rest, rfl, hs, rfl⟩ := readQuote_eq_closed_iff.1 h
  exact Nat.lt_succ_of_le hs.length_le

end Text.Escape

namespace Lexer

open Text Token

variable {limit fuel levels : Nat} {cur next : Cursor} {ts us : List Token} {s : String}
  {rest : List Char}

/-- No colon is written before the first token, spaces and commas with nothing after them apart. -/
theorem exists_quote_of_normalAll (h : tokensWith limit fuel levels cur = .ok ts next)
    (hts : normalAll ts = .quote .start s :: us) :
    ∃ before inner used, cur.rest = before ++ '"' :: inner ∧ ':' ∉ before ∧
      Escape.readQuote inner = .closed s.toList used := by
  induction fuel generalizing levels cur ts with
  | zero =>
    cases h
    cases hts
  | succ fuel ih =>
    obtain ⟨rfl, -, -⟩ | ⟨t, mid, ts, hread, hend, hmid, rfl⟩ := tokensWith_succ_eq_ok h
    · cases hts
    -- What settles to nothing is passed over, and the quote is found behind it.
    have hpass (front : List Char) (hfront : cur.rest = front ++ mid.rest) (hcolon : ':' ∉ front)
        (hts : normalAll ts = .quote .start s :: us) : ∃ before inner used,
          cur.rest = before ++ '"' :: inner ∧ ':' ∉ before ∧
            Escape.readQuote inner = .closed s.toList used := by
      obtain ⟨before, inner, used, hrest, hbefore, hquote⟩ := ih hmid hts
      refine ⟨front ++ before, inner, used, ?_, ?_, hquote⟩
      · rw [hfront, hrest, List.append_assoc]
      · simp [hcolon, hbefore]
    cases hread with
    | endOfText => exact absurd rfl (hend _)
    | space =>
      rw [normalAll_space] at hts
      refine hpass (cur.rest.takeWhile isBlank) ?_ ?_ hts
      · rw [Cursor.advance_rest]
        exact (List.prefix_iff_eq_append.1 (List.takeWhile_prefix _)).symm
      · intro hmem
        cases List.mem_takeWhile_imp hmem
    | word =>
      cases hkeyword : Keyword.ofWord? (String.ofList (leadingWord cur.rest)) with
      | none =>
        rw [normalAll_word _ _ hkeyword] at hts
        cases hts
      | some k =>
        rw [normalAll_keyword _ _ hkeyword] at hts
        cases hts
    | @quote inner text used hrest hquote =>
      have hs : String.ofList text = s := by
        simp only [normalAll_cons, settled, bareAll, bare, Token.unplaced, List.singleton_append,
          List.append_nil, List.cons.injEq, Token.quote.injEq, true_and] at hts
        exact hts.1
      refine ⟨[], inner, used, hrest, List.not_mem_nil, ?_⟩
      rw [← hs, String.toList_ofList]
      exact hquote
    | @sign sign hs =>
      by_cases hcomma : sign = .comma ∧ breaks ts
      · obtain ⟨rfl, hbreaks⟩ := hcomma
        rw [normalAll_comma_of_breaks _ _ hbreaks] at hts
        refine hpass [','] ?_ (by decide) hts
        rw [Cursor.advance_rest]
        exact (Token.sign?_eq_some hs).symm
      by_cases hcolon : sign = .colon ∧ breaks ts
      · obtain ⟨rfl, hbreaks⟩ := hcolon
        rw [normalAll_colon_of_breaks _ _ hbreaks] at hts
        cases hts
      · rw [normalAll_sign _ _ (by grind)] at hts
        cases hts
    | group =>
      rw [normalAll_group] at hts
      cases hts

end Lexer

/-- **Quotes before a colon.** The first token of a text with a colon after it is no quote of the
text. -/
theorem quote_ne_before_colon {limit : Nat} {text s : String} {rest : List Char} {t : Tokenized}
    {us : List Token} (h : tokenize limit text = .ok t)
    (hts : Token.normalAll t.tokens = .quote .start s :: us) :
    text.toList ≠ s.toList ++ ':' :: rest := by
  intro htext
  obtain ⟨next, hread, -, -⟩ := tokenize_eq_ok.1 h
  obtain ⟨before, inner, used, hfront, hbefore, hquote⟩ :=
    Lexer.exists_quote_of_normalAll hread hts
  -- The opening quote stands before the colon, and belongs to the text.
  obtain ⟨body, hs, hinner⟩ :
      ∃ body, s.toList = before ++ '"' :: body ∧ inner = body ++ ':' :: rest := by
    obtain ⟨as, hs, has⟩ | ⟨as, hs, has⟩ := List.append_eq_append_iff.1 (hfront.symm.trans htext)
    · cases as with
      | nil => cases has
      | cons c body =>
        cases has
        exact ⟨body, hs, rfl⟩
    · cases as with
      | nil => cases has
      | cons c as =>
        cases has
        exact absurd (by rw [hs]; simp) hbefore
  obtain ⟨front, tail, hfirst, hcolon, hprefix⟩ :
      ∃ front tail, body ++ ':' :: rest = front ++ ':' :: tail ∧ ':' ∉ front ∧ front <+: body := by
    by_cases hmem : ':' ∈ body
    · obtain ⟨front, tail, rfl, hfront⟩ := List.eq_append_cons_of_mem hmem
      exact ⟨front, tail ++ ':' :: rest, by simp, hfront, List.prefix_append _ _⟩
    · exact ⟨body, rest, rfl, hmem, List.prefix_refl body⟩
  rw [hinner, hfirst, hs] at hquote
  have hlength := Text.Escape.readQuote_length_lt hquote
  rw [List.length_append, List.length_cons] at hlength
  have hearly := Text.Escape.readQuote_colon hquote (by have := hprefix.length_le; omega)
  rw [List.take_append, List.mem_append] at hearly
  obtain hearly | hearly := hearly
  · exact hbefore (List.mem_of_mem_take hearly)
  · have hbody := List.take_subset_take_left ('"' :: body)
      (Nat.sub_le (front.length + 1) before.length) hearly
    rw [List.take_succ_cons, ← List.prefix_iff_eq_take.1 hprefix] at hbody
    simp [hcolon] at hbody

end SearchQuery
