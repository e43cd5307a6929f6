import Mathlib.Tactic.Common
import SearchQuery.Proofs.Item.ReadBack
import SearchQuery.Proofs.Token.Lexing
import SearchQuery.Query

/-!
# Queries read back

What holds of a query that is parsed, printed and parsed again.

* `parse_print`: the same items are read, given one level more.
* `parse_keeps_tokens`: the query is printed with the tokens it was written with.
* `format_format_iff`: under the same limit the printed query is accepted just if there is a level
  for every value that was left out.
-/

namespace SearchQuery.Query

open Item

variable {limit : Nat} {text : String} {items : List Item}

theorem parse_eq_ok : parse limit text = .ok items ↔
    ∃ t, tokenize limit text = .ok t ∧ t.remainder = "" ∧ ofTokens limit t.tokens = .ok items := by
  unfold parse decode
  cases htokens : tokenize limit text with
  | error e => simp
  | ok t =>
    cases hitems : ofTokens limit t.tokens with
    | error e => simp [Except.map, hitems]
    | ok found =>
      by_cases hrest : t.remainder = ""
      · simp [Except.map, hrest, hitems]
      · simp [Except.map, hrest, hitems]

/-- What is parsed is a sequence that takes no more levels than there are. -/
theorem parse_ok (h : parse limit text = .ok items) :
    ∃ t, tokenize limit text = .ok t ∧ ReadAll 0 limit t.tokens items := by
  obtain ⟨t, htokens, -, hitems⟩ := parse_eq_ok.1 h
  exact ⟨t, htokens, ofTokens_ok ⟨tokenize_proper htokens, .inl rfl⟩ hitems⟩

theorem print_toList (items : List Item) :
    (print items).toList = Token.charsAll (spellAll [blank] items) :=
  printAll_toList " " [blank] rfl items

/-- A printed sequence is cut into the tokens of its items. -/
theorem tokenize_print (h : IsSequence IsTerm items) {left : Nat} (hlevels : levels left items ≤ limit) :
    ∃ t, tokenize limit (print items) = .ok t ∧
      Token.unplacedAll t.tokens = Token.unplacedAll (spellAll [blank] items) ∧ t.remainder = "" := by
  have hdepth := depthAll_spellAll_le left [blank] rfl items
  rw [levels] at hlevels
  exact tokenize_charsAll h.proper.1 (by omega) (print_toList items)

/-- A printed sequence reads back where there are as many levels as it takes. -/
theorem parse_print_of_levels (h : IsSequence IsTerm items) (hlevels : levels 1 items ≤ limit) :
    ∃ found, parse limit (print items) = .ok found ∧ unplacedAll found = readBackAll items := by
  obtain ⟨t, htokens, hunplaced, hrest⟩ := tokenize_print h hlevels
  obtain ⟨found, hfound, hsame⟩ := ofTokens_of_unplacedAll_eq hunplaced (ofTokens_spell h hlevels)
  rw [readBackAll, unplacedAll_unplacedAll] at hsame
  exact ⟨found, parse_eq_ok.2 ⟨t, htokens, hrest, hfound⟩, hsame⟩

/-- **Round trip.** A query that is parsed and printed is parsed again under a limit of one level
more. The items are the same, but for lists of one item, which are no lists any more. -/
theorem parse_print (h : parse limit text = .ok items) :
    ∃ found, parse (limit + 1) (print items) = .ok found ∧ sameAll found (collapseAll items) := by
  obtain ⟨t, -, hread⟩ := parse_ok h
  have hlevels : levels 1 items ≤ limit + 1 :=
    Nat.le_trans (levels_one_le items) (Nat.succ_le_succ hread.levels)
  obtain ⟨found, hfound, hunplaced⟩ := parse_print_of_levels hread.sequence hlevels
  exact ⟨found, hfound, (sameAll_iff _ _).2 hunplaced⟩

/-- A list of one item has no sign of its own, so the item itself is read back. -/
theorem parse_print_single :
    parse 0 "a: b," =
      .ok [.pair ⟨1, 1⟩ (.word ⟨1, 1⟩ "a") (.null ⟨1, 1⟩), .list ⟨1, 4⟩ [.word ⟨1, 4⟩ "b"]] ∧
    ∃ found, parse 1 "a:NULL b" = .ok found ∧
      sameAll found [.pair .start (.word .start "a") (.null .start), .word .start "b"] := by
  have hparse : parse 0 "a: b," =
      .ok [.pair ⟨1, 1⟩ (.word ⟨1, 1⟩ "a") (.null ⟨1, 1⟩), .list ⟨1, 4⟩ [.word ⟨1, 4⟩ "b"]] := rfl
  obtain ⟨found, hfound, hsame⟩ := parse_print hparse
  exact ⟨hparse, found, hfound, by rw [sameAll_iff] at hsame ⊢; exact hsame⟩

/-- **No token is lost.** A query is printed with the tokens it was written with, in their order,
once the choices that are left to the writer are settled. -/
theorem parse_keeps_tokens (h : parse limit text = .ok items) :
    ∃ given printed, tokenize limit text = .ok given ∧
      tokenize limit (print items) = .ok printed ∧ printed.remainder = "" ∧
      Token.bareAll printed.tokens = Token.bareAll (Token.settledAll given.tokens) := by
  obtain ⟨given, hgiven, hread⟩ := parse_ok h
  obtain ⟨printed, hprinted, hunplaced, hrest⟩ := tokenize_print hread.sequence hread.levels
  refine ⟨given, printed, hgiven, hprinted, hrest, ?_⟩
  rw [← Token.bareAll_unplacedAll, hunplaced, Token.bareAll_unplacedAll, ← hread.spell,
    Token.normalAll]

/-- The value that was left out and the comma with nothing after it are settled, the name of the
connective is written in capitals, and blanks do not count. -/
theorem parse_keeps_tokens_settled :
    parse 1 "a: or b," = .ok [.or ⟨1, 4⟩ (.pair ⟨1, 1⟩ (.word ⟨1, 1⟩ "a") (.null ⟨1, 1⟩))
      [.list ⟨1, 7⟩ [.word ⟨1, 7⟩ "b"]]] ∧
    ∃ given printed, tokenize 1 "a: or b," = .ok given ∧
      tokenize 1 "a:NULL OR b" = .ok printed ∧ printed.remainder = "" ∧
      Token.bareAll printed.tokens = Token.bareAll (Token.settledAll given.tokens) := by
  have hparse : parse 1 "a: or b," =
      .ok [.or ⟨1, 4⟩ (.pair ⟨1, 1⟩ (.word ⟨1, 1⟩ "a") (.null ⟨1, 1⟩))
        [.list ⟨1, 7⟩ [.word ⟨1, 7⟩ "b"]]] := rfl
  obtain ⟨given, printed, htokens⟩ := parse_keeps_tokens hparse
  exact ⟨hparse, given, printed, htokens⟩

/-! ## Formatting twice -/

theorem format_eq_ok {formatted : String} : format limit text = .ok formatted ↔
    ∃ items, parse limit text = .ok items ∧ print items = formatted :=
  Except.map_eq_ok

theorem print_of_unplacedAll_eq {found : List Item} (h : unplacedAll found = unplacedAll items) :
    print found = print items := by
  refine String.toList_inj.1 ?_
  rw [print_toList, print_toList, ← spellAll_unplacedAll, h, spellAll_unplacedAll]

theorem print_readBackAll (items : List Item) : print (readBackAll items) = print items := by
  refine String.toList_inj.1 ?_
  rw [print_toList, print_toList, spellAll_readBackAll]

/-- What a printed sequence is parsed into takes no more levels than there are, written values
included. -/
theorem parse_print_ok (h : IsSequence IsTerm items) (hlevels : levels 0 items ≤ limit)
    {found : List Item} (hfound : parse limit (print items) = .ok found) :
    ∃ found', unplacedAll found' = unplacedAll found ∧ IsSequence IsTerm found' ∧
      levels 1 found' ≤ limit := by
  obtain ⟨t, htokens, -, hitems⟩ := parse_eq_ok.1 hfound
  obtain ⟨t', htokens', hunplaced, -⟩ := tokenize_print h hlevels
  rw [htokens] at htokens'
  cases htokens'
  obtain ⟨found', hfound', hsame⟩ := ofTokens_of_unplacedAll_eq hunplaced.symm hitems
  have hread := ofTokens_ok ⟨h.proper.1, .inr ⟨rfl, h.proper.2⟩⟩ hfound'
  exact ⟨found', hsame, hread.sequence, hread.levels⟩

/-- A printed sequence is formatted into itself where there are as many levels as it takes. -/
theorem format_print (h : IsSequence IsTerm items) (hlevels : levels 1 items ≤ limit) :
    format limit (print items) = .ok (print items) := by
  obtain ⟨found, hfound, hunplaced⟩ := parse_print_of_levels h hlevels
  refine format_eq_ok.2 ⟨found, hfound, ?_⟩
  rw [← print_readBackAll items, ← hunplaced]
  exact print_of_unplacedAll_eq (unplacedAll_unplacedAll found).symm

/-- **Formatting twice.** The formatted query is its own formatted form under the same limit just
if there are levels for its items, those for the values that were left out included. -/
theorem format_format_iff (h : parse limit text = .ok items) :
    format limit text = .ok (print items) ∧
      (format limit (print items) = .ok (print items) ↔ levels 1 items ≤ limit) := by
  obtain ⟨t, -, hread⟩ := parse_ok h
  refine ⟨format_eq_ok.2 ⟨items, h, rfl⟩, fun hformat => ?_, format_print hread.sequence⟩
  obtain ⟨found, hfound, hprint⟩ := format_eq_ok.1 hformat
  obtain ⟨found', hunplaced, hsequence, hlevels⟩ :=
    parse_print_ok hread.sequence hread.levels hfound
  have hprint' : print found' = print items := (print_of_unplacedAll_eq hunplaced).trans hprint
  -- With enough levels for both, one text is read back as either of them.
  obtain ⟨back, hback, hunplaced⟩ :=
    parse_print_of_levels hread.sequence (Nat.le_max_left (levels 1 items) (levels 1 found'))
  obtain ⟨back', hback', hunplaced'⟩ :=
    parse_print_of_levels hsequence (Nat.le_max_right (levels 1 items) (levels 1 found'))
  rw [hprint', hback] at hback'
  cases hback'
  rw [← levels_readBackAll hread.sequence, ← hunplaced, hunplaced', levels_readBackAll hsequence]
  exact hlevels

/-- A value that is written from the start has its level. -/
theorem format_format_iff_written :
    parse 1 "a:b" = .ok [.pair ⟨1, 1⟩ (.word ⟨1, 1⟩ "a") (.word ⟨1, 3⟩ "b")] ∧
    format 1 "a:b" = .ok "a:b" ∧ (format 1 "a:b" = .ok "a:b" ↔ 1 ≤ 1) := by
  have hparse : parse 1 "a:b" = .ok [.pair ⟨1, 1⟩ (.word ⟨1, 1⟩ "a") (.word ⟨1, 3⟩ "b")] := rfl
  exact ⟨hparse, format_format_iff hparse⟩

/-- A query in which every pair has its value written is formatted into a form that formatting
keeps. -/
theorem format_format_of_filled (h : parse limit text = .ok items) {t : Tokenized}
    (htokens : tokenize limit text = .ok t) (hfilled : Token.FilledAll t.tokens) :
    format limit (print items) = .ok (print items) := by
  obtain ⟨t', htokens', -, hitems⟩ := parse_eq_ok.1 h
  rw [htokens] at htokens'
  cases htokens'
  have hread := ofTokens_ok ⟨tokenize_proper htokens, .inr ⟨rfl, hfilled⟩⟩ hitems
  exact format_print hread.sequence hread.levels

/-- A value that was left out takes a level when it is written. -/
theorem format_format_fails : format 0 "a:" = .ok "a:NULL" ∧
    format 0 "a:NULL" ≠ .ok "a:NULL" := by
  refine ⟨rfl, fun h => ?_⟩
  have hdeep : format 0 "a:NULL" = .error (.tooDeep 0 .start) := rfl
  rw [hdeep] at h
  cases h

end SearchQuery.Query
