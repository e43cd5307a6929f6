import Mathlib.Tactic.Common
import SearchQuery.Proofs.Query.Limit
import SearchQuery.Proofs.Query.RoundTrip
import SearchQuery.Proofs.Token.Cut

/-!
# What is left of a text

A text is read up to the first character that starts no token. What was read is a query of its own,
and the rest is what `parse` refuses.

* `decode_stops`: the items are those of the text before the remainder, which starts where they end.
-/

namespace SearchQuery

/-- Where a character starts no token, none is read, wherever the place is and whatever follows. -/
theorem Lexer.next_eq_none {c : Char} (h : startsToken c = false) (limit : Nat) (rest : List Char)
    (pos : Position) : next limit ⟨c :: rest, pos⟩ = .ok none ⟨c :: rest, pos⟩ := by
  unfold next
  exact nextWith_eq_none_iff.2 ⟨rfl, c, rest, rfl, h⟩

namespace Query

open Item

variable {limit : Nat} {text : String} {decoded : Decoded}

theorem decode_eq_ok : decode limit text = .ok decoded ↔
    ∃ t, tokenize limit text = .ok t ∧ ofTokens limit t.tokens = .ok decoded.items ∧
      decoded.remainder = t.remainder ∧ decoded.position = t.position := by
  obtain ⟨items, remainder, position⟩ := decoded
  cases htokens : tokenize limit text with
  | error e => simp [decode_of_error htokens]
  | ok t =>
    rw [decode_of_ok htokens, Except.map_eq_ok]
    simp only [Decoded.mk.injEq, Except.ok.injEq, exists_eq_left']
    constructor
    · rintro ⟨found, hfound, rfl, rfl, rfl⟩
      exact ⟨hfound, rfl, rfl⟩
    · rintro ⟨hitems, rfl, rfl⟩
      exact ⟨items, hitems, rfl, rfl, rfl⟩

theorem parse_of_decode (h : decode limit text = .ok decoded) :
    parse limit text =
      if decoded.remainder = "" then .ok decoded.items
      else .error (.trailingInput decoded.remainder decoded.position) := by
  simp only [parse, h, String.isEmpty_iff]

/-- **Reading stops where it says.** The items that are decoded are those of the text before the
remainder, positions included, and the remainder is placed at its end. No token starts with the
first character of the remainder. The whole text is a query just if nothing remains. -/
theorem decode_stops (h : decode limit text = .ok decoded) :
    (∃ p, text = p ++ decoded.remainder ∧ parse limit p = .ok decoded.items ∧
      decoded.position = .atEndOf p.toList) ∧
    (∀ c ∈ decoded.remainder.toList.head?, ∀ limit rest pos,
      Lexer.next limit ⟨c :: rest, pos⟩ = .ok none ⟨c :: rest, pos⟩) ∧
    parse limit text =
      if decoded.remainder = "" then .ok decoded.items
      else .error (.trailingInput decoded.remainder decoded.position) := by
  obtain ⟨t, htokens, hitems, hremainder, hposition⟩ := decode_eq_ok.1 h
  obtain ⟨hstops, p, htext, hcut⟩ := tokenize_cut htokens
  refine ⟨⟨p, ?_, ?_, ?_⟩, ?_, parse_of_decode h⟩
  · rw [hremainder]
    exact htext
  · exact parse_eq_ok.2 ⟨_, hcut, rfl, hitems⟩
  · -- The tokens of `p` tile all of it.
    obtain ⟨slice, hslice, -, hend⟩ := tokenize_tiles hcut
    rw [String.toList_empty, List.append_nil] at hslice
    rw [hposition, hslice]
    exact hend
  · intro c hc limit rest pos
    rw [hremainder] at hc
    exact Lexer.next_eq_none (hstops c hc) limit rest pos

/-- A group that ends in a line break of two characters, and a comparison before the stray
parenthesis. -/
theorem decode_stops_lines :
    let items : List Item := [.pair ⟨1, 1⟩ (.word ⟨1, 1⟩ "a") (.group ⟨1, 3⟩ [.word ⟨1, 4⟩ "b"]),
      .compare ⟨2, 3⟩ .gt (.word ⟨2, 4⟩ "c.")]
    decode 2 "a:(b\r\n) >c.) d" = .ok ⟨items, ") d", ⟨2, 6⟩⟩ ∧
      (∃ p, "a:(b\r\n) >c.) d" = p ++ ") d" ∧ parse 2 p = .ok items ∧
        ⟨2, 6⟩ = Position.atEndOf p.toList) ∧
      (∀ c ∈ ") d".toList.head?, ∀ limit rest pos,
        Lexer.next limit ⟨c :: rest, pos⟩ = .ok none ⟨c :: rest, pos⟩) ∧
      parse 2 "a:(b\r\n) >c.) d" =
        if ") d" = "" then .ok items else .error (.trailingInput ") d" ⟨2, 6⟩) := by
  intro items
  have hdecode : decode 2 "a:(b\r\n) >c.) d" = .ok ⟨items, ") d", ⟨2, 6⟩⟩ := by
    cbv
  exact ⟨hdecode, decode_stops hdecode⟩

end Query

end SearchQuery
