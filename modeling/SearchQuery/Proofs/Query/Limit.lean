import Mathlib.Tactic.Common
import SearchQuery.Proofs.Item.Levels
import SearchQuery.Proofs.Item.Path
import SearchQuery.Proofs.Item.Reading
import SearchQuery.Proofs.Token.Levels
import SearchQuery.Proofs.Token.Lexing
import SearchQuery.Query

/-!
# The limit on nesting

What the limit under which a query is read does to the answer.

* `decode_eq_of_le`: an answer that is not for want of levels stands under every higher limit.
* `decode_path_le`: no path through the items has more levels than the limit.
-/

namespace SearchQuery

/-- The text nests deeper than the limit, its groups already or the query they are part of. -/
def ParseError.IsTooDeep : ParseError → Prop
  | .lex (.tooDeep _ _) | .tooDeep _ _ => True
  | _ => False

namespace Query

open Item

variable {limit limit' : Nat} {text : String} {decoded : Decoded}

theorem decode_of_error {e : LexError} (h : tokenize limit text = .error e) :
    decode limit text = .error (.lex e) := by
  rw [decode, h]

theorem decode_of_ok {t : Tokenized} (h : tokenize limit text = .ok t) :
    decode limit text =
      (ofTokens limit t.tokens).map fun items => ⟨items, t.remainder, t.position⟩ := by
  rw [decode, h]

/-- What is decoded is a sequence that takes no more levels than there are. -/
theorem decode_ok (h : decode limit text = .ok decoded) :
    IsSequence IsTerm decoded.items ∧ levels 0 decoded.items ≤ limit := by
  cases htokens : tokenize limit text with
  | error e =>
    rw [decode_of_error htokens] at h
    cases h
  | ok t =>
    rw [decode_of_ok htokens] at h
    obtain ⟨items, hitems, rfl⟩ := Except.map_eq_ok.1 h
    have hread := ofTokens_ok ⟨tokenize_proper htokens, .inl rfl⟩ hitems
    exact ⟨hread.sequence, hread.levels⟩

/-- **A limit is only a limit.** Unless the text nests too deep for it, the same is decoded under
every higher limit, and for the same reason nothing. -/
theorem decode_eq_of_le (h : limit ≤ limit')
    (hdeep : ∀ e, decode limit text = .error e → ¬ e.IsTooDeep) :
    decode limit' text = decode limit text := by
  obtain ⟨pos, n, htokens⟩ | htokens := tokenize_raised h text
  · exact absurd trivial (hdeep _ (decode_of_error htokens))
  · cases hcut : tokenize limit text with
    | error e => rw [decode_of_error hcut, decode_of_error (htokens.trans hcut)]
    | ok t =>
      rw [decode_of_ok (htokens.trans hcut)]
      rw [decode_of_ok hcut] at hdeep ⊢
      obtain ⟨n, pos, hitems⟩ | hitems := ofTokens_raised h t.tokens
      · rw [hitems] at hdeep
        exact absurd trivial (hdeep _ rfl)
      · rw [hitems]

/-- The pair, the groups and the keyword take four levels, and no fifth one changes what is read.
A text that is no query stays none. -/
theorem decode_eq_of_le_four :
    (∃ decoded, decode 4 "a:(b OR (c))" = .ok decoded) ∧
      decode 64 "a:(b OR (c))" = decode 4 "a:(b OR (c))" ∧
    decode 2 "(a OR)" = .error (.missingOperand .or ⟨1, 4⟩) ∧
      decode 64 "(a OR)" = decode 2 "(a OR)" := by
  have hread : ∃ decoded, decode 4 "a:(b OR (c))" = .ok decoded := ⟨_, rfl⟩
  have hfails : decode 2 "(a OR)" = .error (.missingOperand .or ⟨1, 4⟩) := rfl
  refine ⟨hread, decode_eq_of_le (by decide) ?_, hfails, decode_eq_of_le (by decide) ?_⟩
  · intro e he
    obtain ⟨decoded, hdecoded⟩ := hread
    rw [hdecoded] at he
    cases he
  · rw [hfails]
    rintro _ ⟨⟩
    exact id

/-- **Nesting is bounded.** A path through what is decoded has at most as many groups, connectives,
negations and pairs with a value as the limit says. -/
theorem decode_path_le (h : decode limit text = .ok decoded) {item : Item}
    (hitem : item ∈ decoded.items) {path : List Item} (hpath : item.IsPath path) :
    path.countP isLevel ≤ limit := by
  obtain ⟨hsequence, hlevels⟩ := decode_ok h
  exact Nat.le_trans (hsequence.levelsWithin item hitem path hpath) hlevels

/-- A path of as many levels as the limit allows. -/
theorem decode_path_le_four :
    let word := Item.word ⟨1, 10⟩ "c"
    let inner := Item.group ⟨1, 9⟩ [word]
    let either := Item.or ⟨1, 6⟩ (.word ⟨1, 4⟩ "b") [inner]
    let outer := Item.group ⟨1, 3⟩ [either]
    let pair := Item.pair ⟨1, 1⟩ (.word ⟨1, 1⟩ "a") outer
    decode 4 "a:(b OR (c))" = .ok ⟨[pair], "", ⟨1, 13⟩⟩ ∧
      pair.IsPath [pair, outer, either, inner, word] ∧
      [pair, outer, either, inner, word].countP isLevel = 4 ∧
      [pair, outer, either, inner, word].countP isLevel ≤ 4 := by
  intro word inner either outer pair
  have hread : decode 4 "a:(b OR (c))" = .ok ⟨[pair], "", ⟨1, 13⟩⟩ := rfl
  have hword : word.IsPath [word] := .leaf rfl
  have hinner : inner.IsPath [inner, word] := .step (by simp [inner, children]) hword
  have heither : either.IsPath [either, inner, word] := .step (by simp [either, children]) hinner
  have houter : outer.IsPath [outer, either, inner, word] :=
    .step (by simp [outer, children]) heither
  have hpath : pair.IsPath [pair, outer, either, inner, word] :=
    .step (by simp [pair, children]) houter
  exact ⟨hread, hpath, rfl, decode_path_le hread (List.mem_singleton_self _) hpath⟩

end Query

end SearchQuery
