import Mathlib.Data.List.Basic
import Mathlib.Tactic.Common
import SearchQuery.Proofs.Query.Values
import SearchQuery.Proofs.Schema.Casting
import SearchQuery.Proofs.Token.QuotedName

/-!
# Field names in printed queries

Casting puts the field that a key reads in place of the key, as a word. Words are printed as they
stand, so a query reads back with the name of the field just if that is a bare word.

* `parse_word_key`, `parse_ne_quote_key`: a key and the text that it is read from.
* `readsKey_print_castItems_iff`: a pair with a single word or quote, from its text on.
-/

namespace SearchQuery

open Item

namespace Query

variable {limit : Nat} {text : String} {rest : List Char} {p : Position} {key v : Item}

/-! ## Keys and their text -/

/-- The text is read as a single pair, whose key has the text `k`. -/
def ReadsKey (limit : Nat) (text k : String) : Prop :=
  ∃ p key v, parse limit text = .ok [.pair p key v] ∧ key.text? = some k

/-- The tokens of a pair start with those of its key. -/
theorem parse_pair_ok (h : parse limit text = .ok [.pair p key v]) :
    IsName key ∧ ∃ t ts, tokenize limit text = .ok t ∧
      Token.normalAll t.tokens = Token.bareAll key.spell ++ .sign .start .colon :: ts := by
  obtain ⟨t, htokens, hread⟩ := parse_ok h
  have hname : key.isNameSort :=
    (hread.sequence.wellFormed (.pair p key v) (by simp [nodesAll, nodes])).1
  have hkey : WellFormed key := by
    refine hread.sequence.wellFormed key ?_
    cases key <;> simp [nodesAll, nodes]
  refine ⟨?_, t, Token.bareAll v.spell, htokens, ?_⟩
  · cases key with
    | word => exact .word hkey
    | quote => exact .quote
    | _ => cases hname
  · rw [hread.spell]
    simp [spellAll, spell, Token.bareAll, Token.bare, Token.unplaced]

/-- A pair with a value that is written out takes a level. -/
theorem one_le_of_parse {s : String} (h : parse limit text = .ok [.pair p key v])
    (hv : v.text? = some s) : 1 ≤ limit := by
  obtain ⟨t, -, hread⟩ := parse_ok h
  have hlevels := hread.levels
  have hnesting : 1 ≤ (Item.pair p key v).nesting 0 := by
    cases v with
    | word | quote => exact Nat.le_max_right _ _
    | _ => cases hv
  simp only [levels, nestingAll] at hlevels
  omega

/-- The key is read of the bare word before the first colon. -/
theorem parse_word_key {k : String} (hk : Text.isBareWord k)
    (htext : text.toList = k.toList ++ ':' :: rest)
    (h : parse limit text = .ok [.pair p key v]) : key.text? = some k := by
  obtain ⟨hname, t, ts, htokens, hnormal⟩ := parse_pair_ok h
  obtain ⟨next, hread, -, -⟩ := tokenize_eq_ok.1 htokens
  obtain ⟨fuel, hfuel⟩ : ∃ fuel, text.toList.length = fuel + 2 := by
    have hne := List.length_pos_iff.2 (Text.isBareWord_iff.1 hk).1
    have hlength := congrArg List.length htext
    simp only [List.length_append, List.length_cons] at hlength
    exact ⟨text.toList.length - 2, by omega⟩
  rw [hfuel] at hread
  obtain ⟨q, r, ts', mid, hts, -, -⟩ := Lexer.tokensWith_name hk htext hread
  rw [hts, Token.normalAll_word q _ (Text.isBareWord_iff.1 hk).2.2.2] at hnormal
  cases hname with
  | word =>
    simp only [spell, Token.bareAll, Token.bare, Token.unplaced, List.singleton_append,
      List.cons.injEq, Token.word.injEq, true_and] at hnormal
    rw [text?, hnormal.1]
  | quote => simp [spell, Token.bareAll, Token.bare, Token.unplaced] at hnormal

/-- No quote of the text before a colon is read as the key. -/
theorem parse_ne_quote_key {q : Position} {s : String}
    (htext : text.toList = s.toList ++ ':' :: rest) :
    parse limit text ≠ .ok [.pair p (.quote q s) v] := by
  intro h
  obtain ⟨-, t, ts, htokens, hnormal⟩ := parse_pair_ok h
  exact quote_ne_before_colon htokens hnormal htext

/-- What is written before a colon is read back as the key just if it is a bare word. -/
theorem readsKey_iff {s : String} (htext : text.toList = s.toList ++ ':' :: rest) :
    ReadsKey limit text s ↔ Text.isBareWord s ∧ ∃ k, ReadsKey limit text k := by
  constructor
  · intro h
    refine ⟨?_, s, h⟩
    obtain ⟨p, key, v, hparse, hkey⟩ := h
    obtain ⟨hname, -⟩ := parse_pair_ok hparse
    cases hname with
    | word hbare =>
      cases hkey
      exact hbare
    | quote =>
      cases hkey
      exact absurd hparse (parse_ne_quote_key htext)
  · rintro ⟨hs, k, p, key, v, hparse, -⟩
    exact ⟨p, key, v, hparse, parse_word_key hs htext hparse⟩

/-! ## Cast pairs -/

/-- A pair is read back under a bare word as its key, if its value is a word or quote that is cast
to a type. -/
theorem readsKey_of_castPair {schema : Schema} {now : DateTime} {spec : FieldSpec} {k raw source : String}
    {value : Item} {q : Position} (hlimit : 1 ≤ limit) (hspec : schema.lookup? k = some spec)
    (htyped : ∀ cast, spec.rule ≠ .custom cast) (hraw : v.text? = some raw)
    (hs : Text.isBareWord source) (h : schema.castPair k v now = .ok (source, value)) :
    ReadsKey limit (print [.pair p (.word q source) value]) source := by
  obtain ⟨pos, w, rfl⟩ : ∃ pos w, value = .value pos w := by
    rw [Schema.castPair, hspec] at h
    dsimp only at h
    split at h
    · rename_i cast hrule
      exact absurd hrule (htyped cast)
    · obtain ⟨item, hitem, ⟨⟩⟩ := Except.bind_eq_ok.1 h
      cases v with
      | word pos | quote pos =>
        obtain ⟨w, -, ⟨⟩⟩ := Except.bind_eq_ok.1 hitem
        exact ⟨pos, w, rfl⟩
      | _ => cases hraw
  have hplain := QueryValue.isPlain_textItem w.text
  obtain ⟨found, hfound, hsame⟩ := printsAs_pair (p := p) (q := q) (v := .value pos w) hs hlimit
    (.value (.plain hplain)) (QueryValue.nesting_textItem 1 _) (QueryValue.collapse_textItem _)
    (by rw [QueryValue.print_textItem, Item.print])
  rw [sameAll_iff, unplacedAll_eq_map, unplacedAll, unplacedAll, List.map_eq_singleton_iff] at hsame
  obtain ⟨item, rfl, hitem⟩ := hsame
  cases item with
  | pair p' key' value' =>
    refine ⟨p', key', value', hfound, ?_⟩
    rw [unplaced, unplaced, unplaced, pair.injEq] at hitem
    cases key' with
    | word =>
      cases hitem.2.1
      rfl
    | _ => cases hitem.2.1
  | _ => cases hitem

/-- **Field names in printed queries.** A pair whose value is a single word or quote is cast and
printed. It reads back as a pair with the name of its field just if that is a bare word and, where
the cast is the caller's own, what is printed is a single pair at all. -/
theorem readsKey_print_castItems_iff {schema : Schema} {now : DateTime} {raw : String}
    {items : List Item} (hparse : parse limit text = .ok [.pair p key v])
    (hraw : v.text? = some raw) (hcast : schema.castItems now [.pair p key v] = .ok items) :
    ∃ k spec, key.text? = some k ∧ schema.lookup? k = some spec ∧
      (ReadsKey limit (print items) spec.source ↔ Text.isBareWord spec.source ∧
        ((∃ cast, spec.rule = .custom cast) → ∃ k', ReadsKey limit (print items) k')) := by
  obtain ⟨hname, -⟩ := parse_pair_ok hparse
  obtain ⟨k, hk⟩ : ∃ k, key.text? = some k := by cases hname <;> exact ⟨_, rfl⟩
  obtain ⟨source, value, hpair, rfl⟩ := (Schema.castItems_pair (fieldName?_of_text? hk)).1 hcast
  obtain ⟨spec, hspec, rfl⟩ := Schema.castPair_source hpair
  refine ⟨k, spec, hk, hspec, ?_⟩
  have hprint : (print [.pair p (.word key.position spec.source) value]).toList =
      spec.source.toList ++ ':' :: value.print.toList := by
    simp [Query.print, printAll, Item.print, Sign.symbol]
  constructor
  · intro h
    exact ⟨((readsKey_iff hprint).1 h).1, fun _ => ⟨_, h⟩⟩
  · rintro ⟨hbare, hcustom⟩
    by_cases htyped : ∃ cast, spec.rule = .custom cast
    · exact (readsKey_iff hprint).2 ⟨hbare, hcustom htyped⟩
    · have hlimit : 1 ≤ limit := one_le_of_parse hparse hraw
      exact readsKey_of_castPair hlimit hspec (not_exists.1 htyped) hraw hbare hpair

/-- A field whose name is a bare word. The value is quoted, as it was. -/
theorem readsKey_print_castItems_iff_word :
    let schema := Schema.empty.insert "name" ⟨"first_name", .type .string⟩
    let now : DateTime := ⟨⟨2024, 3, 15, by decide⟩, .midnight⟩
    let pair : Item := .pair ⟨1, 1⟩ (.word ⟨1, 1⟩ "name") (.quote ⟨1, 6⟩ "x y")
    ∃ items, parse 1 "name:\"x y\"" = .ok [pair] ∧
      schema.castItems now [pair] = .ok items ∧ ReadsKey 1 (print items) "first_name" := by
  intro schema now pair
  have hparse : parse 1 "name:\"x y\"" = .ok [pair] := by cbv
  have hcast : schema.castItems now [pair] = .ok [.pair ⟨1, 1⟩ (.word ⟨1, 1⟩ "first_name")
      (.value ⟨1, 6⟩ (.string "x y"))] := rfl
  obtain ⟨k, spec, hk, hspec, h⟩ := readsKey_print_castItems_iff hparse rfl hcast
  cases hk
  cases hspec
  refine ⟨_, hparse, hcast, h.2 ⟨by decide, ?_⟩⟩
  rintro ⟨_, ⟨⟩⟩

/-- The name of two words is printed without quotes, and read back as a word and a pair. -/
theorem readsKey_print_castItems_blank :
    let schema := Schema.empty.insert "name" ⟨"first name", .type .string⟩
    let now : DateTime := ⟨⟨2024, 3, 15, by decide⟩, .midnight⟩
    let pair : Item := .pair ⟨1, 1⟩ (.word ⟨1, 1⟩ "name") (.word ⟨1, 6⟩ "x")
    ∃ items, parse defaultLimit "name:x" = .ok [pair] ∧ schema.castItems now [pair] = .ok items ∧
      print items = "first name:x" ∧
      parse defaultLimit "first name:x" = .ok [.word ⟨1, 1⟩ "first",
        .pair ⟨1, 7⟩ (.word ⟨1, 7⟩ "name") (.word ⟨1, 12⟩ "x")] ∧
      ¬ ReadsKey defaultLimit (print items) "first name" := by
  intro schema now pair
  have hprinted : parse defaultLimit "first name:x" = .ok [.word ⟨1, 1⟩ "first",
      .pair ⟨1, 7⟩ (.word ⟨1, 7⟩ "name") (.word ⟨1, 12⟩ "x")] := by cbv
  refine ⟨[.pair ⟨1, 1⟩ (.word ⟨1, 1⟩ "first name") (.value ⟨1, 6⟩ (.string "x"))], by cbv, rfl,
    by cbv, hprinted, ?_⟩
  rintro ⟨p, key, v, hparse, -⟩
  have hprint : print [.pair ⟨1, 1⟩ (.word ⟨1, 1⟩ "first name") (.value ⟨1, 6⟩ (.string "x"))] =
      "first name:x" := by cbv
  rw [hprint, hprinted] at hparse
  cases hparse

end Query

end SearchQuery
