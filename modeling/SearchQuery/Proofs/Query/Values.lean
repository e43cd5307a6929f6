import Mathlib.Data.List.Basic
import Mathlib.Tactic.Common
import SearchQuery.Proofs.Item.WellFormed
import SearchQuery.Proofs.Query.RoundTrip
import SearchQuery.Proofs.Token.Cut
import SearchQuery.QueryList.Basic

/-!
# Typed values in printed pairs

A value is printed as its text, in quotes unless that is a bare word. What is printed is read back
as a word or quote of that text wherever a pair may hold it, but not before `..`: a dot at the end
of a bare word is taken for the first of the two.

* `parse_print_values_iff`: a value, an operand, the items of a list and the sides of a range.
-/

namespace SearchQuery

open Item

/-! ## Texts as items -/

namespace QueryValue

theorem text?_textItem (s : String) : (textItem s).text? = some s := by
  by_cases h : Text.isBareWord s <;> simp [textItem, h, text?]

theorem isName_textItem (s : String) : IsName (textItem s) := by
  by_cases h : Text.isBareWord s
  · rw [textItem, if_pos h]
    exact .word h
  · rw [textItem, if_neg h]
    exact .quote

theorem isPlain_textItem (s : String) : IsPlain (textItem s) := .piece (.name (isName_textItem s))

theorem print_textItem (v : Value) : (textItem v.text).print = printValue v := by
  by_cases h : Text.isBareWord v.text <;> simp [textItem, printValue, h, print]

theorem nesting_textItem (left : Nat) (s : String) : (textItem s).nesting left = 0 := by
  by_cases h : Text.isBareWord s <;> simp [textItem, h, nesting]

theorem collapse_textItem (s : String) : (textItem s).collapse = textItem s := by
  by_cases h : Text.isBareWord s <;> simp [textItem, h, collapse]

/-- Only a word ends in a dot, since a quote ends in its closing quote. -/
theorem isStart_textItem_iff (s : String) :
    IsStart (textItem s) ↔ ¬ (Text.isBareWord s ∧ s.toList.getLast? = some '.') := by
  constructor
  · rintro ⟨-, hundotted⟩ ⟨hbare, hdot⟩
    rw [textItem, if_pos hbare] at hundotted
    exact hundotted hdot
  · intro h
    refine ⟨isPlain_textItem s, fun hdot => ?_⟩
    by_cases hbare : Text.isBareWord s
    · rw [textItem, if_pos hbare] at hdot
      exact h ⟨hbare, hdot⟩
    · have hquote : (Text.Escape.quote s).toList.getLast? = some '"' := by
        simp only [Text.Escape.quote, String.toList_append]
        exact List.getLast?_concat
      rw [textItem, if_neg hbare, print, hquote] at hdot
      cases hdot

end QueryValue

/-! ## The first tokens of a pair -/

namespace Lexer

open Text

variable {limit fuel levels : Nat} {contents : Option (Cursor → Scan (List Token))}
  {cur next mid : Cursor} {t : Token} {ts : List Token} {c : Char} {rest : List Char}

theorem exists_reads (hrest : cur.rest = c :: rest) (hc : startsToken c)
    (h : tokensWith limit (fuel + 1) levels cur = .ok ts next) :
    ∃ t mid ts', Reads (inside limit fuel levels) cur t mid ∧
      tokensWith limit fuel levels mid = .ok ts' next ∧ ts = t :: ts' := by
  obtain ⟨-, -, hstops⟩ | ⟨t, mid, ts', hread, -, hts, rfl⟩ := tokensWith_succ_eq_ok h
  · have hstop := hstops c (by rw [hrest]; rfl)
    rw [hc] at hstop
    cases hstop
  · exact ⟨t, mid, ts', hread, hts, rfl⟩

/-- Of the signs only `..` is made of word characters. -/
theorem exists_symbol_cons {s : Sign} (hs : s ≠ .dots) :
    ∃ d ds, s.symbol.toList = d :: ds ∧ isWordChar d = false := by
  cases s with
  | compare op => cases op <;> exact ⟨_, _, rfl, by decide⟩
  | dots => exact absurd rfl hs
  | _ => exact ⟨_, _, rfl, by decide⟩

/-- A text that starts with a word character starts with a word or with `..`. -/
theorem Reads.word_or_dots (h : Reads contents cur t mid) (hrest : cur.rest = c :: rest)
    (hc : isWordChar c) : (∃ pos s, t = .word pos s) ∨ ∃ pos, t = .sign pos .dots := by
  cases h with
  | word => exact .inl ⟨_, _, rfl⟩
  | @sign s hs =>
    refine .inr ⟨cur.position, ?_⟩
    by_contra hne
    have hdots : s ≠ .dots := by
      rintro rfl
      exact hne rfl
    obtain ⟨d, ds, hsymbol, hd⟩ := exists_symbol_cons hdots
    have hfront := Token.sign?_eq_some hs
    rw [hsymbol, hrest, List.cons_append, List.cons.injEq] at hfront
    rw [hfront.1, hc] at hd
    cases hd
  | endOfText hnil =>
    rw [hnil] at hrest
    cases hrest
  | space hcons hblank =>
    cases hrest.symm.trans hcons
    rw [isBlank_eq_false_of_isWordChar hc] at hblank
    cases hblank
  | quote hcons | group hcons =>
    cases hrest.symm.trans hcons
    cases hc

/-- A word before a colon is read as a word, and the colon after it. -/
theorem tokensWith_name {k : String} (hk : isBareWord k) (hrest : cur.rest = k.toList ++ ':' :: rest)
    (h : tokensWith limit (fuel + 2) levels cur = .ok ts next) :
    ∃ p q ts' mid, ts = .word p k :: .sign q .colon :: ts' ∧ mid.rest = rest ∧
      tokensWith limit fuel levels mid = .ok ts' next := by
  obtain ⟨hne, hchars, hdots, -⟩ := isBareWord_iff.1 hk
  have hlead : leadingWord cur.rest = k.toList := by
    rw [hrest]
    refine leadingWord_append_eq_left.2 ⟨hchars, hdots, ?_, by simp⟩
    exact leadingWord_cons_of_not_isWordChar (by decide) _
  obtain ⟨d, ds, hd⟩ := List.exists_cons_of_ne_nil hne
  have hfirst : cur.rest = d :: (ds ++ ':' :: rest) := by
    rw [hrest, hd]
    rfl
  have hword : isWordChar d := hchars d (by rw [hd]; exact List.mem_cons_self)
  obtain ⟨t, mid, ts, hread, hts, rfl⟩ := exists_reads hfirst (by simp [startsToken, hword]) h
  obtain ⟨rfl, rfl⟩ := hread.unique (.word (by rw [hlead]; exact hne))
  have hmid : (cur.advance (leadingWord cur.rest).length).rest = ':' :: rest := by
    rw [Cursor.advance_rest, hlead, hrest, List.drop_left]
  obtain ⟨t, mid, ts, hread, hts, rfl⟩ := exists_reads hmid (by decide) hts
  have hcolon : sign? (cur.advance (leadingWord cur.rest).length).rest = some .colon := by
    rw [hmid]
    rfl
  obtain ⟨rfl, rfl⟩ := hread.unique (.sign hcolon)
  have hvalue : ((cur.advance (leadingWord cur.rest).length).advance
      Sign.colon.symbol.length).rest = rest := by
    rw [Cursor.advance_rest, hmid]
    rfl
  rw [hlead, String.ofList_toList]
  exact ⟨_, _, ts, _, rfl, hvalue, hts⟩

/-- After a key that is a word and its colon, a word character starts a word or `..`. -/
theorem tokensWith_key {k : String} (hk : isBareWord k) (hc : isWordChar c)
    (hrest : cur.rest = k.toList ++ ':' :: c :: rest)
    (h : tokensWith limit (fuel + 3) levels cur = .ok ts next) :
    ∃ p q t ts', ts = .word p k :: .sign q .colon :: t :: ts' ∧
      ((∃ pos s, t = .word pos s) ∨ ∃ pos, t = .sign pos .dots) := by
  obtain ⟨p, q, ts, mid, rfl, hvalue, hts⟩ := tokensWith_name hk hrest h
  obtain ⟨t, mid, ts, hread, hts, rfl⟩ := exists_reads hvalue (by simp [startsToken, hc]) hts
  exact ⟨p, q, t, ts, rfl, hread.word_or_dots hvalue hc⟩

end Lexer

namespace Query

open QueryValue

variable {limit : Nat} {items items' found : List Item}

/-! ## Items that are printed alike -/

/-- The item is printed as a query of a single item, which is `item'`, positions apart. -/
def PrintsAs (limit : Nat) (item item' : Item) : Prop :=
  ∃ found, parse limit (print [item]) = .ok found ∧ sameAll found [item']

/-- Items that are printed like a sequence are read back as the sequence. -/
theorem parse_print_of_print_eq (h : IsSequence IsTerm items') (hlevels : levels 1 items' ≤ limit)
    (hprint : print items = print items') :
    ∃ found, parse limit (print items) = .ok found ∧ sameAll found (collapseAll items') := by
  rw [hprint]
  obtain ⟨found, hfound, hunplaced⟩ := parse_print_of_levels h hlevels
  exact ⟨found, hfound, (sameAll_iff _ _).2 hunplaced⟩

/-- A pair is read back under one level if its value is a term that takes none. -/
theorem printsAs_pair {p q : Position} {k : String} {v x : Item} (hk : Text.isBareWord k)
    (hlimit : 1 ≤ limit) (hx : IsTerm x) (hnesting : x.nesting 1 = 0) (hcollapse : x.collapse = x)
    (hprint : v.print = x.print) :
    PrintsAs limit (.pair p (.word q k) v) (.pair p (.word q k) x) := by
  have hterm : IsTerm (.pair p (.word q k) x) := .pair (.word hk) hx
  have hlevels : levels 1 [.pair p (.word q k) x] ≤ limit := by
    have hpair : (Item.pair p (.word q k) x).nesting 1 = 1 := by
      rw [nesting_one_pair, hnesting]
      rfl
    simp only [levels, connectivesAll, connectives, nestingAll]
    omega
  have hprint : print [.pair p (.word q k) v] = print [.pair p (.word q k) x] := by
    simp [Query.print, printAll, Item.print, hprint]
  obtain ⟨found, hfound, hsame⟩ :=
    parse_print_of_print_eq (.cons (.term hterm) .nil) hlevels hprint
  refine ⟨found, hfound, ?_⟩
  simpa [collapseAll, collapse, hcollapse] using hsame

/-! ## The sides of a range -/

/-- In its canonical spelling, too, the value of a pair starts with a word or `..`. -/
theorem normalAll_key (p q : Position) {k : String} {t : Token} (ts : List Token)
    (hk : Text.isBareWord k) (ht : (∃ pos s, t = .word pos s) ∨ ∃ pos, t = .sign pos .dots) :
    ∃ u us, Token.normalAll (.word p k :: .sign q .colon :: t :: ts) =
      .word .start k :: .sign .start .colon :: u :: us ∧ ∀ s, u ≠ .quote .start s := by
  rw [Token.normalAll_word p _ (Text.isBareWord_iff.1 hk).2.2.2]
  by_cases hbreaks : Token.breaks (t :: ts)
  · rw [Token.normalAll_colon_of_breaks q _ hbreaks]
    exact ⟨_, _, rfl, by simp⟩
  rw [Token.normalAll_sign q _ fun _ => by simpa using hbreaks]
  obtain ⟨pos, s, rfl⟩ | ⟨pos, rfl⟩ := ht
  · cases hkeyword : Text.Keyword.ofWord? s with
    | none =>
      rw [Token.normalAll_word pos _ hkeyword]
      exact ⟨_, _, rfl, by simp⟩
    | some k =>
      rw [Token.normalAll_keyword pos _ hkeyword]
      exact ⟨_, _, rfl, by simp⟩
  · rw [Token.normalAll_sign pos _ (by simp)]
    exact ⟨_, _, rfl, by simp⟩

/-- No quote is read after a key and a colon where the text goes on with a word character. -/
theorem parse_key_ne_quote {p q r r' : Position} {k s text : String} {c : Char} {rest : List Char}
    {stop : Item} (hk : Text.isBareWord k) (hc : Text.isWordChar c)
    (htext : text.toList = k.toList ++ ':' :: c :: rest) :
    parse limit text ≠ .ok [.pair p (.word q k) (.range r (.quote r' s) stop)] := by
  intro hparse
  obtain ⟨t, htokens, hread⟩ := parse_ok hparse
  obtain ⟨next, hts, -, -⟩ := tokenize_eq_ok.1 htokens
  obtain ⟨fuel, hfuel⟩ : ∃ fuel, text.toList.length = fuel + 3 := by
    have hne := List.length_pos_iff.2 (Text.isBareWord_iff.1 hk).1
    have hlength := congrArg List.length htext
    simp only [List.length_append, List.length_cons] at hlength
    exact ⟨text.toList.length - 3, by omega⟩
  rw [hfuel] at hts
  obtain ⟨p, q, u, us, htokens, hu⟩ := Lexer.tokensWith_key hk hc htext hts
  obtain ⟨v, vs, hnormal, hv⟩ := normalAll_key p q us hk hu
  have hspell := hread.spell
  rw [htokens, hnormal] at hspell
  simp [spellAll, spell, Token.bareAll, Token.bare, Token.unplaced] at hspell
  exact hv _ hspell.1

theorem exists_of_sameAll_range {p q r : Position} {k : String} {x y : Item}
    (h : sameAll found [.pair p (.word q k) (.range r x y)]) :
    ∃ p' q' r' x' y', found = [.pair p' (.word q' k) (.range r' x' y')] ∧
      x'.unplaced = x.unplaced := by
  rw [sameAll_iff, unplacedAll_eq_map, unplacedAll, unplacedAll, List.map_eq_singleton_iff] at h
  obtain ⟨item, rfl, hitem⟩ := h
  cases item with
  | pair p' key value =>
    rw [unplaced, unplaced, unplaced, pair.injEq] at hitem
    obtain ⟨-, hkey, hvalue⟩ := hitem
    cases key with
    | word q' s =>
      cases hkey
      cases value with
      | range r' x' y' =>
        rw [unplaced, unplaced, Item.range.injEq] at hvalue
        exact ⟨p', q', r', x', y', rfl, hvalue.2.1⟩
      | _ => cases hvalue
    | _ => cases hkey
  | _ => cases hitem

/-- The start of a range is read back with its text just if it does not end in a dot. -/
theorem undotted_of_range {p q r s : Position} {k : String} {v : Value} {stop x y : Item}
    (hk : Text.isBareWord k) (hx : x.text? = some v.text)
    (h : PrintsAs limit (.pair p (.word q k) (.range r (.value s v) stop))
      (.pair p (.word q k) (.range r x y))) :
    ¬ (Text.isBareWord v.text ∧ v.text.toList.getLast? = some '.') := by
  rintro ⟨hbare, hdot⟩
  obtain ⟨found, hfound, hsame⟩ := h
  obtain ⟨p', q', r', x', y', rfl, hunplaced⟩ := exists_of_sameAll_range hsame
  obtain ⟨tokens, -, hread⟩ := parse_ok hfound
  have hform := hread.sequence.wellFormed
  cases x with
  | word pos s =>
    cases hx
    cases x' with
    | word pos' s' =>
      cases hunplaced
      have hrange := hform (.range r' (.word pos' v.text) y') (by simp [nodesAll, nodes])
      exact hrange.2.1 hdot
    | _ => cases hunplaced
  | quote pos s =>
    cases hx
    cases x' with
    | quote pos' s' =>
      obtain ⟨c, cs, hc⟩ := List.exists_cons_of_ne_nil (Text.isBareWord_iff.1 hbare).1
      have hchar : Text.isWordChar c :=
        (Text.isBareWord_iff.1 hbare).2.1 c (by rw [hc]; exact List.mem_cons_self)
      have hprint : (print [.pair p (.word q k) (.range r (.value s v) stop)]).toList =
          k.toList ++ ':' :: c :: (cs ++ (Sign.dots.symbol ++ stop.print).toList) := by
        simp [Query.print, printAll, Item.print, printValue, hbare, hc, Sign.symbol]
      exact parse_key_ne_quote hk hchar hprint hfound
    | _ => cases hunplaced
  | _ => cases hx

/-- **Typed values in printed pairs.** A value under a key is read back as a word or quote of its
text, as an operand and in a list as well. As the start of a range it is just if it is not printed
as a word that ends in a dot. -/
theorem parse_print_values_iff {k : String} (hk : Text.isBareWord k) (op : Operator) (v w : Value)
    (p q r s t : Position) (hlimit : 1 ≤ limit) :
    (∃ x, x.text? = some v.text ∧
      PrintsAs limit (.pair p (.word q k) (.value s v)) (.pair p (.word q k) x)) ∧
    (∃ x, x.text? = some v.text ∧
      PrintsAs limit (.pair p (.word q k) (.compare r op (.value s v)))
        (.pair p (.word q k) (.compare r op x))) ∧
    (∃ x y, x.text? = some v.text ∧ y.text? = some w.text ∧
      PrintsAs limit (.pair p (.word q k) (.list r [.value s v, .value t w]))
        (.pair p (.word q k) (.list r [x, y]))) ∧
    ((∃ x y, x.text? = some v.text ∧ y.text? = some w.text ∧
      PrintsAs limit (.pair p (.word q k) (.range r (.value s v) (.value t w)))
        (.pair p (.word q k) (.range r x y))) ↔
      ¬ (Text.isBareWord v.text ∧ v.text.toList.getLast? = some '.')) := by
  have hv := isPlain_textItem v.text
  have hw := isPlain_textItem w.text
  have htext := text?_textItem v.text
  have htext' := text?_textItem w.text
  refine ⟨⟨textItem v.text, htext, ?value⟩, ⟨textItem v.text, htext, ?compare⟩,
    ⟨textItem v.text, textItem w.text, htext, htext', ?list⟩, ?range⟩
  case value =>
    refine printsAs_pair hk hlimit (.value (.plain hv)) (nesting_textItem 1 _)
      (collapse_textItem _) ?_
    rw [print_textItem, Item.print]
  case compare =>
    refine printsAs_pair hk hlimit (.compare (.plain hv)) ?_ ?_ ?_
    · rw [nesting, nesting_textItem]
    · rw [collapse, collapse_textItem]
    · simp [Item.print, print_textItem]
  case list =>
    refine printsAs_pair hk hlimit (.list hv (by simpa using IsValue.plain hw)) ?_ ?_ ?_
    · simp [nesting, nestingAll, nesting_textItem]
    · simp [collapse, collapseAll, collapse_textItem, listed]
    · simp [Item.print, printAll, print_textItem]
  case range =>
    constructor
    · rintro ⟨x, y, hx, -, h⟩
      exact undotted_of_range hk hx h
    · intro hdot
      have hstart : IsStart (textItem v.text) := (isStart_textItem_iff v.text).2 hdot
      refine ⟨textItem v.text, textItem w.text, htext, htext', ?_⟩
      refine printsAs_pair hk hlimit (.range (.value hstart) (.value (.plain hw))) ?_ ?_ ?_
      · simp [nesting, nesting_textItem]
      · simp [collapse, collapse_textItem]
      · simp [Item.print, print_textItem]

/-- A number with a fraction, whose dot stands inside, and a text that needs quotes. -/
theorem parse_print_values_iff_fraction :
    Text.isBareWord "k" ∧
    (∃ x, x.text? = some "1.5" ∧
      PrintsAs 1 (.pair .start (.word .start "k") (.compare .start .gt (.value .start (.string "1.5"))))
        (.pair .start (.word .start "k") (.compare .start .gt x))) ∧
    ¬ (Text.isBareWord "1.5" ∧ "1.5".toList.getLast? = some '.') ∧
    ∃ x y, x.text? = some "1.5" ∧ y.text? = some "a b" ∧
      PrintsAs 1 (.pair .start (.word .start "k")
          (.range .start (.value .start (.string "1.5")) (.value .start (.atom "a b"))))
        (.pair .start (.word .start "k") (.range .start x y)) := by
  have hk : Text.isBareWord "k" := by decide
  have hdot : ¬ (Text.isBareWord "1.5" ∧ "1.5".toList.getLast? = some '.') := by decide
  obtain ⟨-, hcompare, -, hrange⟩ := parse_print_values_iff hk .gt (.string "1.5") (.atom "a b")
    .start .start .start .start .start (Nat.le_refl 1)
  exact ⟨hk, hcompare, hdot, hrange.2 hdot⟩

/-- The dot at the end of the start is taken for the first of the two. -/
theorem parse_print_values_dotted :
    parse defaultLimit (print [.pair .start (.word .start "k")
      (.range .start (.value .start (.string "a.")) (.value .start (.string "b")))]) =
        .ok [.pair ⟨1, 1⟩ (.word ⟨1, 1⟩ "k")
          (.range ⟨1, 3⟩ (.word ⟨1, 3⟩ "a") (.word ⟨1, 6⟩ ".b"))] ∧
    ¬ ∃ x y, x.text? = some "a." ∧ y.text? = some "b" ∧
      PrintsAs defaultLimit (.pair .start (.word .start "k")
          (.range .start (.value .start (.string "a.")) (.value .start (.string "b"))))
        (.pair .start (.word .start "k") (.range .start x y)) := by
  refine ⟨by cbv, ?_⟩
  rintro ⟨x, y, hx, -, h⟩
  have hundotted := undotted_of_range (by decide) hx h
  exact hundotted (by decide)

end Query

end SearchQuery
