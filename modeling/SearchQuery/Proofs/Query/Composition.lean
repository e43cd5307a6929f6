import Mathlib.Data.List.Basic
import Mathlib.Tactic.Common
import SearchQuery.Proofs.Document.Placement
import SearchQuery.Proofs.Item.Levels
import SearchQuery.Proofs.Query.RoundTrip
import SearchQuery.Proofs.Token.Enclosed

/-!
# Composed queries

Whole queries in parentheses may be put together by keywords. The tokens of each part are those of
the query on its own (`CutInto.enclose`), its items are read with the levels that are left
(`readAt_group`), and what they compile into is not changed by their positions.

* `finds_composed`: `(a) AND (b)`, `(a) OR (b)` and `NOT (a)` find the documents that both queries
  find, that one of them finds, and that `a` does not find.
-/

namespace SearchQuery

open Item

/-! ## Tokens -/

namespace Lexer.CutInto

variable {levels : Nat} {text : List Char} {ts : List Token}

theorem blank (htext : ∀ c ∈ text.head?, Text.isBlank c = false) (h : CutInto levels text ts) :
    CutInto levels (' ' :: text) (blank :: ts) := by
  have hproper : Item.blank.Proper := ⟨by decide, List.all_eq_true.1 (by decide)⟩
  exact cons hproper (by simp [Item.blank]) htext h

theorem keyword (k : Text.Keyword) (h : CutInto levels (' ' :: text) ts) :
    CutInto levels (k.text.toList ++ ' ' :: text) (.word .start k.text :: ts) := by
  refine cons (proper_keyword .start k) (by simp) ⟨?_, by simp⟩ h
  exact Text.leadingWord_cons_of_not_isWordChar (by decide) text

theorem keyword_group (k : Text.Keyword) (h : CutInto levels ('(' :: text) ts) :
    CutInto levels (k.text.toList ++ ' ' :: '(' :: text)
      (.word .start k.text :: Item.blank :: ts) := by
  have hopen : ∀ c ∈ ('(' :: text).head?, Text.isBlank c = false := by
    rintro c ⟨⟩
    decide
  exact .keyword k (.blank hopen h)

end Lexer.CutInto

/-! ## Items -/

namespace Item

variable {limit : Nat} {left right : List Token} {items items' : List Item} {k : Text.Keyword}
  {part : Part}

/-- With one level for a keyword and one for a group there are as many left for its contents as
these had on their own. -/
theorem readAt_enclosed (h : ofTokens limit left = .ok items) (rest : List Token) :
    readAt (limit + 2) (limit + 2) (limit + 1) (.group .start left :: rest) =
      .ok (.group .start items, rest) :=
  readAt_group h (by omega) (by omega) .start rest

theorem connective?_group (pos : Position) (contents : List Token) :
    connective? (.group pos contents) = none := rfl

theorem connective?_space (pos : Position) (text : String) :
    connective? (.space pos text) = none := rfl

/-- Two groups with a keyword between them. -/
theorem ofTokens_joined (hk : connective? (.word .start k.text) = some part)
    (hleft : ofTokens limit left = .ok items) (hright : ofTokens limit right = .ok items') :
    ofTokens (limit + 2) [.group .start left, blank, .word .start k.text, blank,
        .group .start right] =
      Part.combine [.item (.group .start items), part, .item (.group .start items')] := by
  have hkeywords : keywords [.group .start left, blank, .word .start k.text, blank,
      .group .start right] = [.word .start k.text] := by
    simp [keywords, blank, connective?_group, connective?_space, hk]
  have hparts : readParts (readAt (limit + 2) (limit + 2) (limit + 1)) 5
      [.group .start left, blank, .word .start k.text, blank, .group .start right] =
        .ok [.item (.group .start items), part, .item (.group .start items')] := by
    simp [readParts, Token.isSpace, blank, connective?_group, hk, readAt_enclosed hleft,
      readAt_enclosed hright, Except.map]
  exact readSequence_eq_combine (by simp [hkeywords]) (by rw [hkeywords]; exact hparts)

/-- A group with a keyword before it. -/
theorem ofTokens_prefixed (hk : connective? (.word .start k.text) = some part)
    (hleft : ofTokens limit left = .ok items) :
    ofTokens (limit + 2) [.word .start k.text, blank, .group .start left] =
      Part.combine [part, .item (.group .start items)] := by
  have hkeywords : keywords [.word .start k.text, blank, .group .start left] =
      [.word .start k.text] := by
    simp [keywords, blank, connective?_group, connective?_space, hk]
  have hparts : readParts (readAt (limit + 2) (limit + 2) (limit + 1)) 3
      [.word .start k.text, blank, .group .start left] =
        .ok [part, .item (.group .start items)] := by
    simp [readParts, Token.isSpace, blank, connective?_group, hk, readAt_enclosed hleft, Except.map]
  exact readSequence_eq_combine (by simp [hkeywords]) (by rw [hkeywords]; exact hparts)

end Item

/-! ## Matchers -/

namespace Matcher

variable {items items' : List Item} {m m' : Matcher}

/-- A group compiles into what its contents compile into. -/
theorem buildItem_group (h : ofItems items = .ok m) (pos : Position) :
    builder.buildItem (.group pos items) = .ok m := by
  obtain ⟨ms, hms, rfl⟩ := Except.map_eq_ok.1 h
  rw [PredicateBuilder.buildItem, hms]
  rfl

theorem buildItems_group (h : ofItems items = .ok m) (pos : Position) :
    builder.buildItems [.group pos items] = .ok [m] := by
  rw [PredicateBuilder.buildItems, buildItem_group h]
  rfl

theorem ofItems_and (hm : ofItems items = .ok m) (hm' : ofItems items' = .ok m') :
    ofItems [.and .start (.group .start items) [.group .start items']] = .ok (.all [m, m']) := by
  rw [ofItems, PredicateBuilder.build, PredicateBuilder.buildItems, PredicateBuilder.buildItem,
    buildItem_group hm, buildItems_group hm']
  rfl

theorem ofItems_or (hm : ofItems items = .ok m) (hm' : ofItems items' = .ok m') :
    ofItems [.or .start (.group .start items) [.group .start items']] = .ok (.any [m, m']) := by
  rw [ofItems, PredicateBuilder.build, PredicateBuilder.buildItems, PredicateBuilder.buildItem,
    buildItem_group hm, buildItems_group hm']
  rfl

theorem ofItems_not (hm : ofItems items = .ok m) :
    ofItems [.not .start (.group .start items)] = .ok (.not m) := by
  rw [ofItems, PredicateBuilder.build, PredicateBuilder.buildItems, PredicateBuilder.buildItem,
    buildItem_group hm]
  rfl

end Matcher

/-! ## Queries -/

namespace Query

variable {limit : Nat} {left right : String} {items items' : List Item} {m m' : Matcher}

/-- The text is a query that finds the documents that satisfy `p`. -/
def Finds (limit : Nat) (text : String) (p : Json → Bool) : Prop :=
  ∃ items m, parse limit text = .ok items ∧ Matcher.ofItems items = .ok m ∧
    ∀ doc, m.accepts doc = p doc

/-- A text that is cut into tokens finds what their items find. -/
theorem finds_of_cutInto {text : String} {ts : List Token}
    (hcut : Lexer.CutInto limit text.toList ts) (hitems : ofTokens limit ts = .ok items)
    (hm : Matcher.ofItems items = .ok m) : Finds limit text fun doc => m.accepts doc := by
  obtain ⟨t, htokens, hunplaced, hwhole⟩ := tokenize_of_cutInto hcut
  obtain ⟨found, hfound, hsame⟩ := ofTokens_of_unplacedAll_eq hunplaced hitems
  refine ⟨found, m, parse_eq_ok.2 ⟨t, htokens, hwhole, hfound⟩, ?_, fun _ => rfl⟩
  rw [← Matcher.ofItems_unplacedAll, hsame, Matcher.ofItems_unplacedAll, hm]

theorem cutInto_joined (k : Text.Keyword) {t t' : Tokenized}
    (ht : tokenize limit left = .ok t) (hwhole : t.remainder = "")
    (ht' : tokenize limit right = .ok t') (hwhole' : t'.remainder = "") :
    Lexer.CutInto (limit + 2) ("(" ++ left ++ ") " ++ k.text ++ " (" ++ right ++ ")").toList
      [.group .start t.tokens, blank, .word .start k.text, blank, .group .start t'.tokens] := by
  have htext : ("(" ++ left ++ ") " ++ k.text ++ " (" ++ right ++ ")").toList =
      '(' :: (left.toList ++ ')' :: ' ' :: (k.text.toList ++
        ' ' :: '(' :: (right.toList ++ [')']))) := by
    simp
  have hright : Lexer.CutInto (limit + 2) ('(' :: (right.toList ++ [')']))
      [.group .start t'.tokens] :=
    .enclose ht' hwhole' (by omega) .nil
  have hblank : ∀ c ∈ (k.text.toList ++ ' ' :: '(' :: (right.toList ++ [')'])).head?,
      Text.isBlank c = false := by
    cases k <;> rintro c ⟨⟩ <;> decide
  have hmiddle : Lexer.CutInto (limit + 2) (' ' :: (k.text.toList ++
      ' ' :: '(' :: (right.toList ++ [')'])))
      [blank, .word .start k.text, blank, .group .start t'.tokens] :=
    .blank hblank (.keyword_group k hright)
  rw [htext]
  exact .enclose ht hwhole (by omega) hmiddle

theorem cutInto_prefixed (k : Text.Keyword) {t : Tokenized} (ht : tokenize limit left = .ok t)
    (hwhole : t.remainder = "") :
    Lexer.CutInto (limit + 2) (k.text ++ " (" ++ left ++ ")").toList
      [.word .start k.text, blank, .group .start t.tokens] := by
  have htext : (k.text ++ " (" ++ left ++ ")").toList =
      k.text.toList ++ ' ' :: '(' :: (left.toList ++ [')']) := by
    simp
  have hgroup : Lexer.CutInto (limit + 2) ('(' :: (left.toList ++ [')']))
      [.group .start t.tokens] :=
    .enclose ht hwhole (by omega) .nil
  rw [htext]
  exact .keyword_group k hgroup

/-- **Composition.** Queries in parentheses, put together by keywords, are queries where two more
levels are left, and they find what the keywords say of the documents that the parts find. -/
theorem finds_composed (hleft : parse limit left = .ok items)
    (hright : parse limit right = .ok items') (hm : Matcher.ofItems items = .ok m)
    (hm' : Matcher.ofItems items' = .ok m') :
    Finds (limit + 2) ("(" ++ left ++ ") AND (" ++ right ++ ")")
        (fun doc => m.accepts doc && m'.accepts doc) ∧
      Finds (limit + 2) ("(" ++ left ++ ") OR (" ++ right ++ ")")
        (fun doc => m.accepts doc || m'.accepts doc) ∧
      Finds (limit + 2) ("NOT (" ++ left ++ ")") (fun doc => !m.accepts doc) := by
  obtain ⟨t, ht, hwhole, hitems⟩ := parse_eq_ok.1 hleft
  obtain ⟨t', ht', hwhole', hitems'⟩ := parse_eq_ok.1 hright
  refine ⟨?_, ?_, ?_⟩
  · have hand : connective? (.word .start Text.Keyword.and.text) = some (.and .start) := rfl
    have htext : "(" ++ left ++ ") AND (" ++ right ++ ")" =
        "(" ++ left ++ ") " ++ Text.Keyword.and.text ++ " (" ++ right ++ ")" :=
      String.toList_inj.1 (by simp [Text.Keyword.text])
    have haccepts : (fun doc => m.accepts doc && m'.accepts doc) =
        fun doc => (Matcher.all [m, m']).accepts doc := by
      funext doc
      simp [Matcher.accepts, Matcher.acceptsAll]
    rw [htext, haccepts]
    exact finds_of_cutInto (cutInto_joined .and ht hwhole ht' hwhole')
      (ofTokens_joined hand hitems hitems') (Matcher.ofItems_and hm hm')
  · have hor : connective? (.word .start Text.Keyword.or.text) = some (.or .start) := rfl
    have htext : "(" ++ left ++ ") OR (" ++ right ++ ")" =
        "(" ++ left ++ ") " ++ Text.Keyword.or.text ++ " (" ++ right ++ ")" :=
      String.toList_inj.1 (by simp [Text.Keyword.text])
    have haccepts : (fun doc => m.accepts doc || m'.accepts doc) =
        fun doc => (Matcher.any [m, m']).accepts doc := by
      funext doc
      simp [Matcher.accepts, Matcher.acceptsAny]
    rw [htext, haccepts]
    exact finds_of_cutInto (cutInto_joined .or ht hwhole ht' hwhole')
      (ofTokens_joined hor hitems hitems') (Matcher.ofItems_or hm hm')
  · have hnot : connective? (.word .start Text.Keyword.not.text) = some (.not .start) := rfl
    have htext : "NOT (" ++ left ++ ")" = Text.Keyword.not.text ++ " (" ++ left ++ ")" :=
      String.toList_inj.1 (by simp [Text.Keyword.text])
    have haccepts : (fun doc => !m.accepts doc) = fun doc => m.not.accepts doc := by
      funext doc
      rw [Matcher.accepts]
    rw [htext, haccepts]
    exact finds_of_cutInto (cutInto_prefixed .not ht hwhole) (ofTokens_prefixed hnot hitems)
      (Matcher.ofItems_not hm)

/-- Both of two queries, of which the first is a choice. -/
theorem finds_composed_choice :
    ∃ items items' m m', parse 2 "a:x OR b:y" = .ok items ∧ parse 2 "c:z" = .ok items' ∧
      Matcher.ofItems items = .ok m ∧ Matcher.ofItems items' = .ok m' ∧
      ∃ p, Finds 4 "(a:x OR b:y) AND (c:z)" p ∧
        p (.object [("b", .string "y"), ("c", .string "z")]) = true ∧
        p (.object [("b", .string "y")]) = false := by
  obtain ⟨hand, -⟩ := @finds_composed 2 "a:x OR b:y" "c:z" _ _ _ _ rfl rfl rfl rfl
  exact ⟨_, _, _, _, rfl, rfl, rfl, rfl, _, hand, rfl, rfl⟩

end Query

end SearchQuery
