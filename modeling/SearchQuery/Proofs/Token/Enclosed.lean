import Mathlib.Data.List.Basic
import Mathlib.Tactic.Common
import SearchQuery.Proofs.Token.Lexing

/-!
# Texts in parentheses

A text that is cut into tokens up to its end is cut into the same tokens, positions apart, where it
stands in parentheses, although there a `)` follows and not the end.

* `Reads.append`: a token is read alike if what follows it does not go on with it.
* `tokensWith_append`: so are tokens up to the end of a text.
* `CutInto`: a text is cut into some tokens wherever as many levels are left. Such texts are put
  together from single tokens (`CutInto.cons`) and from whole texts in parentheses
  (`CutInto.enclose`).
-/

namespace SearchQuery

open Text

/-- A text that does not go on with a token does not do so either if it is longer. -/
theorem Token.endsBefore_append {t : Token} {rest tail : List Char} (h : t.endsBefore rest)
    (htail : rest = [] → AtEnd tail) : t.endsBefore (rest ++ tail) := by
  cases rest with
  | nil => exact endsBefore_end t (htail rfl)
  | cons c cs =>
    cases t with
    | word pos text =>
      obtain ⟨hword, hseam⟩ := h
      refine ⟨?_, hseam⟩
      rw [leadingWord_cons] at hword
      rw [List.cons_append, leadingWord_cons]
      by_cases hdots : c = '.' ∧ cs.head? = some '.'
      · obtain ⟨rfl, hhead⟩ := hdots
        obtain ⟨cs', rfl⟩ := List.head?_eq_some_iff.1 hhead
        exact if_pos ⟨rfl, rfl⟩
      · rw [if_neg hdots] at hword
        have hc : ¬isWordChar c := by
          intro hc
          rw [if_pos hc] at hword
          cases hword
        rw [if_neg hc, ite_self]
    | sign pos s =>
      rw [endsBefore, sign?_symbol_append] at h ⊢
      exact h
    | _ => exact h

namespace Lexer

/-! ## One token -/

/-- `read'` reads before `tail` what `read` does at the end of a text. -/
def ReadsBefore (tail : List Char) (read read' : Cursor → Scan (List Token)) : Prop :=
  ∀ {cur cur' next : Cursor} {ts : List Token}, read cur = .ok ts next →
    cur'.rest = cur.rest ++ tail → AtEnd (next.rest ++ tail) →
    ReadsAll read' cur' ts (next.rest ++ tail)

section Reads

variable {contents contents' : Option (Cursor → Scan (List Token))} {cur cur' next : Cursor}
  {t : Token} {tail : List Char}

/-- A space, word or sign is read from the characters that it is written with. -/
theorem Reads.chars (h : Reads contents cur t next) (hquote : ∀ pos text, t ≠ .quote pos text)
    (hgroup : ∀ pos ts, t ≠ .group pos ts) : cur.rest = t.chars ++ next.rest := by
  cases h with
  | endOfText hrest => rfl
  | space hrest hc =>
    rw [Token.chars, String.toList_ofList, Cursor.advance_rest]
    exact (List.prefix_iff_eq_append.1 (List.takeWhile_prefix _)).symm
  | word hword =>
    rw [Token.chars, String.toList_ofList, Cursor.advance_rest]
    exact (leadingWord_append_drop cur.rest).symm
  | quote => exact absurd rfl (hquote _ _)
  | sign hs =>
    rw [Token.chars, Cursor.advance_rest]
    exact (Token.sign?_eq_some hs).symm
  | group => exact absurd rfl (hgroup _ _)

/-- A token is read alike where the text goes on, unless it goes on with the token. -/
theorem Reads.append (h : Reads contents cur t next)
    (hproper : t.Proper) (hends : t.endsBefore next.rest)
    (hcontents : ∀ read, contents = some read →
      ∃ read', contents' = some read' ∧ ReadsBefore tail read read')
    (hcur : cur'.rest = cur.rest ++ tail) (htail : next.rest = [] → AtEnd tail) :
    ∃ t' next', Reads contents' cur' t' next' ∧ t'.unplaced = t.unplaced ∧
      next'.rest = next.rest ++ tail := by
  by_cases hquote : ∃ pos text, t = .quote pos text
  · obtain ⟨pos, text, rfl⟩ := hquote
    cases h with
    | @quote cs _ used hrest hread =>
      obtain ⟨hread', hle⟩ := Escape.readQuote_append hread tail
      have hrest' : cur'.rest = '"' :: (cs ++ tail) := by rw [hcur, hrest]; rfl
      refine ⟨_, _, .quote hrest' hread', rfl, ?_⟩
      rw [Cursor.advance_rest, Cursor.advance_rest, hcur, List.drop_append_of_le_length]
      rw [hrest, List.length_cons]
      omega
  by_cases hgroup : ∃ pos ts, t = .group pos ts
  · obtain ⟨pos, ts, rfl⟩ := hgroup
    cases h with
    | @group read cs rest _ inner hrest hread hts hclose =>
      obtain ⟨read', hread', hbefore⟩ := hcontents read hread
      have hrest' : cur'.rest = '(' :: (cs ++ tail) := by rw [hcur, hrest]; rfl
      have hinner : (cur'.advance 1).rest = (cur.advance 1).rest ++ tail := by
        rw [Cursor.advance_rest, Cursor.advance_rest, hrest', hrest]
        rfl
      obtain ⟨ts', inner', hts', hunplaced, hclose'⟩ :=
        hbefore hts hinner (.inr ⟨rest ++ tail, by rw [hclose]; rfl⟩)
      rw [hclose] at hclose'
      refine ⟨_, _, .group hrest' hread' hts' hclose', ?_, ?_⟩
      · rw [Token.unplaced, Token.unplaced, hunplaced]
      · rw [Cursor.advance_rest, Cursor.advance_rest, hclose', hclose]
        rfl
  · have hchars := h.chars (fun pos text ht => hquote ⟨pos, text, ht⟩)
      (fun pos ts ht => hgroup ⟨pos, ts, ht⟩)
    rw [hchars, List.append_assoc] at hcur
    obtain ⟨t', next', hread, hunplaced, hnext⟩ :=
      nextWith_chars 0 contents' hproper (fun pos ts ht => hgroup ⟨pos, ts, ht⟩)
        (Token.endsBefore_append hends htail) hcur
    exact ⟨t', next', nextWith_eq_ok.1 hread, hunplaced, hnext⟩

end Reads

/-! ## All tokens -/

/-- Tokens that are read up to the end of a text are read alike before a `)`. -/
theorem tokensWith_append (limit limit' : Nat) {fuel fuel' levels levels' : Nat} (tail : List Char)
    (hfuel : fuel ≤ fuel') (hlevels : levels ≤ levels') :
    ReadsBefore tail (tokensWith limit fuel levels) (tokensWith limit' fuel' levels') := by
  induction fuel generalizing fuel' levels levels' with
  | zero =>
    intro cur cur' next ts h hcur hend
    cases h
    rw [← hcur] at hend
    exact ⟨[], cur', tokensWith_at_end hend, rfl, hcur⟩
  | succ fuel ih =>
    intro cur cur' next ts h hcur hend
    obtain ⟨fuel', rfl⟩ := Nat.exists_eq_add_one_of_ne_zero (show fuel' ≠ 0 by omega)
    have hfuel : fuel ≤ fuel' := Nat.le_of_succ_le_succ hfuel
    have hstop (hnext : next = cur) (hts : ts = []) :
        ReadsAll (tokensWith limit' (fuel' + 1) levels') cur' ts (next.rest ++ tail) := by
      subst hnext hts
      rw [← hcur] at hend
      exact ⟨[], cur', tokensWith_at_end hend, rfl, hcur⟩
    rw [tokensWith_succ] at h
    split at h
    · cases h
    · rename_i hnone
      cases h
      exact hstop (nextWith_eq_none hnone) rfl
    · rename_i hread
      cases h
      cases nextWith_eq_ok.1 hread with
      | endOfText => exact hstop rfl rfl
    · rename_i t mid hnotEnd hread
      obtain ⟨ts, hts, rfl⟩ := Scan.map_eq_ok.1 h
      have hreads := nextWith_eq_ok.1 hread
      have hproper : ∀ read ∈ inside limit fuel levels, ∀ cur ts next,
          read cur = .ok ts next → Token.ProperAll ts := by
        cases levels with
        | zero => simp [inside]
        | succ levels =>
          rintro read ⟨⟩ cur ts next hread
          exact (tokensWith_proper hread).1
      obtain ⟨htoken, -, hends⟩ := hreads.proper hproper hnotEnd
      have hcontents : ∀ read, inside limit fuel levels = some read →
          ∃ read', inside limit' fuel' levels' = some read' ∧ ReadsBefore tail read read' := by
        cases levels with
        | zero => simp [inside]
        | succ levels =>
          obtain ⟨levels', rfl⟩ := Nat.exists_eq_add_one_of_ne_zero (show levels' ≠ 0 by omega)
          rintro read ⟨⟩
          exact ⟨_, rfl, ih hfuel (Nat.le_of_succ_le_succ hlevels)⟩
      -- If the text ends after this token, then its end is where all of the tokens end.
      have htail : mid.rest = [] → AtEnd tail := by
        intro hnil
        rw [tokensWith_at_end (.inl hnil)] at hts
        cases hts
        rwa [hnil] at hend
      obtain ⟨t', mid', hread', ht', hmid⟩ := hreads.append htoken hends hcontents hcur htail
      exact .cons htoken (nextWith_eq_ok.2 hread') ht' (ih hfuel hlevels hts hmid hend)

/-! ## Texts put together -/

/-- Wherever `levels` levels are left, the characters are cut into the tokens, positions apart. -/
def CutInto (levels : Nat) (text : List Char) (ts : List Token) : Prop :=
  ∀ (limit fuel : Nat) (cur : Cursor), text.length ≤ fuel → cur.rest = text →
    ReadsAll (tokensWith limit fuel levels) cur ts []

namespace CutInto

variable {levels : Nat} {text : List Char} {ts : List Token}

theorem nil : CutInto levels [] [] := by
  intro limit fuel cur _ hcur
  exact ⟨[], cur, tokensWith_at_end (.inl hcur), rfl, hcur⟩

/-- A token other than a group stands before the text. -/
theorem cons {t : Token} (ht : t.Proper) (hgroup : ∀ pos contents, t ≠ .group pos contents)
    (hends : t.endsBefore text) (h : CutInto levels text ts) :
    CutInto levels (t.chars ++ text) (t :: ts) := by
  intro limit fuel cur hfuel hcur
  obtain ⟨c, cs, hchars, -⟩ := ht.exists_opensWith []
  rw [List.append_nil] at hchars
  rw [hchars, List.length_append, List.length_cons] at hfuel
  obtain ⟨fuel, rfl⟩ := Nat.exists_eq_add_one_of_ne_zero (show fuel ≠ 0 by omega)
  obtain ⟨t', mid, hread, ht', hmid⟩ :=
    nextWith_chars limit (inside limit fuel levels) ht hgroup hends hcur
  exact .cons ht hread ht' (h limit fuel mid (by omega) hmid)

/-- A group whose contents are a whole text stands before the text. -/
theorem enclose {limit : Nat} {inner : String} {t : Tokenized} (ht : tokenize limit inner = .ok t)
    (hwhole : t.remainder = "") (hlevels : limit < levels) (h : CutInto levels text ts) :
    CutInto levels ('(' :: (inner.toList ++ ')' :: text)) (.group .start t.tokens :: ts) := by
  intro limit' fuel cur hfuel hcur
  rw [List.length_cons, List.length_append, List.length_cons] at hfuel
  obtain ⟨fuel, rfl⟩ := Nat.exists_eq_add_one_of_ne_zero (show fuel ≠ 0 by omega)
  obtain ⟨levels, rfl⟩ := Nat.exists_eq_add_one_of_ne_zero (show levels ≠ 0 by omega)
  obtain ⟨next, hread, -, hrest⟩ := tokenize_eq_ok.1 ht
  have hnext : next.rest = [] := by
    rw [hwhole] at hrest
    simpa [Cursor.remainder] using hrest.symm
  have hinner : (cur.advance 1).rest = inner.toList ++ ')' :: text := by
    rw [Cursor.advance_rest, hcur]
    rfl
  have hfuel' : inner.toList.length ≤ fuel := by omega
  have hends : AtEnd (next.rest ++ ')' :: text) := by
    rw [hnext]
    exact .inr ⟨text, rfl⟩
  have hcontents := tokensWith_append limit limit' (')' :: text) hfuel'
    (Nat.le_of_lt_succ hlevels) hread hinner hends
  rw [hnext, List.nil_append] at hcontents
  exact .group (tokenize_proper ht) hcur hcontents
    (fun mid hmid => h limit' fuel mid (by omega) hmid) .start

end CutInto

end Lexer

/-- A text that can be cut into tokens with the levels of the limit is cut into them. -/
theorem tokenize_of_cutInto {limit : Nat} {text : String} {ts : List Token}
    (h : Lexer.CutInto limit text.toList ts) :
    ∃ t, tokenize limit text = .ok t ∧ Token.unplacedAll t.tokens = Token.unplacedAll ts ∧
      t.remainder = "" :=
  tokenize_of_readsAll (h limit _ (.ofString text) (Nat.le_refl _) rfl)

end SearchQuery
