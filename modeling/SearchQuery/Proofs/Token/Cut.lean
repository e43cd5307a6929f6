import Mathlib.Data.List.TakeWhile
import Mathlib.Tactic.Common
import SearchQuery.Proofs.Token.Tiling

/-!
# Texts cut where reading stops

Reading stops before a character that starts no token. A text that is cut off there is read alike,
positions included, since no token is told by what stands behind the cut: no blank, no word and no
sign goes on with such a character, and a quote or a group is closed before it.

* `nextWith_eq_none_iff`: the characters that start no token.
* `Reads.cut`, `tokensWith_cut`: one token, and a run of tokens, in a text that is cut off.
* `tokenize_cut`: the part of a text before its remainder is cut into the same tokens.
-/

namespace SearchQuery

open Text

/-! ## Characters that start no token -/

namespace Lexer

/-- A sign starts with this character, whatever follows it. -/
def isSignChar (c : Char) : Bool :=
  c = '>' || c = '<' || c = '!' || c = '=' || c = '~' || c = '*' || c = '?' || c = ':' || c = ',' ||
    c = '^'

/-- A token starts with this character, whatever follows it. A dot is a word character. -/
def startsToken (c : Char) : Bool :=
  isBlank c || isWordChar c || isSignChar c || c = '"' || c = '('

theorem exists_sign? {c : Char} (h : isSignChar c) (cs : List Char) :
    ∃ s, sign? (c :: cs) = some s := by
  simp only [isSignChar, Bool.or_eq_true, decide_eq_true_eq, or_assoc] at h
  rcases h with rfl | rfl | rfl | rfl | rfl | rfl | rfl | rfl | rfl | rfl
  · by_cases hnext : cs.head? = some '='
    · obtain ⟨tail, rfl⟩ := List.head?_eq_some_iff.1 hnext
      exact ⟨_, rfl⟩
    · exact ⟨_, (Token.sign?_symbol_append (s := .compare .gt)).2 ⟨fun _ => hnext, by simp⟩⟩
  · by_cases hnext : cs.head? = some '='
    · obtain ⟨tail, rfl⟩ := List.head?_eq_some_iff.1 hnext
      exact ⟨_, rfl⟩
    · exact ⟨_, (Token.sign?_symbol_append (s := .compare .lt)).2 ⟨fun _ => hnext, by simp⟩⟩
  · by_cases hnext : cs.head? = some '~'
    · obtain ⟨tail, rfl⟩ := List.head?_eq_some_iff.1 hnext
      exact ⟨_, rfl⟩
    · exact ⟨_, (Token.sign?_symbol_append (s := .compare .neq)).2 ⟨by simp, fun _ => hnext⟩⟩
  all_goals exact ⟨_, rfl⟩

theorem sign?_eq_none {c : Char} (h : isSignChar c = false) (hdot : c ≠ '.') (cs : List Char) :
    sign? (c :: cs) = none := by
  simp only [isSignChar, Bool.or_eq_false_iff, decide_eq_false_iff_not] at h
  rw [sign?]
  all_goals simp_all

/-- A word character starts a word, unless it starts the sign `..`. -/
theorem leadingWord_ne_nil {c : Char} {cs : List Char} (hc : isWordChar c)
    (hs : sign? (c :: cs) = none) : leadingWord (c :: cs) ≠ [] := by
  have hdots : ¬ (c = '.' ∧ cs.head? = some '.') := by
    rintro ⟨rfl, hdot⟩
    obtain ⟨tail, rfl⟩ := List.head?_eq_some_iff.1 hdot
    cases hs
  rw [leadingWord_cons, if_neg hdots, if_pos hc]
  simp

section Stop

variable {limit : Nat} {contents : Option (Cursor → Scan (List Token))} {cur next : Cursor}

/-- Nothing is read just where the next character starts no token. -/
theorem nextWith_eq_none_iff : nextWith limit contents cur = .ok none next ↔
    next = cur ∧ ∃ c cs, cur.rest = c :: cs ∧ startsToken c = false := by
  constructor
  · intro h
    refine ⟨nextWith_eq_none h, ?_⟩
    cases hrest : cur.rest with
    | nil =>
      rw [nextWith_nil hrest] at h
      cases h
    | cons c cs =>
      have hblank : isBlank c = false := by
        by_contra hblank
        rw [nextWith_blank hrest (by simpa using hblank)] at h
        cases h
      have hquote : c ≠ '"' := by
        rintro rfl
        rw [nextWith_quote hrest] at h
        obtain ⟨t, -, ht⟩ := Scan.map_eq_ok.1 h
        cases ht
      have hgroup : c ≠ '(' := by
        rintro rfl
        rw [nextWith_group hrest] at h
        obtain ⟨t, -, ht⟩ := Scan.map_eq_ok.1 h
        cases ht
      have hnone : sign? cur.rest = none := by
        by_contra hs
        obtain ⟨s, hs⟩ := Option.ne_none_iff_exists'.1 hs
        rw [nextWith_sign hrest hblank hs] at h
        cases h
      have hsign : isSignChar c = false := by
        by_contra hsign
        obtain ⟨s, hs⟩ := exists_sign? (by simpa using hsign) cs
        rw [← hrest, hnone] at hs
        cases hs
      have hword : isWordChar c = false := by
        by_contra hword
        rw [hrest] at hnone
        have hlead := leadingWord_ne_nil (by simpa using hword) hnone
        rw [← hrest] at hlead
        rw [nextWith_word hlead] at h
        cases h
      exact ⟨c, cs, rfl, by simp [startsToken, hblank, hword, hsign, hquote, hgroup]⟩
  · rintro ⟨rfl, c, cs, hrest, hstarts⟩
    simp only [startsToken, Bool.or_eq_false_iff, decide_eq_false_iff_not] at hstarts
    obtain ⟨⟨⟨⟨hblank, hword⟩, hsign⟩, hquote⟩, hgroup⟩ := hstarts
    have hdot : c ≠ '.' := by
      rintro rfl
      cases hword
    refine nextWith_none hrest hblank hquote hgroup ?_ ?_
    · rw [hrest]
      exact sign?_eq_none hsign hdot cs
    · rw [hrest]
      exact leadingWord_cons_of_not_isWordChar hword cs

end Stop

/-- A text with which no token goes on, for it starts none: it may be empty. -/
def Stops (rest : List Char) : Prop := ∀ c ∈ rest.head?, startsToken c = false

theorem tokensWith_of_stops {limit fuel levels : Nat} {cur : Cursor} (h : Stops cur.rest) :
    tokensWith limit fuel levels cur = .ok [] cur := by
  cases fuel with
  | zero => rfl
  | succ fuel =>
    rw [tokensWith_succ]
    cases hrest : cur.rest with
    | nil => rw [nextWith_nil hrest]
    | cons c cs =>
      have hc : startsToken c = false := h c (by rw [hrest]; rfl)
      rw [nextWith_eq_none_iff.2 ⟨rfl, c, cs, hrest, hc⟩]

end Lexer

/-! ## Cursors in a text that is cut off -/

open Lexer

/-- The cursor stands where `whole` does, in the text without its last part `tail`. -/
structure Cursor.Cut (tail : List Char) (cur whole : Cursor) : Prop where
  rest : whole.rest = cur.rest ++ tail
  position : cur.position = whole.position

namespace Cursor.Cut

variable {tail : List Char} {cur whole : Cursor}

/-- Characters before the cut are passed alike, since no line feed is cut from its carriage
return. -/
theorem advance {n : Nat} (h : cur.Cut tail whole) (htail : tail.head? ≠ some '\n')
    (hn : n ≤ cur.rest.length) : (cur.advance n).Cut tail (whole.advance n) := by
  induction n generalizing cur whole with
  | zero => exact h
  | succ n ih =>
    obtain ⟨rest, p⟩ := cur
    obtain ⟨chars, q⟩ := whole
    obtain ⟨hrest, hposition⟩ := h
    dsimp only at hrest hposition hn
    subst hrest hposition
    cases rest with
    | nil => simp at hn
    | cons c rest =>
      have hafter : p.after c rest = p.after c (rest ++ tail) := by
        cases rest with
        | nil => simp [Position.after, htail]
        | cons d rest => rfl
      refine ih ⟨rfl, hafter⟩ ?_
      simpa using hn

/-- The next character is the same if there is one before the cut. -/
theorem exists_cons {c : Char} {cs : List Char} (h : cur.Cut tail whole)
    (hcons : whole.rest = c :: cs) (hne : cur.rest ≠ []) :
    ∃ cs', cur.rest = c :: cs' ∧ cs = cs' ++ tail := by
  obtain ⟨d, ds, hcur⟩ := List.exists_cons_of_ne_nil hne
  have hrest := h.rest
  rw [hcons, hcur] at hrest
  cases hrest
  exact ⟨ds, hcur, rfl⟩

/-- A token does not start behind the cut. -/
theorem rest_ne_nil {c : Char} {cs : List Char} (h : cur.Cut tail whole) (htail : Stops tail)
    (hcons : whole.rest = c :: cs) (hc : startsToken c) : cur.rest ≠ [] := by
  intro hnil
  have hrest := h.rest
  rw [hnil, List.nil_append, hcons] at hrest
  have hstops := htail c (by rw [← hrest]; rfl)
  rw [hc] at hstops
  cases hstops

end Cursor.Cut

/-- Nothing more is read before the cut if nothing more is read of the whole text. -/
theorem Cursor.Cut.stops {tail : List Char} {cur whole : Cursor} (h : cur.Cut tail whole)
    (hwhole : Stops whole.rest) : Stops cur.rest := by
  intro c hc
  refine hwhole c ?_
  rw [h.rest, List.head?_append, hc]
  rfl

namespace Text

variable {tail : List Char}

theorem takeWhile_append_of_head? {p : Char → Bool} (h : ∀ c ∈ tail.head?, p c = false)
    (text : List Char) : (text ++ tail).takeWhile p = text.takeWhile p := by
  have htail : tail.takeWhile p = [] := by
    cases tail with
    | nil => rfl
    | cons c tail => simp [h c rfl]
  rw [List.takeWhile_append]
  split
  · rename_i hall
    rw [htail, List.append_nil]
    exact ((List.takeWhile_prefix p).eq_of_length hall).symm
  · rfl

theorem leadingWord_append_of_head? (h : ∀ c ∈ tail.head?, isWordChar c = false)
    (text : List Char) : leadingWord (text ++ tail) = leadingWord text := by
  induction text with
  | nil =>
    cases tail with
    | nil => rfl
    | cons c tail => exact leadingWord_cons_of_not_isWordChar (h c rfl) tail
  | cons c text ih =>
    have hhead : (text ++ tail).head? = some '.' ↔ text.head? = some '.' := by
      cases text with
      | nil =>
        have hdot : tail.head? ≠ some '.' := fun hdot => by cases h '.' hdot
        simp [hdot]
      | cons d text => rfl
    simp only [List.cons_append, leadingWord_cons, ih, hhead]

end Text

namespace Lexer

/-! ## One token -/

section Stops

variable {tail : List Char} (h : Stops tail)

include h

theorem Stops.isBlank : ∀ c ∈ tail.head?, isBlank c = false := by
  intro c hc
  have := h c hc
  simp only [startsToken, Bool.or_eq_false_iff] at this
  exact this.1.1.1.1

theorem Stops.isWordChar : ∀ c ∈ tail.head?, isWordChar c = false := by
  intro c hc
  have := h c hc
  simp only [startsToken, Bool.or_eq_false_iff] at this
  exact this.1.1.1.2

theorem Stops.head?_ne : tail.head? ≠ some '\n' := by
  intro hfeed
  cases h.isBlank '\n' hfeed

end Stops

section Reads

variable {contents contents' : Option (Cursor → Scan (List Token))} {cur whole next : Cursor}
  {t : Token} {tail : List Char}

/-- A token that ends before the cut is read alike in the text that is cut off. -/
theorem Reads.cut (h : Reads contents whole t next) (hcut : cur.Cut tail whole) (htail : Stops tail)
    (hbefore : tail.length ≤ next.rest.length)
    (hcontents : ∀ read ∈ contents, ∃ read' ∈ contents', ∀ {ts : List Token} {inner : Cursor},
      (cur.advance 1).Cut tail (whole.advance 1) → read (whole.advance 1) = .ok ts inner →
      tail.length ≤ inner.rest.length →
      ∃ inner', read' (cur.advance 1) = .ok ts inner' ∧ inner'.Cut tail inner) :
    ∃ next', Reads contents' cur t next' ∧ next'.Cut tail next := by
  have hrest := hcut.rest
  have hposition := hcut.position
  -- The cursor passes as many characters as before, for they all stand before the cut.
  have hpass {n : Nat} (hn : n ≤ whole.rest.length)
      (hbefore : tail.length ≤ (whole.advance n).rest.length) : n ≤ cur.rest.length := by
    rw [Cursor.advance_rest, List.length_drop] at hbefore
    rw [hrest, List.length_append] at hn hbefore
    omega
  have hadvance {n : Nat} (hn : n ≤ cur.rest.length) :
      (cur.advance n).Cut tail (whole.advance n) := hcut.advance htail.head?_ne hn
  cases h with
  | endOfText hnil =>
    have hboth : cur.rest = [] := by
      rw [hrest] at hnil
      exact (List.append_eq_nil_iff.1 hnil).1
    exact ⟨cur, by rw [← hposition]; exact .endOfText hboth, hcut⟩
  | @space c cs hcons hblank =>
    have hsame := takeWhile_append_of_head? htail.isBlank cur.rest
    have hne := hcut.rest_ne_nil htail hcons (by simp [startsToken, hblank])
    obtain ⟨cs', hcur, -⟩ := hcut.exists_cons hcons hne
    rw [hrest, hsame, ← hposition]
    exact ⟨_, .space hcur hblank, hadvance (List.takeWhile_prefix _).length_le⟩
  | word hword =>
    have hsame := leadingWord_append_of_head? htail.isWordChar cur.rest
    have hfront := congrArg List.length (leadingWord_append_drop cur.rest)
    rw [List.length_append] at hfront
    rw [hrest, hsame] at hword
    rw [hrest, hsame, ← hposition]
    exact ⟨_, .word hword, hadvance (by omega)⟩
  | @quote cs text used hcons hread =>
    obtain ⟨-, hused⟩ := Escape.readQuote_append hread []
    have hn := hpass (by rw [hcons, List.length_cons]; omega) hbefore
    obtain ⟨cs', hcur, rfl⟩ := hcut.exists_cons hcons (List.ne_nil_of_length_pos (by omega))
    rw [hcur, List.length_cons] at hn
    have hread' := Escape.readQuote_of_append hread (by omega)
    rw [← hposition]
    exact ⟨_, .quote hcur hread', hadvance (by rw [hcur, List.length_cons]; exact hn)⟩
  | @sign s hs =>
    have hfront := Token.sign?_eq_some hs
    have hlength : s.symbol.length ≤ whole.rest.length := by
      have := congrArg List.length hfront
      rw [List.length_append, String.length_toList] at this
      omega
    have hn := hpass hlength hbefore
    -- What follows the sign in the text that is cut off is cut off itself, or nothing.
    have hcur : cur.rest = s.symbol.toList ++ cur.rest.drop s.symbol.length := by
      have htake := congrArg (List.take s.symbol.length) hfront
      rw [List.take_left' String.length_toList, hrest, List.take_append_of_le_length hn] at htake
      rw [htake, List.take_append_drop]
    have hs' : sign? cur.rest = some s := by
      have happend : whole.rest = s.symbol.toList ++ (cur.rest.drop s.symbol.length ++ tail) := by
        rw [← List.append_assoc, ← hcur, hrest]
      rw [happend, Token.sign?_symbol_append] at hs
      rw [hcur, Token.sign?_symbol_append]
      have hhead {c : Char} (hc : (cur.rest.drop s.symbol.length).head? = some c) :
          (cur.rest.drop s.symbol.length ++ tail).head? = some c := by
        rw [List.head?_append, hc]
        rfl
      exact ⟨fun hop hc => hs.1 hop (hhead hc), fun hop hc => hs.2 hop (hhead hc)⟩
    rw [← hposition]
    exact ⟨_, .sign hs', hadvance hn⟩
  | @group read cs rest ts inner hcons hread hts hclose =>
    have hne := hcut.rest_ne_nil htail hcons (by decide)
    obtain ⟨cs', hcur, rfl⟩ := hcut.exists_cons hcons hne
    have hopen : (cur.advance 1).Cut tail (whole.advance 1) :=
      hadvance (by rw [hcur, List.length_cons]; omega)
    have hinside : tail.length ≤ inner.rest.length := by
      rw [Cursor.advance_rest, List.length_drop] at hbefore
      omega
    obtain ⟨read', hread', hsame⟩ := hcontents read hread
    obtain ⟨inner', hts', hinner⟩ := hsame hopen hts hinside
    have hne' : inner'.rest ≠ [] := by
      intro hnil
      have := hinner.rest
      rw [hnil, List.nil_append] at this
      rw [Cursor.advance_rest, List.length_drop, this] at hbefore
      rw [← this, hclose, List.length_cons] at hbefore
      omega
    obtain ⟨rest', hclose', -⟩ := hinner.exists_cons hclose hne'
    rw [← hposition]
    refine ⟨_, .group hcur hread' hts' hclose', hinner.advance htail.head?_ne ?_⟩
    rw [hclose', List.length_cons]
    omega

/-- Reading a token leaves less of the text. -/
theorem Reads.length_lt (h : Reads contents cur t next) (hend : ∀ pos, t ≠ .endOfText pos)
    (hcontents : ∀ read ∈ contents, ∀ {ts : List Token} {cur inner : Cursor},
      read cur = .ok ts inner → inner.rest.length ≤ cur.rest.length) :
    next.rest.length < cur.rest.length := by
  cases h with
  | endOfText => exact absurd rfl (hend _)
  | space hrest hblank =>
    rw [Cursor.advance_rest, List.length_drop, hrest, List.takeWhile_cons, if_pos hblank]
    simp only [List.length_cons]
    omega
  | word hword =>
    have hlength := List.length_pos_iff.2 hword
    have hne : cur.rest ≠ [] := by
      intro hnil
      rw [hnil] at hword
      exact hword rfl
    have hpos := List.length_pos_iff.2 hne
    rw [Cursor.advance_rest, List.length_drop]
    omega
  | quote hrest =>
    rw [Cursor.advance_rest, List.length_drop, hrest, List.length_cons]
    omega
  | @sign s hs =>
    have hfront := congrArg List.length (Token.sign?_eq_some hs)
    rw [List.length_append, String.length_toList] at hfront
    have hpos : 0 < s.symbol.length := by
      cases s with
      | compare op => cases op <;> decide
      | _ => decide
    rw [Cursor.advance_rest, List.length_drop]
    omega
  | @group read cs rest ts inner hrest hread hts hclose =>
    have hle := hcontents read hread hts
    rw [Cursor.advance_rest, List.length_drop, hrest, List.length_cons] at hle
    rw [Cursor.advance_rest, List.length_drop, hrest, List.length_cons]
    have hpos := congrArg List.length hclose
    rw [List.length_cons] at hpos
    omega

end Reads

/-! ## All tokens -/

variable {limit fuel fuel' levels : Nat} {cur whole next : Cursor} {ts : List Token}
  {tail : List Char}

/-- Reading stops, or goes on behind a token. -/
theorem tokensWith_succ_eq_ok (h : tokensWith limit (fuel + 1) levels cur = .ok ts next) :
    (ts = [] ∧ next = cur ∧ Stops cur.rest) ∨
      ∃ t mid ts', Reads (inside limit fuel levels) cur t mid ∧ (∀ pos, t ≠ .endOfText pos) ∧
        tokensWith limit fuel levels mid = .ok ts' next ∧ ts = t :: ts' := by
  rw [tokensWith_succ] at h
  split at h
  · cases h
  · rename_i hnone
    cases h
    obtain ⟨rfl, c, cs, hrest, hc⟩ := nextWith_eq_none_iff.1 hnone
    refine .inl ⟨rfl, rfl, ?_⟩
    rw [hrest]
    rintro d ⟨⟩
    exact hc
  · rename_i hread
    cases h
    cases nextWith_eq_ok.1 hread with
    | endOfText hnil =>
      refine .inl ⟨rfl, rfl, ?_⟩
      rw [hnil]
      simp [Stops]
  · rename_i t mid hend hread
    obtain ⟨ts', hts, rfl⟩ := Scan.map_eq_ok.1 h
    exact .inr ⟨t, mid, ts', nextWith_eq_ok.1 hread, hend, hts, rfl⟩

theorem tokensWith_length_le (h : tokensWith limit fuel levels cur = .ok ts next) :
    next.rest.length ≤ cur.rest.length := by
  induction fuel generalizing levels cur next ts with
  | zero =>
    cases h
    exact Nat.le_refl _
  | succ fuel ih =>
    obtain ⟨-, rfl, -⟩ | ⟨t, mid, ts', hread, hend, hts, -⟩ := tokensWith_succ_eq_ok h
    · exact Nat.le_refl _
    · have hcontents : ∀ read ∈ inside limit fuel levels, ∀ {ts : List Token} {cur inner : Cursor},
          read cur = .ok ts inner → inner.rest.length ≤ cur.rest.length := by
        cases levels with
        | zero => simp [inside]
        | succ levels =>
          rintro read ⟨⟩ ts cur inner hread
          exact ih hread
      exact Nat.le_trans (ih hts) (Nat.le_of_lt (hread.length_lt hend hcontents))

/-- What is inside a group leaves no more of the text than there was. -/
theorem inside_length_le : ∀ read ∈ inside limit fuel levels,
    ∀ {ts : List Token} {cur inner : Cursor}, read cur = .ok ts inner →
      inner.rest.length ≤ cur.rest.length := by
  cases levels with
  | zero => simp [inside]
  | succ levels =>
    rintro read ⟨⟩ ts cur inner hread
    exact tokensWith_length_le hread

/-- Where reading stops, the text is at its end or goes on with what starts no token. -/
theorem tokensWith_stops (hfuel : cur.rest.length ≤ fuel)
    (h : tokensWith limit fuel levels cur = .ok ts next) : Stops next.rest := by
  induction fuel generalizing levels cur next ts with
  | zero =>
    cases h
    rw [List.length_eq_zero_iff.1 (Nat.le_zero.1 hfuel)]
    simp [Stops]
  | succ fuel ih =>
    obtain ⟨-, rfl, hstops⟩ | ⟨t, mid, ts', hread, hend, hts, -⟩ := tokensWith_succ_eq_ok h
    · exact hstops
    · have hlt := hread.length_lt hend inside_length_le
      exact ih (by omega) hts

/-- Tokens that are read up to the cut are read alike in the text that is cut off there. -/
theorem tokensWith_cut (htail : Stops tail) (hfuel : whole.rest.length ≤ fuel)
    (hfuel' : cur.rest.length ≤ fuel') (hcut : cur.Cut tail whole)
    (h : tokensWith limit fuel levels whole = .ok ts next)
    (hbefore : tail.length ≤ next.rest.length) :
    ∃ next', tokensWith limit fuel' levels cur = .ok ts next' ∧ next'.Cut tail next := by
  induction fuel generalizing fuel' levels cur whole next ts with
  | zero =>
    cases h
    have hnil := List.length_eq_zero_iff.1 (Nat.le_zero.1 hfuel)
    have hstops : Stops whole.rest := by simp [Stops, hnil]
    exact ⟨cur, tokensWith_of_stops (hcut.stops hstops), hcut⟩
  | succ fuel ih =>
    obtain ⟨rfl, rfl, hstops⟩ | ⟨t, mid, ts', hread, hend, hts, rfl⟩ := tokensWith_succ_eq_ok h
    · exact ⟨cur, tokensWith_of_stops (hcut.stops hstops), hcut⟩
    have hmid := tokensWith_length_le hts
    have hlt := hread.length_lt hend inside_length_le
    have hlength := congrArg List.length hcut.rest
    rw [List.length_append] at hlength
    obtain ⟨fuel', rfl⟩ := Nat.exists_eq_add_one_of_ne_zero (show fuel' ≠ 0 by omega)
    -- What is inside a group is read alike by induction, and so is what follows the token.
    obtain ⟨mid', hread', hmid'⟩ :
        ∃ mid', Reads (inside limit fuel' levels) cur t mid' ∧ mid'.Cut tail mid := by
      refine hread.cut hcut htail (by omega) ?_
      cases levels with
      | zero => simp [inside]
      | succ levels =>
        rintro read ⟨⟩
        refine ⟨tokensWith limit fuel' levels, rfl, fun hopen hts hinner => ?_⟩
        refine ih ?_ ?_ hopen hts hinner
        · rw [Cursor.advance_rest, List.length_drop]
          omega
        · rw [Cursor.advance_rest, List.length_drop]
          omega
    have hlt' := hread'.length_lt hend inside_length_le
    have hfuel'' : mid'.rest.length ≤ fuel' := by omega
    obtain ⟨next', hts', hnext⟩ := ih (by omega) hfuel'' hmid' hts hbefore
    exact ⟨next', tokensWith_cons (nextWith_eq_ok.2 hread') hend hts', hnext⟩

end Lexer

/-! ## Whole texts -/

variable {limit : Nat} {text : String} {t : Tokenized}

/-- The part of a text before its remainder is cut into the same tokens. The remainder is empty or
goes on with what starts no token. -/
theorem tokenize_cut (h : tokenize limit text = .ok t) :
    Stops t.remainder.toList ∧ ∃ p, text = p ++ t.remainder ∧
      tokenize limit p = .ok ⟨t.tokens, t.position, ""⟩ := by
  obtain ⟨next, hread, hposition, hremainder⟩ := tokenize_eq_ok.1 h
  have hfuel : (Cursor.ofString text).rest.length ≤ text.toList.length := Nat.le_refl _
  have htail : Stops next.rest := tokensWith_stops hfuel hread
  have hrest : t.remainder.toList = next.rest := by
    rw [hremainder, Cursor.remainder, String.toList_ofList]
  obtain ⟨slice, htext, -⟩ := tokenize_tiles h
  have hsplit : text = String.ofList slice ++ t.remainder := by
    rw [← String.ofList_toList (s := text), htext, String.ofList_append, String.ofList_toList]
  refine ⟨by rwa [hrest], String.ofList slice, hsplit, ?_⟩
  have hcut : (Cursor.ofString (String.ofList slice)).Cut next.rest (.ofString text) := by
    refine ⟨?_, rfl⟩
    rw [Cursor.ofString, Cursor.ofString, ← hrest, String.toList_ofList]
    exact htext
  obtain ⟨next', hread', hnext⟩ :=
    tokensWith_cut htail hfuel (Nat.le_refl _) hcut hread (Nat.le_refl _)
  have hdone : next'.rest = [] := List.append_left_eq_self.1 hnext.rest.symm
  refine tokenize_eq_ok.2 ⟨next', hread', ?_, ?_⟩
  · exact hposition.trans hnext.position.symm
  · rw [Cursor.remainder, hdone]

end SearchQuery
