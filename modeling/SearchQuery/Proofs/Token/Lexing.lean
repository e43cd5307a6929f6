import Mathlib.Data.List.TakeWhile
import SearchQuery.Proofs.Text.Escape
import SearchQuery.Proofs.Token.Spelling

/-!
# Written tokens read back

* `nextWith_eq_ok`: one token is read just as `Reads` says of its sort.
* `tokensWith_proper`: the tokens that are read from a text are proper.
* `tokensWith_charsAll`: proper tokens that are written one after the other are read as the same
  tokens, positions apart. What follows them is the end of the text or of a group.

Together the last two make the proper sequences exactly those that reading gives.
-/

namespace SearchQuery

namespace Scan

variable {α β : Type}

theorem map_eq_ok {f : α → β} {s : Scan α} {b : β} {next : Cursor} :
    s.map f = .ok b next ↔ ∃ a, s = .ok a next ∧ f a = b := by
  cases s with
  | ok a next' =>
    simp only [map, ok.injEq]
    constructor
    · rintro ⟨rfl, rfl⟩
      exact ⟨a, ⟨rfl, rfl⟩, rfl⟩
    · rintro ⟨_, ⟨rfl, rfl⟩, rfl⟩
      exact ⟨rfl, rfl⟩
  | error e next' => simp [map]

theorem map_some_eq_ok {s : Scan α} {a : α} {next : Cursor} :
    s.map some = .ok (some a) next ↔ s = .ok a next := by
  simp [map_eq_ok]

end Scan

namespace Lexer

open Text

/-! ## The first character decides -/

section Dispatch

variable {limit : Nat} {contents : Option (Cursor → Scan (List Token))} {cur : Cursor} {c : Char}
  {cs : List Char}

theorem nextWith_nil (h : cur.rest = []) :
    nextWith limit contents cur = .ok (some (.endOfText cur.position)) cur := by
  simp [nextWith, h]

theorem nextWith_blank (h : cur.rest = c :: cs) (hc : isBlank c) :
    nextWith limit contents cur =
      .ok (some (.space cur.position (String.ofList (cur.rest.takeWhile isBlank))))
        (cur.advance (cur.rest.takeWhile isBlank).length) := by
  simp [nextWith, h, hc]

theorem nextWith_quote (h : cur.rest = '"' :: cs) :
    nextWith limit contents cur = (readQuote cur).map some := by
  have hc : isBlank '"' = false := by decide
  simp [nextWith, h, hc]

theorem nextWith_group (h : cur.rest = '(' :: cs) :
    nextWith limit contents cur = (readGroup limit contents cur).map some := by
  have hc : isBlank '(' = false := by decide
  simp [nextWith, h, hc]

theorem nextWith_sign {s : Sign} (h : cur.rest = c :: cs) (hc : isBlank c = false)
    (hs : sign? cur.rest = some s) :
    nextWith limit contents cur =
      .ok (some (.sign cur.position s)) (cur.advance s.symbol.length) := by
  have hquote : c ≠ '"' := by rintro rfl; rw [h] at hs; cases hs
  have hgroup : c ≠ '(' := by rintro rfl; rw [h] at hs; cases hs
  rw [h] at hs
  simp [nextWith, h, hc, hquote, hgroup, hs]

/-- A word stands where no sign does. -/
theorem sign?_eq_none_of_leadingWord {text : List Char} (h : leadingWord text ≠ []) :
    sign? text = none := by
  by_contra hs
  obtain ⟨s, hs⟩ := Option.ne_none_iff_exists'.1 hs
  rw [← Token.sign?_eq_some hs] at h
  cases s with
  | compare op => cases op <;> exact h rfl
  | _ => exact h rfl

theorem nextWith_word (h : leadingWord cur.rest ≠ []) :
    nextWith limit contents cur =
      .ok (some (.word cur.position (String.ofList (leadingWord cur.rest))))
        (cur.advance (leadingWord cur.rest).length) := by
  have hs := sign?_eq_none_of_leadingWord h
  cases hrest : cur.rest with
  | nil => rw [hrest] at h; exact absurd rfl h
  | cons c cs =>
    rw [hrest] at h hs
    have hword := (isWordChar_of_leadingWord_ne_nil h).1
    have hblank := isBlank_eq_false_of_isWordChar hword
    have hquote : c ≠ '"' := ne_of_isWordChar hword (by decide)
    have hgroup : c ≠ '(' := ne_of_isWordChar hword (by decide)
    simp [nextWith, hrest, hblank, hquote, hgroup, hs]

theorem nextWith_none (h : cur.rest = c :: cs) (hc : isBlank c = false) (hquote : c ≠ '"')
    (hgroup : c ≠ '(') (hs : sign? cur.rest = none) (hword : leadingWord cur.rest = []) :
    nextWith limit contents cur = .ok none cur := by
  rw [h] at hs hword
  simp [nextWith, h, hc, hquote, hgroup, hs, hword]

end Dispatch

/-- What is read at a place: a token, and the place after it. The reader of what is inside a group
is `contents`. -/
inductive Reads (contents : Option (Cursor → Scan (List Token))) (cur : Cursor) :
    Token → Cursor → Prop where
  | endOfText (hrest : cur.rest = []) : Reads contents cur (.endOfText cur.position) cur
  | space {c : Char} {cs : List Char} (hrest : cur.rest = c :: cs) (hc : isBlank c) :
    Reads contents cur (.space cur.position (String.ofList (cur.rest.takeWhile isBlank)))
      (cur.advance (cur.rest.takeWhile isBlank).length)
  | word (hword : leadingWord cur.rest ≠ []) :
    Reads contents cur (.word cur.position (String.ofList (leadingWord cur.rest)))
      (cur.advance (leadingWord cur.rest).length)
  | quote {cs text : List Char} {used : Nat} (hrest : cur.rest = '"' :: cs)
    (hread : Escape.readQuote cs = .closed text used) :
    Reads contents cur (.quote cur.position (String.ofList text)) (cur.advance (used + 1))
  | sign {s : Sign} (hs : sign? cur.rest = some s) :
    Reads contents cur (.sign cur.position s) (cur.advance s.symbol.length)
  | group {read : Cursor → Scan (List Token)} {cs rest : List Char} {ts : List Token}
    {inner : Cursor} (hrest : cur.rest = '(' :: cs) (hcontents : contents = some read)
    (hread : read (cur.advance 1) = .ok ts inner) (hclose : inner.rest = ')' :: rest) :
    Reads contents cur (.group cur.position ts) (inner.advance 1)

theorem readQuote_eq_ok {cur next : Cursor} {t : Token} {cs : List Char}
    (hrest : cur.rest = '"' :: cs) : readQuote cur = .ok t next ↔
      ∃ text used, Escape.readQuote cs = .closed text used ∧
        t = .quote cur.position (String.ofList text) ∧ next = cur.advance (used + 1) := by
  rw [readQuote, hrest, List.tail_cons]
  cases Escape.readQuote cs <;> simp [@eq_comm _ t, @eq_comm _ next]

theorem readGroup_eq_ok {limit : Nat} {contents : Option (Cursor → Scan (List Token))}
    {cur next : Cursor} {t : Token} : readGroup limit contents cur = .ok t next ↔
      ∃ read ts inner rest, contents = some read ∧ read (cur.advance 1) = .ok ts inner ∧
        inner.rest = ')' :: rest ∧ t = .group cur.position ts ∧ next = inner.advance 1 := by
  constructor
  · intro h
    unfold readGroup at h
    split at h
    · cases h
    · rename_i read
      split at h
      · cases h
      · rename_i ts inner hread
        split at h
        · rename_i rest hclose
          cases h
          exact ⟨read, ts, inner, rest, rfl, hread, hclose, rfl, rfl⟩
        · cases h
  · rintro ⟨read, ts, inner, rest, rfl, hread, hclose, rfl, rfl⟩
    simp only [readGroup, hread, hclose]

theorem nextWith_eq_ok {limit : Nat} {contents : Option (Cursor → Scan (List Token))}
    {cur next : Cursor} {t : Token} :
    nextWith limit contents cur = .ok (some t) next ↔ Reads contents cur t next := by
  constructor
  · intro h
    by_cases hnil : cur.rest = []
    · rw [nextWith_nil hnil] at h
      cases h
      exact .endOfText hnil
    obtain ⟨c, cs, hrest⟩ := List.exists_cons_of_ne_nil hnil
    by_cases hblank : isBlank c
    · rw [nextWith_blank hrest hblank] at h
      cases h
      exact .space hrest hblank
    by_cases hquote : c = '"'
    · subst hquote
      rw [nextWith_quote hrest, Scan.map_some_eq_ok, readQuote_eq_ok hrest] at h
      obtain ⟨text, used, hread, rfl, rfl⟩ := h
      exact .quote hrest hread
    by_cases hgroup : c = '('
    · subst hgroup
      rw [nextWith_group hrest, Scan.map_some_eq_ok, readGroup_eq_ok] at h
      obtain ⟨read, ts, inner, rest, hcontents, hread, hclose, rfl, rfl⟩ := h
      exact .group hrest hcontents hread hclose
    have hblank' : isBlank c = false := by simpa using hblank
    cases hs : sign? cur.rest with
    | some s =>
      rw [nextWith_sign hrest hblank' hs] at h
      cases h
      exact .sign hs
    | none =>
      by_cases hword : leadingWord cur.rest = []
      · rw [nextWith_none hrest hblank' hquote hgroup hs hword] at h
        cases h
      · rw [nextWith_word hword] at h
        cases h
        exact .word hword
  · intro h
    cases h with
    | endOfText hrest => exact nextWith_nil hrest
    | space hrest hc => exact nextWith_blank hrest hc
    | word hword => exact nextWith_word hword
    | quote hrest hread =>
      rw [nextWith_quote hrest, Scan.map_some_eq_ok, readQuote_eq_ok hrest]
      exact ⟨_, _, hread, rfl, rfl⟩
    | @sign s hs =>
      have hproper : (Token.sign cur.position s).Proper := trivial
      obtain ⟨c, cs, hc, hopens⟩ := hproper.exists_opensWith (cur.rest.drop s.symbol.length)
      rw [Token.chars, Token.sign?_eq_some hs] at hc
      exact nextWith_sign hc (hopens.not_isBlank (by simp)) hs
    | group hrest hcontents hread hclose =>
      rw [nextWith_group hrest, Scan.map_some_eq_ok, readGroup_eq_ok]
      exact ⟨_, _, _, _, hcontents, hread, hclose, rfl, rfl⟩

theorem Reads.unique {contents : Option (Cursor → Scan (List Token))} {cur next next' : Cursor}
    {t t' : Token} (h : Reads contents cur t next) (h' : Reads contents cur t' next') :
    t = t' ∧ next = next' := by
  have hread : nextWith 0 contents cur = .ok (some t) next := nextWith_eq_ok.2 h
  rw [nextWith_eq_ok.2 h'] at hread
  cases hread
  exact ⟨rfl, rfl⟩

theorem nextWith_eq_none {limit : Nat} {contents : Option (Cursor → Scan (List Token))}
    {cur next : Cursor} (h : nextWith limit contents cur = .ok none next) : next = cur := by
  have hmap {s : Scan Token} (hs : s.map some = .ok none next) : next = cur := by
    obtain ⟨t, -, ht⟩ := Scan.map_eq_ok.1 hs
    cases ht
  unfold nextWith at h
  split at h
  · cases h
  · split at h
    · cases h
    · split at h
      · exact hmap h
      · split at h
        · exact hmap h
        · split at h
          · cases h
          · split at h
            · cases h
              rfl
            · cases h

/-! ## Tokens that are read are proper -/

/-- What follows the blanks at the front of a text is not blank. -/
theorem head?_drop_takeWhile {p : Char → Bool} (text : List Char) :
    ∀ c ∈ (text.drop (text.takeWhile p).length).head?, p c = false := by
  have h := congrArg (List.drop (text.takeWhile p).length)
    (List.takeWhile_append_dropWhile (p := p) (l := text))
  rw [List.drop_left] at h
  intro c hc
  have hnot := List.head?_dropWhile_not p text
  rw [h, hc] at hnot
  exact hnot

/-- A token that is read stands at the front of the text, is written in a way of its sort, and what
follows it does not go on with it. -/
theorem Reads.proper {contents : Option (Cursor → Scan (List Token))}
    (hcontents : ∀ read ∈ contents, ∀ cur ts next, read cur = .ok ts next → Token.ProperAll ts)
    {cur next : Cursor} {t : Token} (h : Reads contents cur t next)
    (hend : ∀ pos, t ≠ .endOfText pos) :
    t.Proper ∧ t.startsText cur.rest ∧ t.endsBefore next.rest := by
  cases h with
  | endOfText => exact absurd rfl (hend _)
  | @space c cs hrest hblank =>
    refine ⟨⟨?_, ?_⟩, ⟨c, by rw [hrest]; rfl, hblank⟩, ?_⟩
    · simp [hrest, hblank]
    · simpa using fun d hd => List.mem_takeWhile_imp hd
    · rw [Token.endsBefore, Cursor.advance_rest]
      exact head?_drop_takeWhile cur.rest
  | word hword =>
    have hfront := leadingWord_append_drop cur.rest
    obtain ⟨hchars, hdots, hend, hseam⟩ :=
      leadingWord_append_eq_left.1 (congrArg leadingWord hfront)
    refine ⟨⟨?_, ?_, ?_⟩, hword, ?_⟩
    · simpa using hword
    · simpa using hchars
    · simpa using hdots
    · rw [Token.endsBefore, Cursor.advance_rest]
      exact ⟨hend, by simpa using hseam⟩
  | quote => exact ⟨trivial, trivial, trivial⟩
  | sign hs =>
    refine ⟨trivial, hs, ?_⟩
    rw [Token.endsBefore, Cursor.advance_rest, Token.sign?_eq_some hs]
    exact hs
  | @group read _ _ ts _ _ hread hts => exact ⟨hcontents read hread _ _ _ hts, trivial, trivial⟩

/-- The reader of what is inside a group, where `levels` more may start. -/
def inside (limit fuel : Nat) : Nat → Option (Cursor → Scan (List Token))
  | 0 => none
  | levels + 1 => some (tokensWith limit fuel levels)

theorem tokensWith_succ (limit fuel levels : Nat) (cur : Cursor) :
    tokensWith limit (fuel + 1) levels cur =
      match nextWith limit (inside limit fuel levels) cur with
      | .error e next => .error e next
      | .ok none next | .ok (some (.endOfText _)) next => .ok [] next
      | .ok (some token) next => (tokensWith limit fuel levels next).map (token :: ·) := by
  cases levels <;> rfl

/-- Tokens that are read are proper, and the first of them stands at the front of the text. -/
theorem tokensWith_proper {limit fuel levels : Nat} {cur next : Cursor} {ts : List Token}
    (h : tokensWith limit fuel levels cur = .ok ts next) :
    Token.ProperAll ts ∧ ∀ t ∈ ts.head?, t.startsText cur.rest := by
  induction fuel generalizing levels cur next ts with
  | zero =>
    cases h
    exact ⟨trivial, by simp⟩
  | succ fuel ih =>
    rw [tokensWith_succ] at h
    split at h
    · cases h
    · cases h
      exact ⟨trivial, by simp⟩
    · cases h
      exact ⟨trivial, by simp⟩
    · rename_i t mid hend hnext
      obtain ⟨ts, htail, rfl⟩ := Scan.map_eq_ok.1 h
      have hcontents : ∀ read ∈ inside limit fuel levels, ∀ cur ts next,
          read cur = .ok ts next → Token.ProperAll ts := by
        cases levels with
        | zero => simp [inside]
        | succ levels =>
          rintro read ⟨⟩ cur ts next hread
          exact (ih hread).1
      obtain ⟨hproper, hstarts, hends⟩ := (nextWith_eq_ok.1 hnext).proper hcontents hend
      obtain ⟨htail, hhead⟩ := ih htail
      refine ⟨⟨hproper, fun u hu => ?_, htail⟩, ?_⟩
      · exact Token.splits_of_endsBefore hends (hhead u hu)
      · rintro _ ⟨⟩
        exact hstarts

/-! ## Proper tokens read back -/

/-- A token other than a group is read where it is written. -/
theorem nextWith_chars (limit : Nat) (contents : Option (Cursor → Scan (List Token))) {t : Token}
    (ht : t.Proper) (hgroup : ∀ pos ts, t ≠ .group pos ts) {rest : List Char}
    (hrest : t.endsBefore rest) {cur : Cursor} (hcur : cur.rest = t.chars ++ rest) :
    ∃ t' next, nextWith limit contents cur = .ok (some t') next ∧
      t'.unplaced = t.unplaced ∧ next.rest = rest := by
  cases t with
  | endOfText pos => exact absurd ht id
  | space pos text =>
    obtain ⟨c, cs, hc⟩ := List.exists_cons_of_ne_nil ht.1
    have htake : cur.rest.takeWhile isBlank = text.toList := by
      rw [hcur, Token.chars, List.takeWhile_append_of_pos ht.2]
      cases rest with
      | nil => simp
      | cons d ds => simp [hrest d rfl]
    have hblank : cur.rest = c :: (cs ++ rest) := by
      rw [hcur, Token.chars, hc, List.cons_append]
    refine ⟨_, _, nextWith_blank hblank (ht.2 c (by simp [hc])), ?_, ?_⟩
    · simp [htake, Token.unplaced]
    · rw [Cursor.advance_rest, htake, hcur, Token.chars, List.drop_left]
  | word pos text =>
    have hlead : leadingWord cur.rest = text.toList := by
      rw [hcur]
      exact leadingWord_append_eq_left.2 ⟨ht.2.1, ht.2.2, hrest.1, hrest.2⟩
    refine ⟨_, _, nextWith_word (by rw [hlead]; exact ht.1), ?_, ?_⟩
    · simp [hlead, Token.unplaced]
    · rw [Cursor.advance_rest, hlead, hcur, Token.chars, List.drop_left]
  | quote pos text =>
    have hquote : Escape.readQuote cur.rest.tail =
        .closed text.toList ((text.toList.flatMap Escape.encodeChar).length + 1) := by
      rw [hcur, Token.chars_quote, List.cons_append, List.tail_cons, List.append_assoc]
      exact Escape.readQuote_encode text.toList rest
    have hread : readQuote cur = .ok (.quote cur.position text)
        (cur.advance (Token.quote pos text).chars.length) := by
      simp [readQuote, hquote]
    refine ⟨.quote cur.position text, cur.advance (Token.quote pos text).chars.length, ?_, rfl, ?_⟩
    · have hopen : cur.rest = '"' :: cur.rest.tail := by
        rw [hcur, Token.chars_quote]
        rfl
      rw [nextWith_quote hopen, hread]
      rfl
    · rw [Cursor.advance_rest, hcur, List.drop_left]
  | sign pos s =>
    obtain ⟨c, cs, hc, hopens⟩ := ht.exists_opensWith rest
    have hs : sign? cur.rest = some s := by
      rw [hcur]
      exact hrest
    refine ⟨_, _, nextWith_sign (hcur.trans hc) (hopens.not_isBlank (by simp)) hs, rfl, ?_⟩
    rw [Cursor.advance_rest, hcur, Token.chars]
    exact List.drop_left' String.length_toList
  | group pos ts => exact absurd rfl (hgroup pos ts)

/-- Nothing is read at the end of a text or of a group. -/
theorem tokensWith_at_end {limit fuel levels : Nat} {cur : Cursor} (h : AtEnd cur.rest) :
    tokensWith limit fuel levels cur = .ok [] cur := by
  cases fuel with
  | zero => rfl
  | succ fuel =>
    rw [tokensWith_succ]
    obtain hnil | ⟨cs, hclose⟩ := h
    · rw [nextWith_nil hnil]
    · rw [nextWith_none hclose (by decide) (by decide) (by decide) (by rw [hclose]; rfl)
        (by rw [hclose]; exact leadingWord_cons_of_not_isWordChar (by decide) cs)]

theorem tokensWith_cons {limit fuel levels : Nat} {cur mid next : Cursor} {t : Token}
    {ts : List Token} (hnext : nextWith limit (inside limit fuel levels) cur = .ok (some t) mid)
    (ht : ∀ pos, t ≠ .endOfText pos) (hts : tokensWith limit fuel levels mid = .ok ts next) :
    tokensWith limit (fuel + 1) levels cur = .ok (t :: ts) next := by
  rw [tokensWith_succ, hnext]
  cases t with
  | endOfText pos => exact absurd rfl (ht pos)
  | _ => simp [hts, Scan.map]

/-- The tokens are read at the place, positions apart, and `rest` is left after them. -/
def ReadsAll (read : Cursor → Scan (List Token)) (cur : Cursor) (ts : List Token)
    (rest : List Char) : Prop :=
  ∃ ts' next, read cur = .ok ts' next ∧ Token.unplacedAll ts' = Token.unplacedAll ts ∧
    next.rest = rest

theorem ReadsAll.cons {limit fuel levels : Nat} {cur mid : Cursor} {t t' : Token}
    {ts : List Token} {rest : List Char} (hproper : t.Proper)
    (hread : nextWith limit (inside limit fuel levels) cur = .ok (some t') mid)
    (ht : t'.unplaced = t.unplaced) (hts : ReadsAll (tokensWith limit fuel levels) mid ts rest) :
    ReadsAll (tokensWith limit (fuel + 1) levels) cur (t :: ts) rest := by
  obtain ⟨ts', next, hts', hunplaced, hnext⟩ := hts
  refine ⟨t' :: ts', next, tokensWith_cons hread (hproper.ne_endOfText ht) hts', ?_, hnext⟩
  rw [Token.unplacedAll, Token.unplacedAll, ht, hunplaced]

/-- A group is read where its contents are read up to a `)`. -/
theorem ReadsAll.group {limit fuel levels : Nat} {cur : Cursor} {cs rest rest' : List Char}
    {contents ts : List Token} (hproper : Token.ProperAll contents) (hcur : cur.rest = '(' :: cs)
    (hcontents : ReadsAll (tokensWith limit fuel levels) (cur.advance 1) contents (')' :: rest))
    (hts : ∀ mid : Cursor, mid.rest = rest →
      ReadsAll (tokensWith limit fuel (levels + 1)) mid ts rest') (pos : Position) :
    ReadsAll (tokensWith limit (fuel + 1) (levels + 1)) cur (.group pos contents :: ts) rest' := by
  obtain ⟨contents', close, hread, hunplaced, hclose⟩ := hcontents
  have hgroup : Reads (inside limit fuel (levels + 1)) cur (.group cur.position contents')
      (close.advance 1) := .group hcur rfl hread hclose
  refine .cons hproper (nextWith_eq_ok.2 hgroup) ?_ (hts (close.advance 1) ?_)
  · rw [Token.unplaced, Token.unplaced, hunplaced]
  · rw [Cursor.advance_rest, hclose]
    rfl

/-- Proper tokens read back from what they are written as. -/
theorem tokensWith_charsAll (limit : Nat) {fuel levels : Nat} {ts : List Token} {rest : List Char}
    {cur : Cursor} (hts : Token.ProperAll ts) (hdepth : Token.depthAll ts ≤ levels)
    (hfuel : (Token.charsAll ts).length ≤ fuel) (hrest : AtEnd rest)
    (hcur : cur.rest = Token.charsAll ts ++ rest) :
    ReadsAll (tokensWith limit fuel levels) cur ts rest := by
  induction fuel generalizing levels ts rest cur with
  | zero =>
    cases ts with
    | nil => exact ⟨[], cur, rfl, rfl, hcur⟩
    | cons t ts =>
      obtain ⟨c, cs, hc, -⟩ := hts.1.exists_opensWith []
      rw [List.append_nil] at hc
      simp [Token.charsAll, hc] at hfuel
  | succ fuel ih =>
    cases ts with
    | nil => exact ⟨[], cur, tokensWith_at_end (by rwa [hcur]), rfl, hcur⟩
    | cons t ts =>
      obtain ⟨hproper, hsplits, htail⟩ := hts
      rw [Token.depthAll, Nat.max_le] at hdepth
      rw [Token.charsAll, List.length_append] at hfuel
      rw [Token.charsAll, List.append_assoc] at hcur
      by_cases hgroup : ∃ pos inner, t = .group pos inner
      · -- The contents read back by induction, and so does what follows the group.
        obtain ⟨pos, inner, rfl⟩ := hgroup
        rw [Token.depth] at hdepth
        rw [Token.chars, List.length_cons, List.length_append] at hfuel
        rw [Token.chars, List.cons_append, List.append_assoc, List.singleton_append] at hcur
        obtain ⟨levels, rfl⟩ := Nat.exists_eq_add_one_of_ne_zero (show levels ≠ 0 by omega)
        have hcontents : (cur.advance 1).rest =
            Token.charsAll inner ++ ')' :: (Token.charsAll ts ++ rest) := by
          rw [Cursor.advance_rest, hcur, List.drop_one, List.tail_cons]
        have hinner := ih hproper (show Token.depthAll inner ≤ levels by omega) (by omega)
          (.inr ⟨_, rfl⟩) hcontents
        exact .group hproper hcur hinner (fun mid => ih htail hdepth.2 (by omega) hrest) pos
      · have hgroup' : ∀ pos inner, t ≠ .group pos inner := fun pos inner h =>
          hgroup ⟨pos, inner, h⟩
        have hends : t.endsBefore (Token.charsAll ts ++ rest) := by
          cases ts with
          | nil => exact Token.endsBefore_end t hrest
          | cons u ts =>
            rw [Token.charsAll, List.append_assoc]
            exact Token.endsBefore_of_splits (hsplits u rfl) htail.1 _
        obtain ⟨t', mid, hread, ht', hmid⟩ :=
          nextWith_chars limit (inside limit fuel levels) hproper hgroup' hends hcur
        obtain ⟨c, cs, hc, -⟩ := hproper.exists_opensWith []
        rw [List.append_nil] at hc
        rw [hc, List.length_cons] at hfuel
        exact .cons hproper hread ht' (ih htail hdepth.2 (by omega) hrest hmid)

end Lexer

/-! ## Whole texts -/

variable {limit : Nat} {text : String}

theorem tokenize_eq_ok {t : Tokenized} : tokenize limit text = .ok t ↔
    ∃ next, Lexer.tokensWith limit text.toList.length limit (.ofString text) = .ok t.tokens next ∧
      t.position = next.position ∧ t.remainder = next.remainder := by
  have hread : Lexer.tokens limit (.ofString text) =
      Lexer.tokensWith limit text.toList.length limit (.ofString text) := rfl
  obtain ⟨tokens, position, remainder⟩ := t
  rw [tokenize, hread]
  cases Lexer.tokensWith limit text.toList.length limit (.ofString text) with
  | error e next => simp
  | ok ts next =>
    simp only [Except.ok.injEq, Tokenized.mk.injEq, Scan.ok.injEq]
    constructor
    · rintro ⟨rfl, rfl, rfl⟩
      exact ⟨next, ⟨rfl, rfl⟩, rfl, rfl⟩
    · rintro ⟨_, ⟨rfl, rfl⟩, rfl, rfl⟩
      exact ⟨rfl, rfl, rfl⟩

theorem tokenize_proper {t : Tokenized} (h : tokenize limit text = .ok t) :
    Token.ProperAll t.tokens := by
  obtain ⟨next, hread, -⟩ := tokenize_eq_ok.1 h
  exact (Lexer.tokensWith_proper hread).1

/-- A text is cut into the tokens that are read from all of it. -/
theorem tokenize_of_readsAll {ts : List Token}
    (h : Lexer.ReadsAll (Lexer.tokensWith limit text.toList.length limit) (.ofString text) ts []) :
    ∃ t, tokenize limit text = .ok t ∧ Token.unplacedAll t.tokens = Token.unplacedAll ts ∧
      t.remainder = "" := by
  obtain ⟨ts', next, hread, hunplaced, hnext⟩ := h
  refine ⟨⟨ts', next.position, next.remainder⟩, tokenize_eq_ok.2 ⟨next, hread, rfl, rfl⟩,
    hunplaced, ?_⟩
  rw [Cursor.remainder, hnext]

/-- A text that proper tokens are written as is cut into these tokens, positions apart. -/
theorem tokenize_charsAll {ts : List Token} (hts : Token.ProperAll ts)
    (hdepth : Token.depthAll ts ≤ limit) (htext : text.toList = Token.charsAll ts) :
    ∃ t, tokenize limit text = .ok t ∧ Token.unplacedAll t.tokens = Token.unplacedAll ts ∧
      t.remainder = "" := by
  have hcur : (Cursor.ofString text).rest = Token.charsAll ts ++ [] := by
    rw [List.append_nil, ← htext]
    rfl
  have hfuel : (Token.charsAll ts).length ≤ text.toList.length := by rw [htext]
  exact tokenize_of_readsAll (Lexer.tokensWith_charsAll limit hts hdepth hfuel (.inl rfl) hcur)

end SearchQuery
