import Mathlib.Tactic.Common
import SearchQuery.Proofs.Text.Escape
import SearchQuery.Proofs.Token.Cut
import SearchQuery.Proofs.Token.Levels
import SearchQuery.Proofs.Token.Placement

/-!
# Where tokens cannot be read

Reading goes from place to place: behind a token that was read, or into a group (`Comes`). It fails
at the first place that has a `Fault` of its own.

* `tokensWith_fuel`: any bound on the tokens will do that is not below the characters left.
* `nextAt_eq_error_iff`: one token is not read for a fault at its place or inside its group.
* `tokenize_eq_error_iff`: a text is not cut into tokens just if reading comes to a fault.
* `tokenize_error_splits`: the error tells where in the text it is and what is left from there.
-/

namespace SearchQuery

namespace Scan

variable {read read' : Cursor → Scan (List Token)} {r : Scan (Option Token)}

/-- What `read` reads behind a token, with the token in front. Without one nothing more is read. -/
def goOn (read : Cursor → Scan (List Token)) : Scan (Option Token) → Scan (List Token)
  | error e next => error e next
  | ok none next | ok (some (.endOfText _)) next => ok [] next
  | ok (some token) next => (read next).map (token :: ·)

theorem goOn_token {t : Token} (ht : ∀ pos, t ≠ .endOfText pos) (next : Cursor) :
    (ok (some t) next).goOn read = (read next).map (t :: ·) := by
  cases t with
  | endOfText pos => exact absurd rfl (ht pos)
  | _ => rfl

theorem goOn_congr (h : ∀ t next, r = .ok (some t) next → (∀ pos, t ≠ .endOfText pos) →
    read next = read' next) : r.goOn read = r.goOn read' := by
  cases r with
  | error e next => rfl
  | ok found next =>
    cases found with
    | none => rfl
    | some t =>
      by_cases hend : ∃ pos, t = .endOfText pos
      · obtain ⟨pos, rfl⟩ := hend
        rfl
      · have ht : ∀ pos, t ≠ .endOfText pos := fun pos h => hend ⟨pos, h⟩
        rw [goOn_token ht, goOn_token ht, h t next rfl ht]

theorem map_eq_error_iff {α β : Type} {f : α → β} {s : Scan α} {e : LexError} {stop : Cursor} :
    s.map f = .error e stop ↔ s = .error e stop := by
  cases s <;> simp [map]

theorem goOn_eq_error_iff {e : LexError} {stop : Cursor} : r.goOn read = .error e stop ↔
    r = .error e stop ∨ ∃ t next, r = .ok (some t) next ∧ (∀ pos, t ≠ .endOfText pos) ∧
      read next = .error e stop := by
  cases r with
  | error e' next => simp [goOn]
  | ok found next =>
    cases found with
    | none => simp [goOn]
    | some t =>
      by_cases hend : ∃ pos, t = .endOfText pos
      · obtain ⟨pos, rfl⟩ := hend
        simp only [goOn, reduceCtorEq, false_or, false_iff]
        rintro ⟨t, mid, ⟨⟩, ht, -⟩
        exact ht pos rfl
      · have ht : ∀ pos, t ≠ .endOfText pos := fun pos h => hend ⟨pos, h⟩
        rw [goOn_token ht, map_eq_error_iff]
        constructor
        · intro h
          exact .inr ⟨t, next, rfl, ht, h⟩
        · rintro (⟨⟨⟩⟩ | ⟨t, mid, ⟨⟩, -, h⟩)
          exact h

end Scan

namespace Lexer

open Text

/-! ## Reading without a bound -/

section Fuel

variable {limit fuel fuel' levels : Nat} {cur : Cursor}

theorem tokensWith_succ_eq_goOn (limit fuel levels : Nat) (cur : Cursor) :
    tokensWith limit (fuel + 1) levels cur =
      (nextWith limit (inside limit fuel levels) cur).goOn (tokensWith limit fuel levels) := by
  rw [tokensWith_succ]
  rfl

/-- What is inside a group is read in one place only. -/
theorem nextWith_congr {contents contents' : Option (Cursor → Scan (List Token))}
    (h : contents.map (· (cur.advance 1)) = contents'.map (· (cur.advance 1))) :
    nextWith limit contents cur = nextWith limit contents' cur := by
  have hgroup : readGroup limit contents cur = readGroup limit contents' cur := by
    cases contents with
    | none =>
      cases contents' with
      | none => rfl
      | some read' => cases h
    | some read =>
      cases contents' with
      | none => cases h
      | some read' =>
        simp only [Option.map_some, Option.some.injEq] at h
        simp only [readGroup, h]
  simp only [nextWith, hgroup]

theorem tokensWith_of_rest_eq_nil (h : cur.rest = []) :
    tokensWith limit fuel levels cur = .ok [] cur := by
  refine tokensWith_of_stops ?_
  rw [h]
  simp [Stops]

/-- Reading is not cut short if there are no fewer steps than characters. -/
theorem tokensWith_fuel (hfuel : cur.rest.length ≤ fuel) (hfuel' : cur.rest.length ≤ fuel') :
    tokensWith limit fuel levels cur = tokensWith limit fuel' levels cur := by
  induction fuel generalizing fuel' levels cur with
  | zero =>
    have hnil := List.length_eq_zero_iff.1 (Nat.le_zero.1 hfuel)
    rw [tokensWith_of_rest_eq_nil hnil, tokensWith_of_rest_eq_nil hnil]
  | succ fuel ih =>
    cases fuel' with
    | zero =>
      have hnil := List.length_eq_zero_iff.1 (Nat.le_zero.1 hfuel')
      rw [tokensWith_of_rest_eq_nil hnil, tokensWith_of_rest_eq_nil hnil]
    | succ fuel' =>
      have hinside : nextWith limit (inside limit fuel levels) cur =
          nextWith limit (inside limit fuel' levels) cur := by
        refine nextWith_congr ?_
        cases levels with
        | zero => rfl
        | succ levels =>
          refine congrArg some (ih ?_ ?_)
          · rw [Cursor.advance_rest, List.length_drop]
            omega
          · rw [Cursor.advance_rest, List.length_drop]
            omega
      rw [tokensWith_succ_eq_goOn, tokensWith_succ_eq_goOn, ← hinside]
      refine Scan.goOn_congr fun t next hnext ht => ?_
      have hlt := (nextWith_eq_ok.1 hnext).length_lt ht inside_length_le
      exact ih (by omega) (by omega)

end Fuel

/-- All tokens from a place on, where `levels` more groups may be inside each other. -/
def tokensAt (limit levels : Nat) (cur : Cursor) : Scan (List Token) :=
  tokensWith limit cur.rest.length levels cur

/-- The reader of what is inside a group, where `levels` more may start. -/
def insideAt (limit : Nat) : Nat → Option (Cursor → Scan (List Token))
  | 0 => none
  | levels + 1 => some (tokensAt limit levels)

/-- The token at a place, where `levels` more groups may be inside each other. -/
def nextAt (limit levels : Nat) (cur : Cursor) : Scan (Option Token) :=
  nextWith limit (insideAt limit levels) cur

variable {limit levels : Nat} {cur : Cursor}

theorem nextWith_inside {fuel : Nat} (hfuel : cur.rest.length ≤ fuel + 1) :
    nextWith limit (inside limit fuel levels) cur = nextAt limit levels cur := by
  refine nextWith_congr ?_
  cases levels with
  | zero => rfl
  | succ levels =>
    refine congrArg some (tokensWith_fuel ?_ (Nat.le_refl _))
    rw [Cursor.advance_rest, List.length_drop]
    omega

theorem next_eq_nextAt (limit : Nat) (cur : Cursor) : next limit cur = nextAt limit limit cur := by
  have hinside : nextWith limit (inside limit cur.rest.length limit) cur = nextAt limit limit cur :=
    nextWith_inside (Nat.le_succ _)
  rw [← hinside]
  cases limit <;> rfl

theorem insideAt_length_le : ∀ read ∈ insideAt limit levels,
    ∀ {ts : List Token} {cur inner : Cursor}, read cur = .ok ts inner →
      inner.rest.length ≤ cur.rest.length := by
  cases levels with
  | zero => simp [insideAt]
  | succ levels =>
    rintro read ⟨⟩ ts cur inner hread
    exact tokensWith_length_le hread

/-- The first token is read, and then all others. -/
theorem tokensAt_eq_goOn (limit levels : Nat) (cur : Cursor) :
    tokensAt limit levels cur = (nextAt limit levels cur).goOn (tokensAt limit levels) := by
  have hfuel : tokensAt limit levels cur = tokensWith limit (cur.rest.length + 1) levels cur :=
    tokensWith_fuel (Nat.le_refl _) (Nat.le_succ _)
  rw [hfuel, tokensWith_succ_eq_goOn, nextWith_inside (Nat.le_succ _)]
  refine Scan.goOn_congr fun t next hnext ht => ?_
  have hlt := (nextWith_eq_ok.1 hnext).length_lt ht insideAt_length_le
  exact tokensWith_fuel (Nat.le_of_lt hlt) (Nat.le_refl _)

/-! ## Faults -/

/-- What is wrong at a place itself, and not inside the group that starts there. -/
inductive Fault (limit levels : Nat) (cur : Cursor) : LexError → Cursor → Prop where
  | quote {cs text : List Char} {used : Nat} (hrest : cur.rest = '"' :: cs)
      (hread : Escape.readQuote cs = .unterminated text used) :
    Fault limit levels cur
      (.unterminatedQuote cur.position (String.ofList text) cur.remainder)
      (cur.advance (used + 1))
  | code {cs : List Char} {start used : Nat} (hrest : cur.rest = '"' :: cs)
      (hread : Escape.readQuote cs = .badCode start used) :
    Fault limit levels cur
      (.invalidEscape (cur.advance (start + 1)).position
        (String.ofList ((cur.advance (start + 1)).rest.take (used - start + 1)))
        (cur.advance (start + 1)).remainder)
      (cur.advance (used + 1))
  | group {below : Nat} {cs : List Char} {ts : List Token} {inner : Cursor}
      (hrest : cur.rest = '(' :: cs) (hlevels : levels = below + 1)
      (hread : tokensAt limit below (cur.advance 1) = .ok ts inner)
      (hclose : inner.rest.head? ≠ some ')') :
    Fault limit levels cur (.unterminatedGroup cur.position ts cur.remainder) inner
  | tooDeep {cs : List Char} (hrest : cur.rest = '(' :: cs) (hlevels : levels = 0) :
    Fault limit levels cur (.tooDeep cur.position limit) cur

section Next

variable {e : LexError} {stop : Cursor} {cs : List Char}

theorem readQuote_eq_error (hrest : cur.rest = '"' :: cs) :
    readQuote cur = .error e stop ↔ Fault limit levels cur e stop := by
  rw [readQuote, hrest, List.tail_cons]
  constructor
  · intro h
    split at h
    · cases h
    · rename_i hread
      cases h
      exact .quote hrest hread
    · rename_i hread
      cases h
      exact .code hrest hread
  · intro h
    cases h with
    | quote hrest' hread =>
      cases hrest.symm.trans hrest'
      simp only [hread]
    | code hrest' hread =>
      cases hrest.symm.trans hrest'
      simp only [hread]
    | group hrest' => cases hrest.symm.trans hrest'
    | tooDeep hrest' => cases hrest.symm.trans hrest'

theorem readGroup_eq_error (hrest : cur.rest = '(' :: cs) :
    readGroup limit (insideAt limit levels) cur = .error e stop ↔
      Fault limit levels cur e stop ∨
        ∃ below, levels = below + 1 ∧ tokensAt limit below (cur.advance 1) = .error e stop := by
  constructor
  · intro h
    cases levels with
    | zero =>
      cases h
      exact .inl (.tooDeep hrest rfl)
    | succ below =>
      simp only [insideAt, readGroup] at h
      split at h
      · rename_i hread
        cases h
        exact .inr ⟨below, rfl, hread⟩
      · rename_i ts inner hread
        split at h
        · cases h
        · rename_i hclose
          cases h
          refine .inl (.group hrest rfl hread ?_)
          intro hhead
          obtain ⟨tail, htail⟩ := List.head?_eq_some_iff.1 hhead
          exact hclose tail htail
  · rintro (h | ⟨below, rfl, h⟩)
    · cases h with
      | quote hrest' => cases hrest.symm.trans hrest'
      | code hrest' => cases hrest.symm.trans hrest'
      | group _ hlevels hread hclose =>
        subst hlevels
        simp only [insideAt, readGroup, hread]
        split
        · rename_i tail htail
          rw [htail] at hclose
          exact absurd rfl hclose
        · rfl
      | tooDeep _ hlevels =>
        subst hlevels
        rfl
    · simp only [insideAt, readGroup, h]

/-- A token is not read for a fault at its place, or inside the group that starts there. -/
theorem nextAt_eq_error_iff : nextAt limit levels cur = .error e stop ↔
    Fault limit levels cur e stop ∨ ∃ below cs, levels = below + 1 ∧ cur.rest = '(' :: cs ∧
      tokensAt limit below (cur.advance 1) = .error e stop := by
  constructor
  · intro h
    unfold nextAt at h
    by_cases hquote : ∃ cs, cur.rest = '"' :: cs
    · obtain ⟨cs, hrest⟩ := hquote
      rw [nextWith_quote hrest, Scan.map_eq_error_iff] at h
      exact .inl ((readQuote_eq_error hrest).1 h)
    by_cases hgroup : ∃ cs, cur.rest = '(' :: cs
    · obtain ⟨cs, hrest⟩ := hgroup
      rw [nextWith_group hrest, Scan.map_eq_error_iff, readGroup_eq_error hrest] at h
      obtain h | ⟨below, hlevels, h⟩ := h
      · exact .inl h
      · exact .inr ⟨below, cs, hlevels, hrest, h⟩
    · -- No other token can fail.
      unfold nextWith at h
      split at h
      · cases h
      · rename_i c cs hrest
        rw [if_neg (show c ≠ '"' by rintro rfl; exact hquote ⟨cs, hrest⟩),
          if_neg (show c ≠ '(' by rintro rfl; exact hgroup ⟨cs, hrest⟩)] at h
        split at h
        · cases h
        · split at h
          · cases h
          · split at h <;> cases h
  · rintro (hfault | ⟨below, cs, rfl, hrest, h⟩)
    · have h := hfault
      cases h with
      | quote hrest | code hrest =>
        rw [nextAt, nextWith_quote hrest, Scan.map_eq_error_iff]
        exact (readQuote_eq_error hrest).2 hfault
      | group hrest | tooDeep hrest =>
        rw [nextAt, nextWith_group hrest, Scan.map_eq_error_iff, readGroup_eq_error hrest]
        exact .inl hfault
    · rw [nextAt, nextWith_group hrest, Scan.map_eq_error_iff, readGroup_eq_error hrest]
      exact .inr ⟨below, rfl, h⟩

end Next

/-! ## Places that reading comes to -/

/-- Reading comes to the place `target`, where `below` more groups may be inside each other. It goes
on behind a token that was read, and into a group. -/
inductive Comes (limit below : Nat) (target : Cursor) : (levels : Nat) → (cur : Cursor) → Prop where
  | here : Comes limit below target below target
  | token {levels : Nat} {cur next : Cursor} {t : Token}
      (hnext : nextAt limit levels cur = .ok (some t) next) (ht : ∀ pos, t ≠ .endOfText pos)
      (h : Comes limit below target levels next) : Comes limit below target levels cur
  | group {levels : Nat} {cur : Cursor} {cs : List Char} (hrest : cur.rest = '(' :: cs)
      (h : Comes limit below target levels (cur.advance 1)) :
    Comes limit below target (levels + 1) cur

section Comes

variable {below : Nat} {target stop : Cursor} {e : LexError}

theorem Comes.le (h : Comes limit below target levels cur) : below ≤ levels := by
  induction h with
  | here => exact Nat.le_refl _
  | token _ _ _ ih => exact ih
  | group _ _ ih => exact Nat.le_succ_of_le ih

/-- Reading passes over the text before the place that it comes to. -/
theorem Comes.placed {before : List Char} (h : Comes limit below target levels cur)
    (hcur : cur.Placed before) :
    ∃ slice, cur.rest = slice ++ target.rest ∧ target.Placed (before ++ slice) := by
  induction h generalizing before with
  | here => exact ⟨[], rfl, by rwa [List.append_nil]⟩
  | @token levels cur next t hnext ht _ ih =>
    have hinside : ∀ read ∈ insideAt limit levels, ReadsTiles read := by
      cases levels with
      | zero => simp [insideAt]
      | succ levels =>
        rintro read ⟨⟩ before cur next ts hread hcur
        exact tokensWith_tiles limit _ levels hread hcur
    obtain ⟨first, -, hfirst, -, hnext⟩ := (nextWith_eq_ok.1 hnext).covers hinside ht hcur
    obtain ⟨slice, hslice, htarget⟩ := ih hnext
    refine ⟨first ++ slice, ?_, by rwa [← List.append_assoc]⟩
    rw [hfirst, hslice, List.append_assoc]
  | @group levels cur cs hrest _ ih =>
    obtain ⟨slice, hslice, htarget⟩ := ih (placed_advance_one hcur hrest (by decide))
    rw [Cursor.advance_rest, hrest, List.drop_one, List.tail_cons] at hslice
    refine ⟨'(' :: slice, ?_, by simpa using htarget⟩
    rw [hrest, hslice, List.cons_append]

/-- Tokens are not read just if reading comes to a fault. -/
theorem tokensAt_eq_error_iff : tokensAt limit levels cur = .error e stop ↔
    ∃ below target, Comes limit below target levels cur ∧ Fault limit below target e stop := by
  constructor
  · intro h
    induction hlength : cur.rest.length using Nat.strongRecOn generalizing levels cur with
    | ind n ih =>
      subst hlength
      rw [tokensAt_eq_goOn, Scan.goOn_eq_error_iff] at h
      obtain h | ⟨t, next, hnext, ht, h⟩ := h
      · obtain hfault | ⟨below, cs, rfl, hrest, h⟩ := nextAt_eq_error_iff.1 h
        · exact ⟨levels, cur, .here, hfault⟩
        · have hlt : (cur.advance 1).rest.length < cur.rest.length := by
            rw [Cursor.advance_rest, hrest]
            simp
          obtain ⟨below, target, hcomes, hfault⟩ := ih _ hlt h rfl
          exact ⟨below, target, .group hrest hcomes, hfault⟩
      · have hlt := (nextWith_eq_ok.1 hnext).length_lt ht insideAt_length_le
        obtain ⟨below, target, hcomes, hfault⟩ := ih _ hlt h rfl
        exact ⟨below, target, .token hnext ht hcomes, hfault⟩
  · rintro ⟨below, target, hcomes, hfault⟩
    induction hcomes with
    | here =>
      rw [tokensAt_eq_goOn, Scan.goOn_eq_error_iff]
      exact .inl (nextAt_eq_error_iff.2 (.inl hfault))
    | token hnext ht _ ih =>
      rw [tokensAt_eq_goOn, Scan.goOn_eq_error_iff]
      exact .inr ⟨_, _, hnext, ht, ih⟩
    | group hrest _ ih =>
      rw [tokensAt_eq_goOn, Scan.goOn_eq_error_iff]
      exact .inl (nextAt_eq_error_iff.2 (.inr ⟨_, _, rfl, hrest, ih⟩))

end Comes

/-- What is read inside a group is read alike of a text of its own. -/
theorem tokenize_of_tokensAt {next : Cursor} {ts : List Token} (hlevels : levels ≤ limit)
    (h : tokensAt limit levels cur = .ok ts next) :
    ∃ t, tokenize limit (String.ofList cur.rest) = .ok t ∧
      Token.unplacedAll t.tokens = Token.unplacedAll ts ∧ t.remainder.toList = next.rest := by
  have hraised := tokensWith_raised limit limit cur.rest.length hlevels cur
  have hread : tokensWith limit cur.rest.length limit cur = .ok ts next := by
    unfold tokensAt at h
    rw [h] at hraised
    obtain ⟨pos, n, mid, hdeep⟩ | hsame := hraised
    · cases hdeep
    · exact hsame
  have hrest : cur.rest = (Cursor.ofString (String.ofList cur.rest)).rest :=
    String.toList_ofList.symm
  have halike := tokensWith_alike limit cur.rest.length limit hrest
  rw [hread] at halike
  generalize hstart : tokensWith limit cur.rest.length limit
    (.ofString (String.ofList cur.rest)) = r at halike
  cases halike with
  | @ok _ ts' _ next' hts hnext =>
    refine ⟨⟨ts', next'.position, next'.remainder⟩, tokenize_eq_ok.2 ⟨next', ?_, rfl, rfl⟩,
      hts.symm, ?_⟩
    · rw [String.toList_ofList]
      exact hstart
    · rw [Cursor.remainder, String.toList_ofList, hnext]

end Lexer

/-! ## Whole texts -/

variable {limit : Nat} {text : String} {e : LexError}

open Lexer

/-- **Faults.** A text is not cut into tokens just if reading comes to a fault, and this is the
error. -/
theorem tokenize_eq_error_iff : tokenize limit text = .error e ↔
    ∃ levels cur stop, Comes limit levels cur limit (.ofString text) ∧
      Fault limit levels cur e stop := by
  have hread : tokens limit (.ofString text) = tokensAt limit limit (.ofString text) := rfl
  have hiff {stop : Cursor} : tokens limit (.ofString text) = .error e stop ↔
      ∃ levels cur, Comes limit levels cur limit (.ofString text) ∧
        Fault limit levels cur e stop := by
    rw [hread, tokensAt_eq_error_iff]
  constructor
  · intro h
    unfold tokenize at h
    split at h
    · rename_i e' stop herror
      cases h
      obtain ⟨levels, cur, hcomes, hfault⟩ := hiff.1 herror
      exact ⟨levels, cur, stop, hcomes, hfault⟩
    · cases h
  · rintro ⟨levels, cur, stop, hcomes, hfault⟩
    simp only [tokenize, hiff.2 ⟨levels, cur, hcomes, hfault⟩]

/-- What the error tells of the text `rest` that is left at its place. -/
def LexError.Describes (limit : Nat) (rest : List Char) : LexError → Prop
  | unterminatedQuote _ _ remainder => remainder.toList = rest ∧ ['"'] <+: rest
  | invalidEscape _ escape remainder =>
    remainder.toList = rest ∧ ['\\', 'u'] <+: rest ∧ escape.toList <+: rest
  | unterminatedGroup _ contents remainder =>
    remainder.toList = rest ∧ ∃ inner, rest = '(' :: inner ∧
      ∃ t, tokenize limit (String.ofList inner) = .ok t ∧
        Token.unplacedAll t.tokens = Token.unplacedAll contents ∧
        t.remainder.toList.head? ≠ some ')'
  | tooDeep _ levels => levels = limit ∧ ['('] <+: rest

/-- The place of a fault is that of its error, and the error describes what is left there. -/
theorem Lexer.Fault.describes {levels : Nat} {cur stop : Cursor} {before : List Char}
    (h : Fault limit levels cur e stop) (hlevels : levels ≤ limit) (hcur : cur.Placed before) :
    ∃ slice rest, cur.rest = slice ++ rest ∧ e.position = .atEndOf (before ++ slice) ∧
      e.Describes limit rest := by
  have hhere : cur.position = .atEndOf (before ++ []) := by
    rw [List.append_nil]
    exact hcur.position
  have hremainder : cur.remainder.toList = cur.rest := String.toList_ofList
  cases h with
  | @quote cs _ _ hrest =>
    refine ⟨[], cur.rest, rfl, hhere, hremainder, ?_⟩
    rw [hrest]
    exact List.prefix_append ['"'] cs
  | @code cs start used hrest hread =>
    obtain ⟨inner, s, tail, rfl, -, -, rfl, -⟩ := Text.Escape.readQuote_eq_badCode_iff.1 hread
    have hpass : cur.rest = '"' :: inner ++ '\\' :: 'u' :: tail := hrest
    have hplaced := hcur.advance hpass (by simp [Text.SplitsBreak])
    have hleft : (cur.advance (inner.length + 1)).rest = '\\' :: 'u' :: tail := by
      rw [Cursor.advance_rest, hpass, ← List.length_cons, List.drop_left]
    refine ⟨'"' :: inner, '\\' :: 'u' :: tail, hpass, hplaced.position, ?_, ?_, ?_⟩
    · rw [Cursor.remainder, String.toList_ofList, hleft]
    · exact List.prefix_append ['\\', 'u'] tail
    · rw [String.toList_ofList, hleft]
      exact List.take_prefix _ _
  | @group below cs ts inner hrest hbelow hread hclose =>
    have hopen : (cur.advance 1).rest = cs := by
      rw [Cursor.advance_rest, hrest, List.drop_one, List.tail_cons]
    obtain ⟨t, ht, htokens, hend⟩ := tokenize_of_tokensAt (by omega) hread
    rw [hopen] at ht
    rw [← hend] at hclose
    exact ⟨[], cur.rest, rfl, hhere, hremainder, cs, hrest, t, ht, htokens, hclose⟩
  | @tooDeep cs hrest =>
    refine ⟨[], cur.rest, rfl, hhere, rfl, ?_⟩
    rw [hrest]
    exact List.prefix_append ['('] cs

/-- **Errors tell what is left.** Where a text is not cut into tokens, the error is at the line and
column that the text before it tells, and it describes the text from there on. A quote without its
end, an escape that names no character and a group without its end keep all of that text, which
starts with them; of the escape what was read, and of the group the tokens that its inside is cut
into, up to what is no closing parenthesis. A group that is too deep starts there. -/
theorem tokenize_error_splits (h : tokenize limit text = .error e) :
    ∃ before rest, text.toList = before ++ rest ∧ e.position = .atEndOf before ∧
      e.Describes limit rest := by
  obtain ⟨levels, cur, stop, hcomes, hfault⟩ := tokenize_eq_error_iff.1 h
  obtain ⟨slice, hslice, hplaced⟩ := hcomes.placed (Cursor.placed_ofString text)
  obtain ⟨passed, rest, hpassed, hposition, hdescribes⟩ := hfault.describes hcomes.le hplaced
  refine ⟨slice ++ passed, rest, ?_, hposition, hdescribes⟩
  have htext : text.toList = slice ++ cur.rest := hslice
  rw [htext, hpassed, List.append_assoc]

/-- The inner of two groups is not closed, on the second line; in a group, a quote has an escape
without digits on its second line. -/
theorem tokenize_error_splits_lines :
    let group : LexError := .unterminatedGroup ⟨2, 4⟩ [.word ⟨2, 5⟩ "y", .space ⟨2, 6⟩ " "] "(y "
    let escape : LexError := .invalidEscape ⟨2, 2⟩ "\\u\"" "\\u\")"
    (tokenize 4 "a:\r\n(x (y " = .error group ∧
      ∃ before rest, "a:\r\n(x (y ".toList = before ++ rest ∧
        group.position = .atEndOf before ∧ group.Describes 4 rest) ∧
    tokenize 4 "(\"b\n.\\u\")" = .error escape ∧
      ∃ before rest, "(\"b\n.\\u\")".toList = before ++ rest ∧
        escape.position = .atEndOf before ∧ escape.Describes 4 rest := by
  intro group escape
  have hgroup : tokenize 4 "a:\r\n(x (y " = .error group := by
    cbv
  have hescape : tokenize 4 "(\"b\n.\\u\")" = .error escape := by
    cbv
  exact ⟨⟨hgroup, tokenize_error_splits hgroup⟩, hescape, tokenize_error_splits hescape⟩

end SearchQuery
