import Mathlib
import SearchQuery.Proofs.Token.Lexing
import SearchQuery.Proofs.Token.Line

/-!
# Tokens tile their text

Tokens are cut out of a text side by side: each is read of characters of its own, the contents of a
group of those between its parentheses, and what no token is read of is the remainder.

* `Reads.covers`: what one token is read of, and where the cursor is placed after it.
* `tokensWith_tiles`: the same of a run of tokens.
* `tokenize_tiles`: the tokens of a text tile it up to the remainder, each at its position.
-/

namespace SearchQuery

namespace Token

mutual

/-- The token is read of the characters `slice`, which stand after the text `before`, and it is
placed where they start. -/
inductive Covers : (before : List Char) → Token → (slice : List Char) → Prop where
  | space {before slice : List Char} :
    Covers before (.space (.atEndOf before) (String.ofList slice)) slice
  | word {before slice : List Char} :
    Covers before (.word (.atEndOf before) (String.ofList slice)) slice
  | quote {before inner : List Char} {text : String} :
    Covers before (.quote (.atEndOf before) text) ('"' :: (inner ++ ['"']))
  | sign {before : List Char} {s : Sign} :
    Covers before (.sign (.atEndOf before) s) s.symbol.toList
  | group {before inner : List Char} {ts : List Token} (h : Tiles (before ++ ['(']) ts inner) :
    Covers before (.group (.atEndOf before) ts) ('(' :: (inner ++ [')']))

/-- The tokens are read of consecutive parts of the characters `slice`, which stand after the text
`before`, and of all of them. No part is empty. -/
inductive Tiles : (before : List Char) → List Token → (slice : List Char) → Prop where
  | nil {before : List Char} : Tiles before [] []
  | cons {before first rest : List Char} {t : Token} {ts : List Token} (h : Covers before t first)
    (hne : first ≠ []) (hs : Tiles (before ++ first) ts rest) :
    Tiles before (t :: ts) (first ++ rest)

end

end Token

namespace Lexer

open Text

variable {before : List Char}

/-! ## One token -/

/-- The tokens that are read tile what the cursor passes, and the next cursor is placed. -/
def ReadsTiles (read : Cursor → Scan (List Token)) : Prop :=
  ∀ {before : List Char} {cur next : Cursor} {ts : List Token}, read cur = .ok ts next →
    cur.Placed before → ∃ slice, cur.rest = slice ++ next.rest ∧ Token.Tiles before ts slice ∧
      next.Placed (before ++ slice)

theorem not_splitsBreak_of_getLast? {text rest : List Char} {c : Char}
    (h : text.getLast? = some c) (hc : c ≠ '\r') : ¬ SplitsBreak text rest := by
  rintro ⟨hlast, -⟩
  rw [h, Option.some.injEq] at hlast
  exact hc hlast

theorem placed_advance_one {cur : Cursor} {before rest : List Char} {c : Char}
    (hcur : cur.Placed before) (hrest : cur.rest = c :: rest) (hc : c ≠ '\r') :
    (cur.advance 1).Placed (before ++ [c]) := by
  have hwhole : ¬ SplitsBreak [c] rest := not_splitsBreak_of_getLast? rfl hc
  exact hcur.advance hrest hwhole

theorem getLast?_symbol_ne (s : Sign) : s.symbol.toList.getLast? ≠ some '\r' := by
  cases s with
  | compare op => cases op <;> decide
  | _ => decide

theorem symbol_ne_nil (s : Sign) : s.symbol.toList ≠ [] := by
  cases s with
  | compare op => cases op <;> decide
  | _ => decide

section Reads

variable {cur next : Cursor} {t : Token} {slice rest : List Char}

/-- A token of characters that the cursor stands before, once the cursor has passed them. -/
theorem exists_covers (hcur : cur.Placed before) (hrest : cur.rest = slice ++ rest)
    (hne : slice ≠ []) (hwhole : ¬ SplitsBreak slice rest) (h : Token.Covers before t slice) :
    ∃ slice', slice' ≠ [] ∧ cur.rest = slice' ++ (cur.advance slice.length).rest ∧
      Token.Covers before t slice' ∧ (cur.advance slice.length).Placed (before ++ slice') := by
  refine ⟨slice, hne, ?_, h, hcur.advance hrest hwhole⟩
  rw [Cursor.advance_rest, hrest, List.drop_left]

/-- A token is read of the characters that the cursor passes. No token ends inside a line break. -/
theorem Reads.covers {contents : Option (Cursor → Scan (List Token))}
    (hcontents : ∀ read ∈ contents, ReadsTiles read) (h : Reads contents cur t next)
    (hend : ∀ pos, t ≠ .endOfText pos) (hcur : cur.Placed before) :
    ∃ slice, slice ≠ [] ∧ cur.rest = slice ++ next.rest ∧ Token.Covers before t slice ∧
      next.Placed (before ++ slice) := by
  have hposition := hcur.position
  cases h with
  | endOfText => exact absurd rfl (hend _)
  | @space c cs hrest hblank =>
    have hslice : cur.rest = cur.rest.takeWhile isBlank ++
        cur.rest.drop (cur.rest.takeWhile isBlank).length :=
      (List.prefix_iff_eq_append.1 (List.takeWhile_prefix _)).symm
    have hne : cur.rest.takeWhile isBlank ≠ [] := by simp [hrest, hblank]
    refine exists_covers hcur hslice hne ?_ (by rw [hposition]; exact .space)
    -- A line feed would be blank as well.
    rintro ⟨-, hfeed⟩
    cases head?_drop_takeWhile (p := isBlank) cur.rest '\n' hfeed
  | word hword =>
    have hslice := (leadingWord_append_drop cur.rest).symm
    refine exists_covers hcur hslice hword ?_ (by rw [hposition]; exact .word)
    -- No word character is a carriage return.
    rintro ⟨hreturn, -⟩
    obtain ⟨hchars, -⟩ := leadingWord_append_eq_left.1 (congrArg leadingWord hslice.symm)
    cases hchars '\r' (List.mem_of_getLast? hreturn)
  | @quote cs text used hrest hread =>
    obtain ⟨inner, rest, rfl, -, rfl⟩ := Escape.readQuote_eq_closed_iff.1 hread
    have hslice : cur.rest = '"' :: (inner ++ ['"']) ++ rest := by simp [hrest]
    have hlength : inner.length + 1 + 1 = ('"' :: (inner ++ ['"'])).length := by simp
    have hlast : ('"' :: (inner ++ ['"'])).getLast? = some '"' := by
      rw [← List.cons_append, List.getLast?_concat]
    rw [hlength]
    exact exists_covers hcur hslice (by simp) (not_splitsBreak_of_getLast? hlast (by decide))
      (by rw [hposition]; exact .quote)
  | @sign s hs =>
    have hslice := (Token.sign?_eq_some hs).symm
    exact exists_covers hcur hslice (symbol_ne_nil s) (fun hsplit => getLast?_symbol_ne s hsplit.1)
      (by rw [hposition]; exact .sign)
  | @group read cs rest ts inner hrest hread hts hclose =>
    have hopen : (cur.advance 1).Placed (before ++ ['(']) :=
      placed_advance_one hcur hrest (by decide)
    obtain ⟨slice, hslice, htiles, hinner⟩ := hcontents read hread hts hopen
    have hnext : (inner.advance 1).Placed (before ++ ['('] ++ slice ++ [')']) :=
      placed_advance_one hinner hclose (by decide)
    refine ⟨'(' :: (slice ++ [')']), by simp, ?_, ?_, by simpa using hnext⟩
    · rw [Cursor.advance_rest, hrest, List.drop_one, List.tail_cons] at hslice
      rw [hrest, hslice, hclose, Cursor.advance_rest, hclose]
      simp
    · rw [hposition]
      exact .group htiles

end Reads

/-! ## All tokens -/

/-- Tokens tile what is read of a text, whatever it goes on with. -/
theorem tokensWith_tiles (limit fuel levels : Nat) : ReadsTiles (tokensWith limit fuel levels) := by
  induction fuel generalizing levels with
  | zero =>
    intro before cur next ts h hcur
    cases h
    exact ⟨[], rfl, .nil, by rwa [List.append_nil]⟩
  | succ fuel ih =>
    intro before cur next ts h hcur
    have hstop (hnext : next = cur) (hts : ts = []) : ∃ slice, cur.rest = slice ++ next.rest ∧
        Token.Tiles before ts slice ∧ next.Placed (before ++ slice) := by
      subst hnext hts
      exact ⟨[], rfl, .nil, by rwa [List.append_nil]⟩
    rw [tokensWith_succ] at h
    split at h
    · cases h
    · rename_i hnone
      cases h
      exact hstop (nextWith_eq_none hnone) rfl
    · rename_i hread
      cases h
      cases nextWith_eq_ok.1 hread with
      | endOfText => exact hstop rfl rfl
    · rename_i t mid hend hread
      obtain ⟨ts, hts, rfl⟩ := Scan.map_eq_ok.1 h
      have hcontents : ∀ read ∈ inside limit fuel levels, ReadsTiles read := by
        cases levels with
        | zero => simp [inside]
        | succ levels =>
          rintro read ⟨⟩
          exact ih levels
      obtain ⟨first, hne, hfirst, hcovers, hmid⟩ :=
        (nextWith_eq_ok.1 hread).covers hcontents hend hcur
      obtain ⟨rest, hrest, htiles, hnext⟩ := ih levels hts hmid
      refine ⟨first ++ rest, ?_, .cons hcovers hne htiles, by rwa [← List.append_assoc]⟩
      rw [hfirst, hrest, List.append_assoc]

end Lexer

/-! ## Whole texts -/

variable {limit : Nat} {text : String} {t : Tokenized}

/-- **Tiling.** The tokens of a text tile it up to the remainder. Each token at any depth, and the
remainder, is at the line and column that the text before it tells. -/
theorem tokenize_tiles (h : tokenize limit text = .ok t) :
    ∃ slice, text.toList = slice ++ t.remainder.toList ∧ Token.Tiles [] t.tokens slice ∧
      t.position = .atEndOf slice := by
  obtain ⟨next, hread, hposition, hremainder⟩ := tokenize_eq_ok.1 h
  obtain ⟨slice, hslice, htiles, hnext⟩ :=
    Lexer.tokensWith_tiles limit _ limit hread (Cursor.placed_ofString text)
  refine ⟨slice, ?_, htiles, ?_⟩
  · rw [hremainder, Cursor.remainder, String.toList_ofList]
    exact hslice
  · rw [hposition, hnext.position, List.nil_append]

/-- Line breaks of two characters and of one, in a quote, between tokens and in a group. -/
theorem tokenize_tiles_lines :
    let tokens : List Token :=
      [.word ⟨1, 1⟩ "a", .space ⟨1, 2⟩ " ", .quote ⟨1, 3⟩ "b\r\n", .space ⟨2, 2⟩ "\r\n",
        .group ⟨3, 1⟩ [.word ⟨3, 2⟩ "c", .space ⟨3, 3⟩ "\r", .sign ⟨4, 1⟩ (.compare .gte),
          .word ⟨4, 3⟩ "d"]]
    tokenize 1 "a \"b\r\n\"\r\n(c\r>=d)) e" = .ok ⟨tokens, ⟨4, 5⟩, ") e"⟩ ∧
      ∃ slice, "a \"b\r\n\"\r\n(c\r>=d)) e".toList = slice ++ ") e".toList ∧
        Token.Tiles [] tokens slice ∧ ⟨4, 5⟩ = Position.atEndOf slice := by
  intro tokens
  have htokens : tokenize 1 "a \"b\r\n\"\r\n(c\r>=d)) e" = .ok ⟨tokens, ⟨4, 5⟩, ") e"⟩ := by
    cbv
  exact ⟨htokens, tokenize_tiles htokens⟩

end SearchQuery
