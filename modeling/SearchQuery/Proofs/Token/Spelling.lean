import Mathlib.Data.List.Basic
import Mathlib.Tactic.Common
import SearchQuery.Proofs.Text.Word
import SearchQuery.Token.Lexer

/-!
# Spelled tokens

How tokens are written (`chars`), and when tokens that are written next to each other are read as
the same tokens again.

* `splits` says so of two tokens by their sorts: two words would run into one, a dot before `..`
  would be taken for half of it, and `!` before `~` is another sign.
* `ProperAll` asks it of all neighbours in a sequence, at every level, and of each token that its
  text is one of its sort.
* `endsBefore` and `startsText` say the same of a token and the text after it:
  `endsBefore_of_splits` and `splits_of_endsBefore` go from tokens to text and back.
-/

namespace SearchQuery

/-- Whether two signs, one written right before the other, are read as these two. -/
def Sign.splits : Sign → Sign → Bool
  | .compare .gt, .compare .eq | .compare .lt, .compare .eq | .compare .neq, .compare .fuzz => false
  | _, _ => true

theorem Sign.splits_eq_false {s t : Sign} (h : s.splits t = false) :
    (s = .compare .gt ∨ s = .compare .lt) ∧ t = .compare .eq ∨
      s = .compare .neq ∧ t = .compare .fuzz := by
  unfold Sign.splits at h
  split at h <;> simp_all

/-- Where tokens end: nothing is left of the text, or of the group. -/
abbrev AtEnd (rest : List Char) : Prop := rest = [] ∨ ∃ cs, rest = ')' :: cs

namespace Token

open Text

mutual

/-- The token with every position moved to the start of the text. -/
def unplaced : Token → Token
  | endOfText _ => endOfText .start
  | space _ text => space .start text
  | word _ text => word .start text
  | quote _ text => quote .start text
  | sign _ s => sign .start s
  | group _ contents => group .start (unplacedAll contents)

/-- The tokens with every position moved to the start of the text. -/
def unplacedAll : List Token → List Token
  | [] => []
  | token :: tokens => token.unplaced :: unplacedAll tokens

end

mutual

/-- The token as it is written, quotes with the fewest escapes. -/
def chars : Token → List Char
  | endOfText _ => []
  | space _ text | word _ text => text.toList
  | quote _ text => (Escape.quote text).toList
  | sign _ s => s.symbol.toList
  | group _ contents => '(' :: (charsAll contents ++ [')'])

/-- Tokens as they are written next to each other. -/
def charsAll : List Token → List Char
  | [] => []
  | token :: tokens => token.chars ++ charsAll tokens

end

mutual

/-- How many groups are inside each other in the token, itself included. -/
def depth : Token → Nat
  | group _ contents => depthAll contents + 1
  | _ => 0

/-- How many groups are inside each other in the tokens. -/
def depthAll : List Token → Nat
  | [] => 0
  | token :: tokens => max token.depth (depthAll tokens)

end

/-- Whether two tokens, one written right before the other, are read as these two. -/
def splits : Token → Token → Bool
  | space _ _, space _ _ => false
  | word _ _, word _ _ => false
  | word _ text, sign _ .dots => text.toList.getLast? ≠ some '.'
  | sign _ s, sign _ t => s.splits t
  | _, _ => true

mutual

/-- The token is written in a way of its sort, and so is all that is inside it. -/
def Proper : Token → Prop
  | endOfText _ => False
  | space _ text => text.toList ≠ [] ∧ ∀ c ∈ text.toList, isBlank c
  | word _ text =>
    text.toList ≠ [] ∧ (∀ c ∈ text.toList, isWordChar c) ∧
      hasRangeSign text.toList = false
  | quote _ _ => True
  | sign _ _ => True
  | group _ contents => ProperAll contents

/-- The tokens are written in ways of their sorts and do not run into each other. -/
def ProperAll : List Token → Prop
  | [] => True
  | token :: tokens => token.Proper ∧ (∀ next ∈ tokens.head?, token.splits next) ∧ ProperAll tokens

end

/-- The text `rest` does not go on with a token that stands before it. -/
def endsBefore : Token → List Char → Prop
  | space _ _, rest => ∀ c ∈ rest.head?, isBlank c = false
  | word _ text, rest =>
    leadingWord rest = [] ∧ (text.toList.getLast? = some '.' → rest.head? ≠ some '.')
  | sign _ s, rest => Lexer.sign? (s.symbol.toList ++ rest) = some s
  | _, _ => True

/-- A text at whose front a token of its sort stands. -/
def startsText : Token → List Char → Prop
  | space _ _, text => ∃ c ∈ text.head?, isBlank c
  | word _ _, text => leadingWord text ≠ []
  | sign _ s, text => Lexer.sign? text = some s
  | _, _ => True

theorem splits_space {t : Token} (h : t.isSpace = false) (pos : Position) (text : String) :
    t.splits (space pos text) := by
  cases t <;> first | rfl | cases h

theorem space_splits {t : Token} (h : t.isSpace = false) (pos : Position) (text : String) :
    (space pos text).splits t := by
  cases t <;> first | rfl | cases h

/-- Only comparison signs run into what follows them. -/
theorem sign_splits {s : Sign} (h : ∀ op, s ≠ .compare op) (pos : Position) (t : Token) :
    (sign pos s).splits t := by
  cases s with
  | compare op => exact absurd rfl (h op)
  | _ => cases t <;> rfl

/-- No token runs into a colon or a comma. -/
theorem splits_sign {s : Sign} (h : s = .colon ∨ s = .comma) (t : Token) (pos : Position) :
    t.splits (sign pos s) := by
  rcases h with rfl | rfl <;> cases t with
  | sign pos' s' =>
    cases s' with
    | compare op => cases op <;> rfl
    | _ => rfl
  | _ => rfl

/-! ## Sequences -/

theorem unplacedAll_eq_map (tokens : List Token) : unplacedAll tokens = tokens.map unplaced := by
  induction tokens with
  | nil => rfl
  | cons token tokens ih => rw [unplacedAll, ih, List.map_cons]

mutual

theorem chars_unplaced : (t : Token) → t.unplaced.chars = t.chars
  | group _ contents => by rw [unplaced, chars, chars, charsAll_unplacedAll contents]
  | endOfText _ | space _ _ | word _ _ | quote _ _ | sign _ _ => rfl

theorem charsAll_unplacedAll : (tokens : List Token) → charsAll (unplacedAll tokens) = charsAll tokens
  | [] => rfl
  | t :: tokens => by
    rw [unplacedAll, charsAll, charsAll, chars_unplaced t, charsAll_unplacedAll tokens]

end

@[simp] theorem charsAll_append (xs ys : List Token) :
    charsAll (xs ++ ys) = charsAll xs ++ charsAll ys := by
  induction xs with
  | nil => rfl
  | cons x xs ih => simp [charsAll, ih]

@[simp] theorem depthAll_append (xs ys : List Token) :
    depthAll (xs ++ ys) = max (depthAll xs) (depthAll ys) := by
  induction xs with
  | nil => simp [depthAll]
  | cons x xs ih => simp [depthAll, ih, Nat.max_assoc]

theorem properAll_append {xs ys : List Token} :
    ProperAll (xs ++ ys) ↔
      ProperAll xs ∧ ProperAll ys ∧ ∀ x ∈ xs.getLast?, ∀ y ∈ ys.head?, x.splits y := by
  induction xs with
  | nil => simp [ProperAll]
  | cons x xs ih =>
    rw [List.cons_append, ProperAll, ProperAll, ih]
    cases xs with
    | nil =>
      simp only [List.nil_append, List.head?_nil, List.getLast?_singleton, Option.mem_def,
        Option.some.injEq, forall_eq', reduceCtorEq, List.getLast?_nil, ProperAll]
      tauto
    | cons z zs =>
      simp only [List.cons_append, List.head?_cons, List.getLast?_cons_cons]
      tauto

/-! ## Signs -/

/-- What `sign?` finds stands at the front of the text, and stands apart from what follows. -/
theorem sign?_eq_some {text : List Char} {s : Sign} (h : Lexer.sign? text = some s) :
    s.symbol.toList ++ text.drop s.symbol.length = text := by
  unfold Lexer.sign? at h
  split at h <;> first | cases h; rfl | cases h

@[simp] theorem chars_quote (pos : Position) (text : String) :
    (quote pos text).chars = '"' :: (text.toList.flatMap Escape.encodeChar ++ ['"']) := by
  simp [chars, Escape.quote, Escape.encode]

/-- A character that tokens of the same sort start with. -/
def OpensWith : Token → Char → Prop
  | endOfText _, _ => False
  | space _ _, c => isBlank c
  | word _ _, c => isWordChar c
  | quote _ _, c => c = '"'
  | sign _ s, c => s.symbol.toList.head? = some c
  | group _ _, c => c = '('

theorem Proper.exists_opensWith {t : Token} (h : t.Proper) (rest : List Char) :
    ∃ c cs, t.chars ++ rest = c :: cs ∧ t.OpensWith c := by
  cases t with
  | endOfText pos => exact absurd h id
  | space pos text =>
    obtain ⟨c, cs, hc⟩ := List.exists_cons_of_ne_nil h.1
    exact ⟨c, cs ++ rest, by rw [chars, hc, List.cons_append], h.2 c (by simp [hc])⟩
  | word pos text =>
    obtain ⟨c, cs, hc⟩ := List.exists_cons_of_ne_nil h.1
    exact ⟨c, cs ++ rest, by rw [chars, hc, List.cons_append], h.2.1 c (by simp [hc])⟩
  | quote pos text => exact ⟨'"', _, by rw [chars_quote, List.cons_append], rfl⟩
  | sign pos s => cases s with
    | compare op => cases op <;> exact ⟨_, _, rfl, rfl⟩
    | _ => exact ⟨_, _, rfl, rfl⟩
  | group pos contents => exact ⟨'(', _, rfl, rfl⟩

theorem Proper.ne_endOfText {t t' : Token} (ht : t.Proper) (h : t'.unplaced = t.unplaced)
    (pos : Position) : t' ≠ endOfText pos := by
  rintro rfl
  cases t <;> first | exact ht | cases h

namespace OpensWith

variable {t : Token} {c : Char}

/-- Only a word or `..` starts with a word character. -/
theorem not_isWordChar (h : t.OpensWith c) (hword : ∀ pos text, t ≠ word pos text)
    (hdots : ∀ pos, t ≠ sign pos .dots) : isWordChar c = false := by
  cases t with
  | endOfText pos => exact absurd h id
  | space pos text =>
    by_contra hw
    simp [OpensWith, isBlank_eq_false_of_isWordChar (by simpa using hw)] at h
  | word pos text => exact absurd rfl (hword pos text)
  | quote pos text => cases h; decide
  | sign pos s => cases s with
    | compare op => cases op <;> cases h <;> decide
    | dots => exact absurd rfl (hdots pos)
    | _ => cases h; decide
  | group pos contents => cases h; decide

/-- Only a space starts with a blank. -/
theorem not_isBlank (h : t.OpensWith c) (hspace : ∀ pos text, t ≠ space pos text) :
    isBlank c = false := by
  cases t with
  | endOfText pos => exact absurd h id
  | space pos text => exact absurd rfl (hspace pos text)
  | word pos text => exact isBlank_eq_false_of_isWordChar h
  | quote pos text => cases h; decide
  | sign pos s => cases s with
    | compare op => cases op <;> cases h <;> decide
    | _ => cases h; decide
  | group pos contents => cases h; decide

/-- No sign but `=` itself starts with that character. -/
theorem eq_equals (h : t.OpensWith '=') : ∃ pos, t = sign pos (.compare .eq) := by
  cases t with
  | sign pos s => cases s with
    | compare op => cases op <;> first | exact ⟨pos, rfl⟩ | cases h
    | _ => cases h
  | _ => exact absurd h (by simp [OpensWith] <;> decide)

/-- No sign but `~` itself starts with that character. -/
theorem eq_tilde (h : t.OpensWith '~') : ∃ pos, t = sign pos (.compare .fuzz) := by
  cases t with
  | sign pos s => cases s with
    | compare op => cases op <;> first | exact ⟨pos, rfl⟩ | cases h
    | _ => cases h
  | _ => exact absurd h (by simp [OpensWith] <;> decide)

end OpensWith

/-- Two signs run into each other only before `=` or `~`. -/
theorem sign?_symbol_append {s : Sign} {rest : List Char} :
    Lexer.sign? (s.symbol.toList ++ rest) = some s ↔
      (s = .compare .gt ∨ s = .compare .lt → rest.head? ≠ some '=') ∧
        (s = .compare .neq → rest.head? ≠ some '~') := by
  constructor
  · intro h
    constructor
    · rintro hs hr
      obtain ⟨tail, rfl⟩ := List.head?_eq_some_iff.1 hr
      rcases hs with rfl | rfl <;> cases h
    · rintro rfl hr
      obtain ⟨tail, rfl⟩ := List.head?_eq_some_iff.1 hr
      cases h
  · rintro ⟨hequals, htilde⟩
    cases s with
    | compare op =>
      cases op with
      | gt =>
        change Lexer.sign? ('>' :: rest) = _
        rw [Lexer.sign?]
        rintro tail rfl
        exact hequals (.inl rfl) rfl
      | lt =>
        change Lexer.sign? ('<' :: rest) = _
        rw [Lexer.sign?]
        rintro tail rfl
        exact hequals (.inr rfl) rfl
      | neq =>
        change Lexer.sign? ('!' :: rest) = _
        rw [Lexer.sign?]
        rintro tail rfl
        exact htilde rfl rfl
      | _ => rfl
    | _ => rfl

/-- What comes after a token in a proper sequence does not go on with it. -/
theorem endsBefore_of_splits {t u : Token} (h : t.splits u) (hu : u.Proper) (rest : List Char) :
    t.endsBefore (u.chars ++ rest) := by
  obtain ⟨c, cs, hchars, hopens⟩ := hu.exists_opensWith rest
  cases t with
  | endOfText pos => trivial
  | space pos text =>
    have hspace : ∀ pos' text', u ≠ space pos' text' := by
      rintro pos' text' rfl
      cases h
    rw [hchars]
    rintro _ ⟨⟩
    exact hopens.not_isBlank hspace
  | word pos text =>
    have hword : ∀ pos' text', u ≠ word pos' text' := by
      rintro pos' text' rfl
      cases h
    by_cases hdots : ∃ pos', u = sign pos' .dots
    · obtain ⟨pos', rfl⟩ := hdots
      have hlast : text.toList.getLast? ≠ some '.' := by simpa [splits] using h
      exact ⟨rfl, fun hl => absurd hl hlast⟩
    · have hc := hopens.not_isWordChar hword (fun pos' hu => hdots ⟨pos', hu⟩)
      rw [hchars]
      refine ⟨leadingWord_cons_of_not_isWordChar hc cs, ?_⟩
      rintro - ⟨⟩
      exact absurd hc (by decide)
  | quote pos text => trivial
  | sign pos s =>
    rw [endsBefore, sign?_symbol_append, hchars]
    constructor
    · rintro hs ⟨⟩
      obtain ⟨pos', rfl⟩ := hopens.eq_equals
      rcases hs with rfl | rfl <;> cases h
    · rintro rfl ⟨⟩
      obtain ⟨pos', rfl⟩ := hopens.eq_tilde
      cases h
  | group pos contents => trivial

/-- Neither the end of a text nor that of a group goes on with a token. -/
theorem endsBefore_end (t : Token) {rest : List Char} (h : AtEnd rest) : t.endsBefore rest := by
  have hword : leadingWord rest = [] := by
    obtain rfl | ⟨cs, rfl⟩ := h
    · rfl
    · exact leadingWord_cons_of_not_isWordChar (by decide) cs
  have hhead : ∀ c ∈ rest.head?, c = ')' := by
    obtain rfl | ⟨cs, rfl⟩ := h <;> simp
  have hne : ∀ c, c ≠ ')' → rest.head? ≠ some c := fun c hc hr => hc (hhead c hr)
  cases t with
  | space pos text =>
    intro c hc
    rw [hhead c hc]
    decide
  | word pos text => exact ⟨hword, fun _ => hne _ (by decide)⟩
  | sign pos s =>
    rw [endsBefore, sign?_symbol_append]
    exact ⟨fun _ => hne _ (by decide), fun _ => hne _ (by decide)⟩
  | _ => trivial

/-- A token is apart from `..` if it does not end in a dot. -/
theorem Proper.splits_dots_iff {t : Token} (ht : t.Proper) (hdots : ∀ pos, t ≠ sign pos .dots)
    (pos : Position) : t.splits (sign pos .dots) ↔ t.chars.getLast? ≠ some '.' := by
  cases t with
  | endOfText pos' => exact absurd ht id
  | space pos' text =>
    have hblank : text.toList.getLast? ≠ some '.' := fun h => by
      have := ht.2 '.' (List.mem_of_getLast? h)
      revert this
      decide
    simpa [splits, chars] using hblank
  | word pos' text => simp [splits, chars]
  | quote pos' text =>
    rw [chars_quote, ← List.cons_append, List.getLast?_concat]
    simp [splits]
  | sign pos' s =>
    cases s with
    | compare op => cases op <;> simp [splits, Sign.splits, chars, Sign.symbol, Operator.symbol]
    | dots => exact absurd rfl (hdots pos')
    | _ => simp [splits, Sign.splits, chars, Sign.symbol]
  | group pos' contents =>
    rw [chars, ← List.cons_append, List.getLast?_concat]
    simp [splits]

/-- Tokens that `..` follows do not end in a dot, unless they end in that sign. -/
theorem ProperAll.undotted {front rest : List Token} {pos : Position}
    (h : ProperAll (front ++ sign pos .dots :: rest)) (hdots : ∀ pos, sign pos .dots ∉ front) :
    (charsAll front).getLast? ≠ some '.' := by
  obtain ⟨hfront, -, hsplits⟩ := properAll_append.1 h
  rcases List.eq_nil_or_concat front with rfl | ⟨init, t, rfl⟩
  · simp [charsAll]
  · rw [List.concat_eq_append] at *
    have ht : t.Proper := (properAll_append.1 hfront).2.1.1
    have hnot : ∀ pos, t ≠ sign pos .dots := by
      rintro pos rfl
      exact hdots pos (by simp)
    have hlast := (ht.splits_dots_iff hnot pos).1 (hsplits t (by simp) _ rfl)
    obtain ⟨c, cs, hc, -⟩ := ht.exists_opensWith []
    rw [List.append_nil] at hc
    rw [charsAll_append, charsAll, charsAll, List.append_nil, List.getLast?_append, hc]
    rw [hc] at hlast
    simpa using hlast

/-- A token that stands at the front of a text is apart from one that the text does not go on
with. -/
theorem splits_of_endsBefore {t u : Token} {text : List Char} (ht : t.endsBefore text)
    (hu : u.startsText text) : t.splits u := by
  cases t with
  | space pos s =>
    cases u with
    | space pos' s' =>
      obtain ⟨c, hc, hblank⟩ := hu
      simp [ht c hc] at hblank
    | _ => rfl
  | word pos s =>
    cases u with
    | word pos' s' => exact absurd ht.1 hu
    | sign pos' s' =>
      cases s' with
      | dots =>
        have hfront := sign?_eq_some hu
        have hhead : text.head? = some '.' := by rw [← hfront]; rfl
        simp only [splits, decide_eq_true_eq]
        exact fun hl => ht.2 hl hhead
      | _ => rfl
    | _ => rfl
  | sign pos s =>
    cases u with
    | sign pos' s' =>
      have hfront := sign?_eq_some hu
      rw [endsBefore, sign?_symbol_append, ← hfront] at ht
      by_contra hsplit
      rcases Sign.splits_eq_false (by simpa [splits] using hsplit) with ⟨hs, rfl⟩ | ⟨hs, rfl⟩
      · exact ht.1 hs rfl
      · exact ht.2 hs rfl
    | _ => rfl
  | _ => rfl

end Token

end SearchQuery
