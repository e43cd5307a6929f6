import Mathlib.Data.List.TakeWhile
import Mathlib.Data.Nat.Digits.Defs
import Mathlib.Tactic.Common
import SearchQuery.Text.Escape

/-!
# Code points in escapes

`Names` lists the ways to name a code point after `\u`, and `utf16` tells the code units of a
character.

* `hexValue?_eq_some_iff`: hexadecimal digits are read as the number that they write in base 16.
* `codePoint_eq_value_iff`: a code point is read just if the text starts with a name of it.
* `codePoint_append`: so it is read whatever follows its name.
* `namesNone_lone`: a surrogate that is not part of a pair names no character.
-/

namespace SearchQuery.Text.Escape

variable {digits rest text : List Char} {n used : Nat}

/-! ## Hexadecimal digits -/

/-- The digits write the number `n` in base 16, the most significant first. -/
def WritesHex (digits : List Char) (n : Nat) : Prop :=
  ∃ values : List Nat, digits.map hexDigit? = values.map some ∧
    n = Nat.ofDigits 16 values.reverse

theorem foldl_hexDigit?_none (digits : List Char) :
    digits.foldl (fun acc c => do return 16 * (← acc) + (← hexDigit? c)) none =
      (none : Option Nat) := by
  induction digits with
  | nil => rfl
  | cons c digits ih => exact ih

theorem foldl_hexDigit?_eq_some_iff {m : Nat} :
    digits.foldl (fun acc c => do return 16 * (← acc) + (← hexDigit? c)) (some m) = some n ↔
      ∃ values : List Nat, digits.map hexDigit? = values.map some ∧
        n = values.foldl (fun acc d => 16 * acc + d) m := by
  induction digits generalizing m with
  | nil =>
    constructor
    · rintro ⟨⟩
      exact ⟨[], rfl, rfl⟩
    · rintro ⟨values, hvalues, rfl⟩
      rw [List.map_eq_nil_iff.1 hvalues.symm]
      rfl
  | cons c digits ih =>
    rw [List.foldl_cons]
    cases hc : hexDigit? c with
    | none =>
      constructor
      · intro h
        cases (foldl_hexDigit?_none digits).symm.trans h
      · rintro ⟨values, hvalues, -⟩
        cases values <;> simp [hc] at hvalues
    | some d =>
      refine ih.trans ?_
      constructor
      · rintro ⟨values, hvalues, rfl⟩
        exact ⟨d :: values, by simp [hc, hvalues], rfl⟩
      · rintro ⟨values, hvalues, rfl⟩
        cases values with
        | nil => simp at hvalues
        | cons d' values =>
          simp only [List.map_cons, hc, List.cons.injEq, Option.some.injEq] at hvalues
          obtain ⟨rfl, hvalues⟩ := hvalues
          exact ⟨values, hvalues, rfl⟩

theorem hexValue?_eq_some_iff : hexValue? digits = some n ↔ WritesHex digits n := by
  have hfold (values : List Nat) :
      Nat.ofDigits 16 values.reverse = values.foldl (fun acc d => 16 * acc + d) 0 := by
    rw [Nat.ofDigits_eq_foldr, List.foldr_reverse]
    simp only [Nat.cast_id, Nat.add_comm]
  simp only [hexValue?, foldl_hexDigit?_eq_some_iff, WritesHex, hfold]

theorem WritesHex.isSome (h : WritesHex digits n) : ∀ c ∈ digits, (hexDigit? c).isSome := by
  obtain ⟨values, hvalues, -⟩ := h
  intro c hc
  have hmem : hexDigit? c ∈ values.map some := by
    rw [← hvalues]
    exact List.mem_map_of_mem hc
  obtain ⟨d, -, hd⟩ := List.mem_map.1 hmem
  rw [← hd]
  rfl

/-- A sign is no digit. -/
theorem not_writesHex_plus : ¬ WritesHex ('+' :: digits) n := by
  intro h
  cases h.isSome '+' List.mem_cons_self

/-- Every hexadecimal digit is an ASCII character. -/
theorem utf8Size_of_hexDigit? {c : Char} (h : (hexDigit? c).isSome) : c.utf8Size = 1 := by
  have hc : c.toNat < 0x80 := by
    by_contra hc
    have hlt (d : Char) (hd : d.toNat < 0x80) : ¬ c ≤ d := by
      rw [Char.le_def, UInt32.le_iff_toNat_le]
      exact fun hle => hc (Nat.lt_of_le_of_lt hle hd)
    simp [hexDigit?, hlt '9' (by decide), hlt 'f' (by decide), hlt 'F' (by decide)] at h
  rw [Char.utf8Size, if_pos]
  rw [UInt32.le_iff_toNat_le]
  exact Nat.le_of_lt_succ hc

/-! ## Characters and their code units -/

theorem scalar?_eq_some_iff {c : Char} : scalar? n = some c ↔ n = c.toNat := by
  rw [scalar?]
  constructor
  · intro h
    split at h
    · rename_i hvalid
      cases h
      rw [Char.ofNat, dif_pos hvalid]
      rfl
    · cases h
  · rintro rfl
    have hvalid : c.toNat.isValidChar := c.valid
    rw [if_pos hvalid, Char.ofNat_toNat]

/-- The UTF-16 code units of a character: one, or a high and a low surrogate. -/
def utf16 (c : Char) : List Nat :=
  if c.toNat < 0x10000 then [c.toNat]
  else [0xD800 + (c.toNat - 0x10000) / 0x400, 0xDC00 + (c.toNat - 0x10000) % 0x400]

theorem toNat_lt (c : Char) : c.toNat < 0x110000 := by
  have := c.valid
  rcases this with h | h <;> exact Nat.lt_of_lt_of_le (by first | exact h | exact h.2) (by decide)

/-- No character is a surrogate. -/
theorem not_surrogate (c : Char) :
    isHighSurrogate c.toNat = false ∧ isLowSurrogate c.toNat = false := by
  have hvalid := c.valid
  have hc : c.toNat < 0xD800 ∨ 0xDFFF < c.toNat := by
    rcases hvalid with h | h
    · exact .inl h
    · exact .inr h.1
  simp only [isHighSurrogate, isLowSurrogate, Bool.and_eq_false_iff, decide_eq_false_iff_not]
  omega

theorem scalar?_of_isLowSurrogate (h : isLowSurrogate n) : scalar? n = none := by
  rw [Option.eq_none_iff_forall_ne_some]
  rintro c hc
  rw [scalar?_eq_some_iff.1 hc, (not_surrogate c).2] at h
  cases h

/-- The two code units of a character are the surrogates that join to its code point. -/
theorem joinSurrogates_utf16 {high low : Nat} {c : Char} (h : utf16 c = [high, low]) :
    isHighSurrogate high ∧ isLowSurrogate low ∧ joinSurrogates high low = c.toNat := by
  have hlt := toNat_lt c
  unfold utf16 at h
  split at h
  · cases h
  · rename_i hle
    simp only [List.cons.injEq, and_true] at h
    obtain ⟨rfl, rfl⟩ := h
    refine ⟨?_, ?_, ?_⟩
    · simp only [isHighSurrogate, Bool.and_eq_true, decide_eq_true_eq]
      omega
    · simp only [isLowSurrogate, Bool.and_eq_true, decide_eq_true_eq]
      omega
    · unfold joinSurrogates
      rw [Nat.add_sub_cancel_left, Nat.add_sub_cancel_left, Nat.add_assoc, Nat.div_add_mod',
        Nat.add_sub_cancel' (Nat.le_of_not_lt hle)]

/-! ## Four digits -/

/-- Four hexadecimal digits that write the code unit `n`. -/
def WritesUnit (digits : List Char) (n : Nat) : Prop := digits.length = 4 ∧ WritesHex digits n

/-- Digits do not start with a brace. -/
theorem WritesUnit.exists_cons (h : WritesUnit digits n) :
    ∃ c tail, digits = c :: tail ∧ c ≠ '\x7b' := by
  obtain ⟨hfour, hhex⟩ := h
  cases digits with
  | nil => cases hfour
  | cons c tail =>
    refine ⟨c, tail, rfl, ?_⟩
    rintro rfl
    cases hhex.isSome _ List.mem_cons_self

theorem fourDigits_writesUnit (h : WritesUnit digits n) (tail : List Char) :
    fourDigits (digits ++ tail) = .value n 4 := by
  obtain ⟨hfour, hhex⟩ := h
  have hall : digits.takeWhile (fun c => (hexDigit? c).isSome) = digits :=
    List.takeWhile_eq_self_iff.2 hhex.isSome
  rw [fourDigits, List.take_left' hfour, hall, hexValue?_eq_some_iff.2 hhex]
  exact if_pos hfour

theorem fourDigits_eq_value_iff : fourDigits text = .value n used ↔
    used = 4 ∧ ∃ digits tail, text = digits ++ tail ∧ WritesUnit digits n := by
  constructor
  · intro h
    have hprefix := List.takeWhile_prefix (l := text.take 4) fun c => (hexDigit? c).isSome
    unfold fourDigits at h
    dsimp only at h
    split at h
    · rename_i hvalue
      split at h
      · rename_i hfour
        cases h
        have hall := hprefix.eq_of_length_le (by rw [hfour]; exact List.length_take_le 4 text)
        rw [hall] at hfour hvalue
        exact ⟨rfl, text.take 4, text.drop 4, (List.take_append_drop 4 text).symm, hfour,
          hexValue?_eq_some_iff.1 hvalue⟩
      · cases h
    · cases h
  · rintro ⟨rfl, digits, tail, rfl, h⟩
    exact fourDigits_writesUnit h tail

/-! ## Digits in braces -/

theorem signedHexValue?_eq_some_iff (hne : text ≠ []) : signedHexValue? text = some n ↔
    ∃ digits, (text = digits ∨ text = '+' :: digits) ∧ digits ≠ [] ∧ WritesHex digits n := by
  unfold signedHexValue?
  split
  · simp only [reduceCtorEq, false_iff]
    rintro ⟨digits, rfl | hdigits, hne, h⟩
    · exact not_writesHex_plus h
    · exact hne (List.cons.inj hdigits).2.symm
  · rename_i digits hdigits
    rw [hexValue?_eq_some_iff]
    constructor
    · intro h
      refine ⟨digits, .inr rfl, ?_, h⟩
      rintro rfl
      exact hdigits rfl
    · rintro ⟨digits', rfl | hdigits', -, h⟩
      · exact absurd h not_writesHex_plus
      · cases hdigits'
        exact h
  · rename_i hsign
    rw [hexValue?_eq_some_iff]
    constructor
    · intro h
      exact ⟨text, .inl rfl, hne, h⟩
    · rintro ⟨digits, rfl | rfl, -, h⟩
      · exact h
      · exact absurd rfl (hsign digits)

/-- What stands in braces names the code point `n`: at most six characters, digits behind an
optional plus sign. -/
def BracesName (text : List Char) (n : Nat) : Prop :=
  ∃ digits, (text = digits ∨ text = '+' :: digits) ∧ digits ≠ [] ∧ text.length ≤ 6 ∧
    WritesHex digits n

theorem BracesName.isSome_or_plus (h : BracesName text n) :
    ∀ c ∈ text, (hexDigit? c).isSome ∨ c = '+' := by
  obtain ⟨digits, rfl | rfl, -, -, hhex⟩ := h
  · exact fun c hc => .inl (hhex.isSome c hc)
  · rw [List.forall_mem_cons]
    exact ⟨.inr rfl, fun c hc => .inl (hhex.isSome c hc)⟩

theorem BracesName.not_mem_close (h : BracesName text n) : '\x7d' ∉ text := by
  intro hmem
  cases (h.isSome_or_plus _ hmem).resolve_right (by decide)

theorem utf8ByteSize_of_ascii (h : ∀ c ∈ text, c.utf8Size = 1) :
    (String.ofList text).utf8ByteSize = text.length := by
  induction text with
  | nil => rfl
  | cons c text ih =>
    rw [List.forall_mem_cons] at h
    rw [String.ofList_cons, String.utf8ByteSize_append, ih h.2, String.utf8ByteSize_singleton, h.1,
      List.length_cons, Nat.add_comm]

/-- No text takes fewer bytes than it has characters. -/
theorem length_le_utf8ByteSize (text : List Char) :
    text.length ≤ (String.ofList text).utf8ByteSize := by
  induction text with
  | nil => exact Nat.zero_le _
  | cons c text ih =>
    have hc := c.utf8Size_pos
    rw [String.ofList_cons, String.utf8ByteSize_append, String.utf8ByteSize_singleton,
      List.length_cons]
    omega

theorem BracesName.utf8ByteSize (h : BracesName text n) :
    (String.ofList text).utf8ByteSize = text.length := by
  refine utf8ByteSize_of_ascii fun c hc => ?_
  obtain hdigit | rfl := h.isSome_or_plus c hc
  · exact utf8Size_of_hexDigit? hdigit
  · rfl

/-- The text up to the closing brace is looked at. -/
theorem braced_closed_iff (hclose : '\x7d' ∉ text) (tail : List Char) :
    braced (text ++ '\x7d' :: tail) = .value n used ↔
      used = text.length + 1 ∧ BracesName text n := by
  have htake : (text ++ '\x7d' :: tail).takeWhile (· ≠ '\x7d') = text := by
    rw [List.takeWhile_append_of_pos, List.takeWhile_cons_of_neg (by simp), List.append_nil]
    intro c hc
    rw [decide_eq_true_eq]
    rintro rfl
    exact hclose hc
  have hlonger : text.length ≠ (text ++ '\x7d' :: tail).length := by
    rw [List.length_append, List.length_cons]
    omega
  simp only [braced, htake]
  by_cases hlimits : text.length = 0 ∨ 6 < (String.ofList text).utf8ByteSize
  · rw [if_pos (by simpa [hlonger] using hlimits)]
    simp only [reduceCtorEq, false_iff]
    rintro ⟨-, hname⟩
    have hsize := hname.utf8ByteSize
    obtain ⟨digits, htext, hne, hle, -⟩ := hname
    have hpos := List.length_pos_iff.2 hne
    obtain rfl | rfl := htext
    · omega
    · rw [List.length_cons] at hlimits hsize hle
      omega
  · rw [if_neg (by simpa [hlonger] using hlimits)]
    rw [not_or, Nat.not_lt] at hlimits
    have hne : text ≠ [] := fun hnil => hlimits.1 (by rw [hnil]; rfl)
    have hle := Nat.le_trans (length_le_utf8ByteSize text) hlimits.2
    have hname : signedHexValue? text = some n ↔ BracesName text n := by
      rw [signedHexValue?_eq_some_iff hne]
      constructor
      · rintro ⟨digits, htext, hdigits, hhex⟩
        exact ⟨digits, htext, hdigits, hle, hhex⟩
      · rintro ⟨digits, htext, hdigits, -, hhex⟩
        exact ⟨digits, htext, hdigits, hhex⟩
    rw [← hname]
    cases signedHexValue? text with
    | none => simp
    | some m => simp [and_comm, eq_comm]

theorem braced_eq_value_iff : braced text = .value n used ↔ ∃ inner tail,
    text = inner ++ '\x7d' :: tail ∧ used = inner.length + 1 ∧ BracesName inner n := by
  constructor
  · intro h
    have hclose : '\x7d' ∈ text := by
      by_contra hclose
      have htake : text.takeWhile (· ≠ '\x7d') = text := by
        rw [List.takeWhile_eq_self_iff]
        intro c hc
        rw [decide_eq_true_eq]
        rintro rfl
        exact hclose hc
      unfold braced at h
      simp only [htake] at h
      rw [if_pos (by simp)] at h
      cases h
    obtain ⟨inner, tail, rfl, hinner⟩ := List.eq_append_cons_of_mem hclose
    exact ⟨inner, tail, rfl, (braced_closed_iff hinner tail).1 h⟩
  · rintro ⟨inner, tail, rfl, rfl, hname⟩
    exact (braced_closed_iff hname.not_mem_close tail).2 ⟨rfl, hname⟩

/-! ## Names of code points -/

/-- The characters after `\u` that name the code point `n`: digits in braces, a code unit that is no
high surrogate, or the two of a pair, each with its escape. -/
inductive Names : (code : List Char) → (n : Nat) → Prop where
  | braces {inner : List Char} {n : Nat} (h : BracesName inner n) :
      Names ('\x7b' :: (inner ++ ['\x7d'])) n
  | unit {digits : List Char} {n : Nat} (h : WritesUnit digits n) (hn : isHighSurrogate n = false) :
      Names digits n
  | pair {digits digits' : List Char} {high low : Nat} (h : WritesUnit digits high)
      (hhigh : isHighSurrogate high) (h' : WritesUnit digits' low) (hlow : isLowSurrogate low) :
      Names (digits ++ '\\' :: 'u' :: digits') (joinSurrogates high low)

/-- What is read where a code unit stands: the unit, or the code point of the pair that it starts. -/
theorem codePoint_unit_iff {m : Nat} (h : WritesUnit digits n) (tail : List Char) :
    codePoint (digits ++ tail) = .value m used ↔
      isHighSurrogate n = false ∧ m = n ∧ used = 4 ∨
      isHighSurrogate n ∧ ∃ digits' low rest, tail = '\\' :: 'u' :: (digits' ++ rest) ∧
        WritesUnit digits' low ∧ isLowSurrogate low ∧ m = joinSurrogates n low ∧ used = 10 := by
  have hread := fourDigits_writesUnit h tail
  have hdrop : (digits ++ tail).drop 4 = tail := List.drop_left' h.1
  obtain ⟨c, rest, rfl, hc⟩ := h.exists_cons
  rw [codePoint]
  swap
  · rintro inner hinner
    exact hc (List.cons.inj hinner).1
  simp only [hread, hdrop]
  cases hhigh : isHighSurrogate n with
  | false =>
    simp only [Bool.false_eq_true, if_false, false_and, or_false, true_and, Code.value.injEq]
    exact and_congr eq_comm eq_comm
  | true =>
    simp only [if_true, Bool.true_eq_false, false_and, false_or, true_and]
    constructor
    · intro hcode
      split at hcode
      · split at hcode
        · cases hcode
        · rename_i hfour
          obtain ⟨-, digits', rest, rfl, hunit⟩ := fourDigits_eq_value_iff.1 hfour
          split at hcode
          · rename_i hlow
            rw [Code.value.injEq] at hcode
            exact ⟨digits', _, rest, rfl, hunit, hlow, hcode.1.symm, hcode.2.symm⟩
          · cases hcode
      · cases hcode
    · rintro ⟨digits', low, rest, rfl, hunit, hlow, hm, hused⟩
      simp only [fourDigits_writesUnit hunit rest, hlow, if_true, hm, hused]

/-- A code point that is named is read, whatever follows its name. -/
theorem Names.codePoint (h : Names text n) (tail : List Char) :
    codePoint (text ++ tail) = .value n text.length := by
  cases h with
  | @braces inner _ h =>
    have hbraced : braced (inner ++ '\x7d' :: tail) = .value n (inner.length + 1) :=
      braced_eq_value_iff.2 ⟨inner, tail, rfl, rfl, h⟩
    rw [List.cons_append, List.append_assoc, List.singleton_append, Escape.codePoint, hbraced]
    simp
  | unit h hn => exact (codePoint_unit_iff h tail).2 (.inl ⟨hn, rfl, h.1⟩)
  | @pair digits digits' high low h hhigh h' hlow =>
    rw [List.append_assoc]
    refine (codePoint_unit_iff h _).2 (.inr ⟨hhigh, digits', low, tail, rfl, h', hlow, rfl, ?_⟩)
    simp [h.1, h'.1]

/-- **Code points.** A code point is read just where it is named. -/
theorem codePoint_eq_value_iff : codePoint text = .value n used ↔
    ∃ code tail, text = code ++ tail ∧ used = code.length ∧ Names code n := by
  constructor
  · intro h
    have hcode := h
    unfold codePoint at h
    split at h
    · split at h
      · rename_i hbraced
        cases h
        obtain ⟨inner, tail, rfl, rfl, hname⟩ := braced_eq_value_iff.1 hbraced
        exact ⟨_, tail, by simp, by simp, .braces hname⟩
      · cases h
    · split at h
      · cases h
      · rename_i hfour
        clear h
        obtain ⟨-, digits, tail, rfl, hunit⟩ := fourDigits_eq_value_iff.1 hfour
        obtain ⟨hn, hvalue, rfl⟩ | ⟨hhigh, digits', low, rest, rfl, hunit', hlow, hvalue, rfl⟩ :=
          (codePoint_unit_iff hunit tail).1 hcode
        all_goals rw [hvalue]
        · exact ⟨digits, tail, rfl, hunit.1.symm, .unit hunit hn⟩
        · have hname := Names.pair hunit hhigh hunit' hlow
          exact ⟨_, rest, by simp, by simp [hunit.1, hunit'.1], hname⟩
  · rintro ⟨code, tail, rfl, rfl, h⟩
    exact h.codePoint tail

theorem codePoint_append (h : codePoint text = .value n used) (tail : List Char) :
    codePoint (text ++ tail) = .value n used := by
  obtain ⟨code, rest, rfl, rfl, hname⟩ := codePoint_eq_value_iff.1 h
  rw [List.append_assoc]
  exact hname.codePoint (rest ++ tail)

/-- Digits in braces are a name of their own, and nothing else in the same braces is. -/
theorem codePoint_braced_iff (hclose : '\x7d' ∉ text) (tail : List Char) :
    codePoint ('\x7b' :: (text ++ '\x7d' :: tail)) = .value n used ↔
      used = text.length + 2 ∧ BracesName text n := by
  constructor
  · intro h
    rw [codePoint] at h
    split at h
    · rename_i hbraced
      cases h
      obtain ⟨rfl, hname⟩ := (braced_closed_iff hclose tail).1 hbraced
      exact ⟨rfl, hname⟩
    · cases h
  · rintro ⟨rfl, h⟩
    have hcode := (Names.braces h).codePoint tail
    simpa using hcode

/-! ## Characters and their names -/

/-- No character is named after `\u`. -/
def NamesNone (text : List Char) : Prop :=
  ¬ ∃ code tail, ∃ c : Char, text = code ++ tail ∧ Names code c.toNat

theorem namesNone_iff : NamesNone text ↔
    ∀ n used, codePoint text = .value n used → scalar? n = none := by
  constructor
  · intro h n used hcode
    obtain ⟨code, tail, rfl, rfl, hname⟩ := codePoint_eq_value_iff.1 hcode
    rw [Option.eq_none_iff_forall_ne_some]
    intro c hc
    rw [scalar?_eq_some_iff.1 hc] at hname
    exact h ⟨code, tail, c, rfl, hname⟩
  · rintro h ⟨code, tail, c, rfl, hname⟩
    have hnone := h _ _ (hname.codePoint tail)
    rw [scalar?_eq_some_iff.2 rfl] at hnone
    cases hnone

/-- The code unit `n`, with `rest` behind its escape, is not part of a pair: a low surrogate, or a
high one without the escape of a low one behind it. -/
def IsLone (n : Nat) (rest : List Char) : Prop :=
  isLowSurrogate n ∨ isHighSurrogate n ∧ ¬ ∃ digits low tail,
    rest = '\\' :: 'u' :: (digits ++ tail) ∧ WritesUnit digits low ∧ isLowSurrogate low

theorem namesNone_lone (h : WritesUnit digits n) (hn : IsLone n rest) :
    NamesNone (digits ++ rest) := by
  rw [namesNone_iff]
  intro m used hcode
  obtain ⟨hnot, rfl, -⟩ | ⟨hhigh, digits', low, tail, rfl, hunit, hlow, -⟩ :=
    (codePoint_unit_iff h rest).1 hcode
  · obtain hlow | ⟨hhigh, -⟩ := hn
    · exact scalar?_of_isLowSurrogate hlow
    · rw [hnot] at hhigh
      cases hhigh
  · obtain hlow' | ⟨-, hnone⟩ := hn
    · simp only [isHighSurrogate, isLowSurrogate, Bool.and_eq_true, decide_eq_true_eq]
        at hhigh hlow'
      omega
    · exact absurd ⟨digits', low, tail, rfl, hunit, hlow⟩ hnone

/-! ## UTF-16 -/

/-- The text is the escapes of the code units, each with four hexadecimal digits. -/
inductive EscapesUnits : (units : List Nat) → (text : List Char) → Prop where
  | nil : EscapesUnits [] []
  | cons {n : Nat} {units : List Nat} {digits text : List Char} (h : WritesUnit digits n)
      (hs : EscapesUnits units text) : EscapesUnits (n :: units) ('\\' :: 'u' :: (digits ++ text))

theorem utf16_cases (c : Char) : utf16 c = [c.toNat] ∨ ∃ high low, utf16 c = [high, low] := by
  unfold utf16
  split
  · exact .inl rfl
  · exact .inr ⟨_, _, rfl⟩

/-- The escapes of a character's code units name the character, in letters of either case. -/
theorem names_utf16 {c : Char} (h : EscapesUnits (utf16 c) text) :
    ∃ code, text = '\\' :: 'u' :: code ∧ Names code c.toNat := by
  obtain hone | ⟨high, low, htwo⟩ := utf16_cases c
  · rw [hone] at h
    cases h with
    | cons hunit hs =>
      cases hs with
      | nil => exact ⟨_, by rw [List.append_nil], .unit hunit (not_surrogate c).1⟩
  · obtain ⟨hhigh, hlow, hjoin⟩ := joinSurrogates_utf16 htwo
    rw [htwo] at h
    rw [← hjoin]
    cases h with
    | cons hunit hs =>
      cases hs with
      | cons hunit' hs =>
        cases hs with
        | nil => exact ⟨_, by rw [List.append_nil], .pair hunit hhigh hunit' hlow⟩

end SearchQuery.Text.Escape
