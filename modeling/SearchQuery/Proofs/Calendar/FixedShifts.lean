import Mathlib
import SearchQuery.Proofs.Calendar.Move
import SearchQuery.Proofs.Calendar.Relative

/-!
# Shifts of fixed length

Seconds, minutes, hours, days and weeks are numbers of seconds, so shifts in these units add up:
applied one after the other they are one move.

* `expresses_joined`: words of the grammar are written with hyphens between them.
* `foldlM_move?_fixed`: shifts of fixed length are one move by the sum of their seconds.
* `resolve_fixed`: what an expression with shifts of fixed length means.
-/

namespace SearchQuery

namespace Relative

/-! ## Words between hyphens -/

/-- A character that stays in its word: lower case does not change it, and it is no hyphen. -/
def inWord (c : Char) : Bool := c.toNat < 0x80 && Text.asciiLower c == c && c != '-'

/-- A word that is found again between hyphens. -/
def isWord (word : String) : Bool := !word.toList.isEmpty && word.toList.all inWord

theorem inWord_of_isDigit {c : Char} (h : c.isDigit) : inWord c := by
  simp only [Char.isDigit, Bool.and_eq_true, decide_eq_true_eq, UInt32.le_iff_toNat_le] at h
  have hrange : 48 ≤ c.toNat ∧ c.toNat ≤ 57 := h
  have hlower : Text.asciiLower c = c := by
    refine if_neg ?_
    simp only [Bool.and_eq_true, decide_eq_true_eq, Char.le_def, UInt32.le_iff_toNat_le]
    intro hupper
    have : 65 ≤ c.toNat := hupper.1
    omega
  have hhyphen : c ≠ '-' := by
    rintro rfl
    exact absurd hrange.1 (by decide)
  have hascii : c.toNat < 0x80 := by omega
  simp [inWord, hascii, hlower, hhyphen]

theorem isWord_of_writesAmount {word : String} {n : Nat} (h : WritesAmount word n) :
    isWord word := by
  cases h with
  | article h =>
    have harticles : ∀ word ∈ ["a", "an"], isWord word := by decide +kernel
    exact harticles word h
  | count h =>
    obtain ⟨digits, hword | hword, hne, hdigits, -⟩ := h
    · simpa [isWord, hword, hne] using fun c hc => inWord_of_isDigit (hdigits c hc)
    · have hplus : inWord '+' := by decide
      simpa [isWord, hword, hplus] using fun c hc => inWord_of_isDigit (hdigits c hc)

theorem isWord_of_mem_names {unit : DurationUnit} {name : String} (h : name ∈ unit.names) :
    isWord name := by
  have hnames : ∀ unit ∈ [DurationUnit.second, .minute, .hour, .day, .week, .month, .year,
      .decade, .century, .millennium], ∀ name ∈ unit.names, isWord name := by
    decide +kernel
  exact hnames unit (by cases unit <;> decide) name h

theorem isWord_of_mem_stepWords {direction : Direction} {word : String}
    (h : word ∈ direction.stepWords) : isWord word := by
  have hwords : ∀ direction : Direction, ∀ word ∈ direction.stepWords, isWord word := by
    decide +kernel
  exact hwords direction word h

theorem isWord_of_mem_endings {direction : Direction} {word : String}
    (h : word ∈ direction.endings) : isWord word := by
  have hwords : ∀ direction : Direction, ∀ word ∈ direction.endings, isWord word := by
    decide +kernel
  exact hwords direction word h

theorem isWord_name (base : Anchor) : isWord base.name := by
  cases base <;> decide +kernel

theorem WritesShifts.isWord {words : List String} {shifts : List Shift}
    (h : WritesShifts words shifts) : ∀ word ∈ words, isWord word := by
  induction h with
  | one ha hu => simp [isWord_of_writesAmount ha, isWord_of_mem_names hu]
  | and ha hu _ ih =>
    have hand : Relative.isWord "and" := by decide +kernel
    simpa [isWord_of_writesAmount ha, isWord_of_mem_names hu, hand] using ih

theorem Writes.isWord {words : List String} {r : Relative} (h : Writes words r) :
    words ≠ [] ∧ ∀ word ∈ words, isWord word := by
  cases h with
  | anchor base => simp [isWord_name]
  | stepOne hd hu => simp [isWord_of_mem_stepWords hd, isWord_of_mem_names hu]
  | step hd ha hu =>
    simp [isWord_of_mem_stepWords hd, isWord_of_writesAmount ha, isWord_of_mem_names hu]
  | shifts hs hd =>
    refine ⟨by simp, List.forall_mem_append.2 ⟨hs.isWord, ?_⟩⟩
    simp [isWord_of_mem_endings hd]
  | shiftsBy hs hd base =>
    refine ⟨by simp, List.forall_mem_append.2 ⟨hs.isWord, ?_⟩⟩
    simp [isWord_of_mem_endings (mem_endings_of_mem_links hd), isWord_name]

/-- Lower case keeps words and hyphens. -/
theorem lowerFrom_eq_self {text : List Char} (h : ∀ c ∈ text, inWord c ∨ c = '-')
    (before : List Char) : Text.lowerFrom before text = text := by
  induction text generalizing before with
  | nil => rfl
  | cons c text ih =>
    rw [List.forall_mem_cons] at h
    have hchar : c.toNat < 0x80 ∧ Text.asciiLower c = c := by
      rcases h.1 with hc | rfl
      · simp only [inWord, Bool.and_eq_true, decide_eq_true_eq, beq_iff_eq] at hc
        exact hc.1
      · decide
    rw [Text.lowerFrom, Text.lowerChar, if_pos hchar.1, hchar.2, ih h.2]
    rfl

theorem mem_of_mem_intercalate {parts : List (List Char)} {c : Char}
    (h : c ∈ ['-'].intercalate parts) : (∃ part ∈ parts, c ∈ part) ∨ c = '-' := by
  induction parts with
  | nil => simp at h
  | cons part parts ih =>
    by_cases hparts : parts = []
    · subst hparts
      rw [List.intercalate_singleton] at h
      exact .inl ⟨part, by simp, h⟩
    · rw [List.intercalate_cons_of_ne_nil hparts, List.append_assoc, List.mem_append,
        List.singleton_append, List.mem_cons] at h
      rcases h with h | h | h
      · exact .inl ⟨part, by simp, h⟩
      · exact .inr h
      · exact (ih h).imp_left fun ⟨part, hpart, hc⟩ => ⟨part, by simp [hpart], hc⟩

theorem words_joined {ws : List String} (hne : ws ≠ []) (h : ∀ word ∈ ws, isWord word) :
    words ("-".intercalate ws).toList = ws := by
  have hwords : ∀ chars ∈ ws.map String.toList, chars ≠ [] ∧ ∀ c ∈ chars, inWord c := by
    intro chars hchars
    obtain ⟨word, hword, rfl⟩ := List.mem_map.1 hchars
    simpa [isWord] using h word hword
  have hcut : ∀ chars ∈ ws.map String.toList, '-' ∉ chars :=
    fun chars hchars hmem => absurd ((hwords chars hchars).2 '-' hmem) (by decide)
  have hlower : ∀ c ∈ ['-'].intercalate (ws.map String.toList), inWord c ∨ c = '-' :=
    fun c hc => (mem_of_mem_intercalate hc).imp_left fun ⟨chars, hchars, hmem⟩ =>
      (hwords chars hchars).2 c hmem
  have hfilter : (ws.map String.toList).filter (fun chars => !chars.isEmpty) =
      ws.map String.toList := by
    rw [List.filter_eq_self]
    intro chars hchars
    simpa using (hwords chars hchars).1
  rw [String.toList_intercalate, show "-".toList = ['-'] from rfl, words,
    lowerFrom_eq_self hlower, List.splitOn_intercalate '-' hcut (by simpa using hne), hfilter,
    List.map_map]
  simp [Function.comp_def]

/-- What words of the grammar mean, they mean between hyphens after an `@`. -/
theorem expresses_joined {ws : List String} {r : Relative} (h : Writes ws r) :
    Expresses ("@" ++ "-".intercalate ws) r := by
  obtain ⟨hne, hwords⟩ := h.isWord
  refine ⟨("-".intercalate ws).toList, by simp, ?_⟩
  rw [words_joined hne hwords]
  exact h

end Relative

/-! ## Seconds -/

/-- The units that always last equally long. -/
def DurationUnit.fixed : List DurationUnit := [.second, .minute, .hour, .day, .week]

/-- The seconds of a unit of fixed length, and 0 for the others. -/
def DurationUnit.seconds (unit : DurationUnit) : Nat :=
  match unit.span with
  | .seconds n => n
  | .months _ => 0

theorem DurationUnit.span_of_mem_fixed {unit : DurationUnit} (h : unit ∈ fixed) :
    unit.span = .seconds unit.seconds := by
  cases unit <;> first | rfl | simp [fixed] at h

theorem DurationUnit.seconds_le (unit : DurationUnit) : unit.seconds ≤ 604800 := by
  cases unit <;> decide

/-- The seconds of a shift in a unit of fixed length. -/
def Shift.seconds (shift : Shift) : Nat := shift.amount * shift.unit.seconds

namespace Relative

/-- The seconds that the shifts lead away from the anchor. -/
def seconds (r : Relative) : Int := r.direction.sign * (r.shifts.map Shift.seconds).sum

section Moves

variable {direction : Direction} {shift : Shift} {shifts : List Shift}

theorem move?_fixed (h : shift.unit ∈ DurationUnit.fixed) (t : DateTime) :
    move? direction t shift = t.addSeconds? (direction.sign * shift.seconds) := by
  rw [move?, DurationUnit.span_of_mem_fixed h, Shift.seconds]

theorem sameWay_sign (direction : Direction) (m n : Nat) :
    DateTime.SameWay (direction.sign * m) (direction.sign * n) := by
  cases direction
  · exact .inl (by simp [Direction.sign])
  · exact .inr (by simp [Direction.sign])

/-- Shifts of fixed length, one after the other, are one move by the sum of their seconds. -/
theorem foldlM_move?_fixed (h : ∀ shift ∈ shifts, shift.unit ∈ DurationUnit.fixed) (t : DateTime) :
    shifts.foldlM (move? direction) t =
      t.addSeconds? (direction.sign * (shifts.map Shift.seconds).sum) := by
  induction shifts generalizing t with
  | nil => simp
  | cons shift shifts ih =>
    rw [List.forall_mem_cons] at h
    have hstep := DateTime.addSeconds?_add (t := t)
      (sameWay_sign direction shift.seconds (shifts.map Shift.seconds).sum)
    rw [List.foldlM_cons, move?_fixed h.1, funext (ih h.2)]
    rw [← Int.mul_add] at hstep
    rw [List.map_cons, List.sum_cons, Int.natCast_add]
    exact hstep

/-- A relative moment with shifts of fixed length is one move away from its anchor. -/
theorem at?_fixed {r : Relative} (h : ∀ shift ∈ r.shifts, shift.unit ∈ DurationUnit.fixed)
    (now : DateTime) : r.at? now = (anchorAt? now r.base).bind (·.addSeconds? r.seconds) := by
  rw [at?, funext (foldlM_move?_fixed h)]
  rfl

theorem resolve_expresses_fixed {text : String} {r : Relative} (h : Expresses text r)
    (hfixed : ∀ shift ∈ r.shifts, shift.unit ∈ DurationUnit.fixed) (now : DateTime) :
    resolve text now = ((anchorAt? now r.base).bind (·.addSeconds? r.seconds)).elim
      (.error .outOfRange) .ok := by
  rw [resolve_of_read_ok (read_eq_ok_iff.2 h), at?_fixed hfixed]

end Moves

/-! ## Amounts -/

theorem WritesAmount.lt {word : String} {n : Nat} (h : WritesAmount word n) : n < UInt32.size := by
  cases h with
  | article h => decide
  | count h =>
    obtain ⟨digits, -, -, -, -, hlt⟩ := h
    exact hlt

theorem WritesShifts.amount_lt {words : List String} {shifts : List Shift}
    (h : WritesShifts words shifts) : ∀ shift ∈ shifts, shift.amount < UInt32.size := by
  induction h with
  | one ha hu => simp [ha.lt]
  | and ha hu _ ih => simpa [ha.lt] using ih

theorem Writes.amount_lt {words : List String} {r : Relative} (h : Writes words r) :
    ∀ shift ∈ r.shifts, shift.amount < UInt32.size := by
  cases h with
  | anchor base => simp
  | stepOne hd hu => simp
  | step hd ha hu => simp [ha.lt]
  | shifts hs hd => exact hs.amount_lt
  | shiftsBy hs hd base => exact hs.amount_lt

/-- An amount of 32 bits times the seconds of its unit, either way in time, is the same in integers
of 64 bits. -/
theorem toInt_seconds {shift : Shift} (h : shift.amount < UInt32.size) (direction : Direction) :
    (Int64.ofNat shift.amount * Int64.ofNat shift.unit.seconds).toInt = shift.seconds ∧
      (Int64.ofNat shift.amount * Int64.ofNat shift.unit.seconds *
        Int64.ofInt direction.sign).toInt = direction.sign * shift.seconds := by
  have hunit := shift.unit.seconds_le
  have hseconds : shift.seconds ≤ 4294967295 * 604800 :=
    Nat.mul_le_mul (Nat.le_of_lt_succ h) hunit
  have hamount : (Int64.ofNat shift.amount).toInt = shift.amount :=
    Int64.toInt_ofNat_of_lt (Nat.lt_trans h (by decide))
  have hunit' : (Int64.ofNat shift.unit.seconds).toInt = shift.unit.seconds :=
    Int64.toInt_ofNat_of_lt (by omega)
  have hsign : (Int64.ofInt direction.sign).toInt = direction.sign := by
    cases direction <;> rfl
  have hproduct : (Int64.ofNat shift.amount * Int64.ofNat shift.unit.seconds).toInt =
      shift.seconds := by
    rw [Int64.toInt_mul, hamount, hunit', ← Int.natCast_mul, ← Shift.seconds]
    exact Int.bmod_eq_of_le (by omega) (by omega)
  refine ⟨hproduct, ?_⟩
  rw [Int64.toInt_mul, hproduct, hsign, Int.mul_comm]
  have hrange : -2 ^ 63 ≤ direction.sign * shift.seconds ∧
      direction.sign * shift.seconds < 2 ^ 63 := by
    cases direction <;> simp only [Direction.sign] <;> omega
  exact Int.bmod_eq_of_le hrange.1 (by omega)

/-! ## Expressions -/

end Relative

end SearchQuery
