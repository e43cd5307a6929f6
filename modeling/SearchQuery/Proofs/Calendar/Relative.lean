import Mathlib.Data.List.Basic
import Mathlib.Tactic.Common
import SearchQuery.Calendar.Relative
import SearchQuery.Proofs.Except
import SearchQuery.Proofs.Number.Digits

/-!
# The grammar of relative moments

`Relative.Writes` says which words write which relative moment, and mentions no reader.

* `readShifts_eq_ok_iff`: amounts and units up to the first word that is not `and`.
* `readWords_eq_ok_iff`: the words that are read are those of the grammar, with their meaning.
* `resolve_placed_iff`: a text has a moment, or one that the calendar does not reach, just if it is
  `@` and words of the grammar.
-/

namespace SearchQuery

/-! ## Words -/

/-- The words that name a unit. -/
def DurationUnit.names : DurationUnit → List String
  | .second => ["second", "seconds"]
  | .minute => ["minute", "minutes"]
  | .hour => ["hour", "hours"]
  | .day => ["day", "days"]
  | .week => ["week", "weeks"]
  | .month => ["month", "months"]
  | .year => ["year", "years"]
  | .decade => ["decade", "decades"]
  | .century => ["century", "centuries"]
  | .millennium => ["millennium", "millennia", "millenniums"]

/-- The word that names an anchor. -/
def Anchor.name : Anchor → String
  | .now => "now"
  | .today => "today"
  | .yesterday => "yesterday"
  | .tomorrow => "tomorrow"

namespace Direction

instance {p : Direction → Prop} [DecidablePred p] : Decidable (∀ direction, p direction) :=
  decidable_of_iff (p .forwards ∧ p .backwards)
    ⟨fun h direction => match direction with | forwards => h.1 | backwards => h.2,
      fun h => ⟨h .forwards, h .backwards⟩⟩

/-- The words before a single step. -/
def stepWords : Direction → List String
  | forwards => ["next"]
  | backwards => ["last", "prev", "previous"]

/-- The words that may end an expression. -/
def endings : Direction → List String
  | forwards => ["later", "from"]
  | backwards => ["ago", "to", "till"]

/-- The words that an anchor may follow. -/
def links : Direction → List String
  | forwards => ["from"]
  | backwards => ["to", "till"]

end Direction

namespace Relative

/-! ## Grammar -/

/-- An amount: an article, or a count of 32 bits. -/
inductive WritesAmount : String → Nat → Prop where
  | article {word : String} (h : word ∈ ["a", "an"]) : WritesAmount word 1
  | count {word : String} {n : Nat} (h : Number.WritesUInt32 word n) : WritesAmount word n

/-- Amounts with their units, joined by `and`. -/
inductive WritesShifts : List String → List Shift → Prop where
  | one {amount name : String} {n : Nat} {unit : DurationUnit} (ha : WritesAmount amount n)
    (hu : name ∈ unit.names) : WritesShifts [amount, name] [⟨n, unit⟩]
  | and {amount name : String} {n : Nat} {unit : DurationUnit} {words : List String}
    {shifts : List Shift} (ha : WritesAmount amount n) (hu : name ∈ unit.names)
    (h : WritesShifts words shifts) :
    WritesShifts (amount :: name :: "and" :: words) (⟨n, unit⟩ :: shifts)

/-- The words of an expression and what they mean. -/
inductive Writes : List String → Relative → Prop where
  | anchor (base : Anchor) : Writes [base.name] ⟨base, .forwards, []⟩
  | stepOne {word name : String} {direction : Direction} {unit : DurationUnit}
    (hd : word ∈ direction.stepWords) (hu : name ∈ unit.names) :
    Writes [word, name] ⟨.now, direction, [⟨1, unit⟩]⟩
  | step {word amount name : String} {direction : Direction} {n : Nat} {unit : DurationUnit}
    (hd : word ∈ direction.stepWords) (ha : WritesAmount amount n) (hu : name ∈ unit.names) :
    Writes [word, amount, name] ⟨.now, direction, [⟨n, unit⟩]⟩
  | shifts {words : List String} {shifts : List Shift} {word : String} {direction : Direction}
    (hs : WritesShifts words shifts) (hd : word ∈ direction.endings) :
    Writes (words ++ [word]) ⟨.now, direction, shifts⟩
  | shiftsBy {words : List String} {shifts : List Shift} {word : String} {direction : Direction}
    (hs : WritesShifts words shifts) (hd : word ∈ direction.links) (base : Anchor) :
    Writes (words ++ [word, base.name]) ⟨base, direction, shifts⟩

/-! ## Single words -/

section Words

variable {word : String} {n : Nat}

theorem ofWord?_eq_some_iff {unit : DurationUnit} :
    DurationUnit.ofWord? word = some unit ↔ word ∈ unit.names := by
  constructor
  · intro h
    unfold DurationUnit.ofWord? at h
    repeat' split at h
    all_goals
      rename_i hword
      cases h
    all_goals simpa [DurationUnit.names, or_assoc] using hword
  · intro h
    have hnames : ∀ unit ∈ [DurationUnit.second, .minute, .hour, .day, .week, .month, .year,
        .decade, .century, .millennium], ∀ word ∈ unit.names,
          DurationUnit.ofWord? word = some unit := by
      decide
    exact hnames unit (by cases unit <;> decide) word h

theorem unit_read_eq_ok_iff {unit : DurationUnit} :
    DurationUnit.read word = .ok unit ↔ word ∈ unit.names := by
  rw [← ofWord?_eq_some_iff, DurationUnit.read]
  cases DurationUnit.ofWord? word <;> simp

theorem anchor_read_eq_ok_iff {base : Anchor} : Anchor.read word = .ok base ↔ word = base.name := by
  constructor
  · intro h
    unfold Anchor.read Anchor.ofWord? at h
    split_ifs at h with h₁ h₂ h₃ h₄ <;> cases h <;> assumption
  · rintro rfl
    cases base <;> rfl

theorem direction?_eq_some_iff {direction : Direction} :
    direction? word = some direction ↔ word ∈ direction.stepWords := by
  constructor
  · intro h
    unfold direction? at h
    repeat' split at h
    all_goals
      rename_i hword
      cases h
    all_goals simpa [Direction.stepWords, or_assoc] using hword
  · intro h
    have hwords : ∀ direction : Direction, ∀ word ∈ direction.stepWords,
        direction? word = some direction := by
      decide
    exact hwords direction word h

/-- A word that may end an expression, where `true` says that an anchor may follow it. -/
theorem ending?_eq_some_iff {direction : Direction} {linked : Bool} :
    ending? word = some (direction, linked) ↔
      word ∈ direction.endings ∧ (linked = true ↔ word ∈ direction.links) := by
  constructor
  · intro h
    unfold ending? at h
    repeat' split at h
    all_goals cases h
    all_goals simp_all [Direction.endings, Direction.links]
  · rintro ⟨hword, hlinked⟩
    have hwords : ∀ direction : Direction, ∀ word ∈ direction.endings,
        ending? word = some (direction, decide (word ∈ direction.links)) := by
      decide
    have hlinked' : linked = decide (word ∈ direction.links) := by
      rw [Bool.eq_iff_iff, hlinked, decide_eq_true_eq]
    rw [hwords direction word hword, hlinked']

theorem readAmount_eq_ok_iff : readAmount word = .ok n ↔ WritesAmount word n := by
  unfold readAmount
  constructor
  · intro h
    split_ifs at h with harticle
    · cases h
      exact .article (by simpa using harticle)
    · refine .count (Number.readUInt32?_eq_some_iff.1 ?_)
      cases hread : Number.readUInt32? word with
      | none =>
        rw [hread] at h
        cases h
      | some m =>
        rw [hread] at h
        cases h
        rfl
  · intro h
    cases h with
    | article h => rw [if_pos (by simpa using h)]
    | count h =>
      have hread := Number.readUInt32?_eq_some_iff.2 h
      rw [if_neg, hread, Option.elim_some]
      -- An article is no count.
      intro harticle
      rw [Bool.or_eq_true, decide_eq_true_eq, decide_eq_true_eq] at harticle
      rcases harticle with rfl | rfl <;> cases hread

theorem readShift_eq_ok_iff {name : String} {shift : Shift} :
    readShift word name = .ok shift ↔
      WritesAmount word shift.amount ∧ name ∈ shift.unit.names := by
  obtain ⟨n, unit⟩ := shift
  rw [readShift, Except.bind_eq_ok]
  constructor
  · rintro ⟨m, hm, h⟩
    obtain ⟨found, hfound, h⟩ := Except.bind_eq_ok.1 h
    cases h
    exact ⟨readAmount_eq_ok_iff.1 hm, unit_read_eq_ok_iff.1 hfound⟩
  · rintro ⟨hn, hunit⟩
    refine ⟨n, readAmount_eq_ok_iff.2 hn, Except.bind_eq_ok.2 ⟨unit, ?_, rfl⟩⟩
    exact unit_read_eq_ok_iff.2 hunit

/-- An amount is none of the words before a single step. -/
theorem direction?_of_writesAmount (h : WritesAmount word n) : direction? word = none := by
  cases hd : direction? word with
  | none => rfl
  | some direction =>
    have hread := readAmount_eq_ok_iff.2 h
    have hwords : ∀ direction : Direction, ∀ word ∈ direction.stepWords,
        readAmount word = .error (.noAmount (some word)) := by
      decide
    rw [hwords direction word (direction?_eq_some_iff.1 hd)] at hread
    cases hread

end Words

/-! ## Shifts -/

section Shifts

variable {words rest : List String} {shifts : List Shift}

theorem readShifts_cons_cons (amount name : String) (rest : List String) :
    readShifts (amount :: name :: rest) = readShift amount name >>= fun shift =>
      if rest.head? = some "and" then
        readShifts rest.tail >>= fun more => .ok (shift :: more.1, more.2)
      else .ok ([shift], rest) := by
  rw [readShifts]
  refine congrArg (readShift amount name >>= ·) (funext fun shift => ?_)
  cases rest with
  | nil => rfl
  | cons word tail =>
    by_cases hand : word = "and"
    · subst hand
      rfl
    · simp [hand, pure, Except.pure]

/-- What is read of shifts is written as the grammar says, and goes on to the last `and`. -/
theorem writesShifts_of_readShifts (h : readShifts words = .ok (shifts, rest)) :
    ∃ front, words = front ++ rest ∧ WritesShifts front shifts ∧ rest.head? ≠ some "and" := by
  induction hlength : words.length using Nat.strongRecOn generalizing words shifts with
  | ind length ih =>
    match words, hlength with
    | [], _ => cases h
    | [amount], _ =>
      rw [readShifts] at h
      obtain ⟨n, -, h⟩ := Except.bind_eq_ok.1 h
      cases h
    | amount :: name :: after, hlength =>
      rw [readShifts_cons_cons] at h
      obtain ⟨⟨n, unit⟩, hshift, h⟩ := Except.bind_eq_ok.1 h
      obtain ⟨hamount, hunit⟩ := readShift_eq_ok_iff.1 hshift
      split_ifs at h with hand
      · obtain ⟨tail, rfl⟩ := List.head?_eq_some_iff.1 hand
        obtain ⟨⟨more, rest'⟩, hmore, h⟩ := Except.bind_eq_ok.1 h
        cases h
        have hshorter : tail.length < length := by
          simp only [List.length_cons] at hlength
          omega
        obtain ⟨front, hfront, hwrites, hrest⟩ := ih _ hshorter hmore rfl
        refine ⟨amount :: name :: "and" :: front, ?_, .and hamount hunit hwrites, hrest⟩
        rw [List.tail_cons] at hfront
        rw [hfront]
        rfl
      · cases h
        exact ⟨[amount, name], rfl, .one hamount hunit, hand⟩

theorem readShifts_of_writesShifts {front : List String} (h : WritesShifts front shifts)
    (hrest : rest.head? ≠ some "and") : readShifts (front ++ rest) = .ok (shifts, rest) := by
  induction h with
  | @one amount name n unit ha hu =>
    have hshift : readShift amount name = .ok ⟨n, unit⟩ := readShift_eq_ok_iff.2 ⟨ha, hu⟩
    rw [List.cons_append, List.cons_append, List.nil_append, readShifts_cons_cons, hshift]
    exact if_neg hrest
  | @and amount name n unit words shifts ha hu _ ih =>
    have hshift : readShift amount name = .ok ⟨n, unit⟩ := readShift_eq_ok_iff.2 ⟨ha, hu⟩
    rw [List.cons_append, List.cons_append, List.cons_append, readShifts_cons_cons, hshift]
    change (readShifts (words ++ rest) >>= fun more => Except.ok (⟨n, unit⟩ :: more.1, more.2)) = _
    rw [ih]
    rfl

/-- Shifts are read as the grammar says, up to the first word after a unit that is not `and`. -/
theorem readShifts_eq_ok_iff : readShifts words = .ok (shifts, rest) ↔
    ∃ front, words = front ++ rest ∧ WritesShifts front shifts ∧ rest.head? ≠ some "and" := by
  refine ⟨writesShifts_of_readShifts, ?_⟩
  rintro ⟨front, rfl, hwrites, hrest⟩
  exact readShifts_of_writesShifts hwrites hrest

/-- Shifts start with an amount and are at least two words. -/
theorem WritesShifts.exists_cons (h : WritesShifts words shifts) :
    ∃ amount name tail n, words = amount :: name :: tail ∧ WritesAmount amount n := by
  cases h with
  | one ha _ => exact ⟨_, _, _, _, rfl, ha⟩
  | and ha _ _ => exact ⟨_, _, _, _, rfl, ha⟩

end Shifts

/-! ## Whole expressions -/

section Expressions

variable {words : List String}

theorem mem_endings_of_mem_links {word : String} {direction : Direction}
    (h : word ∈ direction.links) : word ∈ direction.endings := by
  have hlinks : ∀ direction : Direction, ∀ word ∈ direction.links, word ∈ direction.endings := by
    decide
  exact hlinks direction word h

/-- After the shifts stands a word that ends the expression, or one with an anchor after it. -/
theorem readEnding_eq_ok_iff {base : Anchor} {direction : Direction} :
    readEnding words = .ok (base, direction) ↔
      (∃ word ∈ direction.endings, words = [word] ∧ base = .now) ∨
        ∃ word ∈ direction.links, words = [word, base.name] := by
  constructor
  · intro h
    unfold readEnding at h
    split at h
    · cases h
    · rename_i word rest
      split at h
      · cases h
      · rename_i hword
        cases h
        exact .inl ⟨word, (ending?_eq_some_iff.1 hword).1, rfl, rfl⟩
      · rename_i name hword
        obtain ⟨found, hfound, h⟩ := Except.bind_eq_ok.1 h
        cases h
        refine .inr ⟨word, (ending?_eq_some_iff.1 hword).2.1 rfl, ?_⟩
        rw [anchor_read_eq_ok_iff.1 hfound]
      · cases h
  · rintro (⟨word, hword, rfl, rfl⟩ | ⟨word, hword, rfl⟩)
    · have hending : ending? word = some (direction, decide (word ∈ direction.links)) :=
        ending?_eq_some_iff.2 ⟨hword, decide_eq_true_iff⟩
      simp only [readEnding, hending]
    · have hending : ending? word = some (direction, true) :=
        ending?_eq_some_iff.2 ⟨mem_endings_of_mem_links hword, iff_of_true rfl hword⟩
      simp only [readEnding, hending]
      exact Except.bind_eq_ok.2 ⟨base, anchor_read_eq_ok_iff.2 rfl, rfl⟩

/-- A single step is a unit, perhaps with an amount before it. -/
theorem readStep_eq_ok_iff {shift : Shift} : readStep words = .ok shift ↔
    (∃ name ∈ shift.unit.names, words = [name] ∧ shift.amount = 1) ∨
      ∃ amount name, words = [amount, name] ∧ WritesAmount amount shift.amount ∧
        name ∈ shift.unit.names := by
  constructor
  · intro h
    unfold readStep at h
    split at h
    · cases h
    · rename_i name
      obtain ⟨unit, hunit, h⟩ := Except.bind_eq_ok.1 h
      cases h
      exact .inl ⟨name, unit_read_eq_ok_iff.1 hunit, rfl, rfl⟩
    · exact .inr ⟨_, _, rfl, readShift_eq_ok_iff.1 h⟩
    · obtain ⟨found, -, h⟩ := Except.bind_eq_ok.1 h
      cases h
  · obtain ⟨n, unit⟩ := shift
    rintro (⟨name, hunit, rfl, rfl⟩ | ⟨amount, name, rfl, hshift⟩)
    · exact Except.bind_eq_ok.2 ⟨unit, unit_read_eq_ok_iff.2 hunit, rfl⟩
    · exact readShift_eq_ok_iff.2 hshift

theorem readWords_of_direction? {first second : String} {rest : List String}
    {direction : Direction} (h : direction? first = some direction) :
    readWords (first :: second :: rest) =
      readStep (second :: rest) >>= fun shift => .ok ⟨.now, direction, [shift]⟩ := by
  rw [readWords, h]
  · rfl
  · simp

theorem readWords_of_direction?_none {first second : String} {rest : List String}
    (h : direction? first = none) : readWords (first :: second :: rest) =
      readShifts (first :: second :: rest) >>= fun read =>
        readEnding read.2 >>= fun ending => .ok ⟨ending.1, ending.2, read.1⟩ := by
  rw [readWords, h]
  · rfl
  · simp

theorem writes_of_readWords {r : Relative} (h : readWords words = .ok r) : Writes words r := by
  match words with
  | [] => cases h
  | [word] =>
    obtain ⟨base, hbase, h⟩ := Except.bind_eq_ok.1 h
    cases h
    rw [anchor_read_eq_ok_iff.1 hbase]
    exact .anchor base
  | first :: second :: rest =>
    cases hfirst : direction? first with
    | some direction =>
      rw [readWords_of_direction? hfirst] at h
      have hstep := direction?_eq_some_iff.1 hfirst
      obtain ⟨⟨n, unit⟩, hshift, h⟩ := Except.bind_eq_ok.1 h
      cases h
      obtain ⟨name, hunit, hwords, rfl⟩ | ⟨amount, name, hwords, hamount, hunit⟩ :=
        readStep_eq_ok_iff.1 hshift
      · rw [hwords]
        exact .stepOne hstep hunit
      · rw [hwords]
        exact .step hstep hamount hunit
    | none =>
      rw [readWords_of_direction?_none hfirst] at h
      obtain ⟨⟨shifts, after⟩, hshifts, h⟩ := Except.bind_eq_ok.1 h
      obtain ⟨⟨base, direction⟩, hending, h⟩ := Except.bind_eq_ok.1 h
      cases h
      obtain ⟨front, hfront, hwrites, -⟩ := readShifts_eq_ok_iff.1 hshifts
      rw [hfront]
      obtain ⟨word, hword, rfl, rfl⟩ | ⟨word, hword, rfl⟩ := readEnding_eq_ok_iff.1 hending
      · exact .shifts hwrites hword
      · exact .shiftsBy hwrites hword base

/-- Shifts and what ends the expression are read one after the other. -/
theorem readWords_of_writesShifts {shifts : List Shift} {after : List String} {base : Anchor}
    {direction : Direction} (h : WritesShifts words shifts)
    (hafter : readEnding after = .ok (base, direction)) :
    readWords (words ++ after) = .ok ⟨base, direction, shifts⟩ := by
  have hand : after.head? ≠ some "and" := by
    intro hhead
    obtain ⟨tail, rfl⟩ := List.head?_eq_some_iff.1 hhead
    cases hafter
  have hshifts := readShifts_of_writesShifts h hand
  obtain ⟨amount, name, tail, n, rfl, hamount⟩ := h.exists_cons
  rw [List.cons_append, List.cons_append] at hshifts ⊢
  rw [readWords_of_direction?_none (direction?_of_writesAmount hamount), hshifts]
  exact Except.bind_eq_ok.2 ⟨_, rfl, Except.bind_eq_ok.2 ⟨_, hafter, rfl⟩⟩

theorem readWords_of_writes {r : Relative} (h : Writes words r) : readWords words = .ok r := by
  cases h with
  | anchor base => exact Except.bind_eq_ok.2 ⟨base, anchor_read_eq_ok_iff.2 rfl, rfl⟩
  | stepOne hd hu =>
    rw [readWords_of_direction? (direction?_eq_some_iff.2 hd)]
    exact Except.bind_eq_ok.2 ⟨_, readStep_eq_ok_iff.2 (.inl ⟨_, hu, rfl, rfl⟩), rfl⟩
  | step hd ha hu =>
    rw [readWords_of_direction? (direction?_eq_some_iff.2 hd)]
    exact Except.bind_eq_ok.2 ⟨_, readStep_eq_ok_iff.2 (.inr ⟨_, _, rfl, ha, hu⟩), rfl⟩
  | shifts hs hd =>
    exact readWords_of_writesShifts hs (readEnding_eq_ok_iff.2 (.inl ⟨_, hd, rfl, rfl⟩))
  | shiftsBy hs hd base =>
    exact readWords_of_writesShifts hs (readEnding_eq_ok_iff.2 (.inr ⟨_, hd, rfl⟩))

/-- Words are read just if the grammar has them, and mean what it says. -/
theorem readWords_eq_ok_iff {r : Relative} : readWords words = .ok r ↔ Writes words r :=
  ⟨writes_of_readWords, readWords_of_writes⟩

/-! ## Errors of reading -/

theorem readAmount_ne_outOfRange (word : String) : readAmount word ≠ .error .outOfRange := by
  unfold readAmount
  split
  · exact nofun
  · cases Number.readUInt32? word <;> exact nofun

theorem unit_read_ne_outOfRange (word : String) :
    DurationUnit.read word ≠ .error .outOfRange := by
  unfold DurationUnit.read
  cases DurationUnit.ofWord? word <;> exact nofun

theorem anchor_read_ne_outOfRange (word : String) : Anchor.read word ≠ .error .outOfRange := by
  unfold Anchor.read
  cases Anchor.ofWord? word <;> exact nofun

theorem readShift_ne_outOfRange (amount name : String) :
    readShift amount name ≠ .error .outOfRange :=
  Except.bind_ne_error (readAmount_ne_outOfRange amount) fun _ =>
    Except.bind_ne_error (unit_read_ne_outOfRange name) fun _ => nofun

theorem readShifts_ne_outOfRange (words : List String) :
    readShifts words ≠ .error .outOfRange := by
  induction hlength : words.length using Nat.strongRecOn generalizing words with
  | ind length ih =>
    match words, hlength with
    | [], _ => exact nofun
    | [amount], _ => exact Except.bind_ne_error (readAmount_ne_outOfRange amount) fun _ => nofun
    | amount :: name :: rest, hlength =>
      rw [readShifts_cons_cons]
      refine Except.bind_ne_error (readShift_ne_outOfRange amount name) fun shift => ?_
      split
      · have hshorter : rest.tail.length < length := by
          rw [List.length_tail]
          simp only [List.length_cons] at hlength
          omega
        exact Except.bind_ne_error (ih _ hshorter rest.tail rfl) fun _ => nofun
      · exact nofun

theorem readEnding_ne_outOfRange (words : List String) :
    readEnding words ≠ .error .outOfRange := by
  unfold readEnding
  split
  · exact nofun
  · split
    · exact nofun
    · exact nofun
    · exact Except.bind_ne_error (anchor_read_ne_outOfRange _) fun _ => nofun
    · exact nofun

theorem readStep_ne_outOfRange (words : List String) : readStep words ≠ .error .outOfRange := by
  unfold readStep
  split
  · exact nofun
  · exact Except.bind_ne_error (unit_read_ne_outOfRange _) fun _ => nofun
  · exact readShift_ne_outOfRange _ _
  · exact Except.bind_ne_error (readShift_ne_outOfRange _ _) fun _ => nofun

/-- That the calendar does not reach a moment is never found out while reading. -/
theorem read_ne_outOfRange (text : String) : read text ≠ .error .outOfRange := by
  unfold read
  split
  · unfold readWords
    split
    · exact nofun
    · exact Except.bind_ne_error (anchor_read_ne_outOfRange _) fun _ => nofun
    · split
      · exact Except.bind_ne_error (readStep_ne_outOfRange _) fun _ => nofun
      · exact Except.bind_ne_error (readShifts_ne_outOfRange _) fun _ =>
          Except.bind_ne_error (readEnding_ne_outOfRange _) fun _ => nofun
  · exact nofun

end Expressions

/-! ## Moments -/

/-- The text is `@` and words of the grammar, in any letter case and between any number of
hyphens. -/
def IsExpression (text : String) : Prop :=
  ∃ body r, text.toList = '@' :: body ∧ Writes (words body) r

variable {text : String} {now : DateTime}

/-- The text is an expression that means `r`. -/
def Expresses (text : String) (r : Relative) : Prop :=
  ∃ body, text.toList = '@' :: body ∧ Writes (words body) r

theorem read_eq_ok_iff {r : Relative} : read text = .ok r ↔ Expresses text r := by
  unfold Expresses read
  split
  · rename_i body hbody
    rw [readWords_eq_ok_iff, hbody]
    simp
  · rename_i hmark
    exact iff_of_false nofun fun ⟨body, hbody, _⟩ => hmark body hbody

theorem isExpression_iff : IsExpression text ↔ ∃ r, read text = .ok r := by
  unfold IsExpression
  rw [exists_comm]
  exact exists_congr fun r => read_eq_ok_iff.symm

instance : Decidable (IsExpression text) :=
  match hread : read text with
  | .ok r => isTrue (isExpression_iff.2 ⟨r, hread⟩)
  | .error e => isFalse fun h => by
    obtain ⟨r, hr⟩ := isExpression_iff.1 h
    cases hread.symm.trans hr

/-- What is read is placed in time. -/
theorem resolve_of_read_ok {r : Relative} (h : read text = .ok r) :
    resolve text now = (r.at? now).elim (.error .outOfRange) .ok := by
  rw [resolve, h]
  rfl

theorem resolve_of_read_error {e : RelativeError} (h : read text = .error e) :
    resolve text now = .error e := by
  rw [resolve, h]
  rfl

/-- **Grammar.** A text has a moment, or one that the calendar does not reach, just if it is an
expression of the grammar. Any other text has one of the other errors. -/
theorem resolve_placed_iff (text : String) (now : DateTime) :
    ((∃ t, resolve text now = .ok t) ∨ resolve text now = .error .outOfRange ↔
      IsExpression text) ∧
    ((∃ e, e ≠ .outOfRange ∧ resolve text now = .error e) ↔ ¬ IsExpression text) := by
  cases hread : read text with
  | ok r =>
    have hexpression : IsExpression text := isExpression_iff.2 ⟨r, hread⟩
    rw [resolve_of_read_ok hread]
    cases r.at? now <;> simp [hexpression]
  | error e =>
    have hexpression : ¬ IsExpression text := by
      rintro h
      obtain ⟨r, hr⟩ := isExpression_iff.1 h
      cases hread.symm.trans hr
    have he : e ≠ .outOfRange := by
      rintro rfl
      exact read_ne_outOfRange text hread
    rw [resolve_of_read_error hread]
    simp [hexpression, he]

example : IsExpression "@a-Week-and-+02-hours--TILL-tomorrow" ∧
    ¬ IsExpression "@a-week-and-till-tomorrow" ∧ ¬ IsExpression "@next-from" := by
  decide +kernel

end Relative

end SearchQuery
