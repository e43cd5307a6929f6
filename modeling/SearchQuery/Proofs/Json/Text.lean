import Mathlib.Data.List.TakeDrop
import Mathlib.Tactic.Common
import Mathlib.Tactic.IntervalCases
import SearchQuery.Json.Printer
import SearchQuery.Json.Reader
import SearchQuery.Proofs.Text.CodePoint

/-!
# Compact JSON reads back

A reader of JSON may go no deeper than it has levels, so a value that is written compactly is read
back if it nests no deeper, and is refused if it does. Values with numbers are left aside.

* `readString?_stringText`: strings.
* `readContainer?_intercalate`: what is written between brackets, by what is read of its parts.
* `readValue?_render`: values without numbers.
-/

namespace SearchQuery.Json

/-- The reader takes all of this text, whatever follows it, for a value, or refuses it if there is
none. -/
def Takes {α : Type} (read : List Char → Reading α) (text : List Char) (value : Option α) : Prop :=
  ∀ rest, read (text ++ rest) = value.map (·, rest)

/-! ## Strings -/

theorem unicodeEscape?_append {text : List Char} {c : Char} {used : Nat}
    (h : unicodeEscape? text = some (c, used)) (tail : List Char) :
    unicodeEscape? (text ++ tail) = some (c, used) := by
  unfold unicodeEscape? at h
  split at h
  · cases h
  · rename_i hbrace
    split at h
    · rename_i n m hcode
      rw [unicodeEscape?, Text.Escape.codePoint_append hcode tail]
      · exact h
      · intro rest hrest
        cases text with
        | nil => cases hcode
        | cons d text =>
          cases hrest
          exact hbrace _ rfl
    · cases h

/-- Control characters without a letter of their own are written as four digits. -/
theorem stringChar_control {c : Char} (h : c.toNat < 32)
    (hletter : c ∉ ['\x08', '\x0c', '\n', '\r', '\t']) :
    ∃ digits, (stringChar c).toList = '\\' :: 'u' :: digits ∧ digits.length = 4 ∧
      unicodeEscape? digits = some (c, 4) := by
  generalize hn : c.toNat = n at h
  have hc : c = Char.ofNat n := by rw [← hn, Char.ofNat_toNat]
  subst hc
  interval_cases n
  all_goals first
    | exact ⟨_, rfl, rfl, rfl⟩
    | exact absurd (by decide) hletter

theorem readStringRest?_stringChar (c : Char) (rest : List Char) :
    readStringRest? ((stringChar c).toList ++ rest) =
      (readStringRest? rest).map fun (text, rest) => (c :: text, rest) := by
  by_cases hletter : c ∈ ['"', '\\', '\x08', '\x0c', '\n', '\r', '\t']
  · simp only [List.mem_cons, List.not_mem_nil, or_false] at hletter
    rcases hletter with rfl | rfl | rfl | rfl | rfl | rfl | rfl <;>
      simp [stringChar, readStringRest?, escape?]
  simp only [List.mem_cons, List.not_mem_nil, or_false, not_or] at hletter
  by_cases hcontrol : c.toNat < 32
  · obtain ⟨digits, hc, hlength, hread⟩ := stringChar_control hcontrol (by simp [hletter])
    rw [hc, List.cons_append, List.cons_append, readStringRest?, unicodeEscape?_append hread]
    simp only [List.drop_left' hlength]
  · have hself : (stringChar c).toList = [c] := by
      have hsmall : ¬ c.toNat < 16 := by omega
      simp [stringChar, hletter, hcontrol, hsmall]
    rw [hself, List.singleton_append, readStringRest?]
    · simp [hletter, hcontrol]
    all_goals simp [hletter]

theorem stringText_toList (s : String) :
    (stringText s).toList = '"' :: (s.toList.flatMap (fun c => (stringChar c).toList) ++ ['"']) := by
  simp [stringText, List.flatMap_map]

theorem readStringRest?_flatMap (text rest : List Char) :
    readStringRest? (text.flatMap (fun c => (stringChar c).toList) ++ '"' :: rest) =
      some (text, rest) := by
  induction text with
  | nil => simp [readStringRest?]
  | cons c text ih =>
    rw [List.flatMap_cons, List.append_assoc, readStringRest?_stringChar, ih]
    rfl

theorem readString?_stringText (s : String) : Takes readString? (stringText s).toList (some s) := by
  intro rest
  rw [stringText_toList, List.cons_append, List.append_assoc, List.singleton_append, readString?,
    readStringRest?_flatMap]
  simp

/-! ## Containers -/

/-- A part starts neither with a blank nor with the closing bracket. -/
def Opens (close : Char) (text : List Char) : Prop :=
  ∃ c cs, text = c :: cs ∧ isBlank c = false ∧ c ≠ close

theorem skipBlanks_cons {c : Char} (h : isBlank c = false) (rest : List Char) :
    skipBlanks (c :: rest) = c :: rest := by
  rw [skipBlanks, List.dropWhile_cons, if_neg (by simp [h])]

theorem Opens.skipBlanks {close : Char} {text : List Char} (h : Opens close text)
    (rest : List Char) : skipBlanks (text ++ rest) = text ++ rest := by
  obtain ⟨c, cs, rfl, hc, -⟩ := h
  exact skipBlanks_cons hc _

section Parts

variable {α β : Type} {part : List Char → Reading α} {close : Char} {write : β → List Char}
  {value : β → Option α} {xs : List β}

theorem length_le_intercalate (h : ∀ x ∈ xs, Opens close (write x)) :
    xs.length ≤ ([','].intercalate (xs.map write)).length := by
  induction xs with
  | nil => exact Nat.zero_le _
  | cons x xs ih =>
    rw [List.forall_mem_cons] at h
    obtain ⟨⟨c, cs, hx, -⟩, hxs⟩ := h
    have hlength := ih hxs
    cases xs with
    | nil => simp [hx]
    | cons y xs =>
      rw [List.map_cons, List.map_cons, List.intercalate_cons_cons, ← List.map_cons, hx]
      simp only [List.length_append, List.length_cons] at hlength ⊢
      omega

variable (hclose : isBlank close = false ∧ close ≠ ',')
  (hparts : ∀ x ∈ xs, Opens close (write x) ∧ Takes part (write x) (value x))

include hclose hparts

/-- Parts with commas between them are read as their values, if all of them have one. -/
theorem readParts?_intercalate (hne : xs ≠ []) {fuel : Nat} (hfuel : xs.length ≤ fuel)
    (rest : List Char) :
    readParts? part close fuel ([','].intercalate (xs.map write) ++ close :: rest) =
      (xs.mapM value).map (·, rest) := by
  induction xs generalizing fuel with
  | nil => exact absurd rfl hne
  | cons x xs ih =>
    rw [List.forall_mem_cons] at hparts
    obtain ⟨⟨hopens, htakes⟩, hparts⟩ := hparts
    obtain ⟨fuel, rfl⟩ := Nat.exists_eq_add_one_of_ne_zero (show fuel ≠ 0 by
      rw [List.length_cons] at hfuel
      omega)
    rw [List.mapM_cons]
    cases xs with
    | nil =>
      rw [List.map_singleton, List.intercalate_singleton, readParts?, hopens.skipBlanks, htakes]
      cases value x with
      | none => rfl
      | some a => simp [skipBlanks_cons hclose.1]
    | cons y ys =>
      have hcomma : isBlank ',' = false := by decide
      have hne' : ',' ≠ close := hclose.2.symm
      rw [List.map_cons, List.map_cons, List.intercalate_cons_cons, ← List.map_cons,
        List.append_assoc, List.append_assoc, readParts?, hopens.skipBlanks, htakes]
      cases value x with
      | none => rfl
      | some a =>
        have hrest := ih hparts (by simp) (Nat.le_of_succ_le_succ hfuel)
        simp only [Option.map_some, List.singleton_append, skipBlanks_cons hcomma, if_neg hne',
          if_true, hrest]
        cases (y :: ys).mapM value <;> rfl

/-- Nothing, or parts with commas between them, up to the closing bracket. -/
theorem readContainer?_intercalate (rest : List Char) :
    readContainer? part close ([','].intercalate (xs.map write) ++ close :: rest) =
      (xs.mapM value).map (·, rest) := by
  cases xs with
  | nil => simp [readContainer?, skipBlanks_cons hclose.1]
  | cons x xs =>
    have hlength := length_le_intercalate fun x hx => (hparts x hx).1
    obtain ⟨⟨c, cs, hx, hblank, hc⟩, -⟩ := hparts x List.mem_cons_self
    obtain ⟨tail, htail⟩ : ∃ tail,
        [','].intercalate ((x :: xs).map write) ++ close :: rest = c :: tail := by
      cases xs with
      | nil => exact ⟨cs ++ close :: rest, by simp [hx]⟩
      | cons y ys => exact ⟨_, by
          rw [List.map_cons, List.map_cons, List.intercalate_cons_cons, hx]
          rfl⟩
    have hparts := readParts?_intercalate hclose hparts (by simp)
      (Nat.le_trans hlength (Nat.le_add_right _ (close :: rest).length)) rest
    rw [readContainer?, htail, skipBlanks_cons hblank]
    simp only [if_neg hc]
    rw [← htail, List.length_append]
    exact hparts

end Parts

/-! ## Nesting -/

mutual

/-- How deep arrays and objects nest in a value. -/
def nesting : Json → Nat
  | array elements => nestingAll elements + 1
  | object members => nestingMembers members + 1
  | _ => 0

/-- How deep arrays and objects nest in the elements of an array. -/
def nestingAll : List Json → Nat
  | [] => 0
  | element :: elements => max element.nesting (nestingAll elements)

/-- How deep arrays and objects nest in the members of an object. -/
def nestingMembers : List (String × Json) → Nat
  | [] => 0
  | (_, value) :: members => max value.nesting (nestingMembers members)

end

theorem nestingAll_le {elements : List Json} {n : Nat}
    (h : ∀ element ∈ elements, element.nesting ≤ n) : nestingAll elements ≤ n := by
  induction elements with
  | nil => exact Nat.zero_le n
  | cons element elements ih =>
    rw [List.forall_mem_cons] at h
    exact Nat.max_le.2 ⟨h.1, ih h.2⟩

/-- The value, if it nests no deeper than there are levels. -/
def within (levels : Nat) (json : Json) : Option Json :=
  if json.nesting ≤ levels then some json else none

theorem mapM_within (levels : Nat) (elements : List Json) :
    elements.mapM (within levels) = if nestingAll elements ≤ levels then some elements else none := by
  induction elements with
  | nil => rfl
  | cons element elements ih =>
    rw [List.mapM_cons, ih, within, nestingAll]
    by_cases h : element.nesting ≤ levels <;> by_cases hs : nestingAll elements ≤ levels <;>
      simp [h, hs]

theorem mapM_within_members (levels : Nat) (members : List (String × Json)) :
    (members.mapM fun member => (member.2.within levels).map (member.1, ·)) =
      if nestingMembers members ≤ levels then some members else none := by
  induction members with
  | nil => rfl
  | cons member members ih =>
    rw [List.mapM_cons, ih, within, nestingMembers]
    by_cases h : member.2.nesting ≤ levels <;> by_cases hs : nestingMembers members ≤ levels <;>
      simp [h, hs]

/-! ## Values -/

/-- There is no number in the value. -/
inductive NumberFree : Json → Prop where
  | null : NumberFree null
  | bool {b : Bool} : NumberFree (bool b)
  | string {s : String} : NumberFree (string s)
  | array {elements : List Json} (h : ∀ element ∈ elements, NumberFree element) :
    NumberFree (array elements)
  | object {members : List (String × Json)} (h : ∀ member ∈ members, NumberFree member.2) :
    NumberFree (object members)

theorem renderElements_eq_map (layout : Layout) (level : Nat) (elements : List Json) :
    renderElements layout level elements = elements.map (render layout level) := by
  induction elements with
  | nil => rfl
  | cons element elements ih => rw [renderElements, ih, List.map_cons]

theorem renderMembers_eq_map (layout : Layout) (level : Nat) (members : List (String × Json)) :
    renderMembers layout level members = members.map fun member =>
      stringText member.1 ++ ":" ++ layout.afterColon ++ member.2.render layout level := by
  induction members with
  | nil => rfl
  | cons member members ih => rw [renderMembers, ih, List.map_cons]

theorem enclose_compact_toList (level : Nat) (start stop : String) (parts : List String) :
    (enclose compact level start stop parts).toList =
      start.toList ++ [','].intercalate (parts.map String.toList) ++ stop.toList := by
  cases parts with
  | nil => simp [enclose]
  | cons part parts => simp [enclose, compact, String.toList_intercalate]

/-- A value as one of several. -/
def written (level : Nat) (json : Json) : List Char := (json.render compact level).toList

/-- A member as one of several. -/
def writtenMember (level : Nat) (member : String × Json) : List Char :=
  (stringText member.1).toList ++ ':' :: member.2.written level

theorem written_null (level : Nat) : null.written level = "null".toList := by
  rw [written, render]

theorem written_bool (level : Nat) (b : Bool) :
    (bool b).written level = (if b then "true" else "false").toList := by
  rw [written, render]

theorem written_string (level : Nat) (s : String) :
    (string s).written level = (stringText s).toList := by
  rw [written, render]

theorem written_array (level : Nat) (elements : List Json) :
    (array elements).written level =
      '[' :: ([','].intercalate (elements.map (written (level + 1))) ++ [']']) := by
  rw [written, render, enclose_compact_toList, renderElements_eq_map, List.map_map]
  rfl

theorem written_object (level : Nat) (members : List (String × Json)) :
    (object members).written level =
      '\x7b' :: ([','].intercalate (members.map (writtenMember (level + 1))) ++ ['\x7d']) := by
  have hmember (member : String × Json) :
      (stringText member.1 ++ ":" ++ compact.afterColon ++
        member.2.render compact (level + 1)).toList = writtenMember (level + 1) member := by
    simp [writtenMember, written, compact]
  rw [written, render, enclose_compact_toList, renderMembers_eq_map, List.map_map]
  simp only [Function.comp_def, hmember]
  rfl

theorem isBlank_brackets : (isBlank ']' = false ∧ ']' ≠ ',') ∧
    (isBlank '\x7d' = false ∧ '\x7d' ≠ ',') := by decide

/-- A value is told from its first character. -/
theorem NumberFree.opens {json : Json} (h : json.NumberFree) (level : Nat) :
    Opens ']' (json.written level) := by
  cases h with
  | null => exact ⟨'n', _, written_null level, by decide, by decide⟩
  | @bool b =>
    cases b with
    | false => exact ⟨'f', _, written_bool level false, by decide, by decide⟩
    | true => exact ⟨'t', _, written_bool level true, by decide, by decide⟩
  | @string s =>
    exact ⟨'"', _, (written_string level s).trans (stringText_toList s), by decide, by decide⟩
  | @array elements => exact ⟨'[', _, written_array level elements, by decide, by decide⟩
  | @object members => exact ⟨'\x7b', _, written_object level members, by decide, by decide⟩

theorem opens_writtenMember (level : Nat) (member : String × Json) :
    Opens '\x7d' (writtenMember level member) := by
  unfold Opens
  rw [writtenMember, stringText_toList]
  exact ⟨'"', _, rfl, by decide, by decide⟩

theorem readName?_append (name : String) (json : Json) (rest : List Char) :
    readName? name json (name.toList ++ rest) = some (json, rest) := by
  rw [readName?, List.take_left' String.length_toList, List.drop_left' String.length_toList,
    if_pos rfl]

/-- No container starts where no level is left. -/
theorem readValue?_zero {c : Char} (hc : c = '[' ∨ c = '\x7b') (rest : List Char) :
    readValue? 0 (c :: rest) = none := by
  have hdigit : Number.isDigit c = false := by rcases hc with rfl | rfl <;> decide
  have hspan : Number.spanDigits (c :: rest) = ([], c :: rest) := by
    simp [Number.spanDigits, List.span_eq_takeWhile_dropWhile, hdigit]
  rcases hc with rfl | rfl <;>
    simp [readValue?, readNumber?, readNumberText?, readUnsigned?, hspan]

/-- A member is read by the way that its key asks for. -/
theorem readMember?_writtenMember {value : String → List Char → Reading Json} {level : Nat}
    {member : String × Json} {json : Option Json} (hfree : member.2.NumberFree)
    (h : Takes (value member.1) (member.2.written level) json) :
    Takes (readMember? value) (writtenMember level member) (json.map (member.1, ·)) := by
  intro rest
  have hcolon : isBlank ':' = false := by decide
  rw [writtenMember, List.append_assoc, readMember?, readString?_stringText]
  simp only [Option.map_some, Option.bind_eq_bind, Option.bind_some, List.cons_append,
    skipBlanks_cons hcolon, (hfree.opens level).skipBlanks, h rest]
  cases json <;> rfl

/-- **Compact JSON reads back.** A value without numbers is read as itself where there are levels
for it, and refused where there are too few. -/
theorem readValue?_written {json : Json} (h : json.NumberFree) (level levels : Nat) :
    Takes (readValue? levels) (json.written level) (json.within levels) := by
  induction h generalizing level levels with
  | null =>
    intro rest
    have hname : readValue? levels ("null".toList ++ rest) =
        readName? "null" null ("null".toList ++ rest) := by simp [readValue?]
    rw [written_null, hname, readName?_append]
    simp [within, nesting]
  | @bool b =>
    intro rest
    have htrue : readValue? levels ("true".toList ++ rest) =
        readName? "true" (bool true) ("true".toList ++ rest) := by simp [readValue?]
    have hfalse : readValue? levels ("false".toList ++ rest) =
        readName? "false" (bool false) ("false".toList ++ rest) := by simp [readValue?]
    rw [written_bool]
    cases b with
    | false =>
      simp only [Bool.false_eq_true, if_false, hfalse, readName?_append]
      simp [within, nesting]
    | true =>
      simp only [if_true, htrue, readName?_append]
      simp [within, nesting]
  | @string s =>
    intro rest
    have hread := readString?_stringText s rest
    rw [stringText_toList] at hread
    rw [written_string, stringText_toList, List.cons_append, readValue?, ← List.cons_append, hread]
    simp [within, nesting]
  | @array elements h ih =>
    intro rest
    rw [written_array, List.cons_append, List.append_assoc, List.singleton_append]
    cases levels with
    | zero =>
      rw [readValue?_zero (.inl rfl)]
      simp [within, nesting]
    | succ levels =>
      have hparts : ∀ element ∈ elements, Opens ']' (element.written (level + 1)) ∧
          Takes (readValue? levels) (element.written (level + 1)) (element.within levels) :=
        fun element helement =>
          ⟨(h element helement).opens _, ih element helement (level + 1) levels⟩
      rw [readValue?, readContainer?_intercalate isBlank_brackets.1 hparts, mapM_within, within,
        nesting]
      by_cases hdeep : nestingAll elements ≤ levels <;> simp [hdeep]
  | @object members h ih =>
    intro rest
    rw [written_object, List.cons_append, List.append_assoc, List.singleton_append]
    cases levels with
    | zero =>
      rw [readValue?_zero (.inr rfl)]
      simp [within, nesting]
    | succ levels =>
      have hparts : ∀ member ∈ members, Opens '\x7d' (writtenMember (level + 1) member) ∧
          Takes (readMember? fun _ => readValue? levels) (writtenMember (level + 1) member)
            ((member.2.within levels).map (member.1, ·)) :=
        fun member hmember =>
          ⟨opens_writtenMember _ member, readMember?_writtenMember (h member hmember)
            (ih member hmember (level + 1) levels)⟩
      rw [readValue?, readContainer?_intercalate isBlank_brackets.2 hparts, mapM_within_members,
        within, nesting]
      by_cases hdeep : nestingMembers members ≤ levels <;> simp [hdeep]

/-! ## Whole texts -/

/-- A text that a reader takes is read as its value. -/
theorem readWith?_of_takes {α : Type} {read : List Char → Reading α} {text : String} {close : Char}
    {value : Option α} (hopens : Opens close text.toList) (h : Takes read text.toList value) :
    readWith? read text = value := by
  have hread := h []
  have hblanks := hopens.skipBlanks []
  rw [List.append_nil] at hread hblanks
  rw [readWith?, hblanks, hread]
  cases value <;> rfl

end SearchQuery.Json
