import Mathlib.Order.Bounds.Basic
import Mathlib.Order.MinMax
import Mathlib.Tactic.Common
import SearchQuery.Text.EditDistance

/-!
# The least number of edits

An edit changes one character anywhere in a text, and edits may undo each other. An alignment makes
its edits from the front to the end, one at a place, so that its last one tells how the entries of
two rows go together.

* `Edits.exists_alignment`: there is an alignment of no more edits than any others.
* `isDistance_concat`: the distance of two texts with one more character each.
* `holdsTo_writeRow`: a row that is being written is right as far as it has been.
* `editDistance_isLeast`: the edit distance is the least number of edits.
-/

namespace SearchQuery.Text

/-! ## Edits -/

/-- One character is inserted, deleted or substituted. -/
inductive Edit : List Char → List Char → Prop
  | insert (before after : List Char) (c : Char) : Edit (before ++ after) (before ++ c :: after)
  | delete (before after : List Char) (c : Char) : Edit (before ++ c :: after) (before ++ after)
  | substitute (before after : List Char) (c d : Char) :
    Edit (before ++ c :: after) (before ++ d :: after)

/-- A number of edits, one after another, turns one text into another. -/
inductive Edits : Nat → List Char → List Char → Prop
  | none (s : List Char) : Edits 0 s s
  | next {n : Nat} {s t u : List Char} : Edits n s t → Edit t u → Edits (n + 1) s u

/-- `n` is the least number of edits that turn one text into another. -/
def IsDistance (s t : List Char) (n : Nat) : Prop := IsLeast {k | Edits k s t} n

variable {s t u : List Char} {n : Nat} {c : Char}

namespace Edit

theorem cons (c : Char) (h : Edit s t) : Edit (c :: s) (c :: t) := by
  cases h with
  | insert before after d => exact insert (c :: before) after d
  | delete before after d => exact delete (c :: before) after d
  | substitute before after d e => exact substitute (c :: before) after d e

theorem reverse (h : Edit s t) : Edit s.reverse t.reverse := by
  cases h with
  | insert before after c => simpa using insert after.reverse before.reverse c
  | delete before after c => simpa using delete after.reverse before.reverse c
  | substitute before after c d => simpa using substitute after.reverse before.reverse c d

theorem nil_left (h : Edit [] t) : ∃ c, t = [c] := by
  generalize hs : [] = s at h
  cases h with
  | insert before after c =>
    obtain ⟨rfl, rfl⟩ := List.append_eq_nil_iff.1 hs.symm
    exact ⟨c, rfl⟩
  | delete before after c | substitute before after c d => simp at hs

/-- An edit is one of the first character or one behind it. -/
theorem cons_left (h : Edit (c :: s) t) :
    (∃ d, t = d :: c :: s) ∨ t = s ∨ (∃ d, t = d :: s) ∨ ∃ t', t = c :: t' ∧ Edit s t' := by
  generalize hs : c :: s = s' at h
  cases h with
  | insert before after d =>
    cases before with
    | nil =>
      cases hs
      exact .inl ⟨d, rfl⟩
    | cons b before =>
      cases hs
      exact .inr (.inr (.inr ⟨_, rfl, insert before after d⟩))
  | delete before after d =>
    cases before with
    | nil =>
      cases hs
      exact .inr (.inl rfl)
    | cons b before =>
      cases hs
      exact .inr (.inr (.inr ⟨_, rfl, delete before after d⟩))
  | substitute before after d e =>
    cases before with
    | nil =>
      cases hs
      exact .inr (.inr (.inl ⟨e, rfl⟩))
    | cons b before =>
      cases hs
      exact .inr (.inr (.inr ⟨_, rfl, substitute before after d e⟩))

end Edit

namespace Edits

theorem cons (c : Char) (h : Edits n s t) : Edits n (c :: s) (c :: t) := by
  induction h with
  | none s => exact none (c :: s)
  | next _ hedit ih => exact ih.next (hedit.cons c)

theorem reverse (h : Edits n s t) : Edits n s.reverse t.reverse := by
  induction h with
  | none s => exact none s.reverse
  | next _ hedit ih => exact ih.next hedit.reverse

theorem reverse_iff : Edits n s.reverse t.reverse ↔ Edits n s t := by
  refine ⟨fun h => ?_, reverse⟩
  have hback := h.reverse
  rwa [List.reverse_reverse, List.reverse_reverse] at hback

end Edits

theorem isDistance_reverse : IsDistance s.reverse t.reverse n ↔ IsDistance s t n := by
  simp only [IsDistance, Edits.reverse_iff]

/-! ## Alignments -/

/-- One text is turned into another from its front to its end, by a number of edits: at each place a
character is kept, inserted, deleted or substituted. -/
inductive Alignment : Nat → List Char → List Char → Prop
  | nil : Alignment 0 [] []
  | keep {n : Nat} {s t : List Char} (c : Char) : Alignment n s t → Alignment n (c :: s) (c :: t)
  | insert {n : Nat} {s t : List Char} (c : Char) : Alignment n s t → Alignment (n + 1) s (c :: t)
  | delete {n : Nat} {s t : List Char} (c : Char) : Alignment n s t → Alignment (n + 1) (c :: s) t
  | substitute {n : Nat} {s t : List Char} (c d : Char) :
    Alignment n s t → Alignment (n + 1) (c :: s) (d :: t)

namespace Alignment

theorem refl : (s : List Char) → Alignment 0 s s
  | [] => nil
  | c :: s => (refl s).keep c

theorem nil_left_iff : Alignment n [] t ↔ n = t.length := by
  constructor
  · intro h
    induction t generalizing n with
    | nil => cases h; rfl
    | cons c t ih =>
      cases h with
      | insert _ h => rw [ih h, List.length_cons]
  · rintro rfl
    induction t with
    | nil => exact nil
    | cons c t ih => exact ih.insert c

theorem symm (h : Alignment n s t) : Alignment n t s := by
  induction h with
  | nil => exact nil
  | keep c _ ih => exact ih.keep c
  | insert c _ ih => exact ih.delete c
  | delete c _ ih => exact ih.insert c
  | substitute c d _ ih => exact ih.substitute d c

theorem nil_right_iff : Alignment n s [] ↔ n = s.length := by
  rw [← nil_left_iff]
  exact ⟨symm, symm⟩

/-- The edits of an alignment, made from the end to the front. -/
theorem edits (h : Alignment n s t) : Edits n s t := by
  induction h with
  | nil => exact .none []
  | keep c _ ih => exact ih.cons c
  | @insert _ _ t c _ ih => exact ih.next (.insert [] t c)
  | @delete _ _ t c _ ih => exact (ih.cons c).next (.delete [] t c)
  | @substitute _ _ t c d _ ih => exact (ih.cons c).next (.substitute [] t c d)

/-- One more edit takes at most one more in an alignment. -/
theorem edit (h : Alignment n s t) (hedit : Edit t u) : ∃ m ≤ n + 1, Alignment m s u := by
  induction h generalizing u with
  | nil =>
    obtain ⟨c, rfl⟩ := hedit.nil_left
    exact ⟨1, Nat.le_refl _, nil.insert c⟩
  | @keep n s t c h ih =>
    -- the edit is one of the character at the front, or it is made behind it
    obtain ⟨d, rfl⟩ | rfl | ⟨d, rfl⟩ | ⟨u, rfl, hbehind⟩ := hedit.cons_left
    · exact ⟨n + 1, Nat.le_refl _, (h.keep c).insert d⟩
    · exact ⟨n + 1, Nat.le_refl _, h.delete c⟩
    · exact ⟨n + 1, Nat.le_refl _, h.substitute c d⟩
    · obtain ⟨m, hm, hu⟩ := ih hbehind
      exact ⟨m, hm, hu.keep c⟩
  | @insert n s t c h ih =>
    obtain ⟨d, rfl⟩ | rfl | ⟨d, rfl⟩ | ⟨u, rfl, hbehind⟩ := hedit.cons_left
    · exact ⟨n + 2, Nat.le_refl _, (h.insert c).insert d⟩
    · exact ⟨n, by omega, h⟩
    · exact ⟨n + 1, by omega, h.insert d⟩
    · obtain ⟨m, hm, hu⟩ := ih hbehind
      exact ⟨m + 1, by omega, hu.insert c⟩
  | @delete n s t c h ih =>
    obtain ⟨m, hm, hu⟩ := ih hedit
    exact ⟨m + 1, by omega, hu.delete c⟩
  | @substitute n s t c c' h ih =>
    obtain ⟨d, rfl⟩ | rfl | ⟨d, rfl⟩ | ⟨u, rfl, hbehind⟩ := hedit.cons_left
    · exact ⟨n + 2, Nat.le_refl _, (h.substitute c c').insert d⟩
    · exact ⟨n + 1, by omega, h.delete c⟩
    · exact ⟨n + 1, by omega, h.substitute c d⟩
    · obtain ⟨m, hm, hu⟩ := ih hbehind
      exact ⟨m + 1, by omega, hu.substitute c c'⟩

end Alignment

/-- Edits in any order are no fewer than those of some alignment. -/
theorem Edits.exists_alignment (h : Edits n s t) : ∃ m ≤ n, Alignment m s t := by
  induction h with
  | none s => exact ⟨0, Nat.le_refl _, .refl s⟩
  | next _ hedit ih =>
    obtain ⟨m, hm, h⟩ := ih
    obtain ⟨m', hm', h'⟩ := h.edit hedit
    exact ⟨m', by omega, h'⟩

theorem isDistance_iff : IsDistance s t n ↔ IsLeast {k | Alignment k s t} n := by
  constructor
  · rintro ⟨hmem, hleast⟩
    obtain ⟨m, hm, h⟩ := hmem.exists_alignment
    obtain rfl : m = n := Nat.le_antisymm hm (hleast h.edits)
    exact ⟨h, fun k hk => hleast hk.edits⟩
  · rintro ⟨hmem, hleast⟩
    refine ⟨hmem.edits, fun k hk => ?_⟩
    obtain ⟨m, hm, h⟩ := Edits.exists_alignment hk
    exact (hleast h).trans hm

/-! ## Distances of longer texts -/

theorem isDistance_nil_left (t : List Char) : IsDistance [] t t.length := by
  rw [isDistance_iff]
  exact ⟨Alignment.nil_left_iff.2 rfl, fun k hk => (Alignment.nil_left_iff.1 hk).ge⟩

theorem isDistance_nil_right (s : List Char) : IsDistance s [] s.length := by
  rw [isDistance_iff]
  exact ⟨Alignment.nil_right_iff.2 rfl, fun k hk => (Alignment.nil_right_iff.1 hk).ge⟩

/-- Two texts with one more character each at the front: the least alignment deletes the one,
inserts the other, or puts the two against each other. -/
theorem isDistance_cons {d : Char} {i j k : Nat} (hdelete : IsDistance s (d :: t) i)
    (hinsert : IsDistance (c :: s) t j) (hboth : IsDistance s t k) :
    IsDistance (c :: s) (d :: t) (min (min (i + 1) (j + 1)) (k + if c = d then 0 else 1)) := by
  rw [isDistance_iff] at hdelete hinsert hboth ⊢
  have hagainst : Alignment (k + if c = d then 0 else 1) (c :: s) (d :: t) := by
    split
    · rename_i heq
      subst heq
      exact hboth.1.keep c
    · exact hboth.1.substitute c d
  constructor
  · exact min_rec' (Alignment · _ _)
      (min_rec' (Alignment · _ _) (hdelete.1.delete c) (hinsert.1.insert d)) hagainst
  · intro m hm
    cases hm with
    | keep _ h =>
      have hle := hboth.2 h
      rw [if_pos rfl]
      omega
    | insert _ h =>
      have hle := hinsert.2 h
      omega
    | delete _ h =>
      have hle := hdelete.2 h
      omega
    | substitute _ _ h =>
      have hle := hboth.2 h
      split <;> omega

/-- Two texts with one more character each at the end. -/
theorem isDistance_concat {d : Char} {i j k : Nat} (hdelete : IsDistance s (t ++ [d]) i)
    (hinsert : IsDistance (s ++ [c]) t j) (hboth : IsDistance s t k) :
    IsDistance (s ++ [c]) (t ++ [d]) (min (min (i + 1) (j + 1)) (k + if c = d then 0 else 1)) := by
  rw [← isDistance_reverse, List.reverse_concat] at hdelete hinsert
  rw [← isDistance_reverse] at hboth
  rw [← isDistance_reverse, List.reverse_concat, List.reverse_concat]
  exact isDistance_cons hdelete hinsert hboth

/-! ## Rows -/

/-- The entries of a row up to place `k` are the distances from a text to the parts of another
before their places. -/
def HoldsTo (text : Array Char) (read : List Char) (row : Vector Nat (text.size + 1)) (k : Nat) :
    Prop :=
  ∀ j (hj : j < text.size + 1), j ≤ k → IsDistance read (text.toList.take j) row[j]

variable {text : Array Char} {read : List Char} {last : Vector Nat (text.size + 1)}
  {rows : DistanceRows text.size}

/-- A row is right as far as it has been written, whatever it held before. -/
theorem holdsTo_writeRow (hlast : HoldsTo text read last text.size) (c : Char)
    (row : Vector Nat (text.size + 1)) : (k : Nat) → (h : k ≤ text.size) →
    HoldsTo text (read ++ [c]) (writeRow text c (read.length + 1) last row k h) k
  | 0, _ => by
    intro j hj hle
    obtain rfl := Nat.le_zero.1 hle
    have hread := isDistance_nil_right (read ++ [c])
    rw [List.length_append, List.length_singleton] at hread
    rwa [List.take_zero, writeRow, Vector.getElem_set_self]
  | k + 1, h => by
    -- the entry is written from the one above it, the one to its left and the one above that
    have hwritten := holdsTo_writeRow hlast c row k (Nat.le_of_succ_le h)
    have htake : text.toList.take (k + 1) = text.toList.take k ++ [text[k]] := by
      rw [List.take_succ_eq_append_getElem (by rwa [Array.length_toList]), Array.getElem_toList]
    intro j hj hle
    rw [writeRow]
    rcases Nat.lt_or_eq_of_le hle with hlt | rfl
    · rw [Vector.getElem_set_ne _ _ (by omega)]
      exact hwritten j hj (by omega)
    · rw [Vector.getElem_set_self, htake]
      apply isDistance_concat
      · rw [← htake]
        exact hlast _ _ h
      · exact hwritten k _ (Nat.le_refl k)
      · exact hlast k _ (by omega)

/-- One more character leaves the last row right. -/
theorem holdsTo_advance (h : HoldsTo text read rows.last text.size) (c : Char) :
    HoldsTo text (read ++ [c]) (rows.advance text (c, read.length)).last text.size :=
  holdsTo_writeRow h c rows.spare text.size (Nat.le_refl _)

/-- The last row is right whatever is read. -/
theorem holdsTo_foldl_advance (rest : List Char) (h : HoldsTo text read rows.last text.size) :
    HoldsTo text (read ++ rest)
      ((rest.zipIdx read.length).foldl (DistanceRows.advance text) rows).last text.size := by
  induction rest generalizing read rows with
  | nil => simpa using h
  | cons c rest ih =>
    have hrest := ih (holdsTo_advance h c)
    rw [List.append_assoc, List.length_append] at hrest
    exact hrest

/-- The row before anything is read. -/
theorem holdsTo_range (text : Array Char) :
    HoldsTo text [] (Vector.range (text.size + 1)) text.size := by
  intro j hj hle
  have hempty := isDistance_nil_left (text.toList.take j)
  rw [List.length_take, Array.length_toList, Nat.min_eq_left hle] at hempty
  rwa [Vector.getElem_range]

/-- The last entry of the last row is the distance of the whole texts. -/
theorem isDistance_last (text : Array Char) (read : List Char)
    (spare : Vector Nat (text.size + 1)) :
    IsDistance read text.toList ((read.zipIdx.foldl (DistanceRows.advance text)
      ⟨Vector.range (text.size + 1), spare⟩).last[text.size]) := by
  have hstart : HoldsTo text [] (DistanceRows.mk _ spare).last text.size := holdsTo_range text
  have hlast := holdsTo_foldl_advance read hstart text.size (Nat.lt_succ_self _) (Nat.le_refl _)
  rwa [List.take_of_length_le (by rw [Array.length_toList])] at hlast

/-- **Edit distance.** The edit distance between two texts is the least number of characters to
insert, delete and substitute that turns the one into the other. -/
theorem editDistance_isLeast (s t : String) :
    IsLeast {n | Edits n s.toList t.toList} (editDistance s t) := by
  rw [editDistance]
  split
  · rename_i hempty
    rw [List.isEmpty_iff.1 hempty]
    exact isDistance_nil_left t.toList
  split
  · rename_i hempty
    rw [List.isEmpty_toArray, List.isEmpty_iff] at hempty
    rw [hempty]
    exact isDistance_nil_right s.toList
  · exact isDistance_last t.toList.toArray s.toList _

/-- Two substitutions and an insertion at the end. -/
example : editDistance "kitten" "sitting" = 3 := rfl

end SearchQuery.Text
