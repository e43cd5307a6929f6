import Mathlib.Data.List.Basic
import Mathlib.Tactic.Common
import SearchQuery.Item.Reader

/-!
# More levels

Tokens that are read where there are more levels give the same items, or fail for the same reason,
unless levels were what was missing. `Raised` says this of two outcomes. Each reader has a lemma of
this form; those of a level assume it of the level below (`Inside.Raised`).

* `readSequence_raised`, `readAt_raised`: the readers of one level.
* `ofTokens_raised`: the items of tokens.
-/

namespace SearchQuery.Item

/-- The outcome `s` is that of `r` with more levels: the same, unless `r` was out of levels. -/
def Raised {α : Type} (r s : Except ParseError α) : Prop :=
  (∃ limit pos, r = .error (.tooDeep limit pos)) ∨ s = r

namespace Raised

variable {α β : Type} {r s : Except ParseError α}

theorem refl (r : Except ParseError α) : Raised r r := .inr rfl

theorem tooDeep (limit : Nat) (pos : Position) (s : Except ParseError α) :
    Raised (.error (.tooDeep limit pos)) s := .inl ⟨limit, pos, rfl⟩

theorem map (h : Raised r s) (f : α → β) : Raised (r.map f) (s.map f) := by
  obtain ⟨limit, pos, rfl⟩ | rfl := h
  · exact tooDeep limit pos _
  · exact refl _

theorem eq_ok {a : α} (h : Raised (.ok a) s) : s = .ok a := by
  obtain ⟨limit, pos, ⟨⟩⟩ | rfl := h
  rfl

end Raised

/-- The readers of `j` are those of `i` with more levels. -/
structure Inside.Raised (i j : Inside) : Prop where
  item (tokens : List Token) : Item.Raised (i.item tokens) (j.item tokens)
  items (tokens : List Token) : Item.Raised (i.items tokens) (j.items tokens)

section Readers

variable {limit limit' : Nat} {inside inside' : Option Inside}

/-! ## Values -/

theorem readGroup_raised (hinside : ∀ i ∈ inside, ∃ j ∈ inside', i.Raised j) (pos : Position)
    (contents : List Token) :
    Raised (readGroup limit inside pos contents) (readGroup limit' inside' pos contents) := by
  cases inside with
  | none => exact .tooDeep limit pos _
  | some i =>
    obtain ⟨j, rfl, hraised⟩ := hinside i rfl
    exact (hraised.items contents).map (Item.group pos)

theorem readValue_raised (hinside : ∀ i ∈ inside, ∃ j ∈ inside', i.Raised j)
    (tokens : List Token) :
    Raised (readValue limit inside tokens) (readValue limit' inside' tokens) := by
  unfold readValue
  split
  · exact .refl _
  · split
    · exact .refl _
    · exact .refl _
    · split
      · exact .refl _
      · exact (readGroup_raised hinside _ _).map _
      · exact .refl _
      · exact .refl _

theorem requireValue_raised (hinside : ∀ i ∈ inside, ∃ j ∈ inside', i.Raised j) (after : Token)
    (tokens : List Token) :
    Raised (requireValue limit inside after tokens) (requireValue limit' inside' after tokens) := by
  unfold requireValue
  obtain ⟨n, pos, h⟩ | h := readValue_raised hinside tokens
  · rw [h]
    exact .tooDeep n pos _
  · rw [h]
    exact .refl _

/-! ## Ranges and lists -/

theorem readStop_raised (hinside : ∀ i ∈ inside, ∃ j ∈ inside', i.Raised j) (pos : Position)
    (start : Item) (tokens : List Token) :
    Raised (readStop limit inside pos start tokens) (readStop limit' inside' pos start tokens) := by
  unfold readStop
  obtain ⟨n, place, h⟩ | h := readValue_raised hinside tokens
  · rw [h]
    exact .tooDeep n place _
  · rw [h]
    exact .refl _

theorem readValues_raised (hinside : ∀ i ∈ inside, ∃ j ∈ inside', i.Raised j) (fuel : Nat)
    (tokens : List Token) :
    Raised (readValues limit inside fuel tokens) (readValues limit' inside' fuel tokens) := by
  induction fuel generalizing tokens with
  | zero => exact .refl _
  | succ fuel ih =>
    unfold readValues
    obtain ⟨n, pos, h⟩ | h := readValue_raised hinside tokens
    · rw [h]
      exact .tooDeep n pos _
    · rw [h]
      split
      · exact .refl _
      · exact .refl _
      · exact (ih _).map _
      · exact .refl _

theorem readSuffix_raised (hinside : ∀ i ∈ inside, ∃ j ∈ inside', i.Raised j) (first : Item)
    (tokens : List Token) :
    Raised (readSuffix limit inside first tokens) (readSuffix limit' inside' first tokens) := by
  unfold readSuffix
  split
  · exact readStop_raised hinside _ _ _
  · exact (readValues_raised hinside _ _).map _
  · exact .refl _

/-! ## Items -/

theorem readPair_raised (hinside : ∀ i ∈ inside, ∃ j ∈ inside', i.Raised j) (key : Item)
    (tokens : List Token) :
    Raised (readPair limit inside key tokens) (readPair limit' inside' key tokens) := by
  cases tokens with
  | nil => exact .refl _
  | cons first rest =>
    simp only [readPair]
    split
    · exact .refl _
    · cases inside with
      | none => exact .tooDeep limit key.position _
      | some i =>
        obtain ⟨j, rfl, hraised⟩ := hinside i rfl
        exact (hraised.item (first :: rest)).map _

theorem readItem_raised (hinside : ∀ i ∈ inside, ∃ j ∈ inside', i.Raised j)
    (tokens : List Token) :
    Raised (readItem limit inside tokens) (readItem limit' inside' tokens) := by
  unfold readItem
  split
  · exact .refl _
  · rename_i first rest
    split
    · exact (readGroup_raised hinside _ _).map _
    · exact (requireValue_raised hinside _ _).map _
    · exact readStop_raised hinside _ _ _
    · split
      · exact readPair_raised hinside _ _
      · rename_i rest _ _ _
        obtain ⟨n, pos, h⟩ | h := requireValue_raised hinside first (first :: rest)
        · rw [h]
          exact .tooDeep n pos _
        · rw [h]
          split
          · exact .refl _
          · exact readSuffix_raised hinside _ _

end Readers

/-! ## Sequences -/

theorem readParts_raised {reader reader' : List Token → Reading}
    (hreader : ∀ tokens, Raised (reader tokens) (reader' tokens)) (fuel : Nat)
    (tokens : List Token) :
    Raised (readParts reader fuel tokens) (readParts reader' fuel tokens) := by
  induction fuel generalizing tokens with
  | zero => cases tokens <;> exact .refl _
  | succ fuel ih =>
    cases tokens with
    | nil => exact .refl _
    | cons first rest =>
      rw [readParts, readParts]
      split
      · exact ih rest
      · split
        · exact (ih rest).map _
        · obtain ⟨n, pos, h⟩ | h := hreader (first :: rest)
          · rw [h]
            exact .tooDeep n pos _
          · rw [h]
            split
            · exact .refl _
            · exact (ih _).map _

theorem readSequence_raised {limit limit' levels levels' : Nat}
    {reader reader' : Nat → List Token → Reading} (hlevels : levels ≤ levels')
    (hreader : ∀ {below below'}, below ≤ below' →
      ∀ tokens, Raised (reader below tokens) (reader' below' tokens))
    (tokens : List Token) :
    Raised (readSequence limit reader levels tokens)
      (readSequence limit' reader' levels' tokens) := by
  unfold readSequence
  dsimp only
  -- If there are too few levels for the keywords, nothing is read.
  cases hcount : (tokens.filter fun t => (connective? t).isSome)[levels]? with
  | some t => exact .tooDeep limit t.position _
  | none =>
    have hcount' : (tokens.filter fun t => (connective? t).isSome)[levels']? = none := by
      rw [List.getElem?_eq_none_iff] at hcount ⊢
      omega
    rw [hcount']
    obtain ⟨n, pos, h⟩ | h :=
      readParts_raised (hreader (Nat.sub_le_sub_right hlevels _)) tokens.length tokens
    · rw [h]
      exact .tooDeep n pos _
    · rw [h]
      exact .refl _

/-- The readers of the next level, if there is one. -/
def insideAt (limit : Nat) : (fuel levels : Nat) → Option Inside
  | fuel + 1, levels + 1 =>
    some ⟨readAt limit fuel levels, readSequence limit (readAt limit fuel) levels⟩
  | _, _ => none

theorem readAt_eq (limit fuel levels : Nat) (tokens : List Token) :
    readAt limit fuel levels tokens = readItem limit (insideAt limit fuel levels) tokens := by
  cases fuel with
  | zero => rw [readAt, insideAt] <;> simp
  | succ fuel => cases levels <;> rfl

theorem readAt_raised (limit limit' : Nat) {fuel fuel' levels levels' : Nat} (hfuel : fuel ≤ fuel')
    (hlevels : levels ≤ levels') (tokens : List Token) :
    Raised (readAt limit fuel levels tokens) (readAt limit' fuel' levels' tokens) := by
  induction fuel generalizing fuel' levels levels' tokens with
  | zero =>
    rw [readAt_eq, readAt_eq, insideAt]
    · exact readItem_raised (by simp) tokens
    · simp
  | succ fuel ih =>
    rw [readAt_eq, readAt_eq]
    refine readItem_raised ?_ tokens
    cases levels with
    | zero => simp [insideAt]
    | succ levels =>
      obtain ⟨fuel', rfl⟩ := Nat.exists_eq_add_one_of_ne_zero (show fuel' ≠ 0 by omega)
      obtain ⟨levels', rfl⟩ := Nat.exists_eq_add_one_of_ne_zero (show levels' ≠ 0 by omega)
      have hfuel := Nat.le_of_succ_le_succ hfuel
      have hlevels := Nat.le_of_succ_le_succ hlevels
      rintro _ ⟨⟩
      exact ⟨_, rfl, ih hfuel hlevels, readSequence_raised hlevels (ih hfuel)⟩

/-- Tokens that are read on their own are read as a group where one more level is left. -/
theorem readAt_group {limit limit' fuel levels : Nat} {contents : List Token} {items : List Item}
    (h : ofTokens limit contents = .ok items) (hfuel : limit < fuel) (hlevels : limit < levels)
    (pos : Position) (rest : List Token) :
    readAt limit' fuel levels (.group pos contents :: rest) = .ok (.group pos items, rest) := by
  obtain ⟨fuel, rfl⟩ := Nat.exists_eq_add_one_of_ne_zero (show fuel ≠ 0 by omega)
  obtain ⟨levels, rfl⟩ := Nat.exists_eq_add_one_of_ne_zero (show levels ≠ 0 by omega)
  have hraised : Raised (ofTokens limit contents)
      (readSequence limit' (readAt limit' fuel) levels contents) :=
    readSequence_raised (Nat.le_of_lt_succ hlevels)
      (readAt_raised limit limit' (Nat.le_of_lt_succ hfuel)) contents
  rw [h] at hraised
  simp only [readAt, readItem, readGroup, hraised.eq_ok, Except.map]

/-- Tokens are read as the same items under a higher limit, unless the lower one was too low. -/
theorem ofTokens_raised {limit limit' : Nat} (h : limit ≤ limit') (tokens : List Token) :
    Raised (ofTokens limit tokens) (ofTokens limit' tokens) :=
  readSequence_raised h (fun hbelow => readAt_raised limit limit' h hbelow) tokens

end SearchQuery.Item
