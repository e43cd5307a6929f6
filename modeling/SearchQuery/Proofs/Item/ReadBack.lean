import Mathlib.Data.List.Basic
import Mathlib.Tactic.Common
import SearchQuery.Proofs.Item.Placement
import SearchQuery.Proofs.Item.Reading

/-!
# Written items read back

* `readBack` is what a written item is read as: a list of one item is no list any more, and
  positions are those of the tokens.
* `readAt_spell`, `ofTokens_spell`: the tokens of a term or of a sequence are read as it, given the
  levels that it takes.

The lemmas follow the readers, as those of what reading gives do.
-/

namespace SearchQuery

namespace Item

open Token

/-- The item as it reads back. -/
def readBack (item : Item) : Item := item.collapse.unplaced

/-- The items as they read back. -/
def readBackAll (items : List Item) : List Item := unplacedAll (collapseAll items)

theorem readBackAll_eq_map (items : List Item) : readBackAll items = items.map readBack := by
  induction items with
  | nil => rfl
  | cons item items ih =>
    rw [List.map_cons, ← ih]
    rfl

theorem readBackAll_ne_nil {items : List Item} (h : items ≠ []) : readBackAll items ≠ [] := by
  rw [readBackAll_eq_map]
  simpa using h

theorem unplaced_listed (pos : Position) (items : List Item) :
    (listed pos items).unplaced = listed .start (unplacedAll items) := by
  rcases items with _ | ⟨item, _ | ⟨next, items⟩⟩ <;> rfl

theorem readBack_list (pos : Position) (items : List Item) :
    (list pos items).readBack = listed .start (readBackAll items) :=
  unplaced_listed pos _

theorem position_readBack (item : Item) : item.readBack.position = .start :=
  position_unplaced_item _

theorem IsPiece.readBack {item : Item} (h : IsPiece item) : IsPiece item.readBack := by
  cases h with
  | name h =>
    cases h with
    | word h => exact .name (.word h)
    | quote => exact .name .quote
  | wildcard => exact .wildcard
  | anyChar => exact .anyChar

theorem IsPiece.readBack_eq {item : Item} (h : IsPiece item) : item.readBack = item.unplaced := by
  cases h with
  | name h => cases h <;> rfl
  | _ => rfl

theorem IsPiece.position_of_spell {item : Item} {t : Token} (h : IsPiece item)
    (ht : item.spell = [t]) : t.position = .start := by
  cases h with
  | name h => cases h <;> cases ht <;> rfl
  | _ => cases ht; rfl

theorem readBackAll_pieces {pieces : List Item} (h : ∀ piece ∈ pieces, IsPiece piece) :
    readBackAll pieces = unplacedAll pieces := by
  rw [readBackAll_eq_map, unplacedAll_eq_map]
  exact List.map_congr_left fun piece hpiece => (h piece hpiece).readBack_eq

end Item

/-- The part as it reads back. -/
def Part.readBack : Part → Part
  | item i => item i.readBack
  | and _ => and .start
  | or _ => or .start
  | not _ => not .start

namespace Item

open Token

variable {limit levels : Nat} {inside : Option Inside} {rest : List Token} {item : Item}

/-! ## Values -/

theorem ofWord?_text (k : Text.Keyword) : Text.Keyword.ofWord? k.text = some k := by
  cases k <;> decide

/-- Pieces are read up to what is no piece. -/
theorem pieces_spell {items : List Item} (h : ∀ item ∈ items, IsPiece item)
    (hrest : ∀ t ∈ rest.head?, piece? t = none) :
    pieces (items.flatMap spell ++ rest) = (unplacedAll items, rest) := by
  induction items with
  | nil =>
    cases rest with
    | nil => rfl
    | cons t rest => simp [pieces, hrest t rfl, unplacedAll]
  | cons item items ih =>
    rw [List.forall_mem_cons] at h
    obtain ⟨t, hspell, -, hpiece⟩ := h.1.exists_token
    rw [List.flatMap_cons, hspell, List.singleton_append, List.cons_append, pieces, hpiece, ih h.2]
    rfl

/-- Readers that read back what is written, `levels` deep. -/
structure Inside.ReadsBack (levels : Nat) (inside : Inside) : Prop where
  item {i : Item} {rest : List Token} (hi : IsTerm i) (hlevels : i.nesting 1 ≤ levels)
    (hrest : breaks rest) : inside.item (i.spell ++ rest) = .ok (i.readBack, rest)
  items {is : List Item} (his : IsSequence IsTerm is) (hlevels : Item.levels 1 is ≤ levels) :
    inside.items (spellAll [blank] is) = .ok (readBackAll is)

/-- The readers of the level below, if there is one, read back what is written. -/
def ReadsBackBelow (levels : Nat) (inside : Option Inside) : Prop :=
  ∀ below, levels = below + 1 → ∃ readers ∈ inside, readers.ReadsBack below

theorem readValue_piece {tokens : List Token} (h : pieces tokens = ([item], rest)) :
    readValue limit inside tokens = .ok (some (item, rest)) := by
  cases tokens with
  | nil => cases h
  | cons first tail =>
    unfold readValue
    dsimp only
    rw [h]

theorem readValue_pattern {first : Token} {tail : List Token} {items : List Item}
    (h : pieces (first :: tail) = (items, rest)) (hlength : 2 ≤ items.length) :
    readValue limit inside (first :: tail) =
      .ok (some (.pattern first.position items, rest)) := by
  obtain ⟨piece, other, others, rfl⟩ : ∃ piece other others, items = piece :: other :: others := by
    rcases items with _ | ⟨piece, _ | ⟨other, others⟩⟩
    · simp at hlength
    · simp at hlength
    · exact ⟨piece, other, others, rfl⟩
  unfold readValue
  dsimp only
  rw [h]

variable (limit inside) in
theorem readValue_plain (h : IsPlain item) (hrest : ∀ t ∈ rest.head?, piece? t = none) :
    readValue limit inside (item.spell ++ rest) = .ok (some (item.readBack, rest)) := by
  cases h with
  | null =>
    have hkeyword : Text.Keyword.ofWord? Text.Keyword.null.text = some .null := ofWord?_text .null
    have hpieces : pieces (.word .start Text.Keyword.null.text :: rest) =
        ([], .word .start Text.Keyword.null.text :: rest) := by
      simp [pieces, piece?, name?, hkeyword]
    unfold readValue
    rw [Item.spell, List.singleton_append]
    dsimp only
    rw [hpieces]
    simp [keyword?, hkeyword, Token.position, readBack, collapse, unplaced]
  | piece h =>
    have hpieces : pieces ([item].flatMap spell ++ rest) = _ := pieces_spell (by simpa using h) hrest
    rw [h.readBack_eq]
    exact readValue_piece (by simpa [unplacedAll] using hpieces)
  | @pattern pos pieces hpieces hlength _ =>
    have hread := pieces_spell hpieces hrest
    have hlength' : 2 ≤ (unplacedAll pieces).length := by rwa [unplacedAll_eq_map, List.length_map]
    obtain ⟨piece, others, rfl⟩ := List.exists_cons_of_length_pos (show 0 < pieces.length by omega)
    obtain ⟨t, hspell, -, -⟩ := (hpieces piece (by simp)).exists_token
    rw [List.flatMap_cons, hspell, List.singleton_append, List.cons_append] at hread
    rw [Item.spell, spellAll_nil, List.flatMap_cons, hspell, List.singleton_append,
      List.cons_append, readValue_pattern hread hlength',
      (hpieces piece (by simp)).position_of_spell hspell, ← readBackAll_pieces hpieces]
    rfl
  | @pin pos target h =>
    obtain ⟨t, hspell, -, hname⟩ := h.exists_token
    have htarget : readTarget (.sign .start .pin) (t :: rest) =
        .ok (.pin .start target.unplaced, rest) := by
      rw [readTarget, hname]
      rfl
    rw [Item.spell, hspell]
    change (readTarget (.sign .start .pin) (t :: rest)).map some = _
    rw [htarget, ← (IsPiece.name h).readBack_eq]
    rfl

/-! ## Groups -/

theorem readGroup_spell (hinside : ReadsBackBelow levels inside) {pos : Position}
    {items : List Item} (h : IsSequence IsTerm items)
    (hlevels : (group pos items).nesting 1 ≤ levels) :
    readGroup limit inside .start (spellAll [blank] items) = .ok (group pos items).readBack := by
  obtain ⟨below, rfl⟩ := Nat.exists_eq_add_one_of_ne_zero
    (show levels ≠ 0 by rw [nesting] at hlevels; omega)
  obtain ⟨readers, hreaders, hback⟩ := hinside below rfl
  cases hreaders
  rw [readGroup, hback.items h (Nat.le_of_succ_le_succ hlevels)]
  rfl

variable (limit) in
theorem readValue_spell (hinside : ReadsBackBelow levels inside) (h : IsValue IsTerm item)
    (hlevels : item.nesting 1 ≤ levels) (hrest : ∀ t ∈ rest.head?, piece? t = none) :
    readValue limit inside (item.spell ++ rest) = .ok (some (item.readBack, rest)) := by
  cases h with
  | plain h => exact readValue_plain limit inside h hrest
  | @group pos items h =>
    rw [Item.spell]
    change (readGroup limit inside .start (spellAll [blank] items)).map _ = _
    rw [readGroup_spell hinside h hlevels]
    rfl

theorem piece?_of_breaks (h : breaks rest) : ∀ t ∈ rest.head?, piece? t = none := by
  rintro t ht
  cases rest with
  | nil => cases ht
  | cons u rest =>
    cases ht
    cases t <;> first | rfl | cases h

/-! ## Ranges and lists -/

variable (limit) in
theorem readStop_spell (hinside : ReadsBackBelow levels inside) (pos : Position) (start : Item)
    {stop : Item} (h : IsBound (IsValue IsTerm) stop) (hlevels : stop.nesting 1 ≤ levels)
    (hrest : breaks rest) :
    readStop limit inside pos start (stop.spell ++ rest) =
      .ok (.range pos start stop.readBack, rest) := by
  cases h with
  | «open» =>
    rw [Item.spell, List.nil_append, readStop, readValue_of_breaks hrest]
    rfl
  | value h => rw [readStop, readValue_spell limit hinside h hlevels (piece?_of_breaks hrest)]

theorem length_le_spellTail (items : List Item) : items.length ≤ (spellTail items).length := by
  induction items with
  | nil => exact Nat.le_refl _
  | cons item items ih =>
    simp only [spellTail, List.flatMap_cons, List.length_append, List.length_cons] at *
    omega

/-- Values between commas read back up to the end of the list. -/
theorem readValues_spell (hinside : ReadsBackBelow levels inside) (hrest : breaks rest)
    {first : Item} {items : List Item} (hfirst : IsValue IsTerm first)
    (hitems : ∀ item ∈ items, IsValue IsTerm item) (hlevels : nestingAll 1 (first :: items) ≤ levels)
    {fuel : Nat} (hfuel : items.length < fuel) :
    readValues limit inside fuel (first.spell ++ (spellTail items ++ rest)) =
      .ok (readBackAll (first :: items), rest) := by
  induction items generalizing first fuel with
  | nil =>
    obtain ⟨fuel, rfl⟩ := Nat.exists_eq_add_one_of_ne_zero (show fuel ≠ 0 by simp at hfuel; omega)
    rw [nestingAll, Nat.max_le] at hlevels
    unfold readValues
    rw [spellTail, List.flatMap_nil, List.nil_append,
      readValue_spell limit hinside hfirst hlevels.1 (piece?_of_breaks hrest)]
    cases rest with
    | nil => rfl
    | cons t rest => cases t <;> first | rfl | cases hrest
  | cons next items ih =>
    obtain ⟨fuel, rfl⟩ := Nat.exists_eq_add_one_of_ne_zero (show fuel ≠ 0 by omega)
    rw [nestingAll, Nat.max_le] at hlevels
    rw [List.length_cons, Nat.add_lt_add_iff_right] at hfuel
    rw [List.forall_mem_cons] at hitems
    unfold readValues
    have htail : spellTail (next :: items) ++ rest =
        .sign .start .comma :: (next.spell ++ (spellTail items ++ rest)) := by
      simp [spellTail]
    rw [htail, readValue_spell limit hinside hfirst hlevels.1 (by simp [piece?, name?])]
    dsimp only
    rw [ih hitems.1 hitems.2 hlevels.2 hfuel]
    rfl

theorem readSuffix_of_breaks (hrest : breaks rest) (first : Item) :
    readSuffix limit inside first rest = .ok (first, rest) := by
  cases rest with
  | nil => rfl
  | cons t rest => cases t <;> first | rfl | cases hrest

/-! ## Items -/

theorem startsValue_of_inValue {t : Token} (h : t.inValue)
    (hgroup : ∀ pos contents, t ≠ .group pos contents) : startsValue t := by
  cases t with
  | group pos contents => exact absurd rfl (hgroup pos contents)
  | sign pos s => cases s <;> first | rfl | cases h
  | _ => rfl

/-- An item that starts with a plain value goes on as what follows that value tells. -/
theorem readItem_plain (h : IsPlain item) (hpiece : ∀ t ∈ rest.head?, piece? t = none)
    (hcolon : ∀ pos, rest.head? ≠ some (.sign pos .colon)) :
    readItem limit inside (item.spell ++ rest) = readSuffix limit inside item.readBack rest := by
  have hvalue := readValue_plain limit inside h hpiece
  obtain ⟨first, tail, hspell⟩ := List.exists_cons_of_ne_nil h.spell_ne_nil
  have htokens := h.inValue
  rw [hspell, List.forall_mem_cons] at htokens
  rw [hspell, List.cons_append] at hvalue ⊢
  rw [readItem_value limit (startsValue_of_inValue htokens.1.1 htokens.1.2), requireValue, hvalue]
  rintro pos tail' - heq
  cases tail with
  | nil =>
    refine hcolon pos ?_
    rw [List.nil_append] at heq
    rw [heq]
    rfl
  | cons second tail =>
    cases heq
    have := (htokens.2 (.sign pos .colon) (by simp)).1
    cases this

theorem readPair_spell (hinside : ReadsBackBelow levels inside) {pos : Position} {key v : Item}
    (hv : IsTerm v) (hlevels : (pair pos key v).nesting 1 ≤ levels) (hrest : breaks rest) :
    readPair limit inside key.readBack (v.spell ++ rest) = .ok ((pair pos key v).readBack, rest) := by
  rw [nesting_one_pair, Nat.max_le] at hlevels
  obtain ⟨below, rfl⟩ := Nat.exists_eq_add_one_of_ne_zero (show levels ≠ 0 by omega)
  obtain ⟨readers, hreaders, hback⟩ := hinside below rfl
  cases hreaders
  have hbreaks : breaks (v.spell ++ rest) = false :=
    breaks_append rest (hv.tidy.breaks hv.spell_ne_nil)
  rw [readPair_eq, hbreaks, if_neg (by simp)]
  dsimp only
  rw [hback.item hv (by omega) hrest, position_readBack]
  rfl

/-- No colon stands where a blank or the end does. -/
theorem head?_ne_colon (hrest : breaks rest) (pos : Position) :
    rest.head? ≠ some (.sign pos .colon) := by
  intro heq
  obtain ⟨tail, rfl⟩ := List.head?_eq_some_iff.1 heq
  cases hrest

theorem readItem_range (hinside : ReadsBackBelow levels inside) {pos : Position}
    {start stop : Item} (hstart : IsBound IsStart start) (hstop : IsBound (IsValue IsTerm) stop)
    (hlevels : (range pos start stop).nesting 1 ≤ levels) (hrest : breaks rest) :
    readItem limit inside ((range pos start stop).spell ++ rest) =
      .ok ((range pos start stop).readBack, rest) := by
  rw [nesting, Nat.max_le] at hlevels
  have hstop := fun start =>
    readStop_spell limit hinside .start start hstop hlevels.2 hrest
  rw [Item.spell, List.append_assoc, List.cons_append]
  cases hstart with
  | «open» => exact hstop (.infinity .start)
  | value h =>
    rw [readItem_plain h.plain (by simp [piece?, name?]) (by simp), readSuffix,
      position_readBack, hstop]
    rfl

/-- A list is read back from its first item on, and as this item if there is no other. -/
theorem readItem_list (hinside : ReadsBackBelow levels inside) {pos : Position} {first : Item}
    {others : List Item} (hfirst : IsPlain first) (hothers : ∀ item ∈ others, IsValue IsTerm item)
    (hlevels : (list pos (first :: others)).nesting 1 ≤ levels) (hrest : breaks rest) :
    readItem limit inside ((list pos (first :: others)).spell ++ rest) =
      .ok ((list pos (first :: others)).readBack, rest) := by
  rw [Item.spell, spellAll_comma, List.append_assoc, readBack_list]
  cases others with
  | nil =>
    rw [spellTail, List.flatMap_nil, List.nil_append,
      readItem_plain hfirst (piece?_of_breaks hrest) (head?_ne_colon hrest),
      readSuffix_of_breaks hrest]
    rfl
  | cons next others =>
    rw [List.forall_mem_cons] at hothers
    rw [nesting, nestingAll, Nat.max_le] at hlevels
    have htail : spellTail (next :: others) ++ rest =
        .sign .start .comma :: (next.spell ++ (spellTail others ++ rest)) := by
      simp [spellTail]
    have hlength : others.length < (next.spell ++ (spellTail others ++ rest)).length := by
      have hnext := List.length_pos_iff.2 hothers.1.spell_ne_nil
      have htail := length_le_spellTail others
      simp only [List.length_append]
      omega
    rw [htail, readItem_plain hfirst (by simp [piece?, name?]) (by simp), readSuffix,
      position_readBack, readValues_spell hinside hrest hothers.1 hothers.2 hlevels.2 hlength]
    rfl

theorem readItem_spell (hinside : ReadsBackBelow levels inside) (h : IsTerm item)
    (hlevels : item.nesting 1 ≤ levels) (hrest : breaks rest) :
    readItem limit inside (item.spell ++ rest) = .ok (item.readBack, rest) := by
  cases h with
  | value h =>
    cases h with
    | plain h =>
      rw [readItem_plain h (piece?_of_breaks hrest) (head?_ne_colon hrest),
        readSuffix_of_breaks hrest]
    | @group pos items h =>
      rw [Item.spell]
      change (readGroup limit inside .start (spellAll [blank] items)).map _ = _
      rw [readGroup_spell hinside h hlevels]
      rfl
  | @pair pos key v hkey hv =>
    obtain ⟨t, hspell, -, hname⟩ := hkey.exists_token
    rw [← (IsPiece.name hkey).readBack_eq] at hname
    rw [Item.spell, hspell, List.singleton_append, List.cons_append, List.cons_append,
      readItem_pair limit hname, readPair_spell hinside hv hlevels hrest]
  | @compare pos op operand h =>
    have hvalue := readValue_spell limit hinside h hlevels (piece?_of_breaks hrest)
    rw [Item.spell]
    change (requireValue limit inside (.sign .start (.compare op)) (operand.spell ++ rest)).map _ = _
    rw [requireValue, hvalue]
    rfl
  | range hstart hstop => exact readItem_range hinside hstart hstop hlevels hrest
  | list hfirst hothers => exact readItem_list hinside hfirst hothers hlevels hrest

/-! ## Sequences -/

/-- A part of a sequence is read before a blank or the end. -/
theorem readParts_part {reader : List Token → Reading} {part : Part}
    (hpart : ∀ i, part = .item i → i.spell ≠ [] ∧ (∀ t ∈ i.spell, t.inTerm) ∧
      reader (i.spell ++ rest) = .ok (i.readBack, rest)) (fuel : Nat) :
    readParts reader (fuel + 1) (part.spell ++ rest) =
      (readParts reader fuel rest).map (part.readBack :: ·) := by
  cases part with
  | item i =>
    obtain ⟨hne, hterm, hread⟩ := hpart i rfl
    obtain ⟨first, tail, hspell⟩ := List.exists_cons_of_ne_nil hne
    have hfirst := hterm first (by simp [hspell])
    rw [inTerm, Bool.and_eq_true, Bool.not_eq_true', Option.isNone_iff_eq_none] at hfirst
    rw [hspell, List.cons_append] at hread
    rw [Part.spell, hspell, List.cons_append, readParts, hfirst.1, hfirst.2, hread]
    rfl
  | and pos => rfl
  | or pos => rfl
  | not pos => rfl

theorem readParts_spell {reader : List Token → Reading} {parts : List Part}
    (hparts : ∀ i, .item i ∈ parts → IsTerm i ∧
      ∀ rest, breaks rest → reader (i.spell ++ rest) = .ok (i.readBack, rest))
    {fuel : Nat} (hfuel : (Part.spellAll parts).length ≤ fuel) :
    readParts reader fuel (Part.spellAll parts) = .ok (parts.map Part.readBack) := by
  induction parts generalizing fuel with
  | nil => cases fuel <;> rfl
  | cons part parts ih =>
    have hpart {rest : List Token} (hrest : breaks rest) : ∀ i, part = .item i →
        i.spell ≠ [] ∧ (∀ t ∈ i.spell, t.inTerm) ∧
          reader (i.spell ++ rest) = .ok (i.readBack, rest) := by
      rintro i rfl
      obtain ⟨hterm, hread⟩ := hparts i (by simp)
      exact ⟨hterm.spell_ne_nil, hterm.tidy.inTerm, hread rest hrest⟩
    have hlength : 0 < part.spell.length := by
      refine List.length_pos_iff.2 ?_
      cases part with
      | item i => exact (hpart (show breaks [] from rfl) i rfl).1
      | _ => simp [Part.spell]
    by_cases hnil : parts = []
    · subst hnil
      rw [Part.spellAll] at hfuel ⊢
      obtain ⟨fuel, rfl⟩ := Nat.exists_eq_add_one_of_ne_zero (show fuel ≠ 0 by omega)
      rw [← List.append_nil part.spell, readParts_part (hpart rfl)]
      cases fuel <;> rfl
    · rw [Part.spellAll_cons _ hnil] at hfuel ⊢
      rw [List.length_append, List.length_cons] at hfuel
      obtain ⟨fuel, rfl⟩ := Nat.exists_eq_add_one_of_ne_zero (show fuel ≠ 0 by omega)
      obtain ⟨fuel, rfl⟩ := Nat.exists_eq_add_one_of_ne_zero (show fuel ≠ 0 by omega)
      rw [readParts_part (hpart rfl)]
      change (readParts reader fuel (Part.spellAll parts)).map _ = _
      rw [ih (fun i hi => hparts i (List.mem_cons_of_mem _ hi)) (by omega)]
      rfl

/-- The keywords in the tokens of parts are those among the parts. -/
theorem keywords_spellAll {parts : List Part} (h : ∀ i, .item i ∈ parts → ∀ t ∈ i.spell, t.inTerm) :
    (keywords (Part.spellAll parts)).length = parts.countP Part.isConnective := by
  have hpart : ∀ part ∈ parts,
      (keywords part.spell).length = if part.isConnective then 1 else 0 := by
    intro part hpart
    cases part with
    | item i =>
      refine List.length_eq_zero_iff.2 (List.filter_eq_nil_iff.2 fun t ht => ?_)
      have := h i hpart t ht
      rw [inTerm, Bool.and_eq_true, Option.isNone_iff_eq_none] at this
      simp [this.2]
    | _ => rfl
  clear h
  induction parts with
  | nil => rfl
  | cons part parts ih =>
    rw [List.forall_mem_cons] at hpart
    by_cases hnil : parts = []
    · subst hnil
      rw [Part.spellAll, hpart.1, List.countP_singleton]
    · have hblank : keywords (blank :: Part.spellAll parts) = keywords (Part.spellAll parts) := rfl
      have happend : keywords (part.spell ++ blank :: Part.spellAll parts) =
          keywords part.spell ++ keywords (Part.spellAll parts) := by
        rw [← hblank]
        exact List.filter_append ..
      rw [Part.spellAll_cons _ hnil, happend, List.length_append, hpart.1, ih hpart.2,
        List.countP_cons, Nat.add_comm]

theorem IsPlain.isAtom_readBack (h : IsPlain item) : IsAtom item.readBack := by
  cases h with
  | piece h =>
    rw [h.readBack_eq]
    cases h with
    | name h => cases h <;> rfl
    | _ => rfl
  | _ => rfl

theorem IsTerm.isAtom_readBack (h : IsTerm item) : IsAtom item.readBack := by
  cases h with
  | value h =>
    cases h with
    | plain h => exact h.isAtom_readBack
    | group h => rfl
  | @list pos first others hfirst _ =>
    rw [readBack_list]
    cases others with
    | nil => exact hfirst.isAtom_readBack
    | cons next others => rfl
  | _ => rfl

theorem IsNegated.readBack (h : IsNegated IsTerm item) :
    item.readBack.parts = item.parts.map Part.readBack ∧ IsNegated IsAtom item.readBack := by
  induction h with
  | term h =>
    refine ⟨?_, .term h.isAtom_readBack⟩
    rw [h.isAtom, h.isAtom_readBack]
    rfl
  | @not pos operand _ ih =>
    refine ⟨?_, .not ih.2⟩
    change Part.not .start :: operand.readBack.parts = _
    rw [ih.1]
    rfl

/-- A sequence reads back part by part. -/
theorem IsSequence.readBack {items : List Item} (h : IsSequence IsTerm items) :
    partsAll (readBackAll items) = (partsAll items).map Part.readBack ∧
      IsSequence IsAtom (readBackAll items) := by
  induction h with
  | nil => exact ⟨rfl, .nil⟩
  | @cons item items h _ ih =>
    refine ⟨?_, .cons h.readBack.2 ih.2⟩
    change item.readBack.parts ++ partsAll (readBackAll items) = _
    rw [h.readBack.1, ih.1, partsAll, List.map_append]
  | @and pos left right h _ hne ih =>
    refine ⟨?_, .and h.readBack.2 ih.2 (readBackAll_ne_nil hne)⟩
    change (left.readBack.parts ++ .and .start :: partsAll (readBackAll right)) ++ [] = _
    rw [h.readBack.1, ih.1]
    simp [partsAll, parts, Part.readBack]
  | @or pos left right h _ hne ih =>
    refine ⟨?_, .or h.readBack.2 ih.2 (readBackAll_ne_nil hne)⟩
    change (left.readBack.parts ++ .or .start :: partsAll (readBackAll right)) ++ [] = _
    rw [h.readBack.1, ih.1]
    simp [partsAll, parts, Part.readBack]

theorem readSequence_spell {reader : Nat → List Token → Reading}
    (hreader : ∀ below ≤ levels, ∀ i rest, IsTerm i → i.nesting 1 ≤ below → breaks rest →
      reader below (i.spell ++ rest) = .ok (i.readBack, rest))
    {items : List Item} (h : IsSequence IsTerm items) (hlevels : Item.levels 1 items ≤ levels) :
    readSequence limit reader levels (spellAll [blank] items) = .ok (readBackAll items) := by
  have hterm := h.forall_parts fun _ => IsTerm.isAtom
  have hkeywords : (keywords (spellAll [blank] items)).length = connectivesAll items := by
    rw [(h.mono fun _ => IsTerm.isAtom).spell_eq,
      keywords_spellAll fun i hi => (hterm i hi).tidy.inTerm, connectivesAll_eq_countP]
  obtain ⟨hparts, hsequence⟩ := h.readBack
  rw [Item.levels] at hlevels
  have hread : readParts (reader (levels - connectivesAll items)) (spellAll [blank] items).length
      (spellAll [blank] items) = .ok ((partsAll items).map Part.readBack) := by
    rw [(h.mono fun _ => IsTerm.isAtom).spell_eq]
    refine readParts_spell (fun i hi => ⟨hterm i hi, fun rest hrest => ?_⟩) (Nat.le_refl _)
    have hle := (nestingAll_le_iff 1 items).1 (Nat.le_refl _) i hi
    exact hreader _ (Nat.sub_le _ _) i rest (hterm i hi) (by omega) hrest
  rw [← hkeywords] at hread
  rw [readSequence_eq_combine (by omega) hread, ← hparts]
  exact Part.combine_partsAll hsequence

/-- A term reads back where there are as many levels as it takes. -/
theorem readAt_spell {fuel : Nat} (hfuel : levels ≤ fuel) (h : IsTerm item)
    (hlevels : item.nesting 1 ≤ levels) (hrest : breaks rest) :
    readAt limit fuel levels (item.spell ++ rest) = .ok (item.readBack, rest) := by
  induction fuel generalizing levels item rest with
  | zero =>
    obtain rfl := Nat.le_zero.1 hfuel
    rw [readAt]
    · exact readItem_spell (by rintro _ ⟨⟩) h hlevels hrest
    · simp
  | succ fuel ih =>
    cases levels with
    | zero =>
      rw [readAt]
      · exact readItem_spell (by rintro _ ⟨⟩) h hlevels hrest
      · simp
    | succ levels =>
      have hle := Nat.le_of_succ_le_succ hfuel
      rw [readAt]
      refine readItem_spell ?_ h hlevels hrest
      rintro _ ⟨⟩
      refine ⟨_, rfl, ih hle, readSequence_spell fun below hbelow i rest hi hn hrest => ?_⟩
      exact ih (Nat.le_trans hbelow hle) hi hn hrest

/-- A sequence reads back where there are as many levels as it takes. -/
theorem ofTokens_spell {items : List Item} (h : IsSequence IsTerm items)
    (hlevels : Item.levels 1 items ≤ limit) :
    ofTokens limit (spellAll [blank] items) = .ok (readBackAll items) :=
  readSequence_spell (fun _ hbelow _ _ hi hn hrest => readAt_spell hbelow hi hn hrest) h hlevels

/-! ## What reading back keeps -/

theorem spellAll_listed (pos : Position) (items : List Item) :
    (listed pos items).spell = spellAll [.sign .start .comma] items := by
  rcases items with _ | ⟨item, _ | ⟨next, items⟩⟩ <;> rfl

mutual

theorem spell_unplaced : (item : Item) → item.unplaced.spell = item.spell
  | null _ | infinity _ | wildcard _ | anyChar _ | word _ _ | quote _ _ | value _ _ => rfl
  | pin _ inner | compare _ _ inner | not _ inner => by rw [unplaced, spell, spell, spell_unplaced inner]
  | pair _ l r | range _ l r => by rw [unplaced, spell, spell, spell_unplaced l, spell_unplaced r]
  | list _ items | group _ items | pattern _ items => by
    rw [unplaced, spell, spell, spellAll_unplacedAll _ items]
  | and _ left right | or _ left right => by
    rw [unplaced, spell, spell, spell_unplaced left, spellAll_unplacedAll _ right]

theorem spellAll_unplacedAll (separator : List Token) : (items : List Item) →
    spellAll separator (unplacedAll items) = spellAll separator items
  | [] => rfl
  | [item] => spell_unplaced item
  | item :: next :: items => by
    have := spellAll_unplacedAll separator (next :: items)
    simp only [unplacedAll, spellAll] at this ⊢
    rw [this, spell_unplaced item]

end

mutual

theorem spell_collapse : (item : Item) → item.collapse.spell = item.spell
  | null _ | infinity _ | wildcard _ | anyChar _ | word _ _ | quote _ _ | value _ _ => rfl
  | pin _ inner | compare _ _ inner | not _ inner => by rw [collapse, spell, spell, spell_collapse inner]
  | pair _ l r | range _ l r => by rw [collapse, spell, spell, spell_collapse l, spell_collapse r]
  | list pos items => by rw [collapse, spellAll_listed, spell, spellAll_collapseAll _ items]
  | group _ items | pattern _ items => by
    rw [collapse, spell, spell, spellAll_collapseAll _ items]
  | and _ left right | or _ left right => by
    rw [collapse, spell, spell, spell_collapse left, spellAll_collapseAll _ right]

theorem spellAll_collapseAll (separator : List Token) : (items : List Item) →
    spellAll separator (collapseAll items) = spellAll separator items
  | [] => rfl
  | [item] => spell_collapse item
  | item :: next :: items => by
    have := spellAll_collapseAll separator (next :: items)
    simp only [collapseAll, spellAll] at this ⊢
    rw [this, spell_collapse item]

end

theorem spellAll_readBackAll (separator : List Token) (items : List Item) :
    spellAll separator (readBackAll items) = spellAll separator items := by
  rw [readBackAll, spellAll_unplacedAll, spellAll_collapseAll]

theorem levels_readBackAll_of_parts {items : List Item} (h : IsSequence IsTerm items)
    (hparts : ∀ i, .item i ∈ partsAll items → i.readBack.nesting 1 = i.nesting 1) :
    Item.levels 1 (readBackAll items) = Item.levels 1 items := by
  have hconnectives : connectivesAll (readBackAll items) = connectivesAll items := by
    have hpart : Part.isConnective ∘ Part.readBack = Part.isConnective := by
      funext part
      cases part <;> rfl
    rw [connectivesAll_eq_countP, connectivesAll_eq_countP, h.readBack.1, List.countP_map, hpart]
  have hnesting (n : Nat) : nestingAll 1 (readBackAll items) ≤ n ↔ nestingAll 1 items ≤ n := by
    have hmem (i : Item) : .item i ∈ (partsAll items).map Part.readBack ↔
        ∃ j, .item j ∈ partsAll items ∧ j.readBack = i := by
      rw [List.mem_map]
      constructor
      · rintro ⟨part, hpart, heq⟩
        cases part <;> cases heq
        exact ⟨_, hpart, rfl⟩
      · rintro ⟨j, hj, rfl⟩
        exact ⟨_, hj, rfl⟩
    simp only [nestingAll_le_iff, h.readBack.1, hmem]
    constructor
    · intro hn j hj
      rw [← hparts j hj]
      exact hn _ ⟨j, hj, rfl⟩
    · rintro hn _ ⟨j, hj, rfl⟩
      rw [hparts j hj]
      exact hn j hj
  rw [Item.levels, Item.levels, hconnectives,
    Nat.le_antisymm ((hnesting _).2 (Nat.le_refl _)) ((hnesting _).1 (Nat.le_refl _))]

theorem IsPlain.nesting_readBack (h : IsPlain item) : item.readBack.nesting 1 = 0 := by
  cases h with
  | null => rfl
  | piece h => exact h.readBack.nesting_eq 1
  | @pattern pos pieces hpieces =>
    have hle : nestingAll 1 (readBackAll pieces) ≤ 0 := by
      refine nestingAll_le fun i hi => ?_
      rw [readBackAll_eq_map, List.mem_map] at hi
      obtain ⟨piece, hpiece, rfl⟩ := hi
      exact Nat.le_of_eq ((hpieces piece hpiece).readBack.nesting_eq 1)
    exact Nat.le_zero.1 hle
  | pin h => exact (IsPiece.name h).readBack.nesting_eq 1

theorem nestingAll_readBackAll {items : List Item}
    (h : ∀ item ∈ items, item.readBack.nesting 1 = item.nesting 1) :
    nestingAll 1 (readBackAll items) = nestingAll 1 items := by
  induction items with
  | nil => rfl
  | cons item items ih =>
    rw [List.forall_mem_cons] at h
    change max (item.readBack.nesting 1) (nestingAll 1 (readBackAll items)) = _
    rw [h.1, ih h.2, nestingAll]

/-- An item that reads back takes as many levels as it took. -/
theorem IsTerm.nesting_readBack (h : IsTerm item) : item.readBack.nesting 1 = item.nesting 1 := by
  refine IsTerm.induct (motive := fun item => item.readBack.nesting 1 = item.nesting 1)
    ?plain ?group ?pair ?compare ?range ?list h
  case plain =>
    intro item h
    rw [h.nesting_readBack, h.nesting_eq]
  case group =>
    intro pos items h ih
    exact congrArg (· + 1) (levels_readBackAll_of_parts h ih)
  case pair =>
    intro pos key v hkey _ ih
    change (Item.pair .start key.readBack v.readBack).nesting 1 = _
    rw [nesting_one_pair, nesting_one_pair, ih, (IsPiece.name hkey).readBack.nesting_eq,
      (IsPiece.name hkey).nesting_eq]
  case compare =>
    intro pos op operand _ ih
    exact ih
  case range =>
    intro pos start stop hstart hstop ih
    have hstart : start.readBack.nesting 1 = start.nesting 1 := by
      cases hstart with
      | «open» => rfl
      | value h => rw [h.plain.nesting_readBack, h.plain.nesting_eq]
    have hstop : stop.readBack.nesting 1 = stop.nesting 1 := by
      cases hstop with
      | «open» => rfl
      | value h => exact ih h
    change max (start.readBack.nesting 1) (stop.readBack.nesting 1) = _
    rw [hstart, hstop]
    rfl
  case list =>
    intro pos first rest hfirst _ ih
    rw [readBack_list, nesting_listed, nesting]
    refine nestingAll_readBackAll (List.forall_mem_cons.2 ⟨?_, ih⟩)
    rw [hfirst.nesting_readBack, hfirst.nesting_eq]

theorem levels_readBackAll {items : List Item} (h : IsSequence IsTerm items) :
    Item.levels 1 (readBackAll items) = Item.levels 1 items :=
  levels_readBackAll_of_parts h fun i hi =>
    (h.forall_parts (fun _ => IsTerm.isAtom) i hi).nesting_readBack

end Item

end SearchQuery
