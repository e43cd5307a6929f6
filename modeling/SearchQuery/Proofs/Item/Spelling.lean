import Mathlib.Data.List.Basic
import Mathlib.Data.List.Chain
import Mathlib.Tactic.Common
import SearchQuery.Item.Reader
import SearchQuery.Proofs.Item.Nesting
import SearchQuery.Proofs.Token.Settled

/-!
# The tokens of written items

* `print_toList`: what an item is written as are its tokens, `spell`, one after the other.
* `IsTerm.proper` and `IsSequence.proper`: the tokens of a term or a sequence are proper, so that
  they are read as they are written.
* `depthAll_spell_le`: their groups take no more levels than the item does.
-/

namespace SearchQuery

namespace Item

/-- The blank between items. -/
def blank : Token := .space .start " "

mutual

/-- The tokens that an item is written as. -/
def spell : Item → List Token
  | null _ => [.word .start Text.Keyword.null.text]
  | infinity _ => []
  | wildcard _ => [.sign .start .wildcard]
  | anyChar _ => [.sign .start .anyChar]
  | word _ text => [.word .start text]
  | quote _ text => [.quote .start text]
  | value _ v => if Text.isBareWord v.text then [.word .start v.text] else [.quote .start v.text]
  | pin _ target => .sign .start .pin :: target.spell
  | pair _ key v => key.spell ++ .sign .start .colon :: v.spell
  | compare _ op operand => .sign .start (.compare op) :: operand.spell
  | range _ start stop => start.spell ++ .sign .start .dots :: stop.spell
  | list _ items => spellAll [.sign .start .comma] items
  | group _ items => [.group .start (spellAll [blank] items)]
  | pattern _ pieces => spellAll [] pieces
  | and _ left right =>
    left.spell ++ blank :: .word .start Text.Keyword.and.text :: blank :: spellAll [blank] right
  | or _ left right =>
    left.spell ++ blank :: .word .start Text.Keyword.or.text :: blank :: spellAll [blank] right
  | not _ operand => .word .start Text.Keyword.not.text :: blank :: operand.spell

/-- The tokens of items, with a separator between them. -/
def spellAll (separator : List Token) : List Item → List Token
  | [] => []
  | [item] => item.spell
  | item :: items => item.spell ++ separator ++ spellAll separator items

end

mutual

/-- What an item is written as are its tokens, one after the other. -/
theorem print_toList : (item : Item) → item.print.toList = Token.charsAll item.spell
  | null _ | infinity _ | wildcard _ | anyChar _ => by
    simp [print, spell, Token.charsAll, Token.chars]
  | word _ text => by simp [print, spell, Token.charsAll, Token.chars]
  | quote _ text => by simp [print, spell, Token.charsAll, Token.chars]
  | value _ v => by
    rw [print, printValue, spell]
    split <;> simp [Token.charsAll, Token.chars]
  | pin _ inner | compare _ _ inner => by
    simp [print, spell, Token.charsAll, Token.chars, print_toList inner, Sign.symbol]
  | pair _ l r | range _ l r => by
    simp [print, spell, Token.charsAll, Token.chars, print_toList l, print_toList r]
  | list _ items => printAll_toList Sign.comma.symbol [.sign .start .comma] rfl items
  | pattern _ pieces => printAll_toList "" [] rfl pieces
  | group _ items => by
    simp [print, spell, Token.charsAll, Token.chars, printAll_toList " " [blank] rfl items]
  | and _ left right | or _ left right => by
    simp [print, spell, Token.charsAll, Token.chars, print_toList left,
      printAll_toList " " [blank] rfl right, blank]
  | not _ operand => by
    simp [print, spell, Token.charsAll, Token.chars, print_toList operand, blank]

theorem printAll_toList (text : String) (separator : List Token)
    (h : text.toList = Token.charsAll separator) : (items : List Item) →
    (printAll text items).toList = Token.charsAll (spellAll separator items)
  | [] => rfl
  | [item] => print_toList item
  | item :: next :: items => by
    simp [printAll, spellAll, print_toList item, printAll_toList text separator h (next :: items), h]

end

end Item

/-! ## Parts -/

namespace Part

open Item

/-- The tokens that a part is written as. -/
def spell : Part → List Token
  | item i => i.spell
  | and _ => [.word .start Text.Keyword.and.text]
  | or _ => [.word .start Text.Keyword.or.text]
  | not _ => [.word .start Text.Keyword.not.text]

/-- The tokens of parts, with blanks between them. -/
def spellAll : List Part → List Token
  | [] => []
  | [part] => part.spell
  | part :: parts => part.spell ++ blank :: spellAll parts

theorem spellAll_cons (part : Part) {parts : List Part} (h : parts ≠ []) :
    spellAll (part :: parts) = part.spell ++ blank :: spellAll parts := by
  obtain ⟨next, parts, rfl⟩ := List.exists_cons_of_ne_nil h
  rfl

theorem head?_spellAll {part : Part} {parts : List Part} (h : part.spell ≠ []) :
    (spellAll (part :: parts)).head? = part.spell.head? := by
  by_cases hparts : parts = []
  · subst hparts
    rfl
  · rw [spellAll_cons part hparts, List.head?_append_of_ne_nil _ h]

theorem spellAll_append {xs ys : List Part} (hx : xs ≠ []) (hy : ys ≠ []) :
    spellAll (xs ++ ys) = spellAll xs ++ blank :: spellAll ys := by
  induction xs with
  | nil => exact absurd rfl hx
  | cons x xs ih =>
    by_cases hxs : xs = []
    · subst hxs
      exact spellAll_cons x hy
    · rw [List.cons_append, spellAll_cons x (by simp [hxs]), ih hxs, spellAll_cons x hxs,
        List.append_assoc, List.cons_append]

end Part

namespace Item

theorem spellAll_cons (separator : List Token) (item : Item) {items : List Item} (h : items ≠ []) :
    spellAll separator (item :: items) = item.spell ++ separator ++ spellAll separator items := by
  obtain ⟨next, items, rfl⟩ := List.exists_cons_of_ne_nil h
  rfl

theorem IsNegated.spell_eq {item : Item} (h : IsNegated IsAtom item) :
    item.spell = Part.spellAll item.parts := by
  induction h with
  | @term item h => rw [h, Part.spellAll, Part.spell]
  | @not pos operand _ ih => rw [spell, parts, Part.spellAll_cons _ (parts_ne_nil operand), ih]; rfl

/-- A sequence is written part by part. -/
theorem IsSequence.spell_eq {items : List Item} (h : IsSequence IsAtom items) :
    spellAll [blank] items = Part.spellAll (partsAll items) := by
  induction h with
  | nil => rfl
  | @cons item items h _ ih =>
    by_cases hitems : items = []
    · subst hitems
      rw [spellAll, partsAll, partsAll, List.append_nil, h.spell_eq]
    · rw [spellAll_cons _ _ hitems, ih, h.spell_eq, partsAll,
        Part.spellAll_append (parts_ne_nil item) (partsAll_ne_nil hitems), List.append_assoc]
      rfl
  | @and pos left right h _ hne ih | @or pos left right h _ hne ih =>
    rw [spellAll, spell, ih, h.spell_eq, partsAll, partsAll, List.append_nil, parts,
      Part.spellAll_append (parts_ne_nil left) (by simp),
      Part.spellAll_cons _ (partsAll_ne_nil hne)]
    rfl

end Item

/-! ## Proper tokens -/

/-- Whether values are made of such signs. -/
def Sign.inValue : Sign → Bool
  | .wildcard | .anyChar | .pin => true
  | _ => false

namespace Token

open Item

/-- Whether items are made of such tokens, which are neither spaces nor keywords between them. -/
def inTerm (t : Token) : Bool := !t.isSpace && (connective? t).isNone

/-- Whether values are made of such tokens. -/
def inValue : Token → Bool
  | word pos text => inTerm (word pos text)
  | quote _ _ | group _ _ => true
  | sign _ s => s.inValue
  | endOfText _ | space _ _ => false

/-- Tokens of an item that read back. -/
structure Tidy (tokens : List Token) : Prop where
  proper : ProperAll tokens
  filled : FilledAll tokens
  inTerm : ∀ t ∈ tokens, t.inTerm

theorem inTerm_of_inValue {t : Token} (h : t.inValue) : t.inTerm := by
  cases t with
  | word pos text => exact h
  | quote pos text | group pos contents | sign pos s => rfl
  | endOfText pos | space pos text => cases h

/-- A sign does not run into a value. -/
theorem splits_of_inValue (pos : Position) (s : Sign) {t : Token} (h : t.inValue) :
    (sign pos s).splits t := by
  cases t with
  | sign pos' s' =>
    cases s with
    | compare op => cases s' <;> first | (cases op <;> rfl) | cases h
    | _ => rfl
  | _ => rfl

theorem isSpace_of_inTerm {t : Token} (h : t.inTerm) : t.isSpace = false := by
  rw [inTerm, Bool.and_eq_true, Bool.not_eq_true'] at h
  exact h.1

theorem Tidy.breaks {tokens : List Token} (h : Tidy tokens) (hne : tokens ≠ []) :
    breaks tokens = false := by
  obtain ⟨t, ts, rfl⟩ := List.exists_cons_of_ne_nil hne
  exact isSpace_of_inTerm (h.inTerm t (by simp))

theorem tidy_singleton {t : Token} (hproper : t.Proper) (hfilled : t.Filled)
    (hcolon : ∀ pos, t ≠ sign pos .colon) (hterm : t.inTerm) : Tidy [t] where
  proper := ⟨hproper, by simp, trivial⟩
  filled := ⟨hfilled, fun pos h => absurd h (hcolon pos), trivial⟩
  inTerm := by simpa using hterm

theorem tidy_sign (pos : Position) {s : Sign} (hs : s ≠ .colon) : Tidy [sign pos s] := by
  refine tidy_singleton trivial trivial ?_ rfl
  rintro pos' ⟨⟩
  exact hs rfl

theorem Tidy.append {xs ys : List Token} (hx : Tidy xs) (hy : Tidy ys)
    (h : ∀ x ∈ xs.getLast?, ∀ y ∈ ys.head?, x.splits y) : Tidy (xs ++ ys) where
  proper := properAll_append.2 ⟨hx.proper, hy.proper, h⟩
  filled := hx.filled.append hy.filled
  inTerm := by
    intro t ht
    rcases List.mem_append.1 ht with ht | ht
    · exact hx.inTerm t ht
    · exact hy.inTerm t ht

end Token

namespace Item

open Token

theorem proper_keyword (pos : Position) (k : Text.Keyword) : (Token.word pos k.text).Proper := by
  cases k <;> exact ⟨by decide, List.all_eq_true.1 (by decide), by decide⟩

theorem IsName.exists_token {item : Item} (h : IsName item) :
    ∃ t, item.spell = [t] ∧ t.Proper ∧ name? t = some item.unplaced := by
  cases h with
  | @word pos text h =>
    obtain ⟨hne, hchars, hdots, hkeyword⟩ := Text.isBareWord_iff.1 h
    exact ⟨.word .start text, rfl, ⟨hne, hchars, hdots⟩, by simp [name?, hkeyword, unplaced]⟩
  | @quote pos text => exact ⟨.quote .start text, rfl, trivial, rfl⟩

theorem piece?_of_name {t : Token} {item : Item} (h : name? t = some item) :
    piece? t = some item := by
  cases t <;> first | exact h | cases h

theorem IsPiece.exists_token {item : Item} (h : IsPiece item) :
    ∃ t, item.spell = [t] ∧ t.Proper ∧ piece? t = some item.unplaced := by
  cases h with
  | name h =>
    obtain ⟨t, hspell, hproper, hname⟩ := h.exists_token
    exact ⟨t, hspell, hproper, piece?_of_name hname⟩
  | wildcard => exact ⟨.sign .start .wildcard, rfl, trivial, rfl⟩
  | anyChar => exact ⟨.sign .start .anyChar, rfl, trivial, rfl⟩

theorem piece?_word {pos : Position} {text : String} {item : Item}
    (h : piece? (.word pos text) = some item) :
    Text.Keyword.ofWord? text = none ∧ item = .word pos text := by
  change (if (Text.Keyword.ofWord? text).isNone then some (Item.word pos text) else none) = _ at h
  split at h
  · exact ⟨Option.isNone_iff_eq_none.1 ‹_›, (Option.some.inj h).symm⟩
  · cases h

theorem inValue_of_piece {t : Token} {item : Item} (h : piece? t = some item) : t.inValue := by
  cases t with
  | word pos text => simp [inValue, inTerm, isSpace, connective?, keyword?, (piece?_word h).1]
  | sign pos s => cases s <;> first | rfl | cases h
  | space pos text | endOfText pos => cases h
  | _ => rfl

/-- Pieces run into each other just if both are words. -/
theorem splits_piece_iff {t u : Token} {a b : Item} (ht : piece? t = some a)
    (hu : piece? u = some b) : t.splits u ↔ a.isWord = false ∨ b.isWord = false := by
  cases t with
  | sign pos s =>
    have hword : a.isWord = false := by cases s <;> cases ht <;> rfl
    simp [splits_of_inValue pos s (inValue_of_piece hu), hword]
  | word pos text =>
    obtain ⟨-, rfl⟩ := piece?_word ht
    cases u with
    | word pos' text' =>
      obtain ⟨-, rfl⟩ := piece?_word hu
      simp [splits, isWord]
    | quote pos' text' =>
      cases hu
      simp [splits, isWord]
    | sign pos' s => cases s <;> cases hu <;> simp [splits, isWord]
    | _ => cases hu
  | quote pos text =>
    cases ht
    simp [splits, isWord]
  | _ => cases ht

theorem spellAll_nil (items : List Item) : spellAll [] items = items.flatMap spell := by
  induction items with
  | nil => rfl
  | cons item items ih =>
    rw [List.flatMap_cons, ← ih]
    cases items <;> simp [spellAll]

theorem isWord_unplaced (item : Item) : item.unplaced.isWord = item.isWord := by
  cases item <;> rfl

theorem tidy_piece {t : Token} {item : Item} (hproper : t.Proper) (h : piece? t = some item) :
    Tidy [t] := by
  refine tidy_singleton hproper ?_ ?_ (inTerm_of_inValue (inValue_of_piece h))
  · cases t with
    | group pos contents => cases h
    | _ => trivial
  · rintro pos rfl
    cases h

theorem tidy_pieces {pieces : List Item} (hpieces : ∀ piece ∈ pieces, IsPiece piece)
    (hwords : pieces.IsChain fun a b => a.isWord = false ∨ b.isWord = false) :
    Tidy (pieces.flatMap spell) := by
  induction pieces with
  | nil => exact ⟨trivial, trivial, by simp⟩
  | cons piece pieces ih =>
    rw [List.forall_mem_cons] at hpieces
    obtain ⟨t, hspell, hproper, hpiece⟩ := hpieces.1.exists_token
    rw [List.flatMap_cons, hspell]
    refine (tidy_piece hproper hpiece).append (ih hpieces.2 hwords.of_cons) ?_
    rintro _ ⟨⟩ u hu
    cases pieces with
    | nil => cases hu
    | cons next pieces =>
      obtain ⟨u', hspell', hproper', hpiece'⟩ := (hpieces.2 next (by simp)).exists_token
      rw [List.flatMap_cons, hspell'] at hu
      cases hu
      refine (splits_piece_iff hpiece hpiece').2 ?_
      rw [isWord_unplaced, isWord_unplaced]
      exact hwords.rel

theorem IsPiece.inValue {item : Item} (h : IsPiece item) :
    ∀ t ∈ item.spell, t.inValue ∧ ∀ pos contents, t ≠ .group pos contents := by
  obtain ⟨t, hspell, -, hpiece⟩ := h.exists_token
  rw [hspell, List.forall_mem_singleton]
  refine ⟨inValue_of_piece hpiece, ?_⟩
  rintro pos contents rfl
  cases hpiece

theorem IsPlain.inValue {item : Item} (h : IsPlain item) :
    ∀ t ∈ item.spell, t.inValue ∧ ∀ pos contents, t ≠ .group pos contents := by
  cases h with
  | null =>
    rw [spell, List.forall_mem_singleton]
    exact ⟨by decide, by simp⟩
  | piece h => exact h.inValue
  | pattern hpieces =>
    intro t ht
    rw [spell, spellAll_nil, List.mem_flatMap] at ht
    obtain ⟨piece, hmem, ht⟩ := ht
    exact (hpieces piece hmem).inValue t ht
  | pin h =>
    rw [spell, List.forall_mem_cons]
    exact ⟨⟨rfl, by simp⟩, (IsPiece.name h).inValue⟩

theorem IsPlain.tidy {item : Item} (h : IsPlain item) : Tidy item.spell := by
  cases h with
  | null =>
    exact tidy_singleton (proper_keyword .start .null) trivial (by simp) (by decide)
  | piece h =>
    obtain ⟨t, hspell, hproper, hpiece⟩ := h.exists_token
    rw [hspell]
    exact tidy_piece hproper hpiece
  | pattern hpieces _ hwords =>
    rw [spell, spellAll_nil]
    exact tidy_pieces hpieces hwords
  | pin h =>
    obtain ⟨t, hspell, hproper, hpiece⟩ := (IsPiece.name h).exists_token
    rw [spell, hspell]
    refine (tidy_sign .start (by simp)).append (tidy_piece hproper hpiece) ?_
    rintro _ ⟨⟩ _ ⟨⟩
    exact splits_of_inValue _ _ (inValue_of_piece hpiece)

theorem IsPlain.spell_ne_nil {item : Item} (h : IsPlain item) : item.spell ≠ [] := by
  cases h with
  | piece h =>
    obtain ⟨t, hspell, -, -⟩ := h.exists_token
    simp [hspell]
  | @pattern pos pieces hpieces hlength =>
    obtain ⟨piece, pieces, rfl⟩ := List.exists_cons_of_length_pos (show 0 < pieces.length by omega)
    obtain ⟨t, hspell, -, -⟩ := (hpieces piece (by simp)).exists_token
    simp [spell, spellAll_nil, hspell]
  | null | pin h => simp [spell]

section Values

variable {Term : Item → Prop} {item : Item}

theorem IsValue.inValue (h : IsValue Term item) : ∀ t ∈ item.spell, t.inValue := by
  cases h with
  | plain h => exact fun t ht => (h.inValue t ht).1
  | group h => simp [spell, Token.inValue]

theorem IsValue.spell_ne_nil (h : IsValue Term item) : item.spell ≠ [] := by
  cases h with
  | plain h => exact h.spell_ne_nil
  | group h => simp [spell]

end Values

theorem IsTerm.spell_ne_nil {item : Item} (h : IsTerm item) : item.spell ≠ [] := by
  cases h with
  | value h => exact h.spell_ne_nil
  | @list pos first rest hfirst =>
    rw [spell]
    cases rest with
    | nil => exact hfirst.spell_ne_nil
    | cons next rest => simp [spellAll, hfirst.spell_ne_nil]
  | _ => simp [spell]

/-- A value that may stand before `..` does not run into it. -/
theorem IsStart.splits {item : Item} (h : IsStart item) (pos : Position) :
    ∀ t ∈ item.spell.getLast?, t.splits (.sign pos .dots) := by
  intro t ht
  obtain ⟨init, hinit⟩ := List.getLast?_eq_some_iff.1 ht
  have hproper : t.Proper := by
    have hall := h.plain.tidy.proper
    rw [hinit, properAll_append] at hall
    exact hall.2.1.1
  have hdots : ∀ pos, t ≠ .sign pos .dots := by
    rintro pos rfl
    have := (h.plain.inValue _ (List.mem_of_getLast? ht)).1
    cases this
  obtain ⟨c, cs, hc, -⟩ := hproper.exists_opensWith []
  rw [hproper.splits_dots_iff hdots]
  have hundotted := h.undotted
  rw [print_toList, hinit, charsAll_append, charsAll, charsAll] at hundotted
  rw [hc, List.getLast?_append] at hundotted
  rw [List.append_nil] at hc
  rw [hc]
  simpa using hundotted

theorem tidy_list {items : List Item} (htidy : ∀ item ∈ items, Tidy item.spell) :
    Tidy (spellAll [.sign .start .comma] items) := by
  induction items with
  | nil => exact ⟨trivial, trivial, by simp [spellAll]⟩
  | cons item items ih =>
    rw [List.forall_mem_cons] at htidy
    by_cases hitems : items = []
    · subst hitems
      exact htidy.1
    · rw [spellAll_cons _ _ hitems]
      refine (htidy.1.append (tidy_sign .start (by simp)) ?_).append (ih htidy.2) ?_
      · rintro t - _ ⟨⟩
        exact splits_sign (.inr rfl) t .start
      · intro t ht u hu
        rw [List.getLast?_concat] at ht
        cases ht
        exact sign_splits (by simp) .start u

/-- Parts that are written with blanks between them do not run into each other. -/
theorem proper_parts {parts : List Part}
    (h : ∀ i, .item i ∈ parts → i.spell ≠ [] ∧ Tidy i.spell) :
    ProperAll (Part.spellAll parts) ∧ FilledAll (Part.spellAll parts) := by
  have hpart : ∀ part ∈ parts, part.spell ≠ [] ∧ ProperAll part.spell ∧ FilledAll part.spell ∧
      ∀ t ∈ part.spell, t.isSpace = false := by
    intro part hpart
    cases part with
    | item i =>
      obtain ⟨hne, hproper, hfilled, hterm⟩ := h i hpart
      exact ⟨hne, hproper, hfilled, fun t ht => isSpace_of_inTerm (hterm t ht)⟩
    | _ =>
      exact ⟨by simp [Part.spell], ⟨proper_keyword _ _, by simp, trivial⟩,
        ⟨trivial, by simp, trivial⟩, by simp [Part.spell, isSpace]⟩
  clear h
  induction parts with
  | nil => exact ⟨trivial, trivial⟩
  | cons part parts ih =>
    rw [List.forall_mem_cons] at hpart
    obtain ⟨⟨hne, hproper, hfilled, hspace⟩, hparts⟩ := hpart
    by_cases hnil : parts = []
    · subst hnil
      exact ⟨hproper, hfilled⟩
    · obtain ⟨hproper', hfilled'⟩ := ih hparts
      have hfirst : ∀ t ∈ (Part.spellAll parts).head?, t.isSpace = false := by
        obtain ⟨next, parts, rfl⟩ := List.exists_cons_of_ne_nil hnil
        obtain ⟨hne', -, -, hspace'⟩ := hparts next (by simp)
        intro t ht
        rw [Part.head?_spellAll hne'] at ht
        exact hspace' t (List.mem_of_mem_head? ht)
      rw [Part.spellAll_cons _ hnil]
      refine ⟨properAll_append.2 ⟨hproper, ⟨?_, ?_, hproper'⟩, ?_⟩,
        hfilled.append ⟨trivial, by simp [blank], hfilled'⟩⟩
      · exact ⟨by simp, List.all_eq_true.1 (by decide)⟩
      · intro t ht
        exact space_splits (hfirst t ht) .start " "
      · rintro t ht _ ⟨⟩
        exact splits_space (hspace t (List.mem_of_getLast? ht)) .start " "

theorem IsTerm.tidy {item : Item} (h : IsTerm item) : Tidy item.spell := by
  refine IsTerm.induct (motive := fun item => Tidy item.spell)
    ?plain ?group ?pair ?compare ?range ?list h
  case plain => exact IsPlain.tidy
  case group =>
    intro pos items hitems ih
    have hterm := hitems.forall_parts fun _ => IsTerm.isAtom
    obtain ⟨hproper, hfilled⟩ := proper_parts fun i hi => ⟨(hterm i hi).spell_ne_nil, ih i hi⟩
    rw [spell, (hitems.mono fun _ => IsTerm.isAtom).spell_eq]
    exact tidy_singleton hproper hfilled (by simp) rfl
  case pair =>
    intro pos key v hkey hv ih
    obtain ⟨t, hspell, hproper, hpiece⟩ := (IsPiece.name hkey).exists_token
    have hcolon : Tidy (.sign .start .colon :: v.spell) := by
      refine ⟨⟨trivial, fun t _ => sign_splits (by simp) .start t, ih.proper⟩,
        ⟨trivial, fun _ _ => ?_, ih.filled⟩, List.forall_mem_cons.2 ⟨rfl, ih.inTerm⟩⟩
      exact ih.breaks hv.spell_ne_nil
    rw [spell, hspell]
    refine (tidy_piece hproper hpiece).append hcolon ?_
    rintro t - _ ⟨⟩
    exact splits_sign (.inl rfl) t .start
  case compare =>
    intro pos op operand h ih
    refine (tidy_sign .start (by simp)).append ih ?_
    rintro _ ⟨⟩ t ht
    exact splits_of_inValue _ _ (h.inValue t (List.mem_of_mem_head? ht))
  case range =>
    intro pos start stop hstart hstop ih
    have hstop : Tidy stop.spell := by
      cases hstop with
      | «open» => exact ⟨trivial, trivial, by simp [spell]⟩
      | value h => exact ih h
    have hdots : Tidy (.sign .start .dots :: stop.spell) := by
      refine (tidy_sign .start (by simp)).append hstop ?_
      rintro _ ⟨⟩ t -
      exact sign_splits (by simp) .start t
    cases hstart with
    | «open» => exact hdots
    | value h =>
      refine h.plain.tidy.append hdots ?_
      rintro t ht _ ⟨⟩
      exact h.splits .start t ht
  case list =>
    intro pos first rest hfirst _ ih
    exact tidy_list (List.forall_mem_cons.2 ⟨hfirst.tidy, ih⟩)

/-- The tokens of a sequence are proper, and every pair in them has its value written. -/
theorem IsSequence.proper {items : List Item} (h : IsSequence IsTerm items) :
    ProperAll (spellAll [blank] items) ∧ FilledAll (spellAll [blank] items) := by
  rw [(h.mono fun _ => IsTerm.isAtom).spell_eq]
  refine proper_parts fun i hi => ?_
  have hterm := h.forall_parts (fun _ => IsTerm.isAtom) i hi
  exact ⟨hterm.spell_ne_nil, hterm.tidy⟩

mutual

/-- The groups in the tokens of an item take no more levels than the item. -/
theorem depthAll_spell_le (left : Nat) : (item : Item) →
    Token.depthAll item.spell ≤ item.nesting left
  | null _ | infinity _ | wildcard _ | anyChar _ | word _ _ | quote _ _ => Nat.zero_le _
  | value _ v => by
    rw [spell]
    split <;> exact Nat.zero_le _
  | pin _ inner | compare _ _ inner => by
    have := depthAll_spell_le left inner
    simpa [spell, nesting, depthAll, depth] using this
  | pair _ key v => by
    have hkey := depthAll_spell_le left key
    have hv := depthAll_spell_le left v
    simp only [spell, depthAll_append, depthAll, depth]
    cases v <;> simp only [nesting, spell, depthAll, depth] at * <;> omega
  | range _ l r => by
    have hl := depthAll_spell_le left l
    have hr := depthAll_spell_le left r
    simp only [spell, nesting, depthAll_append, depthAll, depth]
    omega
  | list _ items => depthAll_spellAll_le left _ rfl items
  | pattern _ pieces => depthAll_spellAll_le left _ rfl pieces
  | group _ items => by
    have := depthAll_spellAll_le left [blank] rfl items
    simp only [spell, nesting, depthAll, depth]
    omega
  | and _ l right | or _ l right => by
    have hl := depthAll_spell_le left l
    have hright := depthAll_spellAll_le left [blank] rfl right
    simp only [spell, nesting, depthAll_append, depthAll, depth, blank] at *
    omega
  | not _ operand => by
    have := depthAll_spell_le left operand
    simpa [spell, nesting, depthAll, depth, blank] using this

theorem depthAll_spellAll_le (left : Nat) (separator : List Token)
    (h : Token.depthAll separator = 0) : (items : List Item) →
    Token.depthAll (spellAll separator items) ≤ nestingAll left items
  | [] => Nat.zero_le _
  | [item] => by
    have := depthAll_spell_le left item
    simpa [spellAll, nestingAll] using this
  | item :: next :: items => by
    have hitem := depthAll_spell_le left item
    have hitems := depthAll_spellAll_le left separator h (next :: items)
    rw [spellAll, depthAll_append, depthAll_append, h, nestingAll]
    · omega
    · simp

end

end Item

end SearchQuery
