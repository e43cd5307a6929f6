import Mathlib
import SearchQuery.Proofs.Document.Reading
import SearchQuery.Proofs.Item.WellFormed

/-!
# Texts that match a glob

A glob is matched by the suffixes of the text that may be left after each of its pieces
(`Glob.mem_step`, `Glob.mem_foldl_step`).

* `Text.SplitsBy`: a text falls into consecutive parts, one for each element of a list.
* `Glob.isMatch_iff`: a glob matches just the texts that fall into parts its pieces stand for.
* `Matcher.accepts_pattern_iff`: the strings that a pattern under a field finds.
-/

namespace SearchQuery

/-! ## Parts of a text -/

namespace Text

variable {α β : Type} {R S : α → List Char → Prop} {text : List Char}

/-- The text falls into consecutive parts, one for each element and in relation to it. -/
def SplitsBy (R : α → List Char → Prop) (xs : List α) (text : List Char) : Prop :=
  ∃ parts : List (List Char), List.Forall₂ R xs parts ∧ parts.flatten = text

theorem splitsBy_nil : SplitsBy R [] text ↔ text = [] := by
  simp [SplitsBy, eq_comm]

theorem splitsBy_cons {x : α} {xs : List α} : SplitsBy R (x :: xs) text ↔
    ∃ part rest, R x part ∧ SplitsBy R xs rest ∧ part ++ rest = text := by
  constructor
  · rintro ⟨parts, hparts, rfl⟩
    obtain ⟨part, others, hpart, hothers, rfl⟩ := List.forall₂_cons_left_iff.1 hparts
    exact ⟨part, others.flatten, hpart, ⟨others, hothers, rfl⟩, rfl⟩
  · rintro ⟨part, rest, hpart, ⟨others, hothers, rfl⟩, rfl⟩
    exact ⟨part :: others, .cons hpart hothers, rfl⟩

theorem splitsBy_singleton {x : α} : SplitsBy R [x] text ↔ R x text := by
  simp [splitsBy_cons, splitsBy_nil]

theorem splitsBy_append {xs ys : List α} : SplitsBy R (xs ++ ys) text ↔
    ∃ front back, SplitsBy R xs front ∧ SplitsBy R ys back ∧ front ++ back = text := by
  induction xs generalizing text with
  | nil => simp [splitsBy_nil]
  | cons x xs ih =>
    rw [List.cons_append, splitsBy_cons]
    constructor
    · rintro ⟨part, rest, hpart, hrest, rfl⟩
      obtain ⟨front, back, hfront, hback, rfl⟩ := ih.1 hrest
      exact ⟨part ++ front, back, splitsBy_cons.2 ⟨part, front, hpart, hfront, rfl⟩, hback,
        List.append_assoc ..⟩
    · rintro ⟨front, back, hfront, hback, rfl⟩
      obtain ⟨part, rest, hpart, hrest, rfl⟩ := splitsBy_cons.1 hfront
      exact ⟨part, rest ++ back, hpart, ih.2 ⟨rest, back, hrest, hback, rfl⟩,
        (List.append_assoc ..).symm⟩

/-- Parts of parts: each element stands for several others. -/
theorem splitsBy_flatMap {R : β → List Char → Prop} {f : α → List β} {xs : List α} :
    SplitsBy R (xs.flatMap f) text ↔ SplitsBy (fun x => SplitsBy R (f x)) xs text := by
  induction xs generalizing text with
  | nil => rw [List.flatMap_nil, splitsBy_nil, splitsBy_nil]
  | cons x xs ih => simp only [List.flatMap_cons, splitsBy_append, splitsBy_cons, ih]

theorem splitsBy_congr {xs : List α} (h : ∀ x ∈ xs, ∀ part, R x part ↔ S x part) :
    SplitsBy R xs text ↔ SplitsBy S xs text := by
  induction xs generalizing text with
  | nil => rw [splitsBy_nil, splitsBy_nil]
  | cons x xs ih =>
    rw [List.forall_mem_cons] at h
    simp only [splitsBy_cons, h.1, ih h.2]

end Text

open Text

/-! ## Globs -/

/-- The part of a text that a piece may stand for. -/
def GlobPiece.StandsFor : GlobPiece → List Char → Prop
  | run, _ => True
  | one, part => part.length = 1
  | letter c, part => ∃ d, part = [d] ∧ sameLetter c d

namespace Glob

variable {left : List (List Char)} {rest : List Char}

theorem mem_suffixes {text : List Char} : rest ∈ suffixes text ↔ rest <:+ text := by
  induction text with
  | nil => simp [suffixes]
  | cons c text ih => rw [suffixes, List.mem_cons, ih, List.suffix_cons_iff]

theorem afterChar?_eq_some_iff {accepts : Char → Bool} {text : List Char} :
    afterChar? accepts text = some rest ↔ ∃ c, accepts c ∧ c :: rest = text := by
  cases text with
  | nil => simp [afterChar?]
  | cons c text =>
    rw [afterChar?, Option.ite_none_right_eq_some, Option.some.injEq]
    constructor
    · rintro ⟨hc, rfl⟩
      exact ⟨c, hc, rfl⟩
    · rintro ⟨_, hc, ⟨⟩⟩
      exact ⟨hc, rfl⟩

/-- What may be left of a text is listed from the longest suffix to the shortest. -/
def Descends (left : List (List Char)) : Prop :=
  left.Pairwise fun longer shorter => shorter <:+ longer

theorem Descends.suffixes (text : List Char) : Descends (suffixes text) := by
  induction text with
  | nil => exact List.pairwise_singleton _ _
  | cons c text ih =>
    exact List.pairwise_cons.2 ⟨fun s hs => (mem_suffixes.1 hs).trans (List.suffix_cons c text), ih⟩

theorem Descends.filterMap_afterChar? (h : Descends left) (accepts : Char → Bool) :
    Descends (left.filterMap (afterChar? accepts)) := by
  refine List.Pairwise.filterMap _ (fun s t hst s' hs' t' ht' => ?_) h
  obtain ⟨c, -, rfl⟩ := afterChar?_eq_some_iff.1 hs'
  obtain ⟨d, -, rfl⟩ := afterChar?_eq_some_iff.1 ht'
  rcases List.suffix_cons_iff.1 hst with heq | hsuffix
  · rw [(List.cons.inj heq).2]
  · exact (List.suffix_cons d t').trans hsuffix

theorem descends_step (h : Descends left) (piece : GlobPiece) : Descends (step left piece) := by
  cases piece with
  | run =>
    cases left with
    | nil => exact .nil
    | cons s left => exact .suffixes s
  | one => exact h.filterMap_afterChar? _
  | letter c => exact h.filterMap_afterChar? _

/-- After a piece is left what comes after a part that the piece stands for. -/
theorem mem_step (h : Descends left) {piece : GlobPiece} :
    rest ∈ step left piece ↔ ∃ text ∈ left, ∃ part, piece.StandsFor part ∧ part ++ rest = text := by
  cases piece with
  | run =>
    cases left with
    | nil => simp [step]
    | cons s left =>
      -- All other texts are suffixes of the first.
      have hfirst : rest ∈ step (s :: left) .run ↔ rest <:+ s := mem_suffixes
      rw [hfirst]
      constructor
      · rintro ⟨part, rfl⟩
        exact ⟨_, List.mem_cons_self, part, trivial, rfl⟩
      · rintro ⟨text, htext, part, -, rfl⟩
        have hrest : rest <:+ part ++ rest := List.suffix_append part rest
        rcases List.mem_cons.1 htext with rfl | htext
        · exact hrest
        · exact hrest.trans (List.rel_of_pairwise_cons h htext)
  | one =>
    simp only [step, List.mem_filterMap, afterChar?_eq_some_iff, GlobPiece.StandsFor,
      List.length_eq_one_iff]
    constructor
    · rintro ⟨text, htext, c, -, rfl⟩
      exact ⟨_, htext, [c], ⟨c, rfl⟩, rfl⟩
    · rintro ⟨text, htext, _, ⟨c, rfl⟩, rfl⟩
      exact ⟨_, htext, c, trivial, rfl⟩
  | letter c =>
    simp only [step, List.mem_filterMap, afterChar?_eq_some_iff, GlobPiece.StandsFor]
    constructor
    · rintro ⟨text, htext, d, hd, rfl⟩
      exact ⟨_, htext, [d], ⟨d, rfl, hd⟩, rfl⟩
    · rintro ⟨text, htext, _, ⟨d, rfl, hd⟩, rfl⟩
      exact ⟨_, htext, d, hd, rfl⟩

/-- After several pieces is left what comes after parts that they stand for. -/
theorem mem_foldl_step (h : Descends left) (glob : List GlobPiece) :
    rest ∈ glob.foldl step left ↔
      ∃ text ∈ left, ∃ front, SplitsBy GlobPiece.StandsFor glob front ∧ front ++ rest = text := by
  induction glob generalizing left with
  | nil => simp [splitsBy_nil]
  | cons piece glob ih =>
    rw [List.foldl_cons, ih (descends_step h piece)]
    simp only [mem_step h, splitsBy_cons]
    constructor
    · rintro ⟨_, ⟨text, htext, part, hpart, heq⟩, front, hfront, rfl⟩
      exact ⟨text, htext, part ++ front, ⟨part, front, hpart, hfront, rfl⟩,
        by rw [List.append_assoc, heq]⟩
    · rintro ⟨text, htext, _, ⟨part, front, hpart, hfront, rfl⟩, heq⟩
      exact ⟨front ++ rest, ⟨text, htext, part, hpart, by rw [← heq, List.append_assoc]⟩, front,
        hfront, rfl⟩

/-- A glob matches a text just if the text falls into parts that its pieces stand for. -/
theorem isMatch_iff {glob : List GlobPiece} {text : List Char} :
    isMatch glob text ↔ SplitsBy GlobPiece.StandsFor glob text := by
  have hstart : Descends [text] := List.pairwise_singleton _ _
  have hempty : isMatch glob text ↔ [] ∈ glob.foldl step [text] := by
    simp [isMatch, List.any_eq_true, List.isEmpty_iff]
  rw [hempty, mem_foldl_step hstart]
  simp

theorem ofItems_eq_flatMap (items : List Item) : ofItems items = items.flatMap ofItem := by
  induction items with
  | nil => rfl
  | cons item items ih => rw [ofItems, ih, List.flatMap_cons]

end Glob

/-! ## Patterns -/

namespace Item

/-- The part of a text that a piece of a pattern may stand for: any part for `*`, one character for
`?`, and for a word or quote what is its text up to letter case. -/
def StandsFor : Item → List Char → Prop
  | wildcard _, _ => True
  | anyChar _, part => part.length = 1
  | word _ text, part | quote _ text, part => part.map foldChar = text.toList.map foldChar
  | _, _ => False

theorem splitsBy_letter {text part : List Char} :
    SplitsBy GlobPiece.StandsFor (text.map .letter) part ↔
      part.map foldChar = text.map foldChar := by
  induction text generalizing part with
  | nil => simp [splitsBy_nil]
  | cons c text ih =>
    rw [List.map_cons, splitsBy_cons]
    simp only [ih, GlobPiece.StandsFor]
    constructor
    · rintro ⟨_, rest, ⟨d, rfl, hd⟩, hrest, rfl⟩
      have hfold : foldChar c = foldChar d := beq_iff_eq.1 hd
      rw [List.singleton_append, List.map_cons, List.map_cons, hrest, hfold]
    · intro h
      obtain ⟨d, rest, rfl, hd, hrest⟩ := List.map_eq_cons_iff.1 h
      exact ⟨[d], rest, ⟨d, rfl, beq_iff_eq.2 hd.symm⟩, hrest, rfl⟩

theorem splitsBy_ofItem {item : Item} (h : item.isPieceSort) {part : List Char} :
    SplitsBy GlobPiece.StandsFor (Glob.ofItem item) part ↔ item.StandsFor part := by
  cases item with
  | wildcard | anyChar => exact splitsBy_singleton
  | word pos text | quote pos text => exact splitsBy_letter
  | _ => cases h

/-- The glob of a pattern matches a text just if the text falls into parts that the pieces of the
pattern stand for. -/
theorem isMatch_ofItems_iff {pieces : List Item} (h : ∀ piece ∈ pieces, piece.isPieceSort)
    {text : List Char} :
    Glob.isMatch (Glob.ofItems pieces) text ↔ SplitsBy StandsFor pieces text := by
  rw [Glob.isMatch_iff, Glob.ofItems_eq_flatMap, splitsBy_flatMap]
  exact splitsBy_congr fun piece hpiece part => splitsBy_ofItem (h piece hpiece)

end Item

namespace Matcher

variable {matcher : Matcher} {key : Item} {pieces : List Item} {field text : String} {doc : Json}
  {pos place : Position}

/-- A pattern under a field compiles into its glob, if that is not too large. -/
theorem ofItems_pattern (hkey : key.fieldName? = some field) (pos place : Position)
    (pieces : List Item) : ofItems [.pair pos key (.pattern place pieces)] =
      if Glob.maxSize < Glob.size (Glob.ofItems pieces) then .error .globTooLarge
      else .ok (.field field (.glob (Glob.ofItems pieces))) := by
  rw [ofItems_pair hkey, Test.ofItem, Test.ofGlob]
  split <;> rfl

/-- **Patterns.** A pattern under a field, if it is not too large, finds a string just if the string
falls into consecutive parts, one for each piece: any part for `*`, one character for `?`, and for
a word or quote what is its text up to letter case. -/
theorem accepts_pattern_iff (hpieces : ∀ piece ∈ pieces, piece.isPieceSort)
    (hkey : key.fieldName? = some field)
    (hcompile : ofItems [.pair pos key (.pattern place pieces)] = .ok matcher)
    (hslot : doc.lookup? field = some (.string text)) :
    matcher.accepts doc ↔
      ∃ parts : List (List Char), List.Forall₂ Item.StandsFor pieces parts ∧
        parts.flatten = text.toList := by
  rw [ofItems_pattern hkey] at hcompile
  split at hcompile
  · cases hcompile
  · cases hcompile
    rw [accepts, hslot]
    have hfits : (Test.glob (Glob.ofItems pieces)).passes doc (some (.string text)) =
        Glob.isMatch (Glob.ofItems pieces) text.toList := by
      simp [Test.passes, Json.slotValues, Test.fits, Json.scalarText?]
    exact (Bool.eq_iff_iff.1 hfits).trans (Item.isMatch_ofItems_iff hpieces)

set_option maxRecDepth 20000 in
/-- Signs stand for themselves and no other character, `?` for a line break too, and `k` for the
Kelvin sign. -/
theorem accepts_pattern_iff_signs :
    let pieces : List Item :=
      [.quote ⟨1, 3⟩ "(.", .anyChar ⟨1, 7⟩, .wildcard ⟨1, 8⟩, .wildcard ⟨1, 9⟩, .word ⟨1, 10⟩ "k",
        .quote ⟨1, 11⟩ ""]
    let doc : Json := .object [("f", .string "(.\nok\u212A")]
    let other : Json := .object [("f", .string "(x\nok\u212A")]
    (∀ piece ∈ pieces, piece.isPieceSort) ∧
      ∃ matcher, ofItems [.pair ⟨1, 1⟩ (.word ⟨1, 1⟩ "f") (.pattern ⟨1, 3⟩ pieces)] = .ok matcher ∧
        matcher.accepts doc ∧ ¬ matcher.accepts other := by
  intro pieces doc other
  have hpieces : ∀ piece ∈ pieces, piece.isPieceSort := by
    simp [pieces, Item.isPieceSort, Item.isNameSort]
  have hcompile : ofItems [.pair ⟨1, 1⟩ (.word ⟨1, 1⟩ "f") (.pattern ⟨1, 3⟩ pieces)] =
      .ok (.field "f" (.glob (Glob.ofItems pieces))) := by
    have hsize : ¬ Glob.maxSize < Glob.size (Glob.ofItems pieces) := by cbv
    rw [ofItems_pattern rfl, if_neg hsize]
  have hslot : doc.lookup? "f" = some (.string "(.\nok\u212A") := rfl
  have hother : other.lookup? "f" = some (.string "(x\nok\u212A") := rfl
  refine ⟨hpieces, _, hcompile, (accepts_pattern_iff hpieces rfl hcompile hslot).2 ?_,
    fun h => ?refused⟩
  · refine ⟨[['(', '.'], ['\n'], ['o'], ['k'], ['\u212A'], []], ?_, rfl⟩
    refine .cons ?quote (.cons ?anyChar (.cons ?wildcard (.cons ?wildcard' (.cons ?word
      (.cons ?empty .nil)))))
    case quote | word | empty =>
      change List.map _ _ = List.map _ _
      decide +kernel
    case anyChar => exact rfl
    case wildcard | wildcard' => trivial
  case refused =>
    obtain ⟨parts, hparts, htext⟩ := (accepts_pattern_iff hpieces rfl hcompile hother).1 h
    obtain ⟨part, parts, hpart, -, rfl⟩ := List.forall₂_cons_left_iff.1 hparts
    -- The quote stands for two characters, and the second of the text is no dot.
    have hpart : part.map Text.foldChar = ['(', '.'] := hpart
    have hlength : part.length = 2 := by simpa using congrArg List.length hpart
    have hfront : part = ['(', 'x'] := by
      have htake := congrArg (List.take 2) htext
      rwa [List.flatten_cons, ← hlength, List.take_left, hlength] at htake
    rw [hfront] at hpart
    revert hpart
    decide

end Matcher

end SearchQuery
