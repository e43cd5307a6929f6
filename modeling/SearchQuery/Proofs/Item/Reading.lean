import Mathlib.Data.List.Basic
import Mathlib.Data.List.Forall2
import Mathlib.Tactic.Common
import SearchQuery.Proofs.Item.Spelling

/-!
# What reading gives

* `Read` says what is known of an item that was read at the front of some tokens: its class, the
  levels it takes, and that its tokens are those that were read, in their canonical spelling.
* `readAt_ok`, `ofTokens_ok`: items that are read from proper tokens are such.

Each reader has one lemma. The readers of a level assume of the level below what `Inside.Sound`
says, and the last two lemmas tie the levels together.
-/

namespace SearchQuery.Item

open Token

/-- Tokens to be read: they are proper, and every pair in them has its value written if that is
what is counted. -/
structure Readable (left : Nat) (tokens : List Token) : Prop where
  proper : ProperAll tokens
  filled : left = 0 ∨ left = 1 ∧ FilledAll tokens

/-- An item of a class was read at the front of the tokens, and the rest of them is left. -/
structure Read (Class : Item → Prop) (left levels : Nat) (tokens : List Token) (item : Item)
    (rest : List Token) : Prop where
  suffix : rest <:+ tokens
  kind : Class item
  nesting : item.nesting left ≤ levels
  spell : normalAll tokens = bareAll item.spell ++ normalAll rest

/-- The items of a sequence were read from all of the tokens. -/
structure ReadAll (left levels : Nat) (tokens : List Token) (items : List Item) : Prop where
  sequence : IsSequence IsTerm items
  levels : Item.levels left items ≤ levels
  spell : normalAll tokens = bareAll (spellAll [blank] items)

/-- Readers that give what can be read, `levels` deep. -/
structure Inside.Sound (left levels : Nat) (inside : Inside) : Prop where
  item {tokens : List Token} {i : Item} {rest : List Token} (ht : Readable left tokens)
    (h : inside.item tokens = .ok (i, rest)) : Read IsTerm left levels tokens i rest
  items {tokens : List Token} {is : List Item} (ht : Readable left tokens)
    (h : inside.items tokens = .ok is) : ReadAll left levels tokens is

variable {limit left levels : Nat} {inside : Option Inside} {tokens rest : List Token} {t : Token}
  {item : Item}

theorem Readable.of_suffix (h : Readable left tokens) (hrest : rest <:+ tokens) :
    Readable left rest := by
  obtain ⟨front, rfl⟩ := hrest
  exact ⟨(properAll_append.1 h.proper).2.1, h.filled.imp_right fun hf => ⟨hf.1, hf.2.of_append⟩⟩

theorem Readable.tail (h : Readable left (t :: rest)) : Readable left rest :=
  h.of_suffix (List.suffix_cons t rest)

theorem Readable.contents {pos : Position} {contents : List Token}
    (h : Readable left (.group pos contents :: rest)) : Readable left contents :=
  ⟨h.proper.1, h.filled.imp_right fun hf => ⟨hf.1, hf.2.1⟩⟩

/-! ## Pieces -/

theorem isName_of_name (ht : t.Proper) (h : name? t = some item) :
    IsName item ∧ item.spell = [t.unplaced] := by
  cases t with
  | word pos text =>
    obtain ⟨hkeyword, rfl⟩ := piece?_word h
    exact ⟨.word (Text.isBareWord_iff.2 ⟨ht.1, ht.2.1, ht.2.2, hkeyword⟩), rfl⟩
  | quote pos text =>
    cases h
    exact ⟨.quote, rfl⟩
  | _ => cases h

theorem isPiece_of_piece (ht : t.Proper) (h : piece? t = some item) :
    IsPiece item ∧ item.spell = [t.unplaced] := by
  cases t with
  | word pos text | quote pos text =>
    obtain ⟨hname, hspell⟩ := isName_of_name ht h
    exact ⟨.name hname, hspell⟩
  | sign pos s =>
    cases s with
    | wildcard => cases h; exact ⟨.wildcard, rfl⟩
    | anyChar => cases h; exact ⟨.anyChar, rfl⟩
    | _ => cases h
  | _ => cases h

/-- A token of a piece is written as it stands. -/
theorem normalAll_piece (h : piece? t = some item) (rest : List Token) :
    normalAll (t :: rest) = t.bare ++ normalAll rest := by
  cases t with
  | word pos text => exact normalAll_word pos rest (piece?_word h).1
  | quote pos text => rfl
  | sign pos s => cases s <;> first | rfl | cases h
  | _ => cases h

/-- Pieces and the tokens that they were read from. -/
abbrev PiecesOf (front : List Token) (items : List Item) : Prop :=
  List.Forall₂ (fun t item => piece? t = some item) front items

theorem pieces_split (tokens : List Token) :
    ∃ front, tokens = front ++ (pieces tokens).2 ∧ PiecesOf front (pieces tokens).1 := by
  induction tokens with
  | nil => exact ⟨[], rfl, .nil⟩
  | cons t rest ih =>
    rw [pieces]
    cases hpiece : piece? t with
    | none => exact ⟨[], rfl, .nil⟩
    | some item =>
      obtain ⟨front, hfront, hitems⟩ := ih
      refine ⟨t :: front, ?_, .cons hpiece hitems⟩
      rw [List.cons_append, ← hfront]

namespace PiecesOf

variable {front : List Token} {items : List Item}

theorem isPiece (h : PiecesOf front items) (hproper : ProperAll front) :
    ∀ item ∈ items, IsPiece item := by
  induction h with
  | nil => simp
  | cons hpiece _ ih =>
    exact List.forall_mem_cons.2 ⟨(isPiece_of_piece hproper.1 hpiece).1, ih hproper.2.2⟩

theorem spell (h : PiecesOf front items) (hproper : ProperAll front) :
    items.flatMap Item.spell = Token.unplacedAll front := by
  induction h with
  | nil => rfl
  | cons hpiece _ ih =>
    rw [List.flatMap_cons, (isPiece_of_piece hproper.1 hpiece).2, ih hproper.2.2]
    rfl

theorem words_apart (h : PiecesOf front items) (hproper : ProperAll front) :
    items.IsChain fun a b => a.isWord = false ∨ b.isWord = false := by
  induction h with
  | nil => exact .nil
  | @cons t item front items hpiece hrest ih =>
    obtain ⟨-, hsplits, hproper⟩ := hproper
    cases hrest with
    | nil => exact .singleton _
    | @cons u next _ _ hnext _ =>
      exact .cons_cons ((splits_piece_iff hpiece hnext).1 (hsplits u rfl)) (ih hproper)

theorem normalAll (h : PiecesOf front items) (rest : List Token) :
    Token.normalAll (front ++ rest) = bareAll front ++ Token.normalAll rest := by
  induction h with
  | nil => rfl
  | cons hpiece _ ih => rw [List.cons_append, normalAll_piece hpiece, ih, bareAll, List.append_assoc]

theorem no_dots (h : PiecesOf front items) (pos : Position) : .sign pos .dots ∉ front := by
  induction h with
  | nil => simp
  | cons hpiece _ ih =>
    rw [List.mem_cons, not_or]
    refine ⟨?_, ih⟩
    rintro rfl
    cases hpiece

end PiecesOf

/-! ## Values -/

/-- A plain value was read at the front of the tokens. If `..` follows, it does not end in a dot. -/
structure ReadPlain (left levels : Nat) (tokens : List Token) (item : Item) (rest : List Token) :
    Prop extends Read IsPlain left levels tokens item rest where
  undotted : ∀ pos tail, rest = .sign pos .dots :: tail → item.print.toList.getLast? ≠ some '.'

/-- A value whose tokens are those that were read. -/
theorem ReadPlain.of_spell {front : List Token} (hproper : ProperAll (front ++ rest))
    (hplain : IsPlain item) (hspell : item.spell = Token.unplacedAll front)
    (hnormal : normalAll (front ++ rest) = bareAll front ++ normalAll rest)
    (hdots : ∀ pos, .sign pos .dots ∉ front) :
    ReadPlain left levels (front ++ rest) item rest where
  suffix := List.suffix_append front rest
  kind := hplain
  nesting := by simp [hplain.nesting_eq]
  spell := by rw [hnormal, hspell, bareAll_unplacedAll]
  undotted := by
    rintro pos tail rfl
    rw [print_toList, hspell, charsAll_unplacedAll]
    exact hproper.undotted hdots

theorem readTarget_ok {pin : Token} {pos : Position} (hpin : pin = .sign pos .pin)
    (hproper : ProperAll (pin :: tokens)) (h : readTarget pin tokens = .ok (item, rest)) :
    ReadPlain left levels (pin :: tokens) item rest := by
  unfold readTarget at h
  split at h
  · cases h
  · rename_i target rest'
    split at h
    · rename_i name hname
      cases h
      obtain ⟨hisName, hspell⟩ := isName_of_name hproper.2.2.1 hname
      have hpiece := piece?_of_name hname
      have hfront : ProperAll ([pin, target] ++ rest) := hproper
      refine ReadPlain.of_spell hfront (.pin hisName) ?_ ?_ ?_
      · rw [Item.spell, hspell, hpin]
        rfl
      · rw [hpin, List.cons_append, normalAll_sign _ _ (by simp), List.singleton_append,
          normalAll_piece hpiece]
        simp [bareAll, bare, Token.unplaced]
      · intro pos'
        have := PiecesOf.no_dots (.cons hpiece .nil) pos'
        simpa [hpin] using this
    · cases h

/-- A value is read from the pieces at the front of the tokens. -/
theorem readPlain_pieces {front : List Token} {items : List Item} (h : PiecesOf front items)
    (hproper : ProperAll (front ++ rest))
    (hitem : items = [item] ∨ 2 ≤ items.length ∧ ∃ pos, item = .pattern pos items) :
    ReadPlain left levels (front ++ rest) item rest := by
  have hfront := (properAll_append.1 hproper).1
  have hpieces := h.isPiece hfront
  have hspell := h.spell hfront
  obtain rfl | ⟨hlength, pos, rfl⟩ := hitem
  · refine .of_spell hproper (.piece (hpieces item (by simp))) ?_ (h.normalAll rest) h.no_dots
    simpa using hspell
  · refine .of_spell hproper (.pattern hpieces hlength (h.words_apart hfront)) ?_
      (h.normalAll rest) h.no_dots
    rw [Item.spell, spellAll_nil, hspell]

theorem keyword?_eq_some {k : Text.Keyword} (h : t.keyword? = some k) :
    ∃ pos text, t = .word pos text ∧ Text.Keyword.ofWord? text = some k := by
  cases t with
  | word pos text => exact ⟨pos, text, rfl, h⟩
  | _ => cases h

theorem readPlain_null (h : t.keyword? = some .null) :
    ReadPlain left levels (t :: rest) (.null t.position) rest := by
  obtain ⟨pos, text, rfl, hnull⟩ := keyword?_eq_some h
  exact {
    suffix := List.suffix_cons _ rest
    kind := .null
    nesting := Nat.zero_le _
    spell := normalAll_keyword pos rest hnull
    undotted := fun _ _ _ => by simp [print, Text.Keyword.text] }

/-- The readers of the level below give what can be read. -/
def SoundBelow (left levels : Nat) (inside : Option Inside) : Prop :=
  ∀ readers ∈ inside, ∃ below, levels = below + 1 ∧ readers.Sound left below

theorem readGroup_ok (hinside : SoundBelow left levels inside) {pos : Position}
    {contents : List Token} (ht : Readable left (.group pos contents :: rest))
    (h : readGroup limit inside pos contents = .ok item) :
    Read (IsValue IsTerm) left levels (.group pos contents :: rest) item rest := by
  unfold readGroup at h
  split at h
  · cases h
  · rename_i readers
    obtain ⟨below, rfl, hsound⟩ := hinside readers rfl
    obtain ⟨items, hitems, rfl⟩ := Except.map_eq_ok.1 h
    obtain ⟨hsequence, hlevels, hspell⟩ := hsound.items ht.contents hitems
    exact {
      suffix := List.suffix_cons _ rest
      kind := .group hsequence
      nesting := Nat.succ_le_succ hlevels
      spell := by rw [normalAll_group, hspell]; rfl }

theorem readValue_none (h : readValue limit inside tokens = .ok none) : breaks tokens := by
  unfold readValue at h
  split at h
  · rfl
  · rename_i first rest
    split at h
    · cases h
    · cases h
    · split at h
      · rfl
      · obtain ⟨_, _, ⟨⟩⟩ := Except.map_eq_ok.1 h
      · obtain ⟨_, _, ⟨⟩⟩ := Except.map_eq_ok.1 h
      · split at h <;> cases h

/-- A value that is read is plain, unless it is a group. -/
theorem readValue_ok (hinside : SoundBelow left levels inside) (ht : Readable left tokens)
    (h : readValue limit inside tokens = .ok (some (item, rest))) :
    ReadPlain left levels tokens item rest ∨
      (∃ pos contents, tokens = .group pos contents :: rest) ∧
        Read (IsValue IsTerm) left levels tokens item rest := by
  obtain ⟨front, hfront, hpieces⟩ := pieces_split tokens
  have hproper := ht.proper
  unfold readValue at h
  split at h
  · cases h
  · rename_i first tail
    split at h
    · rename_i piece rest' heq
      rw [heq] at hfront hpieces
      cases h
      rw [hfront] at hproper ⊢
      exact .inl (readPlain_pieces hpieces hproper (.inl rfl))
    · rename_i piece others rest' hne heq
      rw [heq] at hfront hpieces
      cases h
      rw [hfront] at hproper ⊢
      have hlength : 2 ≤ (piece :: others).length := by
        cases others with
        | nil => exact (hne rfl).elim
        | cons _ _ => simp
      exact .inl (readPlain_pieces hpieces hproper (.inr ⟨hlength, _, rfl⟩))
    · split at h
      · cases h
      · obtain ⟨group, hgroup, ⟨⟩⟩ := Except.map_eq_ok.1 h
        exact .inr ⟨⟨_, _, rfl⟩, readGroup_ok hinside ht hgroup⟩
      · obtain ⟨_, htarget, ⟨⟩⟩ := Except.map_eq_ok.1 h
        exact .inl (readTarget_ok rfl hproper htarget)
      · split at h
        · rename_i hnull
          cases h
          exact .inl (readPlain_null hnull)
        · cases h

theorem readValue_isValue (hinside : SoundBelow left levels inside) (ht : Readable left tokens)
    (h : readValue limit inside tokens = .ok (some (item, rest))) :
    Read (IsValue IsTerm) left levels tokens item rest := by
  obtain h | ⟨-, h⟩ := readValue_ok hinside ht h
  · exact ⟨h.suffix, .plain h.kind, h.nesting, h.spell⟩
  · exact h

/-- No value starts at a space or at the end. -/
theorem readValue_of_breaks (h : breaks tokens) : readValue limit inside tokens = .ok none := by
  cases tokens with
  | nil => rfl
  | cons t rest =>
    cases t with
    | space pos text => rfl
    | _ => cases h

theorem breaks_of_readValue (h : readValue limit inside tokens = .ok (some (item, rest))) :
    breaks tokens = false := by
  by_contra hbreaks
  rw [Bool.not_eq_false] at hbreaks
  rw [readValue_of_breaks hbreaks] at h
  cases h

theorem requireValue_ok {after : Token} (h : requireValue limit inside after tokens = .ok (item, rest)) :
    readValue limit inside tokens = .ok (some (item, rest)) := by
  unfold requireValue at h
  split at h <;> cases h
  assumption

/-! ## Ranges and lists -/

/-- A range is read from its start, the sign `..` and what follows. -/
theorem readStop_ok (hinside : SoundBelow left levels inside) {all : List Token}
    (ht : Readable left all) {pos pos' : Position} {start : Item}
    (hstart : Read (IsBound IsStart) left levels all start (.sign pos' .dots :: tokens))
    (h : readStop limit inside pos start tokens = .ok (item, rest)) :
    Read IsTerm left levels all item rest := by
  have hsuffix : tokens <:+ all := (List.suffix_cons _ tokens).trans hstart.suffix
  have hspell := hstart.spell
  rw [normalAll_sign _ _ (by simp)] at hspell
  unfold readStop at h
  split at h
  · cases h
  · cases h
    refine ⟨hsuffix, .range hstart.kind .open, ?_, ?_⟩
    · simpa [nesting] using hstart.nesting
    · simpa [Item.spell, bareAll, bare, Token.unplaced] using hspell
  · rename_i stop rest' hstop
    cases h
    have hread := readValue_isValue hinside (ht.of_suffix hsuffix) hstop
    refine ⟨hread.suffix.trans hsuffix, .range hstart.kind (.value hread.kind), ?_, ?_⟩
    · exact Nat.max_le.2 ⟨hstart.nesting, hread.nesting⟩
    · simpa [Item.spell, bareAll, bare, Token.unplaced, hread.spell] using hspell

/-- The tokens of values with a comma before each. -/
def spellTail (items : List Item) : List Token :=
  items.flatMap fun item => .sign .start .comma :: item.spell

theorem spellAll_comma (first : Item) (items : List Item) :
    spellAll [.sign .start .comma] (first :: items) = first.spell ++ spellTail items := by
  induction items generalizing first with
  | nil => simp [spellAll, spellTail]
  | cons next items ih => rw [spellAll_cons _ _ (by simp), ih]; simp [spellTail]

/-- Values between commas are read up to a value that no comma follows. A comma after which there
is no value is left out. -/
theorem readValues_ok (hinside : SoundBelow left levels inside) {fuel : Nat} {items : List Item}
    (pos : Position) (ht : Readable left tokens) (hfuel : tokens.length ≤ fuel)
    (h : readValues limit inside fuel tokens = .ok (items, rest)) :
    rest <:+ tokens ∧ (∀ item ∈ items, IsValue IsTerm item) ∧ nestingAll left items ≤ levels ∧
      normalAll (.sign pos .comma :: tokens) = bareAll (spellTail items) ++ normalAll rest := by
  induction fuel generalizing tokens items pos with
  | zero =>
    obtain rfl := List.eq_nil_of_length_eq_zero (Nat.le_zero.1 hfuel)
    cases h
    exact ⟨List.suffix_refl _, by simp, Nat.zero_le _, rfl⟩
  | succ fuel ih =>
    unfold readValues at h
    split at h
    · cases h
    · rename_i hnone
      cases h
      exact ⟨List.suffix_refl _, by simp, Nat.zero_le _,
        normalAll_comma_of_breaks _ _ (readValue_none hnone)⟩
    · rename_i item pos' rest' hvalue
      obtain ⟨⟨others, rest''⟩, hothers, ⟨⟩⟩ := Except.map_eq_ok.1 h
      have hread := readValue_isValue hinside ht hvalue
      have hsuffix : rest' <:+ tokens := (List.suffix_cons _ _).trans hread.suffix
      have hlength := hread.suffix.length_le
      rw [List.length_cons] at hlength
      obtain ⟨hrest, hkinds, hnesting, hspell⟩ :=
        ih pos' (ht.of_suffix hsuffix) (by omega) hothers
      refine ⟨hrest.trans hsuffix, List.forall_mem_cons.2 ⟨hread.kind, hkinds⟩,
        Nat.max_le.2 ⟨hread.nesting, hnesting⟩, ?_⟩
      rw [normalAll_sign _ _ fun _ => breaks_of_readValue hvalue, hread.spell, hspell]
      simp [spellTail, bareAll, bare, Token.unplaced]
    · rename_i item rest' _ hvalue
      cases h
      have hread := readValue_isValue hinside ht hvalue
      refine ⟨hread.suffix, by simpa using hread.kind, ?_, ?_⟩
      · simpa [nestingAll] using hread.nesting
      · rw [normalAll_sign _ _ fun _ => breaks_of_readValue hvalue, hread.spell]
        simp [spellTail, bareAll, bare, Token.unplaced]

/-- What follows a plain value makes it a range or a list, or leaves it as it is. -/
theorem readSuffix_ok (hinside : SoundBelow left levels inside) {all : List Token}
    (ht : Readable left all) {first : Item} (hfirst : ReadPlain left levels all first tokens)
    (h : readSuffix limit inside first tokens = .ok (item, rest)) :
    Read IsTerm left levels all item rest := by
  unfold readSuffix at h
  split at h
  · rename_i pos tail
    have hstart : IsStart first := ⟨hfirst.kind, hfirst.undotted pos tail rfl⟩
    exact readStop_ok hinside ht ⟨hfirst.suffix, .value hstart, hfirst.nesting, hfirst.spell⟩ h
  · rename_i pos tail
    obtain ⟨⟨items, rest'⟩, hitems, ⟨⟩⟩ := Except.map_eq_ok.1 h
    have hsuffix : tail <:+ all := (List.suffix_cons _ _).trans hfirst.suffix
    obtain ⟨hrest, hkinds, hnesting, hspell⟩ :=
      readValues_ok hinside pos (ht.of_suffix hsuffix) (Nat.le_refl _) hitems
    refine ⟨hrest.trans hsuffix, .list hfirst.kind hkinds, ?_, ?_⟩
    · exact Nat.max_le.2 ⟨hfirst.nesting, hnesting⟩
    · rw [hfirst.spell, hspell, Item.spell, spellAll_comma, bareAll_append, List.append_assoc]
  · cases h
    exact ⟨hfirst.suffix, .value (.plain hfirst.kind), hfirst.nesting, hfirst.spell⟩

/-! ## Items -/

theorem readPair_eq (key : Item) : readPair limit inside key tokens =
    if breaks tokens then .ok (.pair key.position key (.null key.position), tokens)
    else
      match inside with
      | none => .error (.tooDeep limit key.position)
      | some inside =>
        (inside.item tokens).map fun (item, rest) => (.pair key.position key item, rest) := by
  cases tokens <;> rfl

theorem Readable.left_le_one (h : Readable left tokens) : left ≤ 1 := by
  rcases h.filled with rfl | ⟨rfl, -⟩ <;> omega

/-- The value of a pair is `NULL` only where it is left out, or written so. -/
theorem readPair_ok (hinside : SoundBelow left levels inside) {all : List Token}
    (ht : Readable left all) {pos : Position} {key : Item}
    (hkey : Read IsName left levels all key (.sign pos .colon :: tokens))
    (h : readPair limit inside key tokens = .ok (item, rest)) :
    Read IsTerm left levels all item rest := by
  have hcolon := ht.of_suffix hkey.suffix
  have hsuffix : tokens <:+ all := (List.suffix_cons _ tokens).trans hkey.suffix
  rw [readPair_eq] at h
  split at h
  · rename_i hbreaks
    cases h
    refine ⟨hsuffix, .pair hkey.kind (.value (.plain .null)), ?_, ?_⟩
    · rcases hcolon.filled with rfl | ⟨-, hfilled⟩
      · simpa [nesting] using hkey.nesting
      · rw [hfilled.2.1 pos rfl] at hbreaks
        cases hbreaks
    · rw [hkey.spell, normalAll_colon_of_breaks _ _ hbreaks]
      simp [Item.spell, bareAll, bare, Token.unplaced]
  · rename_i hbreaks
    split at h
    · cases h
    · rename_i readers
      obtain ⟨below, rfl, hsound⟩ := hinside readers rfl
      obtain ⟨⟨v, rest'⟩, hv, ⟨⟩⟩ := Except.map_eq_ok.1 h
      have hread := hsound.item hcolon.tail hv
      refine ⟨hread.suffix.trans hsuffix, .pair hkey.kind hread.kind, ?_, ?_⟩
      · refine Nat.le_trans (nesting_pair_le ht.left_le_one _ _ _) (Nat.max_le.2 ⟨hkey.nesting, ?_⟩)
        exact Nat.succ_le_succ hread.nesting
      · rw [hkey.spell, normalAll_sign _ _ fun _ => Bool.eq_false_iff.2 hbreaks, hread.spell]
        simp [Item.spell, bareAll, bare, Token.unplaced]

theorem readItem_ok (hinside : SoundBelow left levels inside) (ht : Readable left tokens)
    (h : readItem limit inside tokens = .ok (item, rest)) :
    Read IsTerm left levels tokens item rest := by
  unfold readItem at h
  split at h
  · cases h
  · rename_i first tail
    split at h
    · obtain ⟨group, hgroup, ⟨⟩⟩ := Except.map_eq_ok.1 h
      have hread := readGroup_ok hinside ht hgroup
      exact ⟨hread.suffix, .value hread.kind, hread.nesting, hread.spell⟩
    · rename_i pos op
      obtain ⟨⟨operand, rest'⟩, hoperand, ⟨⟩⟩ := Except.map_eq_ok.1 h
      have hread := readValue_isValue hinside ht.tail (requireValue_ok hoperand)
      refine ⟨hread.suffix.trans (List.suffix_cons _ _), .compare hread.kind, hread.nesting, ?_⟩
      rw [normalAll_sign _ _ (by simp), hread.spell]
      simp [Item.spell, bareAll, bare, Token.unplaced]
    · exact readStop_ok hinside ht ⟨List.suffix_refl _, .open, Nat.zero_le _, rfl⟩ h
    · rename_i hgroup _ _
      split at h
      · rename_i key pos rest' hname
        obtain ⟨hkey, hspell⟩ := isName_of_name ht.proper.1 hname
        have hpiece := piece?_of_name hname
        refine readPair_ok hinside ht ⟨List.suffix_cons _ _, hkey, ?_, ?_⟩ h
        · simp [(IsPiece.name hkey).nesting_eq]
        · rw [normalAll_piece hpiece, hspell, bareAll, bare_unplaced, bareAll, List.append_nil]
      · split at h
        · cases h
        · rename_i value rest' hvalue
          obtain hread | ⟨⟨pos, contents, hcontents⟩, -⟩ :=
            readValue_ok hinside ht (requireValue_ok hvalue)
          · exact readSuffix_ok hinside ht hread h
          · cases hcontents
            exact absurd rfl (hgroup pos contents)

/-! ## Sequences -/

/-- A term takes a token at least. -/
theorem Read.length_lt (h : Read IsTerm left levels tokens item rest) :
    rest.length < tokens.length := by
  refine Nat.lt_of_le_of_ne h.suffix.length_le fun heq => ?_
  have hrest := h.suffix.eq_of_length heq
  have hspell := h.spell
  rw [hrest, List.self_eq_append_left] at hspell
  obtain ⟨t, ts, hts⟩ := List.exists_cons_of_ne_nil h.kind.spell_ne_nil
  have hspace := isSpace_of_inTerm (h.kind.tidy.inTerm t (by simp [hts]))
  rw [hts, bareAll, List.append_eq_nil_iff] at hspell
  cases t with
  | space pos text => cases hspace
  | _ => cases hspell.1

theorem connective?_eq_some {part : Part} (h : connective? t = some part) :
    ∃ pos text k, t = .word pos text ∧ Text.Keyword.ofWord? text = some k ∧
      part.spell = [.word .start k.text] ∧ part.isConnective := by
  unfold connective? at h
  split at h
  case h_4 => cases h
  all_goals
    rename_i hk
    obtain ⟨pos, text, rfl, hk⟩ := keyword?_eq_some hk
    cases h
    exact ⟨pos, text, _, rfl, hk, rfl, rfl⟩

/-- The keywords between the items of a sequence. -/
def keywords (tokens : List Token) : List Token :=
  tokens.filter fun token => (connective? token).isSome

theorem keywords_length_le (h : rest <:+ tokens) :
    (keywords rest).length ≤ (keywords tokens).length :=
  (h.sublist.filter _).length_le

/-- What is read first of a sequence: a blank, which is no part of it, a keyword or an item. -/
theorem readParts_cons_ok {reader : List Token → Reading} {fuel : Nat} {first : Token}
    {parts : List Part} (h : readParts reader (fuel + 1) (first :: rest) = .ok parts) :
    (∃ pos text, first = .space pos text ∧ readParts reader fuel rest = .ok parts) ∨
      (∃ part others, connective? first = some part ∧ readParts reader fuel rest = .ok others ∧
        parts = part :: others) ∨
      ∃ item rest' others, reader (first :: rest) = .ok (item, rest') ∧
        readParts reader fuel rest' = .ok others ∧ parts = .item item :: others := by
  unfold readParts at h
  split at h
  · rename_i hspace
    cases first with
    | space pos text => exact .inl ⟨pos, text, rfl, h⟩
    | _ => cases hspace
  · split at h
    · rename_i part hpart
      obtain ⟨others, hothers, rfl⟩ := Except.map_eq_ok.1 h
      exact .inr (.inl ⟨part, others, hpart, hothers, rfl⟩)
    · split at h
      · cases h
      · rename_i item rest' hitem
        obtain ⟨others, hothers, rfl⟩ := Except.map_eq_ok.1 h
        exact .inr (.inr ⟨item, rest', others, hitem, hothers, rfl⟩)

/-- The parts of a sequence are its items and keywords, in their order. -/
theorem readParts_ok {reader : List Token → Reading}
    (hreader : ∀ {tokens item rest}, Readable left tokens → reader tokens = .ok (item, rest) →
      Read IsTerm left levels tokens item rest)
    {fuel : Nat} {parts : List Part} (ht : Readable left tokens) (hfuel : tokens.length ≤ fuel)
    (h : readParts reader fuel tokens = .ok parts) :
    (∀ i, .item i ∈ parts → IsTerm i ∧ i.nesting left ≤ levels) ∧
      parts.countP Part.isConnective ≤ (keywords tokens).length ∧
      normalAll tokens = bareAll (parts.flatMap Part.spell) := by
  induction fuel generalizing tokens parts with
  | zero =>
    obtain rfl := List.eq_nil_of_length_eq_zero (Nat.le_zero.1 hfuel)
    cases h
    exact ⟨by simp, Nat.zero_le _, rfl⟩
  | succ fuel ih =>
    cases tokens with
    | nil =>
      cases h
      exact ⟨by simp, Nat.zero_le _, rfl⟩
    | cons first rest =>
      rw [List.length_cons, Nat.add_le_add_iff_right] at hfuel
      rcases readParts_cons_ok h with ⟨pos, text, rfl, hothers⟩ |
        ⟨part, others, hpart, hothers, rfl⟩ | ⟨item, rest', others, hitem, hothers, rfl⟩
      · obtain ⟨hterms, hcount, hspell⟩ := ih ht.tail hfuel hothers
        refine ⟨hterms, Nat.le_trans hcount (keywords_length_le (List.suffix_cons _ _)), ?_⟩
        rw [normalAll_space, hspell]
      · obtain ⟨hterms, hcount, hspell⟩ := ih ht.tail hfuel hothers
        obtain ⟨pos, text, k, rfl, hk, hpartSpell, hconnective⟩ := connective?_eq_some hpart
        refine ⟨?_, ?_, ?_⟩
        · intro i hi
          rcases List.mem_cons.1 hi with rfl | hi
          · cases hconnective
          · exact hterms i hi
        · simp [keywords, hpart, hconnective] at *
          omega
        · rw [normalAll_keyword _ _ hk, hspell, List.flatMap_cons, hpartSpell]
          rfl
      · have hread := hreader ht hitem
        have hlength := hread.length_lt
        rw [List.length_cons] at hlength
        obtain ⟨hterms, hcount, hspell⟩ := ih (ht.of_suffix hread.suffix) (by omega) hothers
        refine ⟨?_, Nat.le_trans hcount (keywords_length_le hread.suffix), ?_⟩
        · intro i hi
          rcases List.mem_cons.1 hi with hi | hi
          · cases hi
            exact ⟨hread.kind, hread.nesting⟩
          · exact hterms i hi
        · rw [hread.spell, hspell, List.flatMap_cons, bareAll_append]
          rfl

theorem bareAll_spellAll_parts (parts : List Part) :
    bareAll (Part.spellAll parts) = bareAll (parts.flatMap Part.spell) := by
  induction parts with
  | nil => rfl
  | cons part parts ih =>
    by_cases hparts : parts = []
    · subst hparts
      simp [Part.spellAll]
    · rw [Part.spellAll_cons _ hparts, List.flatMap_cons, bareAll_append, bareAll_append, bareAll, ih]
      rfl

/-- A sequence with levels for its keywords is what its parts combine into. -/
theorem readSequence_eq_combine {reader : Nat → List Token → Reading} {parts : List Part}
    (hkeywords : (keywords tokens).length ≤ levels)
    (hparts : readParts (reader (levels - (keywords tokens).length)) tokens.length tokens =
      .ok parts) :
    readSequence limit reader levels tokens = Part.combine parts := by
  have hnone : (keywords tokens)[levels]? = none := by
    rw [List.getElem?_eq_none_iff]
    exact hkeywords
  unfold readSequence
  dsimp only
  rw [← keywords, hnone, hparts]

theorem readSequence_ok {reader : Nat → List Token → Reading}
    (hreader : ∀ {below tokens item rest}, Readable left tokens →
      reader below tokens = .ok (item, rest) → Read IsTerm left below tokens item rest)
    {items : List Item} (ht : Readable left tokens)
    (h : readSequence limit reader levels tokens = .ok items) : ReadAll left levels tokens items := by
  unfold readSequence at h
  dsimp only at h
  split at h
  · cases h
  · rename_i hlevels
    split at h
    · cases h
    · rename_i parts hparts
      obtain ⟨hterms, hcount, hspell⟩ := readParts_ok hreader ht (Nat.le_refl _) hparts
      obtain ⟨rfl, hsequence⟩ := Part.combine_ok (fun _ => IsTerm.isAtom) h fun i hi => (hterms i hi).1
      refine ⟨hsequence, ?_, ?_⟩
      · have hnesting := (nestingAll_le_iff left items).2 fun i hi => (hterms i hi).2
        rw [List.getElem?_eq_none_iff] at hlevels
        rw [← connectivesAll_eq_countP] at hcount
        simp only [Item.levels, keywords] at *
        omega
      · rw [hspell, (hsequence.mono fun _ => IsTerm.isAtom).spell_eq, bareAll_spellAll_parts]

/-- An item that is read is a term that takes no more levels than there are. -/
theorem readAt_ok {fuel : Nat} (ht : Readable left tokens)
    (h : readAt limit fuel levels tokens = .ok (item, rest)) :
    Read IsTerm left levels tokens item rest := by
  induction fuel generalizing levels tokens item rest with
  | zero =>
    rw [readAt] at h
    · exact readItem_ok (by simp [SoundBelow]) ht h
    · simp
  | succ fuel ih =>
    cases levels with
    | zero =>
      rw [readAt] at h
      · exact readItem_ok (by simp [SoundBelow]) ht h
      · simp
    | succ levels =>
      rw [readAt] at h
      refine readItem_ok ?_ ht h
      rintro _ ⟨⟩
      exact ⟨levels, rfl, ih, fun ht h => readSequence_ok ih ht h⟩

/-- Items that are read are a sequence that takes no more levels than there are. -/
theorem ofTokens_ok {items : List Item} (ht : Readable left tokens)
    (h : ofTokens limit tokens = .ok items) : ReadAll left limit tokens items :=
  readSequence_ok readAt_ok ht h

end SearchQuery.Item
