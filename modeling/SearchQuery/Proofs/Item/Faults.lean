import Mathlib
import SearchQuery.Proofs.Item.Combining
import SearchQuery.Proofs.Item.Levels
import SearchQuery.Proofs.Item.Reading

/-!
# The token that an error is about

Errors of reading name a token, at the place where it stands and for what it is.

* `HasSequence` says which tokens stand next to each other, on the top level or in some group.
* `Called` says what errors call a token. A keyword is called the keyword, in whatever letter case
  it is written.
* `PointsAt` says what an error and its token have in common, and `Faulty` that there is such a
  token.
* `readAt_faulty`, `ofTokens_faulty`: where reading fails, there is.

Each reader has a lemma of this form; those of a level assume it of the level below
(`Inside.Blames`). Readers of items are only called where an item may start, which is why no error is
about the end of the text.
-/

namespace SearchQuery

theorem Text.asciiUpper_eq_toUpper (c : Char) : asciiUpper c = c.toUpper := by
  have hlower : ('a' ≤ c && c ≤ 'z') = c.isLower := rfl
  rw [asciiUpper, hlower]
  split
  · rename_i h
    exact (Char.toUpper_eq_of_isLower h).symm
  · rename_i h
    exact (Char.toUpper_eq_of_not_isLower h).symm

namespace Token

/-- The sequence is all of the tokens, or the contents of a group in such a sequence. -/
inductive HasSequence (tokens : List Token) : List Token → Prop where
  | self : HasSequence tokens tokens
  | group {sequence : List Token} {pos : Position} {contents : List Token}
      (h : HasSequence tokens sequence) (hgroup : .group pos contents ∈ sequence) :
      HasSequence tokens contents

theorem HasSequence.trans {tokens inner sequence : List Token} (h : HasSequence tokens inner)
    (hinner : HasSequence inner sequence) : HasSequence tokens sequence := by
  induction hinner with
  | self => exact h
  | group _ hgroup ih => exact ih.group hgroup

/-- A sequence of the last tokens is one of all tokens, unless it is the last tokens themselves. -/
theorem HasSequence.of_suffix {tokens rest sequence : List Token} (h : HasSequence rest sequence)
    (hrest : rest <:+ tokens) : sequence = rest ∨ HasSequence tokens sequence := by
  induction h with
  | self => exact .inl rfl
  | group _ hgroup ih =>
    rcases ih with rfl | ih
    · exact .inr (.group .self (hrest.mem hgroup))
    · exact .inr (ih.group hgroup)

/-! ## What errors say of tokens -/

/-- The keywords that combine items. -/
def combining : List String := ["AND", "OR", "NOT"]

/-- The keywords, which name no field. -/
def reserved : List String := ["AND", "OR", "NOT", "NULL"]

/-- The token is a word with the letters of the name, in either case. -/
def Spells (name : String) : Token → Prop
  | word _ text => text.toList.map Char.toUpper = name.toList
  | _ => False

/-- What errors call a sign. -/
def signNames : List (Sign × String) :=
  [(.compare .gt, "operator `>`"), (.compare .gte, "operator `>=`"),
    (.compare .lt, "operator `<`"), (.compare .lte, "operator `<=`"),
    (.compare .eq, "operator `=`"), (.compare .neq, "operator `!`"),
    (.compare .fuzz, "operator `~`"), (.compare .nfuzz, "operator `!~`"),
    (.wildcard, "`*`"), (.anyChar, "`?`"), (.colon, "`:`"), (.dots, "`..`"), (.comma, "`,`"),
    (.pin, "`^`")]

/-- What errors call a token. No error names a quote or a word that is no keyword. -/
inductive Called : Token → String → Prop where
  | space (pos : Position) (text : String) : Called (.space pos text) "space"
  | keyword {token : Token} {name : String} (hname : name ∈ reserved) (h : token.Spells name) :
      Called token ("`" ++ name ++ "`")
  | sign (pos : Position) {s : Sign} {name : String} (h : (s, name) ∈ signNames) :
      Called (.sign pos s) name
  | group (pos : Position) (contents : List Token) : Called (.group pos contents) "group"

/-- Whether the token is a sign that needs a value after it. -/
def takesValue : Token → Bool
  | sign _ (.compare _) | sign _ .pin => true
  | _ => false

/-- The token nests what is inside or what follows it: it is a group, the key of a pair or one of
`AND`, `OR` and `NOT`. -/
inductive Nests : Token → List Token → Prop where
  | group (pos : Position) (contents after : List Token) : Nests (.group pos contents) after
  | word {pos : Position} {text : String}
      (h : ∀ name ∈ reserved, ¬ (Token.word pos text).Spells name) (colon : Position)
      (rest : List Token) : Nests (.word pos text) (.sign colon .colon :: rest)
  | quote (pos : Position) (text : String) (colon : Position) (rest : List Token) :
      Nests (.quote pos text) (.sign colon .colon :: rest)
  | connective {token : Token} {name : String} (hname : name ∈ combining)
      (h : token.Spells name) (after : List Token) : Nests token after

variable {t : Token} {tokens : List Token} {k : Text.Keyword}

theorem mem_reserved_iff {name : String} : name ∈ reserved ↔ ∃ k : Text.Keyword, k.text = name := by
  constructor
  · intro h
    simp only [reserved, List.mem_cons, List.not_mem_nil, or_false] at h
    rcases h with rfl | rfl | rfl | rfl
    exacts [⟨.and, rfl⟩, ⟨.or, rfl⟩, ⟨.not, rfl⟩, ⟨.null, rfl⟩]
  · rintro ⟨k, rfl⟩
    cases k <;> decide

theorem spells_text_iff : t.Spells k.text ↔ t.keyword? = some k := by
  cases t with
  | word pos text =>
    have hupper : text.toList.map Char.toUpper = (Text.asciiUppercase text).toList := by
      rw [Text.asciiUppercase, String.toList_ofList]
      exact List.map_congr_left fun c _ => (Text.asciiUpper_eq_toUpper c).symm
    rw [Spells, keyword?, Text.Keyword.ofWord?_eq_some_iff, hupper, String.toList_inj]
    exact eq_comm
  | _ => simp [Spells, keyword?]

theorem mem_signNames (pos : Position) (s : Sign) : (s, (sign pos s).describe) ∈ signNames := by
  cases s with
  | compare op => cases op <;> simp [describe, Operator.symbol, signNames]
  | _ => simp [describe, Sign.symbol, signNames]

/-- What is no name is called what the readers call it. -/
theorem called_role (ht : t.Proper) (hname : Item.name? t = none) : t.Called t.role := by
  cases t with
  | endOfText pos => exact absurd ht id
  | space pos text => exact .space pos text
  | word pos text =>
    cases hkeyword : (word pos text).keyword? with
    | none =>
      rw [keyword?] at hkeyword
      simp [Item.name?, hkeyword] at hname
    | some k =>
      rw [role, hkeyword]
      exact .keyword (mem_reserved_iff.2 ⟨k, rfl⟩) (spells_text_iff.2 hkeyword)
  | quote pos text => cases hname
  | sign pos s => exact .sign pos (mem_signNames pos s)
  | group pos contents => exact .group pos contents

theorem nests_of_name {key : Item} (h : Item.name? t = some key) (colon : Position)
    (rest : List Token) : t.Nests (.sign colon .colon :: rest) := by
  cases t with
  | word pos text =>
    refine .word (fun name hname hspells => ?_) colon rest
    obtain ⟨k, rfl⟩ := mem_reserved_iff.1 hname
    rw [spells_text_iff, keyword?] at hspells
    simp [Item.name?, hspells] at h
  | quote pos text => exact .quote pos text colon rest
  | _ => cases h

theorem breaks_iff :
    breaks tokens ↔ tokens = [] ∨ ∃ pos text rest, tokens = .space pos text :: rest := by
  cases tokens with
  | nil => simp [breaks]
  | cons t rest => cases t <;> simp [breaks, isSpace]

end Token

/-- The error is about the token, with the tokens `after` behind it in its sequence. -/
def ParseError.PointsAt (limit : Nat) (token : Token) (after : List Token) : ParseError → Prop
  | noValue description pos => pos = token.position ∧ token.Called description
  | missingValue description pos =>
    pos = token.position ∧ token.Called description ∧ token.takesValue ∧
      (after = [] ∨ ∃ pos text rest, after = .space pos text :: rest)
  | missingOperand keyword pos =>
    pos = token.position ∧ keyword.text ∈ Token.combining ∧ token.Spells keyword.text
  | tooDeep levels pos => pos = token.position ∧ levels = limit ∧ token.Nests after
  | lex _ | trailingInput _ _ => False

namespace Item

open Token

/-- The error is about one of the tokens, groups included. -/
def Faulty (limit : Nat) (tokens : List Token) (e : ParseError) : Prop :=
  ∃ sequence token after, HasSequence tokens sequence ∧ token :: after <:+ sequence ∧
    e.PointsAt limit token after

variable {limit levels : Nat} {inside : Option Inside} {tokens rest : List Token} {t : Token}
  {e : ParseError}

namespace Faulty

theorem head (h : e.PointsAt limit t rest) : Faulty limit (t :: rest) e :=
  ⟨_, t, rest, .self, List.suffix_refl _, h⟩

theorem of_suffix (h : Faulty limit rest e) (hrest : rest <:+ tokens) : Faulty limit tokens e := by
  obtain ⟨sequence, token, after, hsequence, hsuffix, hpoints⟩ := h
  rcases hsequence.of_suffix hrest with rfl | hsequence
  · exact ⟨tokens, token, after, .self, hsuffix.trans hrest, hpoints⟩
  · exact ⟨sequence, token, after, hsequence, hsuffix, hpoints⟩

theorem tail (h : Faulty limit rest e) : Faulty limit (t :: rest) e :=
  h.of_suffix (List.suffix_cons t rest)

theorem of_group {pos : Position} {contents : List Token} (h : Faulty limit contents e) :
    Faulty limit (.group pos contents :: rest) e := by
  obtain ⟨sequence, token, after, hsequence, hsuffix, hpoints⟩ := h
  exact ⟨sequence, token, after, .trans (.group .self List.mem_cons_self) hsequence, hsuffix,
    hpoints⟩

end Faulty

/-- Readers whose errors are about one of the tokens that they read. -/
structure Inside.Blames (limit : Nat) (inside : Inside) : Prop where
  item {tokens : List Token} {e : ParseError} (ht : Readable 0 tokens)
    (hstart : breaks tokens = false) (h : inside.item tokens = .error e) : Faulty limit tokens e
  items {tokens : List Token} {e : ParseError} (ht : Readable 0 tokens)
    (h : inside.items tokens = .error e) : Faulty limit tokens e

/-! ## Values -/

theorem position_of_name {key : Item} (h : name? t = some key) : key.position = t.position := by
  cases t with
  | word pos text =>
    rw [name?, Option.ite_none_right_eq_some] at h
    cases h.2
    rfl
  | quote pos text =>
    cases h
    rfl
  | _ => cases h

theorem readTarget_faulty {pos : Position} (ht : Readable 0 (.sign pos .pin :: tokens))
    (h : readTarget (.sign pos .pin) tokens = .error e) :
    Faulty limit (.sign pos .pin :: tokens) e := by
  unfold readTarget at h
  split at h
  · cases h
    exact .head ⟨rfl, called_role ht.proper.1 rfl, rfl, .inl rfl⟩
  · split at h
    · cases h
    · rename_i hname
      cases h
      exact .tail (.head ⟨rfl, called_role ht.tail.proper.1 hname⟩)

theorem readGroup_faulty (hinside : ∀ readers ∈ inside, readers.Blames limit) {pos : Position}
    {contents : List Token} (ht : Readable 0 (.group pos contents :: rest))
    (h : readGroup limit inside pos contents = .error e) :
    Faulty limit (.group pos contents :: rest) e := by
  unfold readGroup at h
  split at h
  · cases h
    exact .head ⟨rfl, rfl, .group pos contents rest⟩
  · rename_i readers
    rw [Except.map_eq_error] at h
    exact ((hinside readers rfl).items ht.contents h).of_group

/-- Where no pieces are read, no name is first. -/
theorem name?_of_pieces (h : (pieces (t :: rest)).1 = []) : name? t = none := by
  cases hname : name? t with
  | none => rfl
  | some item => simp [pieces, piece?_of_name hname] at h

theorem readValue_faulty (hinside : ∀ readers ∈ inside, readers.Blames limit)
    (ht : Readable 0 tokens) (h : readValue limit inside tokens = .error e) :
    Faulty limit tokens e := by
  unfold readValue at h
  split at h
  · cases h
  · rename_i first rest
    split at h
    · cases h
    · cases h
    · rename_i hpieces
      split at h
      · cases h
      · exact readGroup_faulty hinside ht (Except.map_eq_error.1 h)
      · exact readTarget_faulty ht (Except.map_eq_error.1 h)
      · split at h
        · cases h
        · cases h
          exact .head ⟨rfl, called_role ht.proper.1 (name?_of_pieces (by rw [hpieces]))⟩

/-- The token before a value is reported just where no value starts. -/
theorem requireValue_faulty (hinside : ∀ readers ∈ inside, readers.Blames limit) {after : Token}
    (ht : Readable 0 tokens) (h : requireValue limit inside after tokens = .error e) :
    Faulty limit tokens e ∨ breaks tokens ∧ e = .missingValue after.role after.position := by
  unfold requireValue at h
  split at h
  · rename_i hvalue
    cases h
    exact .inl (readValue_faulty hinside ht hvalue)
  · rename_i hvalue
    cases h
    exact .inr ⟨readValue_none hvalue, rfl⟩
  · cases h

/-! ## Ranges and lists -/

theorem readStop_faulty (hinside : ∀ readers ∈ inside, readers.Blames limit) {pos : Position}
    {start : Item} (ht : Readable 0 tokens)
    (h : readStop limit inside pos start tokens = .error e) : Faulty limit tokens e := by
  unfold readStop at h
  split at h
  · rename_i hvalue
    cases h
    exact readValue_faulty hinside ht hvalue
  · cases h
  · cases h

theorem readValues_faulty (hsound : SoundBelow 0 levels inside)
    (hinside : ∀ readers ∈ inside, readers.Blames limit) {fuel : Nat} (ht : Readable 0 tokens)
    (h : readValues limit inside fuel tokens = .error e) : Faulty limit tokens e := by
  induction fuel generalizing tokens with
  | zero => cases h
  | succ fuel ih =>
    unfold readValues at h
    split at h
    · rename_i hvalue
      cases h
      exact readValue_faulty hinside ht hvalue
    · cases h
    · rename_i item pos rest' hvalue
      have hsuffix : rest' <:+ tokens :=
        (List.suffix_cons _ _).trans (readValue_isValue hsound ht hvalue).suffix
      exact (ih (ht.of_suffix hsuffix) (Except.map_eq_error.1 h)).of_suffix hsuffix
    · cases h

theorem readSuffix_faulty (hsound : SoundBelow 0 levels inside)
    (hinside : ∀ readers ∈ inside, readers.Blames limit) {first : Item} (ht : Readable 0 tokens)
    (h : readSuffix limit inside first tokens = .error e) : Faulty limit tokens e := by
  unfold readSuffix at h
  split at h
  · exact (readStop_faulty hinside ht.tail h).tail
  · exact (readValues_faulty hsound hinside ht.tail (Except.map_eq_error.1 h)).tail
  · cases h

/-! ## Items -/

theorem readPair_faulty (hinside : ∀ readers ∈ inside, readers.Blames limit) {key : Item}
    {pos : Position} (ht : Readable 0 (t :: .sign pos .colon :: tokens)) (hname : name? t = some key)
    (h : readPair limit inside key tokens = .error e) :
    Faulty limit (t :: .sign pos .colon :: tokens) e := by
  rw [readPair_eq] at h
  split at h
  · cases h
  · rename_i hbreaks
    split at h
    · cases h
      exact .head ⟨position_of_name hname, rfl, nests_of_name hname pos tokens⟩
    · rename_i readers
      have hfaulty := (hinside readers rfl).item ht.tail.tail (Bool.eq_false_iff.2 hbreaks)
        (Except.map_eq_error.1 h)
      exact hfaulty.tail.tail

/-- An item is read where no space or end is, so that the token before it is never at fault. -/
theorem readItem_faulty (hsound : SoundBelow 0 levels inside)
    (hinside : ∀ readers ∈ inside, readers.Blames limit) (ht : Readable 0 tokens)
    (hstart : breaks tokens = false) (h : readItem limit inside tokens = .error e) :
    Faulty limit tokens e := by
  unfold readItem at h
  split at h
  · cases hstart
  · rename_i first rest
    split at h
    · exact readGroup_faulty hinside ht (Except.map_eq_error.1 h)
    · obtain hfaulty | ⟨hbreaks, rfl⟩ := requireValue_faulty hinside ht.tail (Except.map_eq_error.1 h)
      · exact hfaulty.tail
      · exact .head ⟨rfl, called_role ht.proper.1 rfl, rfl, breaks_iff.1 hbreaks⟩
    · exact (readStop_faulty hinside ht.tail h).tail
    · rename_i hgroup _ _
      split at h
      · rename_i key pos rest' hname
        exact readPair_faulty hinside ht hname h
      · split at h
        · rename_i hvalue
          cases h
          obtain hfaulty | ⟨hbreaks, -⟩ := requireValue_faulty hinside ht hvalue
          · exact hfaulty
          · rw [hstart] at hbreaks
            cases hbreaks
        · rename_i item rest' hvalue
          have hsuffix := (readValue_isValue hsound ht (requireValue_ok hvalue)).suffix
          exact (readSuffix_faulty hsound hinside (ht.of_suffix hsuffix) h).of_suffix hsuffix

/-! ## Sequences -/

theorem connective?_points {part : Part} (h : connective? t = some part) :
    ∃ keyword : Text.Keyword, keyword.text ∈ combining ∧ t.Spells keyword.text ∧
      part.missing? = some (.missingOperand keyword t.position) := by
  unfold connective? at h
  split at h
  case h_4 => cases h
  all_goals
    rename_i hkeyword
    cases h
    exact ⟨_, by decide, spells_text_iff.2 hkeyword, rfl⟩

/-- Keywords among the parts are keywords among the tokens. -/
theorem readParts_keyword {reader : List Token → Reading}
    (hreader : ∀ {tokens item rest}, Readable 0 tokens → reader tokens = .ok (item, rest) →
      rest <:+ tokens)
    {fuel : Nat} {parts : List Part} {part : Part} (ht : Readable 0 tokens)
    (h : readParts reader fuel tokens = .ok parts) (hpart : part ∈ parts)
    (hconnective : part.isConnective) : ∃ t ∈ tokens, connective? t = some part := by
  induction fuel generalizing tokens parts with
  | zero =>
    cases h
    cases hpart
  | succ fuel ih =>
    cases tokens with
    | nil =>
      cases h
      cases hpart
    | cons first rest =>
      rcases readParts_cons_ok h with ⟨pos, text, -, hothers⟩ |
        ⟨other, others, hother, hothers, rfl⟩ | ⟨item, rest', others, hitem, hothers, rfl⟩
      · obtain ⟨t, hmem, ht⟩ := ih ht.tail hothers hpart
        exact ⟨t, List.mem_cons_of_mem _ hmem, ht⟩
      · rcases List.mem_cons.1 hpart with rfl | hpart
        · exact ⟨first, List.mem_cons_self, hother⟩
        · obtain ⟨t, hmem, ht⟩ := ih ht.tail hothers hpart
          exact ⟨t, List.mem_cons_of_mem _ hmem, ht⟩
      · rcases List.mem_cons.1 hpart with rfl | hpart
        · cases hconnective
        · have hsuffix := hreader ht hitem
          obtain ⟨t, hmem, ht⟩ := ih (ht.of_suffix hsuffix) hothers hpart
          exact ⟨t, hsuffix.mem hmem, ht⟩

theorem readParts_faulty {reader : List Token → Reading}
    (hreader : ∀ {tokens item rest}, Readable 0 tokens → reader tokens = .ok (item, rest) →
      rest <:+ tokens)
    (hfaulty : ∀ {tokens e}, Readable 0 tokens → breaks tokens = false →
      reader tokens = .error e → Faulty limit tokens e)
    {fuel : Nat} (ht : Readable 0 tokens) (h : readParts reader fuel tokens = .error e) :
    Faulty limit tokens e := by
  induction fuel generalizing tokens with
  | zero => cases h
  | succ fuel ih =>
    cases tokens with
    | nil => cases h
    | cons first rest =>
      unfold readParts at h
      split at h
      · exact (ih ht.tail h).tail
      · rename_i hspace
        split at h
        · exact (ih ht.tail (Except.map_eq_error.1 h)).tail
        · split at h
          · rename_i hitem
            cases h
            exact hfaulty ht (Bool.eq_false_iff.2 hspace) hitem
          · rename_i item rest' hitem
            have hsuffix := hreader ht hitem
            exact (ih (ht.of_suffix hsuffix) (Except.map_eq_error.1 h)).of_suffix hsuffix

/-- An error about a token of the sequence itself, of which it is known what the token is, but not
where in the sequence. -/
theorem Faulty.of_mem (hmem : t ∈ tokens) (h : ∀ after, e.PointsAt limit t after) :
    Faulty limit tokens e := by
  obtain ⟨before, after, rfl⟩ := List.append_of_mem hmem
  exact (Faulty.head (h after)).of_suffix (List.suffix_append _ _)

theorem readSequence_faulty {reader : Nat → List Token → Reading}
    (hreader : ∀ {below tokens item rest}, Readable 0 tokens →
      reader below tokens = .ok (item, rest) → rest <:+ tokens)
    (hfaulty : ∀ {below tokens e}, Readable 0 tokens → breaks tokens = false →
      reader below tokens = .error e → Faulty limit tokens e)
    (ht : Readable 0 tokens) (h : readSequence limit reader levels tokens = .error e) :
    Faulty limit tokens e := by
  unfold readSequence at h
  dsimp only at h
  split at h
  · rename_i t hlevels
    cases h
    obtain ⟨hmem, hconnective⟩ := List.mem_filter.1 (List.mem_of_getElem? hlevels)
    obtain ⟨part, hpart⟩ := Option.isSome_iff_exists.1 hconnective
    obtain ⟨keyword, hcombining, hspells, -⟩ := connective?_points hpart
    exact .of_mem hmem fun after => ⟨rfl, rfl, .connective hcombining hspells after⟩
  · split at h
    · rename_i hparts
      cases h
      exact readParts_faulty hreader hfaulty ht hparts
    · rename_i parts hparts
      obtain ⟨part, hpart, hmissing⟩ := Part.exists_missing_of_combine h
      have hconnective : part.isConnective := by
        rw [← Part.isSome_missing?, hmissing]
        rfl
      obtain ⟨t, hmem, hkeyword⟩ := readParts_keyword hreader ht hparts hpart hconnective
      obtain ⟨keyword, hcombining, hspells, hmissing'⟩ := connective?_points hkeyword
      obtain rfl := Option.some.inj (hmissing.symm.trans hmissing')
      exact .of_mem hmem fun _ => ⟨rfl, hcombining, hspells⟩

/-- Where an item fails to be read, the error is about one of the tokens. -/
theorem readAt_faulty {fuel : Nat} (ht : Readable 0 tokens) (hstart : breaks tokens = false)
    (h : readAt limit fuel levels tokens = .error e) : Faulty limit tokens e := by
  have hlowest {tokens : List Token} {e : ParseError} (ht : Readable 0 tokens)
      (hstart : breaks tokens = false) (h : readItem limit none tokens = .error e) :
      Faulty limit tokens e := by
    have hsound : SoundBelow 0 0 none := nofun
    exact readItem_faulty hsound nofun ht hstart h
  induction fuel generalizing levels tokens e with
  | zero => exact hlowest ht hstart h
  | succ fuel ih =>
    cases levels with
    | zero => exact hlowest ht hstart h
    | succ levels =>
      rw [readAt_eq] at h
      have hsound : SoundBelow 0 (levels + 1) (insideAt limit (fuel + 1) (levels + 1)) := by
        rintro _ ⟨⟩
        exact ⟨levels, rfl, readAt_ok, fun ht h => readSequence_ok readAt_ok ht h⟩
      refine readItem_faulty hsound ?_ ht hstart h
      rintro _ ⟨⟩
      exact ⟨ih, fun ht h => readSequence_faulty (fun ht h => (readAt_ok ht h).suffix) ih ht h⟩

/-- Where tokens fail to be read, the error is about one of them. -/
theorem ofTokens_faulty (ht : Readable 0 tokens) (h : ofTokens limit tokens = .error e) :
    Faulty limit tokens e :=
  readSequence_faulty (fun ht h => (readAt_ok ht h).suffix) readAt_faulty ht h

end Item

end SearchQuery
