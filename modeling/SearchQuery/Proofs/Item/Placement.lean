import Mathlib.Data.List.Basic
import Mathlib.Tactic.Common
import SearchQuery.Item.Reader
import SearchQuery.Proofs.Item.Parts
import SearchQuery.Proofs.Token.Spelling

/-!
# Positions take no part in reading

`ofTokens_unplacedAll`: tokens without their positions are read as the same items without theirs,
or fail for the same reason. Each reader has a lemma of this form; those of a level assume it of
the level below (`Inside.Blind`). `same_iff` says that items are the same just if they are equal
without positions.
-/

namespace SearchQuery

/-- The error with its position moved to the start of the text. -/
def ParseError.unplaced : ParseError → ParseError
  | lex error => lex error
  | noValue token _ => noValue token .start
  | missingValue after _ => missingValue after .start
  | missingOperand keyword _ => missingOperand keyword .start
  | trailingInput remainder _ => trailingInput remainder .start
  | tooDeep limit _ => tooDeep limit .start

/-- An outcome without positions, where `f` takes them from what was read. -/
def unplace {α β : Type} (f : α → β) : Except ParseError α → Except ParseError β
  | .ok a => .ok (f a)
  | .error e => .error e.unplaced

/-- The part with every position moved to the start of the text. -/
def Part.unplaced : Part → Part
  | item i => item i.unplaced
  | and _ => and .start
  | or _ => or .start
  | not _ => not .start

namespace Item

theorem unplacedAll_eq_map (items : List Item) : unplacedAll items = items.map unplaced := by
  induction items with
  | nil => rfl
  | cons item items ih => rw [unplacedAll, ih, List.map_cons]

mutual

/-- Items are equal, positions apart, just if they are equal without positions. -/
theorem same_iff : (a b : Item) → (same a b ↔ a.unplaced = b.unplaced)
  | null _, b | infinity _, b | wildcard _, b | anyChar _, b => by cases b <;> simp [same, unplaced]
  | word _ s, b | quote _ s, b | value _ s, b => by cases b <;> simp [same, unplaced]
  | pin _ a, b | not _ a, b => by cases b <;> simp [same, unplaced, same_iff a]
  | pair _ k v, b => by cases b <;> simp [same, unplaced, same_iff k, same_iff v]
  | compare _ op a, b => by cases b <;> simp [same, unplaced, same_iff a]
  | range _ s t, b => by cases b <;> simp [same, unplaced, same_iff s, same_iff t]
  | list _ as, b | group _ as, b | pattern _ as, b => by
    cases b <;> simp [same, unplaced, sameAll_iff as]
  | and _ a as, b | or _ a as, b => by
    cases b <;> simp [same, unplaced, same_iff a, sameAll_iff as]

theorem sameAll_iff : (as bs : List Item) → (sameAll as bs ↔ unplacedAll as = unplacedAll bs)
  | [], [] => by simp [sameAll]
  | [], _ :: _ | _ :: _, [] => by simp [sameAll, unplacedAll]
  | a :: as, b :: bs => by simp [sameAll, unplacedAll, same_iff a, sameAll_iff as]

end

mutual

theorem unplaced_unplaced : (item : Item) → item.unplaced.unplaced = item.unplaced
  | null _ | infinity _ | wildcard _ | anyChar _ | word _ _ | quote _ _ | value _ _ => rfl
  | pin _ inner | compare _ _ inner | not _ inner => by simp [unplaced, unplaced_unplaced inner]
  | pair _ l r | range _ l r => by simp [unplaced, unplaced_unplaced l, unplaced_unplaced r]
  | list _ items | group _ items | pattern _ items => by
    simp [unplaced, unplacedAll_unplacedAll items]
  | and _ left right | or _ left right => by
    simp [unplaced, unplaced_unplaced left, unplacedAll_unplacedAll right]

theorem unplacedAll_unplacedAll : (items : List Item) →
    unplacedAll (unplacedAll items) = unplacedAll items
  | [] => rfl
  | item :: items => by simp [unplacedAll, unplaced_unplaced item, unplacedAll_unplacedAll items]

end

/-- What was read, and the tokens after it, without positions. -/
def bareReading (found : Item × List Token) : Item × List Token :=
  (found.1.unplaced, Token.unplacedAll found.2)

/-- Readers that do not look at positions. -/
structure Inside.Blind (inside : Inside) : Prop where
  item (tokens : List Token) :
    inside.item (Token.unplacedAll tokens) = unplace bareReading (inside.item tokens)
  items (tokens : List Token) :
    inside.items (Token.unplacedAll tokens) = unplace unplacedAll (inside.items tokens)

/-! ## Tokens -/

theorem name?_unplaced (t : Token) : name? t.unplaced = (name? t).map unplaced := by
  cases t with
  | word pos text =>
    rw [Token.unplaced, name?, name?]
    split <;> rfl
  | _ => rfl

theorem piece?_unplaced (t : Token) : piece? t.unplaced = (piece? t).map unplaced := by
  cases t with
  | word pos text => exact name?_unplaced (.word pos text)
  | sign pos s => cases s <;> rfl
  | _ => rfl

theorem keyword?_unplaced (t : Token) : t.unplaced.keyword? = t.keyword? := by
  cases t <;> rfl

theorem describe_unplaced (t : Token) : t.unplaced.describe = t.describe := by
  cases t with
  | sign pos s => cases s <;> rfl
  | _ => rfl

theorem role_unplaced (t : Token) : t.unplaced.role = t.role := by
  rw [Token.role, Token.role, keyword?_unplaced, describe_unplaced]

theorem isSpace_unplaced (t : Token) : t.unplaced.isSpace = t.isSpace := by
  cases t <;> rfl

theorem position_unplaced (t : Token) : t.unplaced.position = .start := by
  cases t <;> rfl

theorem connective?_unplaced (t : Token) :
    connective? t.unplaced = (connective? t).map Part.unplaced := by
  rw [connective?, connective?, keyword?_unplaced, position_unplaced]
  split <;> rfl

theorem pieces_unplacedAll (tokens : List Token) :
    pieces (Token.unplacedAll tokens) =
      (unplacedAll (pieces tokens).1, Token.unplacedAll (pieces tokens).2) := by
  induction tokens with
  | nil => rfl
  | cons t rest ih =>
    rw [Token.unplacedAll, pieces, pieces, piece?_unplaced, ih]
    cases piece? t <;> rfl

/-! ## Values -/

section Readers

variable (limit : Nat) {inside : Option Inside}

theorem readTarget_unplaced (pin : Token) (tokens : List Token) :
    readTarget pin.unplaced (Token.unplacedAll tokens) =
      unplace bareReading (readTarget pin tokens) := by
  cases tokens with
  | nil =>
    simp [Token.unplacedAll, readTarget, unplace, ParseError.unplaced, role_unplaced,
      position_unplaced]
  | cons target rest =>
    simp only [Token.unplacedAll, readTarget, name?_unplaced]
    cases name? target with
    | none => simp [unplace, ParseError.unplaced, role_unplaced, position_unplaced]
    | some name => simp [unplace, bareReading, unplaced, position_unplaced]

theorem readGroup_unplaced (hinside : ∀ readers ∈ inside, readers.Blind) (pos : Position)
    (contents : List Token) :
    readGroup limit inside .start (Token.unplacedAll contents) =
      unplace unplaced (readGroup limit inside pos contents) := by
  cases inside with
  | none => rfl
  | some readers =>
    rw [readGroup, readGroup, (hinside readers rfl).items]
    cases readers.items contents <;> rfl

theorem readValue_unplaced (hinside : ∀ readers ∈ inside, readers.Blind) (tokens : List Token) :
    readValue limit inside (Token.unplacedAll tokens) =
      unplace (Option.map bareReading) (readValue limit inside tokens) := by
  cases tokens with
  | nil => rfl
  | cons first rest =>
    have hpieces := pieces_unplacedAll (first :: rest)
    rw [Token.unplacedAll] at hpieces ⊢
    unfold readValue
    dsimp only
    rw [hpieces]
    obtain ⟨items, rest', h⟩ : ∃ items rest', pieces (first :: rest) = (items, rest') := ⟨_, _, rfl⟩
    rw [h]
    match items with
    | [piece] => rfl
    | piece :: other :: others =>
      simp [unplacedAll, unplace, bareReading, unplaced, position_unplaced]
    | [] =>
      -- No piece comes first, so that the sort of the first token decides.
      have hother : (if first.unplaced.keyword? = some .null
            then Except.ok (some (.null first.unplaced.position, Token.unplacedAll rest))
            else .error (.noValue first.unplaced.role first.unplaced.position)) =
          unplace (Option.map bareReading)
            (if first.keyword? = some .null then .ok (some (.null first.position, rest))
            else .error (.noValue first.role first.position)) := by
        rw [keyword?_unplaced, role_unplaced, position_unplaced]
        split <;> rfl
      cases first with
      | space pos text => rfl
      | group pos contents =>
        simp only [Token.unplaced, unplacedAll, readGroup_unplaced limit hinside pos contents]
        cases readGroup limit inside pos contents <;> rfl
      | sign pos s =>
        cases s with
        | pin =>
          simp only [unplacedAll]
          have := readTarget_unplaced (.sign pos .pin) rest
          simp only [Token.unplaced] at this ⊢
          rw [this]
          cases readTarget (.sign pos .pin) rest <;> rfl
        | _ => exact hother
      | _ => exact hother

theorem requireValue_unplaced (hinside : ∀ readers ∈ inside, readers.Blind) (after : Token)
    (tokens : List Token) :
    requireValue limit inside after.unplaced (Token.unplacedAll tokens) =
      unplace bareReading (requireValue limit inside after tokens) := by
  rw [requireValue, requireValue, readValue_unplaced limit hinside]
  cases readValue limit inside tokens with
  | error e => rfl
  | ok found =>
    cases found with
    | none => simp [unplace, ParseError.unplaced, role_unplaced, position_unplaced]
    | some found => rfl

/-! ## Ranges and lists -/

theorem readStop_unplaced (hinside : ∀ readers ∈ inside, readers.Blind) (pos : Position)
    (start : Item) (tokens : List Token) :
    readStop limit inside .start start.unplaced (Token.unplacedAll tokens) =
      unplace bareReading (readStop limit inside pos start tokens) := by
  rw [readStop, readStop, readValue_unplaced limit hinside]
  cases readValue limit inside tokens with
  | error e => rfl
  | ok found => cases found <;> rfl

theorem readValues_unplaced (hinside : ∀ readers ∈ inside, readers.Blind) (fuel : Nat)
    (tokens : List Token) :
    readValues limit inside fuel (Token.unplacedAll tokens) =
      unplace (Prod.map unplacedAll Token.unplacedAll) (readValues limit inside fuel tokens) := by
  induction fuel generalizing tokens with
  | zero => rfl
  | succ fuel ih =>
    unfold readValues
    rw [readValue_unplaced limit hinside]
    cases readValue limit inside tokens with
    | error e => rfl
    | ok found =>
      cases found with
      | none => rfl
      | some found =>
        obtain ⟨item, rest⟩ := found
        cases rest with
        | nil => rfl
        | cons t rest =>
          cases t with
          | sign pos s =>
            cases s with
            | comma =>
              simp only [unplace, Option.map_some, bareReading, Token.unplacedAll, Token.unplaced, ih]
              cases readValues limit inside fuel rest <;> rfl
            | _ => rfl
          | _ => rfl

theorem position_unplaced_item (item : Item) : item.unplaced.position = .start := by
  cases item <;> rfl

theorem length_unplacedAll (tokens : List Token) :
    (Token.unplacedAll tokens).length = tokens.length := by
  simp [Token.unplacedAll_eq_map]

theorem readSuffix_unplaced (hinside : ∀ readers ∈ inside, readers.Blind) (first : Item)
    (tokens : List Token) :
    readSuffix limit inside first.unplaced (Token.unplacedAll tokens) =
      unplace bareReading (readSuffix limit inside first tokens) := by
  cases tokens with
  | nil => rfl
  | cons t rest =>
    cases t with
    | sign pos s =>
      cases s with
      | dots =>
        simp only [Token.unplacedAll, Token.unplaced, readSuffix, position_unplaced_item]
        exact readStop_unplaced limit hinside first.position first rest
      | comma =>
        simp only [Token.unplacedAll, Token.unplaced, readSuffix, position_unplaced_item,
          length_unplacedAll, readValues_unplaced limit hinside]
        cases readValues limit inside rest.length rest <;> rfl
      | _ => rfl
    | _ => rfl

/-! ## Items -/

theorem readPair_unplaced (hinside : ∀ readers ∈ inside, readers.Blind) (key : Item)
    (tokens : List Token) :
    readPair limit inside key.unplaced (Token.unplacedAll tokens) =
      unplace bareReading (readPair limit inside key tokens) := by
  cases tokens with
  | nil => simp [readPair, Token.unplacedAll, unplace, bareReading, unplaced, position_unplaced_item]
  | cons first rest =>
    simp only [readPair, Token.unplacedAll, isSpace_unplaced, position_unplaced_item]
    split
    · rfl
    · cases inside with
      | none => rfl
      | some readers =>
        have := (hinside readers rfl).item (first :: rest)
        rw [Token.unplacedAll] at this
        simp only [this]
        cases readers.item (first :: rest) <;> rfl

/-- Whether an item that starts with the token is a value, unless it is a pair. -/
def startsValue : Token → Bool
  | .group _ _ | .sign _ (.compare _) | .sign _ .dots => false
  | _ => true

theorem startsValue_unplaced (t : Token) : startsValue t.unplaced = startsValue t := by
  cases t with
  | sign pos s => cases s <;> rfl
  | _ => rfl

theorem unplacedAll_eq_sign_cons {tokens tail : List Token} {pos : Position} {s : Sign}
    (h : Token.unplacedAll tokens = .sign pos s :: tail) :
    ∃ pos' tail', tokens = .sign pos' s :: tail' := by
  cases tokens with
  | nil => cases h
  | cons t rest =>
    cases t with
    | sign pos' s' =>
      cases h
      exact ⟨pos', rest, rfl⟩
    | _ => cases h

theorem readItem_pair {first : Token} {key : Item} (hname : name? first = some key)
    (pos : Position) (rest : List Token) :
    readItem limit inside (first :: .sign pos .colon :: rest) = readPair limit inside key rest := by
  cases first with
  | word pos' text | quote pos' text => simp only [readItem, hname]
  | _ => cases hname

/-- An item that no sign tells apart is a value and what follows it. -/
theorem readItem_value {first : Token} {rest : List Token} (hfirst : startsValue first)
    (hcolon : ∀ pos tail, (name? first).isSome → rest ≠ .sign pos .colon :: tail) :
    readItem limit inside (first :: rest) =
      match requireValue limit inside first (first :: rest) with
      | .error e => .error e
      | .ok (item, rest) => readSuffix limit inside item rest := by
  unfold readItem
  dsimp only
  split
  · cases hfirst
  · cases hfirst
  · cases hfirst
  · split
    · rename_i hname
      exact absurd rfl (hcolon _ _ (by simp [hname]))
    · rfl

theorem readItem_unplaced (hinside : ∀ readers ∈ inside, readers.Blind) (tokens : List Token) :
    readItem limit inside (Token.unplacedAll tokens) =
      unplace bareReading (readItem limit inside tokens) := by
  cases tokens with
  | nil => rfl
  | cons first rest =>
    by_cases hpair : ∃ key pos tail, name? first = some key ∧ rest = .sign pos .colon :: tail
    · obtain ⟨key, pos, tail, hname, rfl⟩ := hpair
      have hname' : name? first.unplaced = some key.unplaced := by rw [name?_unplaced, hname]; rfl
      rw [readItem_pair limit hname, ← readPair_unplaced limit hinside]
      exact readItem_pair limit hname' .start (Token.unplacedAll tail)
    by_cases hfirst : startsValue first
    · have hcolon : ∀ pos tail, (name? first).isSome → rest ≠ .sign pos .colon :: tail := by
        rintro pos tail hname rfl
        obtain ⟨key, hkey⟩ := Option.isSome_iff_exists.1 hname
        exact hpair ⟨key, pos, tail, hkey, rfl⟩
      have hcolon' : ∀ pos tail, (name? first.unplaced).isSome →
          Token.unplacedAll rest ≠ .sign pos .colon :: tail := by
        intro pos tail hname hrest
        rw [name?_unplaced, Option.isSome_map] at hname
        obtain ⟨pos', tail', rfl⟩ := unplacedAll_eq_sign_cons hrest
        exact hcolon pos' tail' hname rfl
      have hvalue := requireValue_unplaced limit hinside first (first :: rest)
      rw [Token.unplacedAll] at hvalue ⊢
      rw [readItem_value limit hfirst hcolon, readItem_value limit (by rwa [startsValue_unplaced])
        hcolon', hvalue]
      cases requireValue limit inside first (first :: rest) with
      | error e => rfl
      | ok found => exact readSuffix_unplaced limit hinside found.1 found.2
    cases first with
    | group pos contents =>
      simp only [Token.unplacedAll, Token.unplaced, readItem, readGroup_unplaced limit hinside pos]
      cases readGroup limit inside pos contents <;> rfl
    | sign pos s =>
      cases s with
      | compare op =>
        have := requireValue_unplaced limit hinside (.sign pos (.compare op)) rest
        simp only [Token.unplacedAll, Token.unplaced, readItem] at this ⊢
        rw [this]
        cases requireValue limit inside (.sign pos (.compare op)) rest <;> rfl
      | dots => exact readStop_unplaced limit hinside pos (.infinity .start) rest
      | _ => exact absurd rfl hfirst
    | _ => exact absurd rfl hfirst

end Readers

/-! ## Sequences -/

theorem readParts_unplaced {reader : List Token → Reading}
    (hreader : ∀ tokens, reader (Token.unplacedAll tokens) = unplace bareReading (reader tokens))
    (fuel : Nat) (tokens : List Token) :
    readParts reader fuel (Token.unplacedAll tokens) =
      unplace (List.map Part.unplaced) (readParts reader fuel tokens) := by
  induction fuel generalizing tokens with
  | zero => cases tokens <;> rfl
  | succ fuel ih =>
    cases tokens with
    | nil => rfl
    | cons first rest =>
      have hfirst := hreader (first :: rest)
      rw [Token.unplacedAll] at hfirst ⊢
      rw [readParts, readParts, isSpace_unplaced, connective?_unplaced, hfirst]
      split
      · exact ih rest
      · cases connective? first with
        | some part =>
          simp only [Option.map_some, ih]
          cases readParts reader fuel rest <;> rfl
        | none =>
          simp only [Option.map_none]
          cases reader (first :: rest) with
          | error e => rfl
          | ok found =>
            simp only [unplace, bareReading, ih]
            cases readParts reader fuel found.2 <;> rfl

end Item

namespace Part

open Item

theorem negate_unplaced (nots : List Position) (item : Item) :
    (negate nots item).unplaced = negate (nots.map fun _ => .start) item.unplaced := by
  induction nots generalizing item with
  | nil => rfl
  | cons pos nots ih => exact ih (.not pos item)

theorem combineAfter_unplaced (nots : List Position) (parts : List Part) :
    combineAfter (nots.map fun _ => .start) (parts.map unplaced) =
      unplace unplacedAll (combineAfter nots parts) := by
  fun_induction combineAfter nots parts with
  | case1 => rfl
  | case2 pos nots => rfl
  | case3 nots pos rest ih => exact ih
  | case6 nots i => simp [combineAfter, unplaced, unplace, unplacedAll, negate_unplaced]
  | case9 nots i pos rest hrest ih | case10 nots i pos rest hrest ih =>
    rw [List.map_nil] at ih
    simp only [List.map_cons, unplaced]
    rw [combineAfter, ih, ← negate_unplaced]
    · cases combineAfter [] rest <;> rfl
    · simpa using hrest
  | case11 nots i rest hnil hand hor hand' hor' ih =>
    rw [List.map_nil] at ih
    have hkeyword {part : Part} {tail : List Part} (h : rest.map unplaced = part :: tail) :
        ∃ part' tail', rest = part' :: tail' ∧ part'.unplaced = part := by
      obtain ⟨part', tail', hrest, hpart, -⟩ := List.map_eq_cons_iff.1 h
      exact ⟨part', tail', hrest, hpart⟩
    have hand : ∀ pos tail, rest.map unplaced ≠ .and pos :: tail := by
      intro pos tail h
      obtain ⟨part, tail', rfl, hpart⟩ := hkeyword h
      cases part <;> cases hpart
      exact hand' _ _ rfl
    have hor : ∀ pos tail, rest.map unplaced ≠ .or pos :: tail := by
      intro pos tail h
      obtain ⟨part, tail', rfl, hpart⟩ := hkeyword h
      cases part <;> cases hpart
      exact hor' _ _ rfl
    rw [List.map_cons, unplaced, combineAfter_item _ _ hand hor, combine, ih, ← negate_unplaced]
    cases combineAfter [] rest <;> rfl
  | _ => rfl

end Part

namespace Item

theorem readSequence_unplaced (limit levels : Nat) {reader : Nat → List Token → Reading}
    (hreader : ∀ below tokens,
      reader below (Token.unplacedAll tokens) = unplace bareReading (reader below tokens))
    (tokens : List Token) :
    readSequence limit reader levels (Token.unplacedAll tokens) =
      unplace unplacedAll (readSequence limit reader levels tokens) := by
  have hfilter : (Token.unplacedAll tokens).filter (fun t => (connective? t).isSome) =
      Token.unplacedAll (tokens.filter fun t => (connective? t).isSome) := by
    simp only [Token.unplacedAll_eq_map, List.filter_map]
    congr 2
    funext t
    simp [connective?_unplaced]
  unfold readSequence
  dsimp only
  rw [hfilter, length_unplacedAll, length_unplacedAll, readParts_unplaced (hreader _)]
  simp only [Token.unplacedAll_eq_map, List.getElem?_map]
  cases (tokens.filter fun t => (connective? t).isSome)[levels]? with
  | some t => simp [unplace, ParseError.unplaced, position_unplaced]
  | none =>
    simp only [Option.map_none]
    cases readParts (reader _) tokens.length tokens with
    | error e => rfl
    | ok parts => exact Part.combineAfter_unplaced [] parts

theorem readAt_unplaced (limit fuel levels : Nat) (tokens : List Token) :
    readAt limit fuel levels (Token.unplacedAll tokens) =
      unplace bareReading (readAt limit fuel levels tokens) := by
  induction fuel generalizing levels tokens with
  | zero =>
    rw [readAt, readAt]
    · exact readItem_unplaced limit (by simp) tokens
    all_goals simp
  | succ fuel ih =>
    cases levels with
    | zero =>
      rw [readAt, readAt]
      · exact readItem_unplaced limit (by simp) tokens
      all_goals simp
    | succ levels =>
      rw [readAt, readAt]
      refine readItem_unplaced limit ?_ tokens
      rintro _ ⟨⟩
      exact ⟨ih levels, readSequence_unplaced limit levels ih⟩

/-- Tokens without positions are read as the same items without positions. -/
theorem ofTokens_unplacedAll (limit : Nat) (tokens : List Token) :
    ofTokens limit (Token.unplacedAll tokens) = unplace unplacedAll (ofTokens limit tokens) :=
  readSequence_unplaced limit limit (readAt_unplaced limit limit) tokens

/-- Tokens that are the same without positions are read as such items. -/
theorem ofTokens_of_unplacedAll_eq {limit : Nat} {tokens tokens' : List Token} {items : List Item}
    (h : Token.unplacedAll tokens' = Token.unplacedAll tokens)
    (hitems : ofTokens limit tokens = .ok items) :
    ∃ items', ofTokens limit tokens' = .ok items' ∧ unplacedAll items' = unplacedAll items := by
  have hread := ofTokens_unplacedAll limit tokens'
  rw [h, ofTokens_unplacedAll, hitems] at hread
  cases hitems' : ofTokens limit tokens' with
  | error e =>
    rw [hitems'] at hread
    cases hread
  | ok items' =>
    rw [hitems'] at hread
    injection hread with hread
    exact ⟨items', rfl, hread.symm⟩

end Item

end SearchQuery
