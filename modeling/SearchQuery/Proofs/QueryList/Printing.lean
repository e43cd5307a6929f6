import Mathlib.Data.List.Basic
import Mathlib.Tactic.Common
import SearchQuery.Proofs.Query.Values
import SearchQuery.Proofs.QueryList.RoundTrip

/-!
# Query lists as query text

The items of a query list are printed as a query. A boolean or an integer is printed as a word, and
is read back as that word.

* `parse_print_toItems_iff`: entries of scalars, and of lists of scalars, are read back just if no
  comparison has a list for its operand.
-/

namespace SearchQuery

open Item

/-! ## Bare words -/

namespace Text

theorem hasRangeSign_of_not_mem {text : List Char} (h : '.' ∉ text) : hasRangeSign text = false := by
  induction text with
  | nil => rfl
  | cons c rest ih =>
    rw [List.mem_cons, not_or] at h
    rw [hasRangeSign_cons, ih h.2, Bool.or_false, decide_eq_false_iff_not]
    rintro ⟨rfl, -⟩
    exact h.1 rfl

/-- A digit or a sign is a word character, no dot, and in no keyword. -/
theorem isWordChar_of_digit {c : Char} (h : c.isDigit ∨ c = '-') :
    isWordChar c ∧ c ≠ '.' ∧ asciiUpper c ∉ ['A', 'O', 'N'] := by
  have hc : c.toNat < 0x80 := by
    obtain h | rfl := h
    · simp only [Char.isDigit, Bool.and_eq_true, decide_eq_true_eq] at h
      have hle : c.toNat ≤ 57 := h.2
      omega
    · decide
  have := forall_ascii (p := fun c => !(c.isDigit || c = '-') ||
    (isWordChar c && c ≠ '.' && asciiUpper c ∉ ['A', 'O', 'N'])) (by decide +kernel) c hc
  have hin : (c.isDigit || c = '-') = true := by simpa using h
  rw [hin, Bool.not_true, Bool.false_or] at this
  simpa [and_assoc] using this

/-- A text of digits and signs is a bare word. -/
theorem isBareWord_of_digits {text : String} (hne : text.toList ≠ [])
    (h : ∀ c ∈ text.toList, c.isDigit ∨ c = '-') : isBareWord text := by
  refine isBareWord_iff.2 ⟨hne, fun c hc => (isWordChar_of_digit (h c hc)).1, ?_, ?_⟩
  · exact hasRangeSign_of_not_mem fun hdot => (isWordChar_of_digit (h '.' hdot)).2.1 rfl
  · by_contra hsome
    obtain ⟨k, hk⟩ := Option.ne_none_iff_exists'.1 hsome
    obtain ⟨c, cs, hc⟩ := List.exists_cons_of_ne_nil hne
    have hupper := (isWordChar_of_digit (h c (by rw [hc]; exact List.mem_cons_self))).2.2
    have htext : k.text.toList = asciiUpper c :: cs.map asciiUpper := by
      rw [Keyword.ofWord?_eq_some_iff.1 hk, asciiUppercase, String.toList_ofList, hc, List.map_cons]
    have hletters : ∀ d ∈ k.text.toList.head?, d ∈ ['A', 'O', 'N'] := by
      cases k <;> simp [Keyword.text]
    exact hupper (hletters _ (by rw [htext]; rfl))

theorem isBareWord_integerText (n : Int) : isBareWord (Number.integerText n) := by
  have hdigits : ∀ c ∈ (Number.digits n.natAbs).toList, c.isDigit ∨ c = '-' := by
    intro c hc
    rw [Number.digits, String.toList_ofList] at hc
    exact .inl (Nat.isDigit_of_mem_toDigits (by decide) (by decide) hc)
  have hne : (Number.digits n.natAbs).toList ≠ [] := by
    rw [Number.digits, String.toList_ofList]
    exact Nat.toDigits_ne_nil
  by_cases hn : n < 0
  · rw [Number.integerText, if_pos hn]
    refine isBareWord_of_digits (by simp) ?_
    simpa using hdigits
  · rw [Number.integerText, if_neg hn]
    exact isBareWord_of_digits hne hdigits

end Text

/-! ## Typed literals as words -/

namespace Item

mutual

/-- The item with every typed literal as the word of its text. -/
def untyped : Item → Item
  | value pos v => word pos v.text
  | pin pos target => pin pos target.untyped
  | pair pos key v => pair pos key.untyped v.untyped
  | compare pos op operand => compare pos op operand.untyped
  | range pos start stop => range pos start.untyped stop.untyped
  | list pos items => list pos (untypedAll items)
  | group pos items => group pos (untypedAll items)
  | pattern pos pieces => pattern pos (untypedAll pieces)
  | and pos left right => and pos left.untyped (untypedAll right)
  | or pos left right => or pos left.untyped (untypedAll right)
  | not pos operand => not pos operand.untyped
  | item => item

/-- The items with every typed literal as the word of its text. -/
def untypedAll : List Item → List Item
  | [] => []
  | item :: items => item.untyped :: untypedAll items

end

theorem untypedAll_eq_map (items : List Item) : untypedAll items = items.map untyped := by
  induction items with
  | nil => rfl
  | cons item items ih => rw [untypedAll, ih, List.map_cons]

theorem collapseAll_eq_map (items : List Item) : collapseAll items = items.map collapse := by
  induction items with
  | nil => rfl
  | cons item items ih => rw [collapseAll, ih, List.map_cons]

/-- Once its literals are words, the item is a term that is printed as it was, takes no more than
these levels, and is read back as it is. -/
structure Prints (levels : Nat) (item : Item) : Prop where
  term : IsTerm item.untyped
  print : item.untyped.print = item.print
  nesting : item.untyped.nesting 1 ≤ levels
  collapse : item.untyped.collapse = item.untyped

variable {item : Item} {items : List Item}

theorem untyped_textItem (s : String) :
    (QueryValue.textItem s).untyped = QueryValue.textItem s := by
  by_cases h : Text.isBareWord s <;> simp [QueryValue.textItem, h, untyped]

/-- A pair with a name for its key takes one level more than its value. -/
theorem Prints.pair {key : Item} (h : item.Prints 0) (hkey : IsName key) (pos : Position) :
    (Item.pair pos key item).Prints 1 := by
  have hname : key.untyped = key ∧ key.collapse = key ∧ key.nesting 1 = 0 := by
    cases hkey <;> exact ⟨rfl, rfl, rfl⟩
  obtain ⟨huntyped, hcollapse, hnesting⟩ := hname
  refine ⟨?_, ?_, ?_, ?_⟩
  · rw [untyped, huntyped]
    exact .pair hkey h.term
  · rw [untyped, Item.print, Item.print, huntyped, h.print]
  · have hflat := h.nesting
    rw [untyped, huntyped, nesting_one_pair, hnesting]
    omega
  · rw [untyped, Item.collapse, huntyped, hcollapse, h.collapse]

/-- Items that are printed one by one as before are printed as before, whatever stands between
them. -/
theorem printAll_untyped (separator : String) (h : ∀ item ∈ items, item.untyped.print = item.print) :
    printAll separator (untypedAll items) = printAll separator items := by
  induction items with
  | nil => rfl
  | cons item items ih =>
    rw [List.forall_mem_cons] at h
    cases items with
    | nil => rw [untypedAll, untypedAll, printAll, printAll, h.1]
    | cons next items =>
      have hlong (item : Item) (next : Item) (items : List Item) :
          printAll separator (item :: next :: items) =
            item.print ++ separator ++ printAll separator (next :: items) := by
        rw [printAll]
        simp
      have htail := ih h.2
      rw [untypedAll] at htail
      rw [untypedAll, untypedAll, hlong, hlong, h.1, htail]

theorem forall_mem_untypedAll {motive : Item → Prop} :
    (∀ item ∈ untypedAll items, motive item) ↔ ∀ item ∈ items, motive item.untyped := by
  rw [untypedAll_eq_map, List.forall_mem_map]

theorem nestingAll_untypedAll_le {levels : Nat} (h : ∀ item ∈ items, item.Prints levels) :
    nestingAll 1 (untypedAll items) ≤ levels :=
  nestingAll_le (forall_mem_untypedAll.2 fun item hi => (h item hi).nesting)

theorem collapseAll_untypedAll {levels : Nat} (h : ∀ item ∈ items, item.Prints levels) :
    collapseAll (untypedAll items) = untypedAll items := by
  rw [collapseAll_eq_map, untypedAll_eq_map, List.map_map]
  exact List.map_congr_left fun item hi => (h item hi).collapse

end Item

/-! ## Values -/

namespace QueryValue

variable {v : QueryValue} {values : List QueryValue}

/-- Whether the value is null, a boolean, an integer or a string. -/
def isScalar : QueryValue → Bool
  | null | bool _ | integer _ | text _ => true
  | _ => false

/-- A scalar, or a list of at least two of them. -/
inductive IsSimple : QueryValue → Prop where
  | scalar {v : QueryValue} (h : v.isScalar) : IsSimple v
  | list {values : List QueryValue} (h : ∀ v ∈ values, v.isScalar) (hlength : 2 ≤ values.length) :
    IsSimple (list values)

theorem toItems_eq_map (values : List QueryValue) : toItems values = values.map toItem := by
  induction values with
  | nil => rfl
  | cons v values ih => rw [toItems, ih, List.map_cons]

/-- A literal whose text is a bare word is printed as that word. -/
theorem prints_word {w : Value} (h : Text.isBareWord w.text) (pos : Position) :
    IsPlain (Item.value pos w).untyped ∧ (Item.value pos w).Prints 0 := by
  have hplain : IsPlain (Item.word pos w.text) := .piece (.name (.word h))
  refine ⟨hplain, .value (.plain hplain), ?_, Nat.le_refl _, rfl⟩
  rw [untyped, print, print, printValue, if_pos h]

theorem prints_scalar (h : v.isScalar) : IsPlain v.toItem.untyped ∧ v.toItem.Prints 0 := by
  cases v with
  | null => exact ⟨.null, .value (.plain .null), rfl, Nat.le_refl _, rfl⟩
  | bool b =>
    have hbare : Text.isBareWord (Value.boolean b).text := by cases b <;> decide
    rw [toItem]
    exact prints_word hbare .start
  | integer n =>
    have hbare : Text.isBareWord (Value.integer n).text := by
      rw [Value.text]
      exact Text.isBareWord_integerText n.toInt
    rw [toItem]
    exact prints_word hbare .start
  | text s =>
    have hplain := isPlain_textItem s
    have huntyped := untyped_textItem s
    rw [toItem]
    refine ⟨by rwa [huntyped], ?_, by rw [huntyped], ?_, ?_⟩
    · rw [huntyped]
      exact .value (.plain hplain)
    · rw [huntyped, nesting_textItem]
    · rw [huntyped, collapse_textItem]
  | _ => cases h

theorem prints_list (h : ∀ v ∈ values, v.isScalar) (hlength : 2 ≤ values.length) :
    (list values).toItem.Prints 0 := by
  rcases values with _ | ⟨first, _ | ⟨second, values⟩⟩
  · cases hlength
  · simp at hlength
  have hitem : ∀ item ∈ toItems (first :: second :: values),
      IsPlain item.untyped ∧ item.Prints 0 := by
    rw [toItems_eq_map]
    intro item hitem
    obtain ⟨v, hv, rfl⟩ := List.mem_map.1 hitem
    exact prints_scalar (h v hv)
  have hprint := printAll_untyped Sign.comma.symbol fun item hi => (hitem item hi).2.print
  have hnesting := nestingAll_untypedAll_le fun item hi => (hitem item hi).2
  have hcollapse := collapseAll_untypedAll fun item hi => (hitem item hi).2
  have hplain : ∀ item ∈ untypedAll (toItems (first :: second :: values)), IsPlain item :=
    forall_mem_untypedAll.2 fun item hi => (hitem item hi).1
  rw [toItem]
  refine ⟨?_, ?_, ?_, ?_⟩
  · rw [untyped]
    simp only [toItems, untypedAll, List.forall_mem_cons] at hplain ⊢
    refine .list hplain.1 ?_
    rw [List.forall_mem_cons]
    exact ⟨.plain hplain.2.1, fun item hi => .plain (hplain.2.2 item hi)⟩
  · rw [untyped, Item.print, Item.print, hprint]
  · rw [untyped, Item.nesting]
    exact hnesting
  · rw [untyped, Item.collapse, hcollapse]
    rfl

theorem IsSimple.prints (h : v.IsSimple) : v.toItem.Prints 0 := by
  cases h with
  | scalar h => exact (prints_scalar h).2
  | list h hlength => exact prints_list h hlength

end QueryValue

/-! ## Entries -/

namespace QueryItem

variable {entry : QueryItem} {item : Item}

/-- The entry compares with a list. -/
def ComparesList (entry : QueryItem) : Prop :=
  ∃ op values, entry.op = some (.compare op) ∧ entry.value = .list values

theorem prints_compare {v : QueryValue} (h : v.isScalar) (op : Operator) :
    (Item.compare .start op v.toItem).Prints 0 := by
  obtain ⟨hplain, -, hprint, hnesting, hcollapse⟩ := QueryValue.prints_scalar h
  refine ⟨?_, ?_, ?_, ?_⟩
  · rw [untyped]
    exact .compare (.plain hplain)
  · rw [untyped, Item.print, Item.print, hprint]
  · rw [untyped, Item.nesting]
    exact hnesting
  · rw [untyped, Item.collapse, hcollapse]

theorem prints_term {op : Option QueryOp} {v : QueryValue} (h : term op v = .ok item)
    (hsimple : v.IsSimple) (hlist : ∀ o values, op = some (.compare o) → v ≠ .list values) :
    item.Prints 0 := by
  cases op with
  | none =>
    cases h
    exact hsimple.prints
  | some op =>
    cases op with
    | compare o =>
      cases h
      cases hsimple with
      | scalar h => exact prints_compare h o
      | list => exact absurd rfl (hlist o _ rfl)
    | member =>
      cases v with
      | list values =>
        cases h
        exact hsimple.prints
      | _ => cases h

/-- What stands for an entry is what stands for its operator and value, under its key. -/
theorem exists_term (h : entry.toItem = .ok item) :
    ∃ inner, term entry.op entry.value = .ok inner ∧
      (item = inner ∨ ∃ key, IsName key ∧ item = .pair .start key inner) := by
  obtain ⟨inner, hinner, h⟩ := Except.bind_eq_ok.1 h
  refine ⟨inner, hinner, ?_⟩
  split at h
  · cases h
    exact .inr ⟨_, QueryValue.isName_textItem _, rfl⟩
  · cases h
    exact .inr ⟨_, .quote, rfl⟩
  · cases h
    exact .inl rfl

theorem prints_toItem (h : entry.toItem = .ok item) (hsimple : entry.value.IsSimple)
    (hlist : ¬ entry.ComparesList) : item.Prints 1 := by
  obtain ⟨inner, hinner, hitem⟩ := exists_term h
  have hprints : inner.Prints 0 := by
    refine prints_term hinner hsimple fun op values hop hv => ?_
    exact hlist ⟨op, values, hop, hv⟩
  obtain rfl | ⟨key, hkey, rfl⟩ := hitem
  · exact ⟨hprints.term, hprints.print, Nat.le_trans hprints.nesting (Nat.zero_le 1),
      hprints.collapse⟩
  · exact hprints.pair hkey .start

/-- An item that stands for a comparison with a list is not like any that is read. -/
theorem not_comparesList (h : entry.toItem = .ok item) {found : Item}
    (hsame : found.unplaced = item.untyped.unplaced)
    (hform : ∀ node ∈ found.nodes, node.WellFormed) : ¬ entry.ComparesList := by
  rintro ⟨op, values, hop, hvalue⟩
  obtain ⟨inner, hinner, hitem⟩ := exists_term h
  rw [hop, hvalue, term, QueryValue.toItem] at hinner
  cases hinner
  have hcompare {found : Item} (hform : ∀ node ∈ found.nodes, node.WellFormed) :
      found.unplaced ≠ (Item.compare .start op
        (.list .start (QueryValue.toItems values))).untyped.unplaced := by
    intro hsame
    rw [untyped, untyped, unplaced, unplaced] at hsame
    cases found with
    | compare pos o operand =>
      rw [unplaced, Item.compare.injEq] at hsame
      have hsort : operand.isValueSort := hform (.compare pos o operand) (by simp [nodes])
      cases operand with
      | list => cases hsort
      | _ => cases hsame.2.2
    | _ => cases hsame
  obtain rfl | ⟨key, -, rfl⟩ := hitem
  · exact hcompare hform hsame
  · rw [untyped, unplaced] at hsame
    cases found with
    | pair pos k v =>
      rw [unplaced, Item.pair.injEq] at hsame
      rw [nodes, List.forall_mem_cons, List.forall_mem_append] at hform
      exact hcompare hform.2.2 hsame.2.2
    | _ => cases hsame

end QueryItem

/-! ## Query lists -/

namespace QueryList

variable {list : List QueryItem} {items : List Item} {limit : Nat}

/-- Terms without keywords between them. -/
theorem connectivesAll_eq_zero (h : ∀ item ∈ items, IsTerm item) : connectivesAll items = 0 := by
  induction items with
  | nil => rfl
  | cons item items ih =>
    rw [List.forall_mem_cons] at h
    have hitem : item.connectives = 0 := by
      rw [connectives_eq_countP, h.1.isAtom]
      rfl
    rw [connectivesAll, hitem, ih h.2]

/-- Items that print well one by one are read back as a sequence. -/
theorem parse_print_of_prints (h : ∀ item ∈ items, item.Prints 1) (hlimit : 1 ≤ limit) :
    ∃ found, Query.parse limit (Query.print items) = .ok found ∧
      sameAll found (untypedAll items) := by
  have hsequence : IsSequence IsTerm (untypedAll items) := by
    rw [untypedAll_eq_map]
    induction items with
    | nil => exact .nil
    | cons item items ih =>
      rw [List.forall_mem_cons] at h
      exact .cons (.term h.1.term) (ih h.2)
  have hlevels : levels 1 (untypedAll items) ≤ limit := by
    have hterms : ∀ item ∈ untypedAll items, IsTerm item :=
      forall_mem_untypedAll.2 fun item hi => (h item hi).term
    have hnesting := nestingAll_untypedAll_le h
    rw [levels, connectivesAll_eq_zero hterms]
    omega
  have hprint : Query.print items = Query.print (untypedAll items) :=
    (printAll_untyped " " fun item hi => (h item hi).print).symm
  have hback := Query.parse_print_of_print_eq hsequence hlevels hprint
  rwa [collapseAll_untypedAll h] at hback

/-- **Query lists as query text.** The items of a query list of scalars, and of lists of scalars,
are printed as a query that is read back as these items, with the word of its text for every
boolean and integer, just if no entry compares with a list. -/
theorem parse_print_toItems_iff (hsimple : ∀ entry ∈ list, entry.value.IsSimple)
    (hitems : toItems list = .ok items) (hlimit : 1 ≤ limit) :
    (∃ found, Query.parse limit (Query.print items) = .ok found ∧
      sameAll found (untypedAll items)) ↔ ∀ entry ∈ list, ¬ entry.ComparesList := by
  obtain ⟨hitem, hentry⟩ := Except.mem_of_mapM_eq_ok hitems
  constructor
  · rintro ⟨found, hfound, hsame⟩ entry hmem
    obtain ⟨item, hi, hread⟩ := hitem entry hmem
    obtain ⟨t, -, hsequence⟩ := Query.parse_ok hfound
    have hform := hsequence.sequence.wellFormed
    -- What is read back for the item has its shape, and only groups and plain values are operands.
    rw [sameAll_iff, unplacedAll_eq_map, unplacedAll_eq_map, untypedAll_eq_map] at hsame
    have hmem : item.untyped.unplaced ∈ found.map unplaced := by
      rw [hsame]
      exact List.mem_map_of_mem (List.mem_map_of_mem hi)
    obtain ⟨back, hback, hunplaced⟩ := List.mem_map.1 hmem
    exact QueryItem.not_comparesList hread hunplaced (forall_mem_nodesAll.1 hform back hback)
  · intro hlist
    refine parse_print_of_prints (fun item hi => ?_) hlimit
    obtain ⟨entry, hmem, hread⟩ := hentry item hi
    exact QueryItem.prints_toItem hread (hsimple entry hmem) (hlist entry hmem)

/-- Keywords, dots and quotes in strings, and an operator with a negative number. -/
theorem parse_print_toItems_iff_strings :
    let list : List QueryItem :=
      [⟨some (.text "a.b"), some (.compare .lte), .integer (-7)⟩,
        ⟨none, some .member, .list [.text "or", .text "", .bool true]⟩,
        ⟨some (.quote "k"), none, .null⟩]
    let items : List Item :=
      [.pair .start (.word .start "a.b") (.compare .start .lte (.value .start (.integer (-7)))),
        .list .start [.quote .start "or", .quote .start "", .value .start (.boolean true)],
        .pair .start (.quote .start "k") (.null .start)]
    (∀ entry ∈ list, entry.value.IsSimple) ∧ toItems list = .ok items ∧
      (∀ entry ∈ list, ¬ entry.ComparesList) ∧
      ∃ found, Query.parse 1 (Query.print items) = .ok found ∧ sameAll found (untypedAll items) := by
  intro list items
  have hsimple : ∀ entry ∈ list, entry.value.IsSimple := by
    simp only [list, List.forall_mem_cons]
    refine ⟨.scalar rfl, .list ?_ (by decide), .scalar rfl, by simp⟩
    simp [QueryValue.isScalar]
  have hitems : toItems list = .ok items := by cbv
  have hlist : ∀ entry ∈ list, ¬ entry.ComparesList := by
    simp [list, QueryItem.ComparesList]
  exact ⟨hsimple, hitems, hlist,
    (parse_print_toItems_iff hsimple hitems (Nat.le_refl 1)).2 hlist⟩

/-- A comparison takes one value, so a list after it would need parentheses. -/
theorem parse_print_comparesList :
    let list : List QueryItem :=
      [⟨some (.text "a"), some (.compare .gt), .list [.text "x", .text "y"]⟩]
    ∃ items, (∀ entry ∈ list, entry.value.IsSimple) ∧ toItems list = .ok items ∧
      Query.print items = "a:>x,y" ∧
      Query.parse Query.defaultLimit (Query.print items) = .error (.noValue "`,`" ⟨1, 5⟩) := by
  intro list
  refine ⟨[.pair .start (.word .start "a") (.compare .start .gt
    (.list .start [.word .start "x", .word .start "y"]))], ?_, by cbv, by cbv, by cbv⟩
  simp only [list, List.forall_mem_singleton]
  exact .list (by simp [QueryValue.isScalar]) (by decide)

end QueryList

end SearchQuery
