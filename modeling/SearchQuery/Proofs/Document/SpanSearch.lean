import SearchQuery.Command.Check
import SearchQuery.Document.Matcher
import SearchQuery.Proofs.Calendar.Span
import SearchQuery.Proofs.Document.ResolvedBounds
import SearchQuery.Proofs.Schema.Casting
import SearchQuery.Proofs.Schema.Temporal

/-!
# Searching for spans

A truncated date or time under a temporal field stands for the moments of its span. What becomes of
such a query is a range between the first and the last moment (`applySchema_span`,
`ofItems_span`), and documents are compared with the two by their texts.

* `search_span_iff`: a document is found just if it lies within the span, but for certain moments of
  universal time at either end of the span, for which the opposite holds.
-/

namespace SearchQuery

/-! ## Moments of a temporal type -/

namespace TemporalKind

variable {kind : TemporalKind} {first last t : DateTime}

/-- The order of time between what two moments are to a temporal type. -/
def order (kind : TemporalKind) (a b : DateTime) : Ordering :=
  match kind with
  | date => compare a.date b.date
  | time => compare a.time b.time
  | localDateTime | utcDateTime => compare a b

/-- A moment is not before the first and not after the last of a span. -/
def Within (kind : TemporalKind) (first last t : DateTime) : Prop :=
  (kind.order t first).isGE ∧ (kind.order t last).isLE

/-- The text of a moment is on the wrong side of the text of an end of a span. Of universal time
these are the moments with a fraction in the first second, and in the last second those without, at
999 milliseconds and after the last microsecond. -/
def IsMisplaced (kind : TemporalKind) (first last t : DateTime) : Prop :=
  kind = utcDateTime ∧
    (t.compareClock first = .eq ∧ t.time.nano ≠ 0 ∨
      t.compareClock last = .eq ∧
        (t.time.nano = 0 ∨ t.time.nano = 999000000 ∨ 999999000 < t.time.nano))

theorem compare_text {a b : DateTime} (hkind : kind ≠ utcDateTime) (ha : a.date.InFourDigits)
    (hb : b.date.InFourDigits) :
    compare (kind.ofMoment a).text (kind.ofMoment b).text = kind.order a b := by
  cases kind with
  | date => exact Date.compare_text ha hb
  | time => exact Time.compare_text a.time b.time
  | localDateTime => exact DateTime.compare_text ha hb
  | utcDateTime => exact absurd rfl hkind

/-- The texts tell whether a moment is within a span, unless it is misplaced. -/
theorem compare_text_ends (hspan : first.IsSpan last) (ht : t.date.InFourDigits) :
    ((compare (kind.ofMoment t).text (kind.ofMoment first).text).isGE ∧
        (compare (kind.ofMoment t).text (kind.ofMoment last).text).isLE ↔
      kind.Within first last t) ↔ ¬ kind.IsMisplaced first last t := by
  by_cases hkind : kind = utcDateTime
  · subst hkind
    have hfirst := DateTime.isGE_compare_utcTail hspan.firstNano t
    have hlast := DateTime.isLE_compare_utcTail hspan.lastNano t
    have hbelow : t.compareClock first = .eq → t.compareClock last = .lt := fun h =>
      (DateTime.compareClock_congr h last).trans hspan.ordered
    have habove : t.compareClock last = .eq → t.compareClock first = .gt := fun h => by
      rw [DateTime.compareClock_congr h first, ← DateTime.compareClock_swap, hspan.ordered]
      rfl
    have hnano : (compare t.time.nano last.time.nano).isLE ↔ t.time.nano ≤ 999999000 := by
      rw [hspan.lastNano, Nat.isLE_compare]
    have hnano' : (compare t.time.nano first.time.nano).isGE := by
      rw [hspan.firstNano, Nat.isGE_compare]
      omega
    simp only [Within, order, IsMisplaced, ofMoment, Value.text,
      DateTime.compare_utcText ht hspan.firstYear, DateTime.compare_utcText ht hspan.lastYear,
      DateTime.compare_eq]
    by_cases heq : t.compareClock first = .eq
    · rw [heq, hbelow heq]
      simp [hfirst, hnano']
    by_cases heq' : t.compareClock last = .eq
    · rw [heq', habove heq']
      simp [hlast, hnano]
      omega
    -- In any other second the fractions do not count.
    have hthen {o : Ordering} (h : o ≠ .eq) (o' : Ordering) : o.then o' = o := by
      cases o <;> first | rfl | exact absurd rfl h
    simp [hthen heq, hthen heq', heq, heq']
  · rw [compare_text hkind ht hspan.firstYear, compare_text hkind ht hspan.lastYear]
    exact iff_of_true Iff.rfl fun h => hkind h.1

/-! ## Reading a span -/

variable {raw : String} {now : DateTime} {v : Value}

theorem ofMoment_json (kind : TemporalKind) (t : DateTime) :
    (kind.ofMoment t).json = .string (kind.ofMoment t).text := by
  cases kind <;> rfl

/-- A span that is read of a text has both its ends. -/
theorem readPartial?_ends (h : kind.readPartial? raw = some v) :
    ∃ first last : DateTime, first.IsSpan last ∧
      v.resolveFor? (some kind) .first = some (kind.ofMoment first) ∧
      v.resolveFor? (some kind) .last = some (kind.ofMoment last) := by
  cases kind with
  | date =>
    obtain ⟨p, hp, rfl⟩ := Option.map_eq_some_iff.1 h
    obtain ⟨hyear, first, hfirst⟩ := PartialDate.read?_ok hp
    obtain ⟨last, hlast, hsame, hsame', hle⟩ :=
      PartialDate.resolve_last (PartialDate.not_endsCalendar hyear.2) hfirst
    refine ⟨⟨first, .midnight⟩, ⟨last, .lastMicrosecond⟩, ?_, ?_, ?_⟩
    · exact ⟨.of_year hsame hyear, .of_year hsame' hyear, rfl, rfl,
        DateTime.compareClock_eq_lt hle rfl⟩
    · simp [Value.resolveFor?, Value.resolve?, hfirst, ofMoment]
    · simp [Value.resolveFor?, Value.resolve?, hlast, ofMoment]
  | time =>
    obtain ⟨p, hp, rfl⟩ := Option.map_eq_some_iff.1 h
    obtain ⟨first, hfirst⟩ := PartialTime.read?_ok hp
    obtain ⟨last, hlast, hnano, hnano', hlt⟩ := PartialTime.resolve_last hfirst
    let day : Date := ⟨0, 1, 1, by decide⟩
    have hday : day.InFourDigits := .of_year rfl (by decide)
    refine ⟨⟨day, first⟩, ⟨day, last⟩, ?_, ?_, ?_⟩
    · exact ⟨hday, hday, hnano, hnano', DateTime.compareClock_eq_lt rfl hlt⟩
    · simp [Value.resolveFor?, Value.resolve?, hfirst, ofMoment]
    · simp [Value.resolveFor?, Value.resolve?, hlast, ofMoment]
  | localDateTime | utcDateTime =>
    obtain ⟨p, hp, rfl⟩ := Option.map_eq_some_iff.1 h
    obtain ⟨hyear, first, hfirst⟩ := PartialDateTime.read?_ok hp
    obtain ⟨last, hlast, hspan⟩ := PartialDateTime.resolve_last hyear hfirst
    refine ⟨first, last, hspan, ?_, ?_⟩
    · simp [Value.resolveFor?, Value.resolve?, Value.isPartial, hfirst, ofMoment]
    · simp [Value.resolveFor?, Value.resolve?, Value.isPartial, hlast, ofMoment]

end TemporalKind

/-! ## Searching -/

section Search

variable {kind : TemporalKind} {raw name field : String} {now : DateTime} {v first last : Value}
  {pos place place' : Position} {key value : Item}

theorem castItems_span (hkey : key.fieldName? = some name) (hvalue : value.text? = some raw)
    (hcast : (Kind.temporal kind).cast raw now = .ok v) :
    (Schema.empty.insert name ⟨field, .type (.temporal kind)⟩).castItems now [.pair pos key value] =
      .ok [.pair pos (.word key.position field) (.value value.position v)] := by
  have hrule : (Schema.empty.insert name ⟨field, .type (.temporal kind)⟩).lookup? name =
      some ⟨field, .type (.temporal kind)⟩ := by
    simp [Schema.lookup?, Schema.insert, Schema.empty, Schema.insertField]
  exact (Schema.castItems_pair hkey).2
    ⟨field, _, Schema.castPair_type hrule (Schema.castValue_text hvalue hcast), rfl⟩

/-- Under a field of a temporal type a span becomes the range between its ends. -/
theorem applySchema_span (hkey : key.fieldName? = some name) (hvalue : value.text? = some raw)
    (hcast : (Kind.temporal kind).cast raw now = .ok v) (hpartial : v.isPartial)
    (hfirst : v.resolveFor? (some kind) .first = some first)
    (hlast : v.resolveFor? (some kind) .last = some last) :
    Command.applySchema now (Schema.empty.insert name ⟨field, .type (.temporal kind)⟩)
        [.pair pos key value] =
      .ok [.pair pos (.word key.position field)
        (.range value.position (.value value.position first) (.value value.position last))] := by
  have hkind : (Schema.empty.insert name ⟨field, .type (.temporal kind)⟩).temporalKind? field =
      some kind := by
    simp [Schema.temporalKind?, Schema.bySource?, Schema.insert, Schema.empty, Schema.insertField,
      FieldRule.kind?, Kind.temporal?]
  have hspan (bound : Bound) {w : Value} (h : v.resolveFor? (some kind) bound = some w) :
      Item.resolveSpan field (some kind) v bound = .ok w := by
    rw [Item.resolveSpan, h]
    rfl
  simp only [Command.applySchema, castItems_span hkey hvalue hcast, Schema.resolveItems,
    Schema.resolveItem, Item.resolveBounds, hpartial, if_true, bind, pure, Except.bind, Except.pure]
  rw [show Schema.nameOf (.word key.position field) = field from rfl, hkind,
    hspan .first hfirst, hspan .last hlast]

/-- A range of a field compiles into a comparison of texts. -/
theorem ofItems_span (hfirst : first.isPartial = false) (hlast : last.isPartial = false) :
    Matcher.ofItems [.pair pos (.word place field)
        (.range place' (.value place' first) (.value place' last))] =
      .ok (.field field (.between (some (.literal first.json)) (some (.literal last.json)))) := by
  have hkey : (Item.word place field).fieldName? = some field := rfl
  rw [Matcher.ofItems_pair hkey, Test.ofItem, Test.ofSide?, Test.ofSide?,
    Value.boundOf?_of_not_partial hfirst, Value.boundOf?_of_not_partial hlast]
  rfl

/-- A text is within a range just if it is between the texts of the two ends. -/
theorem accepts_between {text low high : String} :
    Matcher.accepts (.object [(field, .string text)])
        (.field field (.between (some (.literal (.string low))) (some (.literal (.string high))))) ↔
      (compare text low).isGE ∧ (compare text high).isLE := by
  have hvalues : Json.slotValues (some (.string text)) = [.string text] := rfl
  rw [Matcher.accepts, Json.lookup?_single, Test.passes, hvalues]
  simp [Test.meets, Operand.resolve?, Json.order?, Operator.admits]

/-- **Search for a span.** A truncated date or time under a field of a temporal type is a query that
finds the moments from the first to the last of its span, each by its text. It is only in universal
time that some moments are misplaced: of these it finds those that are not within the span. -/
theorem search_span_iff (hkey : key.fieldName? = some name) (hvalue : value.text? = some raw)
    (hcast : (Kind.temporal kind).cast raw now = .ok v) (hpartial : v.isPartial) :
    ∃ (first last : DateTime) (items : List Item) (matcher : Matcher),
      v.resolveFor? (some kind) .first = some (kind.ofMoment first) ∧
      v.resolveFor? (some kind) .last = some (kind.ofMoment last) ∧
      Command.applySchema now (Schema.empty.insert name ⟨field, .type (.temporal kind)⟩)
        [.pair pos key value] = .ok items ∧
      Matcher.ofItems items = .ok matcher ∧
      ∀ t : DateTime, t.date.InFourDigits →
        ((matcher.accepts (.object [(field, .string (kind.ofMoment t).text)]) ↔
          kind.Within first last t) ↔ ¬ kind.IsMisplaced first last t) := by
  have hread : kind.read raw now = .ok v := by
    cases h : kind.read raw now with
    | error e => simp [Kind.cast, h, Except.mapError] at hcast
    | ok w =>
      rw [Kind.cast, h] at hcast
      cases hcast
      rfl
  obtain ⟨first, last, hspan, hfirst, hlast⟩ :=
    TemporalKind.readPartial?_ends (TemporalKind.read_partial hread hpartial)
  refine ⟨first, last, _, _, hfirst, hlast,
    applySchema_span hkey hvalue hcast hpartial hfirst hlast,
    ofItems_span (kind.ofMoment_not_partial first) (kind.ofMoment_not_partial last), ?_⟩
  intro t ht
  rw [TemporalKind.ofMoment_json, TemporalKind.ofMoment_json, accepts_between]
  exact TemporalKind.compare_text_ends hspan ht

end Search

/-- The leap day of 2020. -/
def leapDayOf2020 : DateTime := ⟨⟨2020, 2, 29, by decide⟩, .midnight⟩

/-- The last day of February is found in a leap year. -/
theorem search_span_iff_leap_day :
    (Kind.temporal .date).cast "2020-02" leapDayOf2020 = .ok (.partialDate ⟨2020, some 2⟩) ∧
    ∃ items matcher,
      Command.applySchema leapDayOf2020
          (Schema.empty.insert "made" ⟨"created", .type (.temporal .date)⟩)
          [.pair ⟨1, 1⟩ (.word ⟨1, 1⟩ "made") (.word ⟨1, 6⟩ "2020-02")] = .ok items ∧
        Matcher.ofItems items = .ok matcher ∧
        matcher.accepts (.object [("created", .string "2020-02-29")]) := by
  have hcast : (Kind.temporal .date).cast "2020-02" leapDayOf2020 =
      .ok (.partialDate ⟨2020, some 2⟩) := rfl
  obtain ⟨first, last, items, matcher, hfirst, hlast, hitems, hmatcher, h⟩ :=
    @search_span_iff .date "2020-02" "made" "created" _ _ ⟨1, 1⟩ (.word ⟨1, 1⟩ "made")
      (.word ⟨1, 6⟩ "2020-02") rfl rfl hcast rfl
  have htext : (TemporalKind.date.ofMoment leapDayOf2020).text = "2020-02-29" := by decide
  refine ⟨hcast, items, matcher, hitems, hmatcher, ?_⟩
  rw [← htext]
  have hfound := (h leapDayOf2020 (.of_year rfl (by decide))).2 nofun
  refine hfound.2 ⟨?_, ?_⟩
  · have hday : some (Value.date ⟨2020, 2, 1, by decide⟩) = some (.date first.date) := hfirst
    injection hday with hday
    injection hday with hday
    change (compare leapDayOf2020.date first.date).isGE
    rw [← hday]
    rfl
  · have hday : some (Value.date ⟨2020, 2, 29, by decide⟩) = some (.date last.date) := hlast
    injection hday with hday
    injection hday with hday
    change (compare leapDayOf2020.date last.date).isLE
    rw [← hday]
    rfl

/-- The moment at which the last second of 2020 starts. -/
def lastSecondOf2020 : DateTime := ⟨⟨2020, 12, 31, by decide⟩, ⟨23, 59, 59, 0, by decide⟩⟩

/-- The last whole second of a year is not found, although it is within the year: its `Z` comes
after the point with which the text of the last microsecond goes on. -/
theorem search_span_misses :
    ∃ first last items matcher,
      (Kind.temporal .utcDateTime).cast "2020" lastSecondOf2020 =
        .ok (.partialDateTime ⟨2020, none, none, none, none⟩) ∧
      Value.resolveFor? (some .utcDateTime) (.partialDateTime ⟨2020, none, none, none, none⟩) .first =
        some (.utcDateTime first) ∧
      Value.resolveFor? (some .utcDateTime) (.partialDateTime ⟨2020, none, none, none, none⟩) .last =
        some (.utcDateTime last) ∧
      Command.applySchema lastSecondOf2020
          (Schema.empty.insert "created" ⟨"created", .type (.temporal .utcDateTime)⟩)
          [.pair ⟨1, 1⟩ (.word ⟨1, 1⟩ "created") (.word ⟨1, 9⟩ "2020")] = .ok items ∧
      Matcher.ofItems items = .ok matcher ∧
      TemporalKind.Within .utcDateTime first last lastSecondOf2020 ∧
      matcher.accepts (.object [("created", .string lastSecondOf2020.utcText)]) = false :=
  ⟨⟨⟨2020, 1, 1, by decide⟩, .midnight⟩, ⟨⟨2020, 12, 31, by decide⟩, .lastMicrosecond⟩, _, _, rfl,
    rfl, rfl, rfl, rfl, ⟨rfl, rfl⟩, rfl⟩

end SearchQuery
