import Mathlib.Data.List.Basic
import Mathlib.Tactic.Common
import SearchQuery.Proofs.Except
import SearchQuery.Proofs.Item.Literals
import SearchQuery.Proofs.Query.RoundTrip
import SearchQuery.Proofs.Schema.Temporal

/-!
# Declared types

The literals of a pair are cast to the type that its key declares, and spans among them then give
way to their bounds. By then the key is the field that it reads, and the type is looked up by the
field: it is that of the first key that reads it.

* `castValue_admits`: what a cast gives are values and spans of the declared type.
* `resolveBounds_typed`: the bounds are of that type just if the type looked up keeps it.
* `castItems_staged`: the pairs of a query are cast and resolved one by one.
* `resolveItems_typed_iff`: the types of the literals of a query, from its text on.
-/

namespace SearchQuery

/-! ## Casting -/

namespace Schema

open Item

variable {schema : Schema} {field raw : String} {kind : TemporalKind} {now : DateTime} {v : Value}

theorem castText_eq_ok :
    castText field (.type (.temporal kind)) now raw = .ok v ↔ kind.read raw now = .ok v := by
  rw [castText, Except.mapError_eq_ok, Kind.cast, Except.mapError_eq_ok]

/-- A literal on its own is cast to the type. -/
theorem castValue_literal? {item cast : Item} (hitem : item.literal? = none)
    (h : schema.castValue field (.type (.temporal kind)) now item = .ok cast) :
    ∀ v ∈ cast.literal?.toList, kind.Admits v := by
  cases item with
  | word | quote =>
    obtain ⟨v, hv, ⟨⟩⟩ := Except.bind_eq_ok.1 h
    simpa [literal?] using TemporalKind.admits_of_read (castText_eq_ok.1 hv)
  | pin | compare | list | group | not =>
    obtain ⟨_, -, ⟨⟩⟩ := Except.bind_eq_ok.1 h
    simp [literal?]
  | range | and | or =>
    obtain ⟨_, -, h⟩ := Except.bind_eq_ok.1 h
    obtain ⟨_, -, ⟨⟩⟩ := Except.bind_eq_ok.1 h
    simp [literal?]
  | value => cases hitem
  | pattern | pair => cases h
  | null | infinity | wildcard | anyChar =>
    cases h
    simp [literal?]

mutual

/-- What is cast to a temporal type are values of the type and spans of such values. -/
theorem castValue_admits : (item : Item) → {cast : Item} → item.literals = [] →
    schema.castValue field (.type (.temporal kind)) now item = .ok cast →
    ∀ v ∈ cast.literals, kind.Admits v
  | .word _ _, _, _, h | .quote _ _, _, _, h => by
    obtain ⟨v, hv, ⟨⟩⟩ := Except.bind_eq_ok.1 h
    rw [literals, List.forall_mem_singleton]
    exact TemporalKind.admits_of_read (castText_eq_ok.1 hv)
  | .range _ start stop, _, hnil, h => by
    obtain ⟨start', hstart, h⟩ := Except.bind_eq_ok.1 h
    obtain ⟨stop', hstop, ⟨⟩⟩ := Except.bind_eq_ok.1 h
    rw [literals, List.append_eq_nil_iff, Option.toList_eq_nil_iff, Option.toList_eq_nil_iff] at hnil
    rw [literals, List.forall_mem_append]
    exact ⟨castValue_literal? hnil.1 hstart, castValue_literal? hnil.2 hstop⟩
  | .compare _ _ operand, _, hnil, h | .not _ operand, _, hnil, h => by
    obtain ⟨operand', hoperand, ⟨⟩⟩ := Except.bind_eq_ok.1 h
    rw [literals]
    exact castValue_admits operand hnil hoperand
  | .list _ items, _, hnil, h | .group _ items, _, hnil, h => by
    obtain ⟨items', hitems, ⟨⟩⟩ := Except.bind_eq_ok.1 h
    rw [literals]
    exact castValues_admits items hnil hitems
  | .and _ left right, _, hnil, h | .or _ left right, _, hnil, h => by
    obtain ⟨left', hleft, h⟩ := Except.bind_eq_ok.1 h
    obtain ⟨right', hright, ⟨⟩⟩ := Except.bind_eq_ok.1 h
    rw [literals, List.append_eq_nil_iff] at hnil
    rw [literals, List.forall_mem_append]
    exact ⟨castValue_admits left hnil.1 hleft, castValues_admits right hnil.2 hright⟩
  | .pin _ _, _, _, h => by
    obtain ⟨target, -, ⟨⟩⟩ := Except.bind_eq_ok.1 h
    simp [literals]
  | .value _ _, _, hnil, _ => by simp [literals] at hnil
  | .pattern _ _, _, _, h | .pair _ _ _, _, _, h => by cases h
  | .null _, _, _, h | .infinity _, _, _, h | .wildcard _, _, _, h | .anyChar _, _, _, h => by
    cases h
    simp [literals]

theorem castValues_admits : (items : List Item) → {cast : List Item} → literalsAll items = [] →
    schema.castValues field (.type (.temporal kind)) now items = .ok cast →
    ∀ v ∈ literalsAll cast, kind.Admits v
  | [], _, _, h => by
    cases h
    simp [literalsAll]
  | item :: items, _, hnil, h => by
    obtain ⟨item', hitem, h⟩ := Except.bind_eq_ok.1 h
    obtain ⟨items', hitems, ⟨⟩⟩ := Except.bind_eq_ok.1 h
    rw [literalsAll, List.append_eq_nil_iff] at hnil
    rw [literalsAll, List.forall_mem_append]
    exact ⟨castValue_admits item hnil.1 hitem, castValues_admits items hnil.2 hitems⟩

end

end Schema

/-! ## Bounds -/

namespace Item

variable {field : String} {kind : TemporalKind} {found : Option TemporalKind} {bound : Bound}
  {v w : Value}

/-- A side of a range keeps its type just if the type is kept. -/
theorem resolveSide_typed {side side' : Item}
    (hadmits : ∀ v ∈ side.literal?.toList, kind.Admits v)
    (h : resolveSide field found bound side = .ok side') :
    (∀ w ∈ side'.literal?.toList, w.temporalKind? = some kind) ↔
      ∀ v ∈ side.literal?.toList, v.isPartial → kind.KeptBy found := by
  obtain ⟨pos, v, w, rfl, hw, rfl⟩ | ⟨hother, rfl⟩ := resolveSide_cases h
  · have hv : kind.Admits v := hadmits v (List.mem_singleton_self v)
    simpa [literal?] using hv.resolved hw
  · cases side' with
    | value pos v => exact absurd rfl (hother pos v)
    | _ => simp [literal?]

mutual

/-- The literals of a value are of their type once spans are resolved, just if the type is kept for
the spans among them. -/
theorem resolveBounds_typed : (item : Item) → {item' : Item} →
    (∀ v ∈ item.literals, kind.Admits v) → resolveBounds field found item = .ok item' →
    ((∀ w ∈ item'.literals, w.temporalKind? = some kind) ↔
      ∀ v ∈ item.literals, v.isPartial → kind.KeptBy found)
  | .value pos v, _, hadmits, h => by
    have hv : kind.Admits v := hadmits v (List.mem_singleton_self v)
    obtain ⟨hpartial, rfl⟩ | ⟨-, w, w', hw, hw', rfl⟩ := resolveBounds_value h
    · simpa [literals] using hv.concrete (by simp [hpartial]) found
    · have hfirst := hv.resolved hw
      have hlast := hv.resolved hw'
      simp [literals, literal?, hfirst, hlast]
  | .range _ start stop, _, hadmits, h => by
    obtain ⟨start', hstart, h⟩ := Except.bind_eq_ok.1 h
    obtain ⟨stop', hstop, ⟨⟩⟩ := Except.bind_eq_ok.1 h
    simp only [literals, List.forall_mem_append] at hadmits ⊢
    rw [resolveSide_typed hadmits.1 hstart, resolveSide_typed hadmits.2 hstop]
  | .compare pos op operand, _, hadmits, h => by
    rw [literals] at hadmits ⊢
    obtain ⟨bound, place, v, w, -, rfl, hw, rfl⟩ | ⟨operand', -, hoperand, rfl⟩ :=
      resolveBounds_compare h
    · have hv : kind.Admits v := hadmits v (List.mem_singleton_self v)
      simpa [literals] using hv.resolved hw
    · rw [literals]
      exact resolveBounds_typed operand hadmits hoperand
  | .not _ operand, _, hadmits, h => by
    obtain ⟨operand', hoperand, ⟨⟩⟩ := Except.bind_eq_ok.1 h
    simp only [literals] at hadmits ⊢
    exact resolveBounds_typed operand hadmits hoperand
  | .list _ items, _, hadmits, h | .group _ items, _, hadmits, h => by
    obtain ⟨items', hitems, ⟨⟩⟩ := Except.bind_eq_ok.1 h
    simp only [literals] at hadmits ⊢
    exact resolveBoundsAll_typed items hadmits hitems
  | .and _ left right, _, hadmits, h | .or _ left right, _, hadmits, h => by
    obtain ⟨left', hleft, h⟩ := Except.bind_eq_ok.1 h
    obtain ⟨right', hright, ⟨⟩⟩ := Except.bind_eq_ok.1 h
    simp only [literals, List.forall_mem_append] at hadmits ⊢
    rw [resolveBounds_typed left hadmits.1 hleft, resolveBoundsAll_typed right hadmits.2 hright]
  | .null _, _, _, h | .infinity _, _, _, h | .wildcard _, _, _, h | .anyChar _, _, _, h
  | .word _ _, _, _, h | .quote _ _, _, _, h | .pin _ _, _, _, h | .pair _ _ _, _, _, h
  | .pattern _ _, _, _, h => by
    cases h
    simp [literals]

theorem resolveBoundsAll_typed : (items : List Item) → {items' : List Item} →
    (∀ v ∈ literalsAll items, kind.Admits v) → resolveBoundsAll field found items = .ok items' →
    ((∀ w ∈ literalsAll items', w.temporalKind? = some kind) ↔
      ∀ v ∈ literalsAll items, v.isPartial → kind.KeptBy found)
  | [], _, _, h => by
    cases h
    simp [literalsAll]
  | item :: items, _, hadmits, h => by
    obtain ⟨item', hitem, h⟩ := Except.bind_eq_ok.1 h
    obtain ⟨items', hitems, ⟨⟩⟩ := Except.bind_eq_ok.1 h
    simp only [literalsAll, List.forall_mem_append] at hadmits ⊢
    rw [resolveBounds_typed item hadmits.1 hitem, resolveBoundsAll_typed items hadmits.2 hitems]

end

end Item

/-! ## Pairs -/

/-- The value of a pair as it is written, as it is cast and with its spans resolved. -/
structure PairStages where
  key : Item
  written : Item
  cast : Item
  resolved : Item

namespace PairStages

open Item

/-- The pairs with their values at the three stages are those of a query as it is written, as it is
cast and with its spans resolved. -/
structure InStep (stages : List PairStages) (written cast resolved : List (Item × Item)) : Prop where
  written : written = stages.map fun s => (s.key, s.written)
  cast : cast.map Prod.snd = stages.map (·.cast)
  resolved : resolved.map Prod.snd = stages.map (·.resolved)

/-- The value was cast by the rule of its key and resolved as one of the field that the key reads,
or the pair stands inside a value, where pairs are left alone. -/
def Runs (schema : Schema) (now : DateTime) (s : PairStages) : Prop :=
  (∃ source, schema.castPair (Schema.nameOf s.key) s.written now = .ok (source, s.cast) ∧
      s.cast.resolveBounds source (schema.temporalKind? source) = .ok s.resolved) ∨
    s.cast = s.written ∧ s.resolved = s.written

/-- The pairs of a query are cast and resolved one by one. -/
def Staged (schema : Schema) (now : DateTime) (written cast resolved : List (Item × Item)) : Prop :=
  ∃ stages, InStep stages written cast resolved ∧ ∀ s ∈ stages, s.Runs schema now

namespace Staged

variable {schema : Schema} {now : DateTime} {written written' cast cast' resolved resolved' :
  List (Item × Item)}

theorem append (h : Staged schema now written cast resolved)
    (h' : Staged schema now written' cast' resolved') :
    Staged schema now (written ++ written') (cast ++ cast') (resolved ++ resolved') := by
  obtain ⟨stages, hstep, hruns⟩ := h
  obtain ⟨stages', hstep', hruns'⟩ := h'
  refine ⟨stages ++ stages', ⟨?_, ?_, ?_⟩, List.forall_mem_append.2 ⟨hruns, hruns'⟩⟩
  · rw [List.map_append, hstep.written, hstep'.written]
  · rw [List.map_append, List.map_append, hstep.cast, hstep'.cast]
  · rw [List.map_append, List.map_append, hstep.resolved, hstep'.resolved]

/-- Pairs that are left alone. -/
theorem refl (pairs : List (Item × Item)) : Staged schema now pairs pairs pairs := by
  refine ⟨pairs.map fun p => ⟨p.1, p.2, p.2, p.2⟩, ⟨?_, ?_, ?_⟩, ?_⟩
  · simp [Function.comp_def]
  · simp
  · simp
  · rw [List.forall_mem_map]
    exact fun p _ => .inr ⟨rfl, rfl⟩

theorem pair {key key' key'' value value' value'' : Item} {source : String}
    (hcast : schema.castPair (Schema.nameOf key) value now = .ok (source, value'))
    (hresolve : value'.resolveBounds source (schema.temporalKind? source) = .ok value'') :
    Staged schema now [(key, value)] [(key', value')] [(key'', value'')] := by
  refine ⟨[⟨key, value, value', value''⟩], ⟨rfl, rfl, rfl⟩, ?_⟩
  rw [List.forall_mem_singleton]
  exact .inl ⟨source, hcast, hresolve⟩

end Staged

end PairStages

namespace Schema

open Item PairStages

variable {schema : Schema} {now : DateTime}

mutual

/-- The pairs of an item are cast and resolved one by one. -/
theorem castItem_staged : (item : Item) → {cast resolved : Item} →
    schema.castItem now item = .ok cast → schema.resolveItem cast = .ok resolved →
    Staged schema now item.pairs cast.pairs resolved.pairs
  | .pair pos key v, _, _, hcast, hresolve => by
    obtain ⟨⟨source, v'⟩, hv, ⟨⟩⟩ := Except.bind_eq_ok.1 hcast
    obtain ⟨v'', hv', ⟨⟩⟩ := Except.bind_eq_ok.1 hresolve
    exact .pair hv hv'
  | .group _ items, _, _, hcast, hresolve => by
    obtain ⟨items', hitems, ⟨⟩⟩ := Except.bind_eq_ok.1 hcast
    obtain ⟨items'', hitems', ⟨⟩⟩ := Except.bind_eq_ok.1 hresolve
    exact castItems_staged items hitems hitems'
  | .and _ left right, _, _, hcast, hresolve | .or _ left right, _, _, hcast, hresolve => by
    obtain ⟨left', hleft, hcast⟩ := Except.bind_eq_ok.1 hcast
    obtain ⟨right', hright, ⟨⟩⟩ := Except.bind_eq_ok.1 hcast
    obtain ⟨left'', hleft', hresolve⟩ := Except.bind_eq_ok.1 hresolve
    obtain ⟨right'', hright', ⟨⟩⟩ := Except.bind_eq_ok.1 hresolve
    exact (castItem_staged left hleft hleft').append (castItems_staged right hright hright')
  | .not _ operand, _, _, hcast, hresolve => by
    obtain ⟨operand', hoperand, ⟨⟩⟩ := Except.bind_eq_ok.1 hcast
    obtain ⟨operand'', hoperand', ⟨⟩⟩ := Except.bind_eq_ok.1 hresolve
    simp only [pairs]
    exact castItem_staged operand hoperand hoperand'
  | .null _, _, _, hcast, hresolve | .infinity _, _, _, hcast, hresolve
  | .wildcard _, _, _, hcast, hresolve | .anyChar _, _, _, hcast, hresolve
  | .word _ _, _, _, hcast, hresolve | .quote _ _, _, _, hcast, hresolve
  | .value _ _, _, _, hcast, hresolve | .pin _ _, _, _, hcast, hresolve
  | .compare _ _ _, _, _, hcast, hresolve | .range _ _ _, _, _, hcast, hresolve
  | .list _ _, _, _, hcast, hresolve | .pattern _ _, _, _, hcast, hresolve => by
    cases hcast
    cases hresolve
    exact .refl _

theorem castItems_staged : (items : List Item) → {cast resolved : List Item} →
    schema.castItems now items = .ok cast → schema.resolveItems cast = .ok resolved →
    Staged schema now (pairsAll items) (pairsAll cast) (pairsAll resolved)
  | [], _, _, hcast, hresolve => by
    cases hcast
    cases hresolve
    exact .refl _
  | item :: items, _, _, hcast, hresolve => by
    obtain ⟨item', hitem, hcast⟩ := Except.bind_eq_ok.1 hcast
    obtain ⟨items', hitems, ⟨⟩⟩ := Except.bind_eq_ok.1 hcast
    obtain ⟨item'', hitem', hresolve⟩ := Except.bind_eq_ok.1 hresolve
    obtain ⟨items'', hitems', ⟨⟩⟩ := Except.bind_eq_ok.1 hresolve
    exact (castItem_staged item hitem hitem').append (castItems_staged items hitems hitems')

end

/-- The field and the literals of a pair whose key declares a temporal type. -/
theorem castPair_admits {key : String} {value cast : Item} {source found : String}
    {kind : TemporalKind} (hlookup : schema.lookup? key = some ⟨source, .type (.temporal kind)⟩)
    (hnil : value.literals = []) (h : schema.castPair key value now = .ok (found, cast)) :
    found = source ∧ ∀ v ∈ cast.literals, kind.Admits v := by
  rw [castPair, hlookup] at h
  obtain ⟨cast', hcast, ⟨⟩⟩ := Except.bind_eq_ok.1 h
  exact ⟨rfl, castValue_admits value hnil hcast⟩

/-- **Declared types.** When a query is parsed, cast and resolved, the literals of a pair whose key
declares a temporal type are of that type, just if every span among them has bounds of the type that
is looked up for the field. -/
theorem resolveItems_typed_iff {limit : Nat} {text : String} {items cast resolved : List Item}
    (hparse : Query.parse limit text = .ok items) (hcast : schema.castItems now items = .ok cast)
    (hresolve : schema.resolveItems cast = .ok resolved) :
    ∃ stages, InStep stages (pairsAll items) (pairsAll cast) (pairsAll resolved) ∧
      ∀ s ∈ stages, ∀ source kind,
        schema.lookup? (nameOf s.key) = some ⟨source, .type (.temporal kind)⟩ →
        ((∀ v ∈ s.resolved.literals, v.temporalKind? = some kind) ↔
          ∀ v ∈ s.cast.literals, v.isPartial → kind.KeptBy (schema.temporalKind? source)) := by
  obtain ⟨t, -, hread⟩ := Query.parse_ok hparse
  obtain ⟨stages, hstep, hruns⟩ := castItems_staged items hcast hresolve
  refine ⟨stages, hstep, fun s hs source kind hlookup => ?_⟩
  have hpair : (s.key, s.written) ∈ pairsAll items := by
    rw [hstep.written]
    exact List.mem_map_of_mem hs
  have hnil := hread.sequence.literals_eq_nil hpair
  obtain ⟨found, hcast, hresolve⟩ | ⟨hcast, hresolve⟩ := hruns s hs
  · obtain ⟨rfl, hadmits⟩ := castPair_admits hlookup hnil hcast
    exact resolveBounds_typed s.cast hadmits hresolve
  · simp [hcast, hresolve, hnil]

/-- A field that one key reads as a day and another as a moment of some type. -/
def dayOrMoment (kind : TemporalKind) : Schema :=
  (Schema.empty.insert "day" ⟨"at", .type (.temporal .date)⟩).insert "made"
    ⟨"at", .type (.temporal kind)⟩

/-- The moment at which 2024 starts. -/
def startOf2024 : DateTime := ⟨⟨2024, 1, 1, by decide⟩, .midnight⟩

/-- The last microsecond of 2024. -/
def endOf2024 : DateTime := ⟨⟨2024, 12, 31, by decide⟩, .lastMicrosecond⟩

/-- The year 2024 as a key is asked for it. -/
def year2024 : Item := .value ⟨1, 6⟩ (.partialDateTime ⟨2024, none, none, none, none⟩)

/-- The year 2024 between its bounds of local time. -/
def local2024 : Item :=
  .range ⟨1, 6⟩ (.value ⟨1, 6⟩ (.localDateTime startOf2024)) (.value ⟨1, 6⟩ (.localDateTime endOf2024))

/-- The bounds of a year of local time are of local time, although the field is taken to hold
days. -/
theorem resolveItems_typed_iff_local :
    let schema := dayOrMoment .localDateTime
    Query.parse Query.defaultLimit "made:2024" =
        .ok [.pair ⟨1, 1⟩ (.word ⟨1, 1⟩ "made") (.word ⟨1, 6⟩ "2024")] ∧
      schema.castItems startOf2024 [.pair ⟨1, 1⟩ (.word ⟨1, 1⟩ "made") (.word ⟨1, 6⟩ "2024")] =
        .ok [.pair ⟨1, 1⟩ (.word ⟨1, 1⟩ "at") year2024] ∧
      schema.resolveItems [.pair ⟨1, 1⟩ (.word ⟨1, 1⟩ "at") year2024] =
        .ok [.pair ⟨1, 1⟩ (.word ⟨1, 1⟩ "at") local2024] ∧
      schema.temporalKind? "at" = some .date ∧
      ∀ v ∈ local2024.literals, v.temporalKind? = some .localDateTime := by
  intro schema
  have hparse : Query.parse Query.defaultLimit "made:2024" =
      .ok [.pair ⟨1, 1⟩ (.word ⟨1, 1⟩ "made") (.word ⟨1, 6⟩ "2024")] := rfl
  have hcast : schema.castItems startOf2024
      [.pair ⟨1, 1⟩ (.word ⟨1, 1⟩ "made") (.word ⟨1, 6⟩ "2024")] =
      .ok [.pair ⟨1, 1⟩ (.word ⟨1, 1⟩ "at") year2024] := rfl
  have hresolve : schema.resolveItems [.pair ⟨1, 1⟩ (.word ⟨1, 1⟩ "at") year2024] =
      .ok [.pair ⟨1, 1⟩ (.word ⟨1, 1⟩ "at") local2024] := rfl
  refine ⟨hparse, hcast, hresolve, rfl, ?_⟩
  obtain ⟨stages, hstep, htyped⟩ := resolveItems_typed_iff hparse hcast hresolve
  obtain ⟨s, rfl, hs⟩ := List.map_eq_singleton_iff.1 hstep.written.symm
  obtain ⟨hkey, -⟩ := Prod.mk.inj hs
  have hresolved : [local2024] = [s.resolved] := hstep.resolved
  injection hresolved with hresolved
  have hlookup : schema.lookup? (nameOf s.key) = some ⟨"at", .type (.temporal .localDateTime)⟩ := by
    rw [hkey]
    rfl
  rw [hresolved]
  refine (htyped s (List.mem_singleton_self s) "at" .localDateTime hlookup).2 fun _ _ _ => ?_
  have hfound : schema.temporalKind? "at" = some .date := rfl
  simp [hfound, TemporalKind.KeptBy]

/-- Where the field is taken to hold days, the bounds of a year of universal time are of local
time. -/
theorem resolveItems_forgets_universal_time :
    let schema := dayOrMoment .utcDateTime
    schema.lookup? "made" = some ⟨"at", .type (.temporal .utcDateTime)⟩ ∧
      Query.parse Query.defaultLimit "made:2024" =
        .ok [.pair ⟨1, 1⟩ (.word ⟨1, 1⟩ "made") (.word ⟨1, 6⟩ "2024")] ∧
      schema.castItems startOf2024 [.pair ⟨1, 1⟩ (.word ⟨1, 1⟩ "made") (.word ⟨1, 6⟩ "2024")] =
        .ok [.pair ⟨1, 1⟩ (.word ⟨1, 1⟩ "at") year2024] ∧
      schema.resolveItems [.pair ⟨1, 1⟩ (.word ⟨1, 1⟩ "at") year2024] =
        .ok [.pair ⟨1, 1⟩ (.word ⟨1, 1⟩ "at") local2024] ∧
      ¬ ∀ v ∈ local2024.literals, v.temporalKind? = some .utcDateTime := by
  refine ⟨rfl, rfl, rfl, rfl, fun htyped => ?_⟩
  have hfirst := htyped (.localDateTime startOf2024) (List.mem_cons_self ..)
  cases hfirst

end Schema

end SearchQuery
