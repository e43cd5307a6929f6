import Mathlib.Tactic.Common
import SearchQuery.Proofs.Except
import SearchQuery.Schema.Cast

/-!
# Casting a pair

* `castPair_type`, `castValue_text`: a pair under a declared type, and a literal as its value.
* `castItems_pair`: a query of one pair is cast just as its pair is, and gives way to the field.
* `castPair_declared`: what is cast to a type or enumeration is cast literal by literal.
* `castPair_source`: what a pair is cast to names the field of some key of the schema.
-/

namespace SearchQuery

theorem Item.fieldName?_of_text? {item : Item} {name : String} (h : item.text? = some name) :
    item.fieldName? = some name := by
  cases item with
  | word | quote => exact h
  | _ => cases h

namespace Schema

variable {schema : Schema} {kind : Kind} {name field raw : String} {now : DateTime} {v : Value}
  {pos : Position} {key value value' : Item}

theorem nameOf_of_fieldName? (h : key.fieldName? = some name) : nameOf key = name := by
  rw [nameOf, h]
  rfl

/-- A word or quote is cast by its text. -/
theorem castValue_text (hvalue : value.text? = some raw) (hcast : kind.cast raw now = .ok v) :
    schema.castValue field (.type kind) now value = .ok (.value value.position v) := by
  have htext : castText field (.type kind) now raw = .ok v := Except.mapError_eq_ok.2 hcast
  cases value with
  | word pos text | quote pos text =>
    cases hvalue
    rw [castValue, htext]
    rfl
  | _ => cases hvalue

theorem castPair_type (hrule : schema.lookup? name = some ⟨field, .type kind⟩)
    (hvalue : schema.castValue name (.type kind) now value = .ok value') :
    schema.castPair name value now = .ok (field, value') := by
  rw [castPair, hrule]
  dsimp only
  rw [hvalue]
  rfl

theorem castItems_pair {items : List Item} (hkey : key.fieldName? = some name) :
    schema.castItems now [.pair pos key value] = .ok items ↔
      ∃ source value', schema.castPair name value now = .ok (source, value') ∧
        items = [.pair pos (.word key.position source) value'] := by
  rw [castItems, castItem, nameOf_of_fieldName? hkey]
  cases schema.castPair name value now with
  | error e => simp [bind, Except.bind]
  | ok cast =>
    obtain ⟨source, value'⟩ := cast
    simp [castItems, bind, Except.bind, pure, Except.pure, eq_comm]

/-- Under a declared type or an enumeration a pair is cast literal by literal. -/
theorem castPair_declared {source : String} {spec : FieldSpec}
    (hlookup : schema.lookup? name = some spec) (hrule : ∀ f, spec.rule ≠ .custom f)
    (h : schema.castPair name value now = .ok (source, value')) :
    schema.castValue name spec.rule now value = .ok value' := by
  rw [castPair, hlookup] at h
  dsimp only at h
  split at h
  · rename_i f hcustom
    exact absurd hcustom (hrule f)
  · obtain ⟨item, hitem, ⟨⟩⟩ := Except.bind_eq_ok.1 h
    exact hitem

/-- The key of a cast pair is one of the schema's, and gives way to its field. -/
theorem castPair_source {source : String}
    (h : schema.castPair name value now = .ok (source, value')) :
    ∃ spec, schema.lookup? name = some spec ∧ spec.source = source := by
  rw [castPair] at h
  split at h
  · cases h
  · rename_i spec hspec
    refine ⟨spec, hspec, ?_⟩
    split at h
    · split at h
      · cases h
        rfl
      · cases h
    · obtain ⟨item, -, ⟨⟩⟩ := Except.bind_eq_ok.1 h
      rfl

end Schema

end SearchQuery
