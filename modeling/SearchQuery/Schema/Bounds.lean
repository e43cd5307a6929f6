import SearchQuery.Schema.Cast

/-!
# Spans and their bounds

A truncated date or time stands for a span. Before a query meets data its spans give way to their
bounds: a range takes the first moment of its start and the last of its end, an ordering the bound
that keeps its meaning, and a span on its own becomes the range it covers.
-/

namespace SearchQuery

/-- The first or last value of a span; on a field of universal time it is a moment of that. -/
def Value.resolveFor? (kind : Option TemporalKind) (v : Value) (bound : Bound) : Option Value :=
  match kind, v.isPartial, v.resolve? bound with
  | some .utcDateTime, true, some (.localDateTime t) => some (.utcDateTime t)
  | _, _, resolved => resolved

namespace Item

/-- A bound of a span, which the calendar may not reach. -/
def resolveSpan (field : String) (kind : Option TemporalKind) (v : Value) (bound : Bound) :
    Except TransformError Value :=
  (v.resolveFor? kind bound).elim
    (.error (.value field v.text ⟨[v.typeName], "partial value out of range"⟩)) .ok

/-- The side of a range, a span replaced by its bound. -/
def resolveSide (field : String) (kind : Option TemporalKind) (bound : Bound) (side : Item) :
    Except TransformError Item :=
  match side with
  | .value pos v =>
    if v.isPartial then do return .value pos (← resolveSpan field kind v bound) else .ok side
  | _ => .ok side

mutual

/-- A value with its spans replaced by their bounds. -/
def resolveBounds (field : String) (kind : Option TemporalKind) : Item → Except TransformError Item
  | .value pos v =>
    if v.isPartial then do
      return .range pos (.value pos (← resolveSpan field kind v .first))
        (.value pos (← resolveSpan field kind v .last))
    else .ok (.value pos v)
  | .range pos start stop => do
    return .range pos (← resolveSide field kind .first start) (← resolveSide field kind .last stop)
  | .compare pos op operand =>
    match op.bound?, operand with
    | some bound, .value place v =>
      if v.isPartial then do
        return .compare pos op (.value place (← resolveSpan field kind v bound))
      else .ok (.compare pos op (.value place v))
    | _, _ => do return .compare pos op (← resolveBounds field kind operand)
  | .list pos items => do return .list pos (← resolveBoundsAll field kind items)
  | .group pos items => do return .group pos (← resolveBoundsAll field kind items)
  | .and pos left right => do
    return .and pos (← resolveBounds field kind left) (← resolveBoundsAll field kind right)
  | .or pos left right => do
    return .or pos (← resolveBounds field kind left) (← resolveBoundsAll field kind right)
  | .not pos operand => do return .not pos (← resolveBounds field kind operand)
  | item => .ok item

/-- Values with their spans replaced by their bounds. -/
def resolveBoundsAll (field : String) (kind : Option TemporalKind) :
    List Item → Except TransformError (List Item)
  | [] => .ok []
  | item :: items => do
    return (← resolveBounds field kind item) :: (← resolveBoundsAll field kind items)

end

end Item

namespace Schema

/-- The temporal type of a field: of the first key that reads it, or else of the key of its name. -/
def temporalKind? (schema : Schema) (field : String) : Option TemporalKind := do
  let spec ← schema.bySource? field <|> schema.lookup? field
  let kind ← spec.rule.kind?
  kind.temporal?

mutual

/-- An item with the spans of its pairs replaced by their bounds. -/
def resolveItem (schema : Schema) : Item → Except TransformError Item
  | .pair pos key value => do
    let field := nameOf key
    return .pair pos key (← value.resolveBounds field (schema.temporalKind? field))
  | .group pos items => do return .group pos (← resolveItems schema items)
  | .and pos left right => do
    return .and pos (← resolveItem schema left) (← resolveItems schema right)
  | .or pos left right => do
    return .or pos (← resolveItem schema left) (← resolveItems schema right)
  | .not pos operand => do return .not pos (← resolveItem schema operand)
  | item => .ok item

/-- A cast query with the spans of its pairs replaced by their bounds. -/
def resolveItems (schema : Schema) : List Item → Except TransformError (List Item)
  | [] => .ok []
  | item :: items => do return (← resolveItem schema item) :: (← resolveItems schema items)

end

end Schema

end SearchQuery
