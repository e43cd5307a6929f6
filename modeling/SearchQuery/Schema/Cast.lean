import SearchQuery.Identifier.Ulid
import SearchQuery.Item.Printer
import SearchQuery.Schema.Temporal

/-!
# Casting

Under a schema the literals of a query become typed values, and its keys become the fields they
read. `Schema.castPair` casts one pair and `Schema.castItems` a whole query. All but the literals,
pins and keys stays as it is, and so does what stands outside pairs.
-/

namespace SearchQuery

/-- Why a literal is not of a type. -/
structure CastFailure where
  /-- The names of the forms that were tried, in order. -/
  attempted : List String
  reason : String
deriving DecidableEq

/-- Why a query does not fit a schema. -/
inductive TransformError where
  | unknownKey (key : String) (suggestions : List String)
  | invalidVariant (field enumeration raw : String)
  | value (field raw : String) (failure : CastFailure)
  /-- The field's rule has no use for items of this sort. -/
  | unsupported (field term : String)
  | custom (field reason : String)
deriving DecidableEq

namespace TransformError

/-- What to offer instead of an unknown key. -/
def offer : List String → String
  | [] => ""
  | [key] => ", did you mean `" ++ key ++ "`?"
  | keys => ", did you mean one of: " ++ ", ".intercalate keys ++ "?"

/-- The error as it is reported. -/
def message : TransformError → String
  | unknownKey key suggestions => "unknown field `" ++ key ++ "`" ++ offer suggestions
  | invalidVariant field enumeration raw =>
    "`" ++ raw ++ "` is not a valid " ++ enumeration ++ " for field `" ++ field ++ "`"
  | value field raw failure =>
    "field `" ++ field ++ "`: cannot cast `" ++ raw ++ "` as " ++
      " or ".intercalate failure.attempted ++ " (" ++ failure.reason ++ ")"
  | unsupported field term => "field `" ++ field ++ "` does not support " ++ term ++ " search terms"
  | custom field reason => "field `" ++ field ++ "`: " ++ reason

end TransformError

/-! ## Literals -/

namespace Kind

/-- A boolean in any letter case, or a bit. -/
def readBoolean? (raw : String) : Option Bool :=
  let lowered := Text.asciiLowercase raw
  if lowered = "true" || lowered = "1" then some true
  else if lowered = "false" || lowered = "0" then some false
  else none

/-- What is wrong with a literal of a temporal type. -/
def temporalFailure (e : TemporalError) : CastFailure :=
  ⟨e.attempted, (e.relative.map RelativeError.message).getD "no matching format"⟩

/-- Casts a literal; relative moments are placed around `now`. -/
def cast (kind : Kind) (raw : String) (now : DateTime) : Except CastFailure Value :=
  let fail (reason : String) : Except CastFailure Value := .error ⟨[kind.name], reason⟩
  match kind with
  | binaryId | uuid =>
    match Uuid.read raw with
    | .ok u => .ok (.uuid u)
    | .error e => fail e.message
  | ulid =>
    match Ulid.read? raw with
    | some text => .ok (.ulid text)
    | none => fail "expected 26 Crockford base32 characters"
  | boolean =>
    match readBoolean? raw with
    | some b => .ok (.boolean b)
    | none => fail "expected true or false"
  | integer =>
    match Number.readInt64 raw with
    | .ok n => .ok (.integer n)
    | .error e => fail e.message
  | float =>
    match Number.readFloat raw with
    | .ok x => if x.isFinite then .ok (.float x) else fail "not a finite number"
    | .error e => fail e.message
  | decimal =>
    match Decimal.read raw with
    | .ok d => .ok (.decimal d)
    | .error e => fail e.message
  | atom => .ok (.atom raw)
  | string => .ok (.string raw)
  | temporal kind => (kind.read raw now).mapError temporalFailure

end Kind

/-! ## Items -/

namespace Schema

/-- An unknown key is reported with the known ones close to it. -/
def unknownKey (schema : Schema) (key : String) : TransformError :=
  .unknownKey key (schema.suggest key)

/-- The name that a key or the target of a pin spells. -/
def nameOf (item : Item) : String := item.fieldName?.getD item.print

/-- Casts the text of a word or quote by a rule. -/
def castText (field : String) (rule : FieldRule) (now : DateTime) (raw : String) :
    Except TransformError Value :=
  match rule with
  | .type kind => (kind.cast raw now).mapError (.value field raw)
  | .enumeration e => ((e.cast? raw).map .atom).elim (.error (.invalidVariant field e.name raw)) .ok
  | .custom _ => .error (.unsupported field "custom")

/-- What a pin refers to becomes the field that its key reads. -/
def castTarget (schema : Schema) (target : Item) : Except TransformError Item :=
  match schema.lookup? (nameOf target) with
  | some spec => .ok (.value target.position (.atom spec.source))
  | none => .error (schema.unknownKey (nameOf target))

/-- Whether a rule lets values be matched against patterns. -/
def allowsPatterns (rule : FieldRule) : Bool := (rule.kind?.map Kind.acceptsPatterns).getD false

mutual

/-- Casts the literals of a value by a rule. -/
def castValue (schema : Schema) (field : String) (rule : FieldRule) (now : DateTime) :
    Item → Except TransformError Item
  | .word pos raw | .quote pos raw => do return .value pos (← castText field rule now raw)
  | .pin pos target => do return .pin pos (← castTarget schema target)
  | .compare pos op operand => do return .compare pos op (← castValue schema field rule now operand)
  | .range pos start stop => do
    return .range pos (← castValue schema field rule now start)
      (← castValue schema field rule now stop)
  | .list pos items => do return .list pos (← castValues schema field rule now items)
  | .group pos items => do return .group pos (← castValues schema field rule now items)
  | .and pos left right => do
    return .and pos (← castValue schema field rule now left)
      (← castValues schema field rule now right)
  | .or pos left right => do
    return .or pos (← castValue schema field rule now left)
      (← castValues schema field rule now right)
  | .not pos operand => do return .not pos (← castValue schema field rule now operand)
  | .pattern pos pieces =>
    if allowsPatterns rule then .ok (.pattern pos pieces) else .error (.unsupported field "partial")
  | .pair _ _ _ => .error (.unsupported field "pair")
  | item => .ok item

/-- Casts the literals of several values by a rule. -/
def castValues (schema : Schema) (field : String) (rule : FieldRule) (now : DateTime) :
    List Item → Except TransformError (List Item)
  | [] => .ok []
  | item :: items => do
    return (← castValue schema field rule now item) :: (← castValues schema field rule now items)

end

/-- Casts the value of a pair by the rule of its key, and gives the field that the key reads. -/
def castPair (schema : Schema) (key : String) (value : Item) (now : DateTime) :
    Except TransformError (String × Item) :=
  match schema.lookup? key with
  | none => .error (schema.unknownKey key)
  | some spec =>
    match spec.rule with
    | .custom cast =>
      match cast value now with
      | .ok item => .ok (spec.source, item)
      | .error reason => .error (.custom key reason)
    | rule => do return (spec.source, ← castValue schema key rule now value)

mutual

/-- Casts the pairs of an item. -/
def castItem (schema : Schema) (now : DateTime) : Item → Except TransformError Item
  | .pair pos key value => do
    let (source, value) ← schema.castPair (nameOf key) value now
    return .pair pos (.word key.position source) value
  | .group pos items => do return .group pos (← castItems schema now items)
  | .and pos left right => do
    return .and pos (← castItem schema now left) (← castItems schema now right)
  | .or pos left right => do
    return .or pos (← castItem schema now left) (← castItems schema now right)
  | .not pos operand => do return .not pos (← castItem schema now operand)
  | item => .ok item

/-- Casts the pairs of a query. -/
def castItems (schema : Schema) (now : DateTime) : List Item → Except TransformError (List Item)
  | [] => .ok []
  | item :: items => do return (← castItem schema now item) :: (← castItems schema now items)

end

end Schema

end SearchQuery
