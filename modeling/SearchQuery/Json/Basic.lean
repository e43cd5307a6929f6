import SearchQuery.Number.FloatText
import SearchQuery.Number.Integer

/-!
# JSON values

A number is an integer of 64 bits, signed or not, or else a double. An object keeps its members as
they were written; `Json.canonical` gives the value that a document stands for, with sorted keys of
which the last of its name counts.
-/

namespace SearchQuery

/-- A JSON number. -/
inductive JsonNumber where
  | integer (n : Int)
  | float (x : Float)
deriving DecidableEq

/-- The number as a double. -/
def JsonNumber.toFloat : JsonNumber → Float
  | .integer n => if n < 0 then -Float.ofNat n.natAbs else Float.ofNat n.natAbs
  | .float x => x

/-- The number as JSON writes it: a double has a point or an exponent, and an exponent stands for
more than 16 digits before the point or more than 4 zeros after it. -/
def JsonNumber.text : JsonNumber → String
  | .integer n => Number.integerText n
  | .float x =>
    let sign := if Number.isNegative x then "-" else ""
    if (Number.Binary.ofFloat x).mantissa = 0 then sign ++ "0.0"
    else
      let d := (Number.Binary.ofFloat x).shortest .even
      let exponent := d.exponent + ((Nat.toDigits 10 d.digits).length - 1 : Nat)
      if exponent < -5 || 15 < exponent then sign ++ d.scientific
      else if 0 ≤ d.exponent then sign ++ d.positional ++ ".0"
      else sign ++ d.positional

/-- A JSON value. -/
inductive Json where
  | null
  | bool (b : Bool)
  | number (n : JsonNumber)
  | string (s : String)
  | array (elements : List Json)
  | object (members : List (String × Json))

namespace Json

instance : Inhabited Json := ⟨.null⟩

/-- A double as JSON has it: what is not a finite number is null. -/
def ofFloat (x : Float) : Json := if x.isNaN || x.isInf then null else number (.float x)

/-- Whether the value is null. -/
def isNull : Json → Bool
  | null => true
  | _ => false

/-- The member of an object with a given name, the first of several. -/
def get? (key : String) : Json → Option Json
  | object members => (members.find? (·.1 == key)).map (·.2)
  | _ => none

/-- Members in the order of their keys with one more, which replaces another of its name. -/
def insertMember (key : String) (value : Json) : List (String × Json) → List (String × Json)
  | [] => [(key, value)]
  | (k, v) :: rest =>
    if key < k then (key, value) :: (k, v) :: rest
    else if key = k then (key, value) :: rest
    else (k, v) :: insertMember key value rest

mutual

/-- The value with the keys of its objects in order, each once. -/
def canonical : Json → Json
  | array elements => array (canonicalElements elements)
  | object members => object (canonicalMembers [] members)
  | json => json

/-- The elements with their keys in order. -/
def canonicalElements : List Json → List Json
  | [] => []
  | element :: elements => element.canonical :: canonicalElements elements

/-- Members added to those `before` them, which are in order. -/
def canonicalMembers (before : List (String × Json)) : List (String × Json) → List (String × Json)
  | [] => before
  | (key, value) :: members => canonicalMembers (insertMember key value.canonical before) members

end

end Json

end SearchQuery
