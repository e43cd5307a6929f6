import SearchQuery.Calendar.DateTime
import SearchQuery.Number.Integer
import SearchQuery.Text.LetterCase
import SearchQuery.Text.Shown

/-!
# Relative moments

An expression such as `@yesterday` or `@3-days-and-2-weeks-ago` names a moment in terms of now. It
is an `@` and words between hyphens, in any letter case:

* an anchor: `now`, `today`, `yesterday`, `tomorrow`;
* `next`, `last`, `prev` or `previous`, then a unit or an amount and a unit;
* amounts and units joined by `and`, then `ago`, `later`, `from`, `to` or `till`, where the last
  three may be followed by an anchor.

`Relative.read` reads the expression and `Relative.resolve` places it in time.
-/

namespace SearchQuery

/-- Why a text names no moment. -/
inductive RelativeError where
  /-- The text does not start with `@`. -/
  | notRelative
  | noAmount (found : Option String)
  | unknownUnit (word : String)
  | unknownAnchor (word : String)
  | missingDirection
  | unexpected (word : String)
  /-- The calendar does not reach that far. -/
  | outOfRange
deriving DecidableEq

/-- An optional word as messages show it. -/
def shownWord? : Option String → String
  | some word => "Some(" ++ Text.shown word ++ ")"
  | none => "None"

/-- The error as it is reported. -/
def RelativeError.message : RelativeError → String
  | .notRelative => "keyword datetimes start with `@`"
  | .noAmount found => "expected an amount, found " ++ shownWord? found
  | .unknownUnit word => "`" ++ word ++ "` is not a duration unit"
  | .unknownAnchor word => "`" ++ word ++ "` is not a recognized anchor"
  | .missingDirection => "expected `ago`, `later`, `from`, `to` or `till` after the duration"
  | .unexpected word => "unexpected `" ++ word ++ "` at end of expression"
  | .outOfRange => "shift moves the date out of range"

/-- A unit of duration. -/
inductive DurationUnit where
  | second | minute | hour | day | week | month | year | decade | century | millennium
deriving DecidableEq

namespace DurationUnit

/-- The unit that a word names, in the singular or the plural. -/
def ofWord? (word : String) : Option DurationUnit :=
  if word = "second" || word = "seconds" then some .second
  else if word = "minute" || word = "minutes" then some .minute
  else if word = "hour" || word = "hours" then some .hour
  else if word = "day" || word = "days" then some .day
  else if word = "week" || word = "weeks" then some .week
  else if word = "month" || word = "months" then some .month
  else if word = "year" || word = "years" then some .year
  else if word = "decade" || word = "decades" then some .decade
  else if word = "century" || word = "centuries" then some .century
  else if word = "millennium" || word = "millennia" || word = "millenniums" then some .millennium
  else none

/-- The unit reads its word, or the word is reported. -/
def read (word : String) : Except RelativeError DurationUnit :=
  (ofWord? word).elim (.error (.unknownUnit word)) .ok

end DurationUnit

/-- A length of time: months differ in length, seconds do not. -/
inductive Span where
  | seconds (n : Nat)
  | months (n : Nat)
deriving DecidableEq

/-- The length of one unit. -/
def DurationUnit.span : DurationUnit → Span
  | .second => .seconds 1
  | .minute => .seconds 60
  | .hour => .seconds 3600
  | .day => .seconds 86400
  | .week => .seconds 604800
  | .month => .months 1
  | .year => .months 12
  | .decade => .months 120
  | .century => .months 1200
  | .millennium => .months 12000

/-- An amount of a unit. -/
structure Shift where
  amount : Nat
  unit : DurationUnit
deriving DecidableEq

/-- The way to move in time. -/
inductive Direction where
  | forwards | backwards
deriving DecidableEq

/-- The direction as a factor. -/
def Direction.sign : Direction → Int
  | .forwards => 1
  | .backwards => -1

/-- A moment known without any amount. -/
inductive Anchor where
  | now | today | yesterday | tomorrow
deriving DecidableEq

/-- The anchor that a word names. -/
def Anchor.ofWord? (word : String) : Option Anchor :=
  if word = "now" then some .now
  else if word = "today" then some .today
  else if word = "yesterday" then some .yesterday
  else if word = "tomorrow" then some .tomorrow
  else none

/-- The anchor reads its word, or the word is reported. -/
def Anchor.read (word : String) : Except RelativeError Anchor :=
  (ofWord? word).elim (.error (.unknownAnchor word)) .ok

/-- A moment some shifts away from an anchor. -/
structure Relative where
  base : Anchor
  direction : Direction
  shifts : List Shift
deriving DecidableEq

namespace Relative

/-! ## Reading -/

/-- The direction that the first word of an expression gives. -/
def direction? (word : String) : Option Direction :=
  if word = "next" then some .forwards
  else if word = "last" || word = "prev" || word = "previous" then some .backwards
  else none

/-- Reads an amount: an article or a count. -/
def readAmount (word : String) : Except RelativeError Nat :=
  if word = "a" || word = "an" then .ok 1
  else (Number.readUInt32? word).elim (.error (.noAmount (some word))) .ok

/-- Reads an amount and its unit. -/
def readShift (amount unit : String) : Except RelativeError Shift := do
  return ⟨← readAmount amount, ← DurationUnit.read unit⟩

/-- Reads shifts as long as they are joined by `and`. -/
def readShifts : List String → Except RelativeError (List Shift × List String)
  | [] => .error (.noAmount none)
  | [amount] => do
    let _ ← readAmount amount
    .error (.unknownUnit "")
  | amount :: unit :: rest => do
    let shift ← readShift amount unit
    match rest with
    | [] => return ([shift], [])
    | word :: tail =>
      if word = "and" then
        let (shifts, rest) ← readShifts tail
        return (shift :: shifts, rest)
      else return ([shift], word :: tail)

/-- The direction of a word that may end an expression, and whether an anchor may follow it. -/
def ending? (word : String) : Option (Direction × Bool) :=
  if word = "ago" then some (.backwards, false)
  else if word = "later" then some (.forwards, false)
  else if word = "from" then some (.forwards, true)
  else if word = "to" || word = "till" then some (.backwards, true)
  else none

/-- Reads what follows the shifts: a direction and perhaps an anchor. -/
def readEnding : List String → Except RelativeError (Anchor × Direction)
  | [] => .error .missingDirection
  | word :: rest =>
    match ending? word, rest with
    | none, _ => .error (.unexpected word)
    | some (direction, _), [] => .ok (.now, direction)
    | some (direction, true), [base] => do return (← Anchor.read base, direction)
    | some _, next :: rest => .error (.unexpected (rest.getLast?.getD next))

/-- Reads a single step: a unit, or an amount and a unit, and nothing else. -/
def readStep : List String → Except RelativeError Shift
  | [] => .error (.noAmount none)
  | [unit] => do return ⟨1, ← DurationUnit.read unit⟩
  | [amount, unit] => readShift amount unit
  | amount :: unit :: extra :: _ => do
    let _ ← readShift amount unit
    .error (.unexpected extra)

/-- Reads the words of an expression. -/
def readWords : List String → Except RelativeError Relative
  | [] => .error (.noAmount none)
  | [word] => do return ⟨← Anchor.read word, .forwards, []⟩
  | first :: rest =>
    match direction? first with
    | some direction => do return ⟨.now, direction, [← readStep rest]⟩
    | none => do
      let (shifts, rest) ← readShifts (first :: rest)
      let (base, direction) ← readEnding rest
      return ⟨base, direction, shifts⟩

/-- The words of an expression without its `@`: lower-case text cut at hyphens. -/
def words (body : List Char) : List String :=
  (((Text.lowerFrom [] body).splitOn '-').filter fun w => !w.isEmpty).map String.ofList

/-- Reads an expression. -/
def read (text : String) : Except RelativeError Relative :=
  match text.toList with
  | '@' :: body => readWords (words body)
  | _ => .error .notRelative

/-! ## Placing in time -/

/-- The moment of an anchor. -/
def anchorAt? (now : DateTime) : Anchor → Option DateTime
  | .now => some now
  | .today => some now.startOfDay
  | .yesterday => now.startOfDay.addSeconds? (-86400)
  | .tomorrow => now.startOfDay.addSeconds? 86400

/-- The moment one shift away. -/
def move? (direction : Direction) (t : DateTime) (shift : Shift) : Option DateTime :=
  match shift.unit.span with
  | .seconds n => t.addSeconds? (direction.sign * (shift.amount * n : Nat))
  | .months n => t.addMonths? (direction.sign * (shift.amount * n : Nat))

/-- The moment that a relative moment is at a given time. -/
def at? (r : Relative) (now : DateTime) : Option DateTime :=
  (anchorAt? now r.base).bind fun base => r.shifts.foldlM (move? r.direction) base

/-- Reads an expression and places it in time. -/
def resolve (text : String) (now : DateTime) : Except RelativeError DateTime := do
  let r ← read text
  (r.at? now).elim (.error .outOfRange) .ok

end Relative

end SearchQuery
