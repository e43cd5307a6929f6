import SearchQuery.Command.Arguments
import SearchQuery.Command.Check
import SearchQuery.Command.Convert
import SearchQuery.Json.Printer

/-!
# Running a command line

What a command line writes and the code with which it ends: 0 if it succeeds, 1 if the command
fails, 2 if the command line is none. What it needs of the world comes from a `Host`, in the order
in which it is needed.
-/

namespace SearchQuery.Command

/-- What a command may ask of the world. A text that cannot be read has a reason instead. -/
structure Host (m : Type → Type) where
  readFile : String → m (Except String String)
  /-- The standard input, if it is not a terminal. -/
  readInput : m (Option (Except String String))
  now : m DateTime

/-- How a command line ends, and what it writes. -/
structure Outcome where
  code : Nat
  stdout : String
  stderr : String

namespace Outcome

/-- What a command gives back: text to write, or an error to report. -/
def ofResult : Except CommandError String → Outcome
  | .ok text => ⟨0, text, ""⟩
  | .error e => ⟨1, "", e.message ++ "\n"⟩

/-- How the program is called. -/
def usage : String :=
  "Usage: sift [--schema FILE] [--now TIME] [--max-depth N] COMMAND\n\n" ++
    "Commands: " ++ ", ".intercalate (Verb.all.map Verb.name) ++ "\n"

/-- What a command line that names no command gives back. -/
def ofRefusal : Refusal → Outcome
  | .misuse => ⟨2, "", usage⟩
  | .help => ⟨0, usage, ""⟩
  | .version => ⟨0, "sift 0.1.0\n", ""⟩

end Outcome

/-- A text and the end of its line. -/
def line (text : String) : String := text ++ "\n"

/-- JSON as it is printed, with a line for each part or in a single one. -/
def jsonLine (pretty : Bool) (json : Json) : String :=
  line (if pretty then json.indentedText else json.text)

/-- What a check writes. -/
def CheckResult.written (pretty : Bool) : CheckResult → String
  | .valid => line "Syntax is valid"
  | .output json => jsonLine pretty json

/-- What a read text is to a command. -/
def readable (text : Except String String) : Except CommandError String := text.mapError .unreadable

section Run

variable {m : Type → Type} [Monad m] (host : Host m)

/-- The given input, or else the standard one. -/
def inputOf (given : Option String) : ExceptT CommandError m (Option String) :=
  match given with
  | some text => return some text
  | none => do
    match ← host.readInput with
    | some text => return some (← readable text)
    | none => return none

/-- The schema in a file. -/
def schemaOf (path : Option String) : ExceptT CommandError m (Option Schema) :=
  match path with
  | some path => do
    let text ← readable (← host.readFile path)
    return some (← (Schema.read text).mapError CommandError.schema)
  | none => return none

/-- The given moment, or else the present one. -/
def nowOf (given : Option String) : ExceptT CommandError m DateTime :=
  match given with
  | some raw => readNow raw
  | none => host.now

/-- Runs a request. -/
def runRequest (invocation : Invocation) : ExceptT CommandError m String :=
  match invocation.request with
  | .decode query pretty => do
    return jsonLine pretty (← decode invocation.limit query)
  | .encode input => do
    match ← inputOf host input with
    | some text => return line (← encode text)
    | none => throw .noInput
  | .check query input pretty syntaxOnly => do
    let schema ← schemaOf host invocation.schema
    let now ← nowOf host invocation.now
    let input ← if syntaxOnly then pure input else inputOf host input
    let result ← check ⟨schema, now, invocation.limit, syntaxOnly⟩ query input
    return result.written pretty
  | .fmt query => do return line (← format invocation.limit query)
  | .docs => return Manual.overview
  | .doc category => do return (← manualPage category)

/-- Runs a command line. -/
def run (settings : Settings) (args : List String) : m Outcome :=
  match Invocation.read settings args with
  | .error refusal => return .ofRefusal refusal
  | .ok invocation => return .ofResult (← (runRequest host invocation).run)

end Run

end SearchQuery.Command
