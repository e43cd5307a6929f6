import SearchQuery.Number.Integer
import SearchQuery.Query

/-!
# Arguments of the command line

A command line is options of the program, the name of a command, and the options and operands of
that command. The options of the program may also follow the command's name, where they count for
more. A flag stands alone and a setting takes a value: `--now T`, `--now=T`, `-i T`, `-iT` or
`-i=T`. A value that stands apart must not look like an option. Short flags may share a hyphen, and
after `--` there are operands only.

`Invocation.read` reads a whole command line.
-/

namespace SearchQuery.Command

/-- An option. -/
inductive Flag where
  | schema | now | maxDepth | input | pretty | syntaxOnly | help | version
deriving DecidableEq

namespace Flag

/-- Whether a value follows the option. -/
def takesValue : Flag → Bool
  | schema | now | maxDepth | input => true
  | pretty | syntaxOnly | help | version => false

/-- The option's name after two hyphens. -/
def longName : Flag → String
  | schema => "schema"
  | now => "now"
  | maxDepth => "max-depth"
  | input => "input"
  | pretty => "pretty"
  | syntaxOnly => "syntax-only"
  | help => "help"
  | version => "version"

/-- The option's letter after one hyphen. -/
def letter? : Flag → Option Char
  | input => some 'i'
  | pretty => some 'p'
  | help => some 'h'
  | version => some 'V'
  | schema | now | maxDepth | syntaxOnly => none

/-- Whether the option can have a value. -/
def allows (flag : Flag) (value : String) : Bool :=
  match flag with
  | schema => !value.isEmpty
  | maxDepth => (Number.readNat (UInt64.size - 1) value).toOption.isSome
  | _ => true

end Flag

/-- A command by its name. -/
inductive Verb where
  | decode | encode | check | fmt | docs | doc
deriving DecidableEq

namespace Verb

/-- The command's name. -/
def name : Verb → String
  | decode => "decode"
  | encode => "encode"
  | check => "check"
  | fmt => "fmt"
  | docs => "docs"
  | doc => "doc"

/-- Every command. -/
def all : List Verb := [.decode, .encode, .check, .fmt, .docs, .doc]

/-- The command with a given name. -/
def ofName? (name : String) : Option Verb := all.find? (·.name == name)

/-- The options that may follow the command's name. -/
def flags : Verb → List Flag
  | decode => [.schema, .now, .maxDepth, .help, .pretty]
  | check => [.schema, .now, .maxDepth, .help, .input, .pretty, .syntaxOnly]
  | encode | fmt | docs | doc => [.schema, .now, .maxDepth, .help]

/-- How many operands the command has at most. -/
def maxOperands : Verb → Nat
  | docs => 0
  | decode | encode | check | fmt | doc => 1

end Verb

/-- The options that may come before the name of a command. -/
def programFlags : List Flag := [.schema, .now, .maxDepth, .help, .version]

/-- Why a command line names no command to run. -/
inductive Refusal where
  | misuse
  /-- The text about the program is asked for. -/
  | help
  /-- The version of the program is asked for. -/
  | version
deriving DecidableEq

/-- The options and operands read so far. -/
structure Arguments where
  options : List (Flag × String)
  operands : List String

namespace Arguments

/-- Nothing read so far. -/
def empty : Arguments := ⟨[], []⟩

/-- The value of an option. -/
def get? (args : Arguments) (flag : Flag) : Option String :=
  (args.options.find? (·.1 == flag)).map (·.2)

/-- Whether a flag is given. -/
def has (args : Arguments) (flag : Flag) : Bool := (args.get? flag).isSome

/-- One more option, with its value if it takes one. No option is given twice. -/
def insert (args : Arguments) (flag : Flag) (value : String) : Except Refusal Arguments :=
  if flag = .help then .error .help
  else if flag = .version then .error .version
  else if args.has flag || !flag.allows value then .error .misuse
  else .ok { args with options := args.options ++ [(flag, value)] }

/-- One more operand, if there may be one. -/
def addOperand (limit : Nat) (args : Arguments) (operand : String) : Except Refusal Arguments :=
  if args.operands.length < limit then .ok { args with operands := args.operands ++ [operand] }
  else .error .misuse

/-- An argument by its first characters. -/
inductive Shape where
  /-- `--`: operands follow. -/
  | delimiter
  /-- `--name` or `--name=value`. -/
  | long (name : String) (value : Option String)
  /-- `-abc`. -/
  | short (letters : List Char)
  | plain

/-- The shape of an argument. A single hyphen is plain. -/
def shapeOf (arg : String) : Shape :=
  match arg.toList with
  | ['-', '-'] => .delimiter
  | '-' :: '-' :: body =>
    match body.dropWhile (· != '=') with
    | [] => .long (String.ofList body) none
    | _ :: value => .long (String.ofList (body.takeWhile (· != '='))) (some (String.ofList value))
  | '-' :: c :: rest => .short (c :: rest)
  | _ => .plain

/-- Reads the letters after a hyphen. The last one may be a setting whose value follows. -/
def readLetters (flags : List Flag) (args : Arguments) :
    List Char → Except Refusal (Arguments × Option Flag)
  | [] => .ok (args, none)
  | c :: rest =>
    match flags.find? (·.letter? == some c), rest with
    | none, _ => .error .misuse
    | some flag, rest =>
      if flag.takesValue then
        match rest with
        | [] => .ok (args, some flag)
        | '=' :: value => do return (← args.insert flag (String.ofList value), none)
        | value => do return (← args.insert flag (String.ofList value), none)
      else do readLetters flags (← args.insert flag "") rest

/-- Reads a name after two hyphens. A setting without a value takes the next argument. -/
def readLong (flags : List Flag) (args : Arguments) (name : String) (value : Option String) :
    Except Refusal (Arguments × Option Flag) :=
  match flags.find? (·.longName == name), value with
  | none, _ => .error .misuse
  | some flag, none =>
    if flag.takesValue then .ok (args, some flag) else do return (← args.insert flag "", none)
  | some flag, some value =>
    if flag.takesValue then do return (← args.insert flag value, none) else .error .misuse

/-- What an argument that is no operand does: options are added, and the last may wait for its
value. -/
def readOption (flags : List Flag) (args : Arguments) (shape : Shape) :
    Except Refusal (Arguments × Option Flag) :=
  match shape with
  | .long name value => readLong flags args name value
  | .short letters => readLetters flags args letters
  | .delimiter | .plain => .error .misuse

/-- The value that an option waits for. -/
def takeValue (args : Arguments) (flag : Flag) (arg : String) : Except Refusal Arguments :=
  match shapeOf arg with
  | .plain => args.insert flag arg
  | _ => .error .misuse

/-- Reads the arguments of a command, where an option may wait for its value. -/
def readRest (verb : Verb) (args : Arguments) (waiting : Option Flag) :
    List String → Except Refusal Arguments
  | [] => if waiting.isSome then .error .misuse else .ok args
  | arg :: rest =>
    match waiting, shapeOf arg with
    | some flag, _ => do readRest verb (← args.takeValue flag arg) none rest
    | none, .plain => do readRest verb (← args.addOperand verb.maxOperands arg) none rest
    | none, .delimiter => rest.foldlM (addOperand verb.maxOperands) args
    | none, shape => do
      let (args, waiting) ← readOption verb.flags args shape
      readRest verb args waiting rest

end Arguments

/-- What a command line asks for. -/
inductive Request where
  | decode (query : String) (pretty : Bool)
  | encode (input : Option String)
  | check (query : String) (input : Option String) (pretty syntaxOnly : Bool)
  | fmt (query : String)
  | docs
  | doc (category : String)

/-- A request with the settings of the program. -/
structure Invocation where
  /-- The file that holds the schema. -/
  schema : Option String
  now : Option String
  limit : Nat
  request : Request

/-- The settings that the environment holds. -/
structure Settings where
  schema : Option String
  now : Option String

namespace Invocation

/-- The request of a command from its options and operands. -/
def requestOf (verb : Verb) (args : Arguments) : Except Refusal Request :=
  match verb, args.operands with
  | .decode, [query] => .ok (.decode query (args.has .pretty))
  | .encode, operands => .ok (.encode operands.head?)
  | .check, [query] =>
    .ok (.check query (args.get? .input) (args.has .pretty) (args.has .syntaxOnly))
  | .fmt, [query] => .ok (.fmt query)
  | .docs, _ => .ok .docs
  | .doc, [category] => .ok (.doc category)
  | _, _ => .error .misuse

/-- A setting of the environment holds where the options do not give it. It is looked at before and
after the name of the command, and must be one that the option could have. -/
def setting (flag : Flag) (environment : Option String) (before after : Arguments) :
    Except Refusal (Option String) :=
  match environment with
  | none => .ok (after.get? flag <|> before.get? flag)
  | some value =>
    if flag.allows value || (before.has flag && after.has flag) then
      .ok (after.get? flag <|> before.get? flag <|> some value)
    else .error .misuse

/-- The depth to which a query may nest. -/
def limitOf (before after : Arguments) : Nat :=
  let given := after.get? .maxDepth <|> before.get? .maxDepth
  (given.bind fun value => (Number.readNat (UInt64.size - 1) value).toOption).getD Query.defaultLimit

/-- The invocation of a command with its arguments, after the options before its name. -/
def ofVerb (settings : Settings) (before : Arguments) (verb : Verb) (rest : List String) :
    Except Refusal Invocation := do
  let after ← Arguments.empty.readRest verb none rest
  let schema ← setting .schema settings.schema before after
  let now ← setting .now settings.now before after
  return ⟨schema, now, limitOf before after, ← requestOf verb after⟩

/-- Asking for help, perhaps on a command. -/
def helpOn : List String → Refusal
  | [] => .help
  | [name] => if name = "help" || (Verb.ofName? name).isSome then .help else .misuse
  | _ => .misuse

/-- Reads the options before the name of the command, where an option may wait for its value, and
then what follows the name. -/
def readFrom (settings : Settings) (before : Arguments) (waiting : Option Flag) :
    List String → Except Refusal Invocation
  | [] => .error .misuse
  | arg :: rest =>
    match waiting, Verb.ofName? arg, Arguments.shapeOf arg with
    | some flag, _, _ => do readFrom settings (← before.takeValue flag arg) none rest
    | none, some verb, _ => ofVerb settings before verb rest
    | none, none, .plain => .error (if arg = "help" then helpOn rest else .misuse)
    | none, none, shape => do
      let (before, waiting) ← Arguments.readOption programFlags before shape
      readFrom settings before waiting rest

/-- Reads a command line. -/
def read (settings : Settings) (args : List String) : Except Refusal Invocation :=
  readFrom settings .empty none args

end Invocation

end SearchQuery.Command
