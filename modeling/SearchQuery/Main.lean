import SearchQuery.Command.Run
import Std.Time.DateTime.Timestamp

/-!
# The program

Hands the command line to `Command.run` and writes what it gives back.
-/

namespace SearchQuery.Program

open Command

/-- The text of a stream of bytes. -/
def decodeBytes (bytes : ByteArray) : Except String String :=
  match String.fromUTF8? bytes with
  | some text => .ok text
  | none => .error "stream did not contain valid UTF-8"

/-- Reads a stream to its end. -/
partial def readStream (stream : IO.FS.Stream) (before : ByteArray) : IO ByteArray := do
  let bytes ← stream.read 65536
  if bytes.isEmpty then return before else readStream stream (before ++ bytes)

/-- The text that an action reads, or why it does not. -/
def attempt (action : IO ByteArray) : IO (Except String String) := do
  match ← action.toBaseIO with
  | .ok bytes => return decodeBytes bytes
  | .error e => return .error (toString e)

/-- The present moment, to the second. -/
def presentMoment : IO DateTime := do
  let seconds := (← Std.Time.Timestamp.now).toSecondsSinceUnixEpoch.val
  let epoch := (Date.ofYmd? 1970 1 1).map fun date => (⟨date, .midnight⟩ : DateTime)
  match epoch.bind fun epoch => epoch.addSeconds? seconds with
  | some now => return now
  | none => throw (IO.userError "the clock is beyond the calendar")

/-- The machine that the program runs on. -/
def machine : Host IO where
  readFile path := attempt (IO.FS.readBinFile path)
  readInput := do
    let stdin ← IO.getStdin
    if ← stdin.isTty then return none
    return some (← attempt (readStream stdin .empty))
  now := presentMoment

/-- The settings that the environment holds. -/
def settings : IO Settings := do
  return ⟨← IO.getEnv "SIFT_SCHEMA", ← IO.getEnv "SIFT_NOW"⟩

end SearchQuery.Program

/-- Runs the program. -/
def main (args : List String) : IO UInt32 := do
  let outcome ← SearchQuery.Command.run SearchQuery.Program.machine
    (← SearchQuery.Program.settings) args
  IO.print outcome.stdout
  IO.eprint outcome.stderr
  return outcome.code.toUInt32
