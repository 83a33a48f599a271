import Logbook.Cli.Basic
import Std.Time.DateTime.Timestamp

/-!
The program: gathers what the command line can see and prints what it answers.
-/

namespace Logbook.Main

open Cli

/-- The bytes of a file, if it can be read. -/
def contents (path : String) : IO (Option (List UInt8)) := do
  try return some (← IO.FS.readBinFile path).toList
  catch _ => return none

def inputBytes : IO (List UInt8) := do
  let input ← IO.getStdin
  let mut bytes := ByteArray.empty
  repeat
    let chunk ← input.read 65536
    if chunk.isEmpty then break
    bytes := bytes ++ chunk
  return bytes.toList

/-- The files that an action reads. -/
def namedFiles : Action → List String
  | .normalize file rules _ => file.toList ++ rules.toList
  | .query _ _ => []
  | .rules file => file.toList

def readsInput : Action → Bool
  | .normalize none _ _ => true
  | _ => false

def isColoured : IO Bool := do
  let forced ← IO.getEnv "CLICOLOR_FORCE"
  if forced.any (· != "0") then return true
  return (← IO.getEnv "NO_COLOR").isNone && (← (← IO.getStdout).isTty)

def gather (preset : Option String) (args : List String) : IO Setting := do
  let action := (readArguments preset args).toOption
  let files ← (action.elim [] namedFiles).mapM fun path => do return (path, ← contents path)
  let input ← if action.any readsInput then inputBytes else pure []
  let now ← Std.Time.Timestamp.now
  return { file? := fun path => (files.lookup path).join
           input
           rulesVariable := preset
           coloured := ← isColoured
           now := .ofMillis now.toMillisecondsSinceUnixEpoch.val }

end Logbook.Main

def main (args : List String) : IO UInt32 := do
  let setting ← Logbook.Main.gather (← IO.getEnv "LOGIFY_RULES") args
  let outcome := Logbook.Cli.run setting args
  IO.print outcome.stdout
  IO.eprint outcome.stderr
  return outcome.exit.toUInt32
