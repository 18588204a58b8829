import OffchainSeal.Command.Help
import OffchainSeal.Command.Run
import OffchainSeal.Report.Timestamp
import Std.Time.DateTime.Timestamp

/-!
# The command line

Runs the command line on the real system.
-/

namespace OffchainSeal.Main

/-- The number of an error of the system, which may come negated. -/
def errorNumber (code : UInt32) : UInt32 :=
  if 0x80000000 ≤ code then 0 - code else code

/-- A refusal of the system as a fault of a file. -/
def faultOf : IO.Error → FileFault
  | .noFileOrDirectory .. => .notFound
  | .permissionDenied .. => .other "Permission denied (os error 13)"
  | .inappropriateType _ code details =>
    match errorNumber code with
    | 20 => .notDirectory
    | 21 => .isDirectory
    | _ => .other details
  | e => .other (toString e)

/-- The result of an action that the system may refuse. -/
def attempt {α : Type} (action : IO α) : IO (Except FileFault α) := do
  try return .ok (← action) catch e => return .error (faultOf e)

/-- All bytes of a stream, after those read before. -/
partial def drain (stream : IO.FS.Stream) (before : ByteArray) : IO ByteArray := do
  let more ← stream.read 65536
  if more.isEmpty then return before else drain stream (before ++ more)

/-- The bytes of the file at a path. -/
def bytesAt (path : String) : IO (Except FileFault Bytes) :=
  attempt do return (← IO.FS.readBinFile path).toList

/-- A path leads to a file or a directory. -/
def holds (path : String) : IO Bool := do
  match ← bytesAt path with
  | .error .notFound | .error .notDirectory => return false
  | _ => return true

/-- A new private key: random bytes until they are in range. -/
partial def newKey : IO PrivateKey := do
  match PrivateKey.ofBytes (← IO.getRandomBytes 32).toList with
  | .ok key => return key
  | .error _ => newKey

/-- A new initial vector. -/
def newVector : IO (Option Cipher.Block) := do
  match ← attempt (IO.getRandomBytes 16) with
  | .ok bytes => return some (Bytes.toVector 16 bytes.toList)
  | .error _ => return none

/-- The time. -/
def now : IO String := do
  let t := (← Std.Time.Timestamp.now).toNanosecondsSinceUnixEpoch.toInt.toNat
  return (Report.Timestamp.mk (t / 1000000000) (t % 1000000000)).render

/-- The usual place of the settings. -/
def settingsPath : IO (Option String) := do
  let folder? ← match ← IO.getEnv "XDG_CONFIG_HOME" with
    | some folder =>
      if folder.startsWith "/" then pure (some folder)
      else pure ((← IO.getEnv "HOME").map (· ++ "/.config"))
    | none => pure ((← IO.getEnv "HOME").map (· ++ "/.config"))
  return folder?.map (· ++ "/obt/config.toml")

/-- The system as the surroundings of a run. -/
def host : IO (Host IO) := do
  let settingsPath ← settingsPath
  return {
    bytesAt, holds, settingsPath, newKey, newVector, now
    inputBytes := attempt do return (← drain (← IO.getStdin) .empty).toList }

/-- Prints what a command line without a run asks for. -/
def printUsage (usage : CommandLine.Usage) : IO UInt32 := do
  if usage.code = 0 then IO.print usage.message else IO.eprint usage.message
  return usage.code.toUInt32

/-- Prints the outcome of a run. -/
def printOutcome (outcome : Outcome) : IO UInt32 := do
  IO.eprint outcome.errors
  IO.print outcome.output
  return outcome.exit.code.toUInt32

end OffchainSeal.Main

/-- Runs the arguments of the command line. -/
def main (arguments : List String) : IO UInt32 := do
  let environment ← IO.getEnv "OBT_PRIVATE_KEY"
  match ← OffchainSeal.runLine (← OffchainSeal.Main.host) environment arguments with
  | .error usage => OffchainSeal.Main.printUsage usage
  | .ok outcome => OffchainSeal.Main.printOutcome outcome
