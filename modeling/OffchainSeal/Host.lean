import OffchainSeal.Cipher.Cbc
import OffchainSeal.Files
import OffchainSeal.Key.Private

/-!
# The world around a run

Everything that a run asks of its surroundings: files, the standard input, new
random values and the time. The answers come in a monad of the caller's, so the
same run works on a real system and on a tree in memory.
-/

namespace OffchainSeal

open Cipher

/-- The surroundings of a run. -/
structure Host (m : Type → Type) where
  /-- The bytes of the file at a path. -/
  bytesAt : String → m (Except FileFault Bytes)
  /-- A path leads to a file or a directory. -/
  holds : String → m Bool
  /-- The bytes of the standard input. -/
  inputBytes : m (Except FileFault Bytes)
  /-- Where the settings are unless told otherwise. -/
  settingsPath : Option String
  /-- A new private key. -/
  newKey : m PrivateKey
  /-- A new initial vector, unless the random source fails. -/
  newVector : m (Option Block)
  /-- The time, in the form of RFC 3339. -/
  now : m String

namespace Host

variable {m : Type → Type} [Monad m]

/-- The text of the file at a path. -/
def readText (host : Host m) (path : String) : m (Except FileFault String) := do
  return (← host.bytesAt path).bind textOfBytes

/-- The text of the standard input. -/
def readInputText (host : Host m) : m (Except FileFault String) := do
  return (← host.inputBytes).bind textOfBytes

end Host
end OffchainSeal
