import OffchainSeal.Host
import OffchainSeal.Sealing
import OffchainSeal.Trouble

/-!
# The own private key

The key is given by its text or by a file that holds the text.
-/

namespace OffchainSeal.Identity

variable {m : Type → Type} [Monad m]

/-- The key of a text, with what the run was doing if it is none. -/
def parseKey (context text : String) : Except Trouble PrivateKey :=
  (PrivateKey.ofString text).mapError fun fault =>
    (Trouble.ofFailure (.ofKey fault)).within context

/-- The trouble of a run without a key. -/
def noKey : Trouble :=
  .ofCause (.other
    "no private key configured: pass --key, set OBT_PRIVATE_KEY, or set identity.key_file")

/-- The key in the file at a path. -/
def loadKeyFile (host : Host m) (path : String) : ExceptT Trouble m PrivateKey := do
  match ← host.readText path with
  | .error fault => throw ((Trouble.ofCause (.file fault)).within s!"reading key file {path}")
  | .ok text => parseKey s!"parsing private key from {path}" text

/-- The own key: from its text, or else from the file. -/
def loadKey (host : Host m) (identity : Identity) : ExceptT Trouble m PrivateKey :=
  match identity.privateKey, identity.keyFile with
  | some text, _ => parseKey "parsing configured private key" text
  | none, some path => loadKeyFile host path
  | none, none => throw noKey

end OffchainSeal.Identity
