import OffchainSeal.Command.Line
import OffchainSeal.Identity
import OffchainSeal.Report.Basic
import OffchainSeal.Settings.Load

/-!
# Runs

The work of each command, and a whole run: settings, own key, work, report. A
run ends at its first trouble.
-/

namespace OffchainSeal

variable {m : Type → Type} [Monad m]

/-! ## Sessions -/

/-- A part of a run: it writes lines about its progress and may end early. -/
abbrev Session (m : Type → Type) := ExceptT Trouble (StateT (List String) m)

namespace Session

/-- Writes a line about the progress. -/
def note (line : String) : Session m Unit :=
  modify (· ++ [line])

/-- A part of a run that writes nothing. -/
def quiet {α : Type} (part : ExceptT Trouble m α) : Session m α :=
  ExceptT.mk (StateT.lift part.run)

/-- Asks the host. -/
def ask {α : Type} (question : m α) : Session m α :=
  quiet (ExceptT.lift question)

/-- Ends the run at a failure. -/
def check {α : Type} (result : Except Failure α) : Session m α :=
  ofExcept (result.mapError .ofFailure)

/-- Ends the run at a failure and tells what the run was doing. -/
def checkWithin {α : Type} (context : String) (result : Except Failure α) : Session m α :=
  ofExcept (result.mapError fun f => (Trouble.ofFailure f).within context)

/-- A part that writes nothing; ends the run at its failure and tells what the run was doing. -/
def quietWithin {α : Type} (context : String) (part : ExceptT Failure m α) : Session m α :=
  quiet (ExceptT.adapt (fun f => (Trouble.ofFailure f).within context) part)

end Session

/-! ## Input -/

/-- The text of an input. -/
def Input.read (host : Host m) : Input → ExceptT Trouble m String
  | .standard => do
    match ← host.readInputText with
    | .ok text => return text
    | .error fault => throw ((Trouble.ofCause (.file fault)).within "reading stdin")
  | .file path => do
    match ← host.readText path with
    | .ok text => return text
    | .error fault => throw ((Trouble.ofCause (.file fault)).within s!"reading {path}")

/-- The text of an envelope. -/
def EnvelopeSource.read (host : Host m) : EnvelopeSource → ExceptT Trouble m String
  | .text envelope => return envelope
  | .input place => ExceptT.adapt (Trouble.within "reading envelope") (place.read host)

/-! ## The work of commands -/

/-- The texts of a public key, with those of its private key if that is shown. -/
def KeyTexts.ofKey (key : PublicKey) (shown : Option PrivateKey) : KeyTexts where
  plain := String.ofList key.toPlain
  typed := String.ofList key.toTyped
  wif := shown.map fun k => String.ofList k.toWif

/-- The key material shared with a peer. -/
def secretReport (own : PrivateKey) (peer : String) : Session m Report := do
  let key ← Session.checkWithin "decoding peer public key"
    ((PublicKey.ofString peer).mapError .ofKey)
  let secret ← Session.check (agree own key)
  return .secret (String.ofList key.toPlain) (Hex.encodeText secret.cipherKey.toList)
    (Hex.encodeText secret.tagKey.toList)

/-- Seals content. The host is asked for a vector only after the content has a binary form and
the recipient a key. -/
def sealContentFrom (host : Host m) (c : Content) (own : PrivateKey) (recipient : String) :
    ExceptT Failure m String := do
  let text ← c.toBytes.mapError Failure.ofWire
  let key ← (PublicKey.ofString recipient).mapError Failure.ofKey
  let iv? ← ExceptT.lift host.newVector
  let framed ← sealBytes own key iv? text
  return Hex.encodeText framed

/-- Seals the content in a document. -/
def sealedReport (host : Host m) (own : PrivateKey) (recipient : String) (kind : Content.Kind)
    (document : String) : Session m Report := do
  let content ← Session.check ((Content.ofJson kind document).mapError (.ofDocument kind))
  let envelope ← Session.quietWithin "encrypting content"
    (sealContentFrom host content own recipient)
  return .sealed kind envelope

/-- Opens an envelope, blanks around it aside. -/
def openedReport (own : PrivateKey) (sender : String) (kind : Content.Kind)
    (envelope : String) : Session m Report := do
  let trimmed := String.ofList (Text.trim envelope.toList)
  return .opened (← Session.checkWithin "decrypting content"
    (openContent trimmed own sender kind))

/-- Does what a command asks for. Progress is noted if `verbose` holds. -/
def Command.perform (host : Host m) (identity : Identity) (verbose : Bool) :
    Command → Session m Report
  | .keygen => do
    let key ← Session.ask host.newKey
    return .keys "keygen" (.ofKey key.publicKey (some key))
  | .pubkey => do
    let own ← Session.quiet (identity.loadKey host)
    return .keys "pubkey" (.ofKey own.publicKey none)
  | .secret peer => do
    let own ← Session.quiet (identity.loadKey host)
    secretReport own peer
  | .encrypt kind recipient input => do
    let own ← Session.quiet (identity.loadKey host)
    if verbose then Session.note s!"... encrypting {kind} for {recipient}"
    let document ← Session.quiet (input.read host)
    sealedReport host own recipient kind document
  | .decrypt kind sender source => do
    let own ← Session.quiet (identity.loadKey host)
    if verbose then Session.note s!"... decrypting {kind} from {sender}"
    let envelope ← Session.quiet (source.read host)
    openedReport own sender kind envelope

/-! ## Whole runs -/

/-- How a run ended and what it wrote. -/
structure Outcome where
  exit : Exit
  output : String
  errors : String
  deriving DecidableEq, Repr

/-- A text with a line end, unless it is empty. -/
def line (text : String) : String :=
  if text = "" then "" else text ++ "\n"

/-- The outcome of a run without settings. -/
def Outcome.ofSettingsFault (fault : Settings.Fault) : Outcome :=
  ⟨.configurationError, "", line s!"Error: {fault.message}"⟩

/-- The outcome of a run with settings. -/
def Outcome.ofResult (format : Report.Format) (time : String) (notes : List String) :
    Except Trouble Report → Outcome
  | .ok report => ⟨.success, line (report.render format time), String.join (notes.map line)⟩
  | .error trouble =>
    ⟨trouble.exit, "", String.join (notes.map line) ++ line (trouble.render format time)⟩

/-- The time of a report, which only documents have. -/
def Report.Format.time (host : Host m) : Report.Format → m String
  | .json => host.now
  | .table | .quiet => return ""

/-- Runs a command with settings that count. -/
def Invocation.runWith (host : Host m) (i : Invocation) (settings : Settings) : m Outcome := do
  let format := Report.Format.ofStringD settings.format
  let verbose := i.options.verbose && format = .table
  let (result, notes) ← (i.command.perform host settings.identity verbose).run.run []
  return .ofResult format (← format.time host) notes result

/-- Runs a command. -/
def Invocation.run (host : Host m) (i : Invocation) : m Outcome := do
  match ← Settings.loadFrom host i.options.config with
  | .error fault => return .ofSettingsFault fault
  | .ok settings => i.runWith host (settings.override i.options.overrides)

/-- Runs a command line; `environment` is a key from the environment. -/
def runLine (host : Host m) (environment : Option String) (arguments : List String) :
    m (Except CommandLine.Usage Outcome) := do
  match CommandLine.parse environment arguments with
  | .error usage => return .error usage
  | .ok invocation => return .ok (← invocation.run host)

end OffchainSeal
