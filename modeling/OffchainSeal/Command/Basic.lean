import OffchainSeal.Content.Kind
import OffchainSeal.Report.Format
import OffchainSeal.Settings.Basic

/-!
# Commands

What a run is asked to do, and the options that hold for all commands.
-/

namespace OffchainSeal

/-- Where a run takes its input from. -/
inductive Input where
  | standard
  | file (path : String)
  deriving DecidableEq, Repr

/-- The input that an optional path names. A single dash, with or without slashes
and dots after it, names the standard input. -/
def Input.ofPath : Option String → Input
  | none => .standard
  | some path =>
    match FileTree.namesOf path with
    | "-" :: rest => if rest.all (fun n => n = "" ∨ n = ".") then .standard else .file path
    | _ => .file path

/-- Where a run takes an envelope from. -/
inductive EnvelopeSource where
  | text (envelope : String)
  | input (input : Input)
  deriving DecidableEq, Repr

/-- What a run is asked to do. -/
inductive Command where
  /-- Make a key pair. -/
  | keygen
  /-- Show the own public key. -/
  | pubkey
  /-- Show the key material shared with a peer. -/
  | secret (peer : String)
  /-- Seal the content in a document. -/
  | encrypt (kind : Content.Kind) (recipient : String) (input : Input)
  /-- Open an envelope. -/
  | decrypt (kind : Content.Kind) (sender : String) (source : EnvelopeSource)
  deriving DecidableEq, Repr

/-- The options of all commands. -/
structure Options where
  format : Option Report.Format
  verbose : Bool
  debug : Bool
  /-- The path of the settings. -/
  config : Option String
  key : Option String
  keyFile : Option String
  deriving DecidableEq, Repr

/-- The values of options that go before those of the settings file. -/
def Options.overrides (o : Options) : Settings.Overrides where
  format := o.format.map (·.name)
  privateKey := o.key
  keyFile := o.keyFile
  verbose := o.verbose
  debug := o.debug

/-- A command with its options. -/
structure Invocation where
  command : Command
  options : Options
  deriving DecidableEq, Repr

end OffchainSeal
