import OffchainSeal.Files
import OffchainSeal.Text.Quoted

/-!
# Settings

Where the own key comes from, the format of reports and the level of the log.
Values from the command line go before those of the file.
-/

namespace OffchainSeal

/-- Where the own private key comes from. -/
structure Identity where
  /-- The text of the key. -/
  privateKey : Option String
  /-- The path of a file that holds the text of the key. -/
  keyFile : Option String
  deriving DecidableEq, Repr

/-- The settings of a run. -/
structure Settings where
  identity : Identity
  /-- The name of the report format. -/
  format : String
  /-- The level of the log. -/
  level : String
  deriving DecidableEq, Repr

/-- The settings without a file. -/
def Settings.default : Settings where
  identity := ⟨none, none⟩
  format := "table"
  level := "warn"

namespace Settings

/-! ## Faults -/

/-- Why a file holds no settings. -/
inductive Fault where
  /-- The file cannot be read. -/
  | unreadable (fault : FileFault)
  /-- The file is no document of settings. -/
  | malformed
  /-- The format is none. -/
  | badFormat (format : String)
  /-- The level is none. -/
  | badLevel (level : String)
  /-- There are two sources of the own key. -/
  | twoKeys
  deriving DecidableEq, Repr

/-- The names of formats. -/
def formats : List String := ["table", "json", "quiet"]

/-- The levels of the log. -/
def levels : List String := ["error", "warn", "info", "debug", "trace"]

/-- Names in a message. -/
def listed (names : List String) : String :=
  "[" ++ ", ".intercalate (names.map fun n => Text.quote n.toList) ++ "]"

/-- The wording of a fault. -/
def Fault.message : Fault → String
  | .unreadable fault => s!"Failed to read config file: {fault.message}"
  | .malformed => "Failed to parse config file"
  | .badFormat format =>
    s!"Invalid configuration: Invalid output format '{format}'. Valid values: {listed formats}"
  | .badLevel level =>
    s!"Invalid configuration: Invalid log level '{level}'. Valid values: {listed levels}"
  | .twoKeys =>
    "Invalid configuration: identity.private_key and identity.key_file are mutually exclusive"

/-- The settings are consistent. -/
def check (s : Settings) : Except Fault Unit :=
  if s.format ∉ formats then .error (.badFormat s.format)
  else if s.level ∉ levels then .error (.badLevel s.level)
  else if s.identity.privateKey.isSome ∧ s.identity.keyFile.isSome then .error .twoKeys
  else .ok ()

/-! ## Values from the command line -/

/-- Values that go before those of the file. -/
structure Overrides where
  format : Option String
  privateKey : Option String
  keyFile : Option String
  verbose : Bool
  debug : Bool
  deriving DecidableEq, Repr

/-- The identity with another source of the key, if there is one: a text goes before
a file. -/
def Overrides.identity (o : Overrides) (identity : Identity) : Identity :=
  match o.privateKey, o.keyFile with
  | some key, _ => ⟨some key, none⟩
  | none, some path => ⟨none, some path⟩
  | none, none => identity

/-- The level, unless the flags ask for more. -/
def Overrides.level (o : Overrides) (level : String) : String :=
  if o.debug then "debug" else if o.verbose then "info" else level

/-- The settings with the values that go before them. -/
def override (s : Settings) (o : Overrides) : Settings where
  identity := o.identity s.identity
  format := o.format.getD s.format
  level := o.level s.level

/-! ## Reports -/

/-- An optional value in reports. -/
def describeOption : Option String → String
  | none => "None"
  | some s => s!"Some({s})"

/-- The settings in reports, without the private key. -/
def describe (s : Settings) : String :=
  let key := describeOption (s.identity.privateKey.map fun _ => "\"[REDACTED]\"")
  let file := describeOption (s.identity.keyFile.map fun p => Text.quote p.toList)
  let format := Text.quote s.format.toList
  let level := Text.quote s.level.toList
  "Config \x7b identity: IdentityConfig \x7b private_key: " ++ key ++ ", key_file: " ++ file ++
    " \x7d, output: OutputConfig \x7b format: " ++ format ++
    " \x7d, logging: LoggingConfig \x7b level: " ++ level ++ " \x7d \x7d"

end Settings
end OffchainSeal
