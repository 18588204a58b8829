import OffchainSeal.Command.Basic

/-!
# Command lines

The arguments of a run. Options may stand before and after the name of the
command; those of all commands may be given on either side, once each. A value
follows its option as the next argument or after an equals sign. After two
dashes nothing is an option any more. The arguments of the command are settled
before those in front of it.
-/

namespace OffchainSeal.CommandLine

/-- Why a command line asks for no run: it asks for help, or it is wrong. -/
inductive Usage where
  | displayHelp
  | displayVersion
  /-- There is no argument at all. -/
  | displayHelpOnMissing
  | missingCommand
  | invalidCommand
  | unknownArgument
  | argumentConflict
  /-- An option has no value, or an empty one where a path is needed. -/
  | invalidValue
  /-- A value names no format or no kind of content. -/
  | valueValidation
  | missingRequired
  /-- A switch has a value. -/
  | tooManyValues
  deriving DecidableEq, Repr

/-- The exit code for a command line that asks for no run. -/
def Usage.code : Usage → Nat
  | displayHelp | displayVersion => 0
  | _ => 2

/-! ## Names -/

/-- The names of commands. -/
inductive Verb where
  | keygen
  | pubkey
  | secret
  | encrypt
  | decrypt
  deriving DecidableEq, Repr

/-- The command of a name. -/
def Verb.ofString? : String → Option Verb
  | "keygen" => some keygen
  | "pubkey" => some pubkey
  | "secret" => some secret
  | "encrypt" => some encrypt
  | "decrypt" => some decrypt
  | _ => none

/-- A word names a command or asks for help on one. -/
def isCommandWord (word : String) : Bool :=
  word = "help" || (Verb.ofString? word).isSome

/-- The arguments that are values. -/
inductive Slot where
  | output
  | config
  | key
  | keyFile
  | peer
  | kind
  | recipient
  | sender
  | input
  | envelope
  deriving DecidableEq, Repr

/-- The options without a value. -/
inductive Switch where
  | verbose
  | debug
  | help
  | version
  deriving DecidableEq, Repr

/-- Where an argument stands: in front of the command, or behind it. -/
inductive Level where
  | top
  | under (verb : Verb)
  deriving DecidableEq, Repr

/-- The option with a value of a long name. -/
def Level.slot? (level : Level) (name : String) : Option Slot :=
  match name, level with
  | "output", _ => some .output
  | "config", _ => some .config
  | "key", _ => some .key
  | "key-file", _ => some .keyFile
  | "peer", .under .secret => some .peer
  | "type", .under .encrypt | "type", .under .decrypt => some .kind
  | "to", .under .encrypt => some .recipient
  | "from", .under .decrypt => some .sender
  | "input", .under .encrypt | "input", .under .decrypt => some .input
  | _, _ => none

/-- The switch of a long name. -/
def Level.switch? (level : Level) (name : String) : Option Switch :=
  match name, level with
  | "verbose", _ => some .verbose
  | "debug", _ => some .debug
  | "help", _ => some .help
  | "version", .top => some .version
  | _, _ => none

/-- The switch of a letter. -/
def Level.shortSwitch? (level : Level) (letter : Char) : Option Switch :=
  match letter, level with
  | 'v', _ => some .verbose
  | 'h', _ => some .help
  | 'V', .top => some .version
  | _, _ => none

/-! ## Values -/

/-- The arguments of one level. -/
structure Given where
  format : Option Report.Format
  verbose : Bool
  debug : Bool
  config : Option String
  key : Option String
  keyFile : Option String
  peer : Option String
  kind : Option Content.Kind
  recipient : Option String
  sender : Option String
  input : Option String
  envelope : Option String
  deriving DecidableEq, Repr

/-- No arguments. -/
def Given.nothing : Given :=
  ⟨none, false, false, none, none, none, none, none, none, none, none, none⟩

/-- A value that is given for the first time. -/
def once {α : Type} (old : Option α) (new : Except Usage α) : Except Usage (Option α) :=
  if old.isSome then .error .argumentConflict else new.map some

/-- A path, which is not empty. -/
def path (value : String) : Except Usage String :=
  if value = "" then .error .invalidValue else .ok value

/-- A value that has to be a name of something. -/
def named {ε α : Type} (value : Except ε α) : Except Usage α :=
  value.mapError fun _ => .valueValidation

/-- Adds a value. -/
def Given.put (g : Given) (slot : Slot) (v : String) : Except Usage Given := do
  match slot with
  | .output => return { g with format := ← once g.format (named (Report.Format.ofString v)) }
  | .config => return { g with config := ← once g.config (path v) }
  | .key => return { g with key := ← once g.key (.ok v) }
  | .keyFile => return { g with keyFile := ← once g.keyFile (path v) }
  | .peer => return { g with peer := ← once g.peer (.ok v) }
  | .kind => return { g with kind := ← once g.kind (named (Content.Kind.ofString v)) }
  | .recipient => return { g with recipient := ← once g.recipient (.ok v) }
  | .sender => return { g with sender := ← once g.sender (.ok v) }
  | .input => return { g with input := ← once g.input (path v) }
  | .envelope => return { g with envelope := ← once g.envelope (.ok v) }

/-- Adds a switch. -/
def Given.flip (g : Given) (switch : Switch) : Except Usage Given :=
  match switch with
  | .verbose => if g.verbose then .error .argumentConflict else .ok { g with verbose := true }
  | .debug => if g.debug then .error .argumentConflict else .ok { g with debug := true }
  | .help => .error .displayHelp
  | .version => .error .displayVersion

/-! ## Reading -/

/-- An argument by its looks. -/
inductive Word where
  /-- Two dashes alone. -/
  | terminator
  | long (name : String) (value : Option String)
  | letters (letters : List Char)
  | plain

/-- The name and the value of a long option. -/
def splitLong (s : List Char) : Word :=
  let name := s.takeWhile (· ≠ '=')
  match s.drop name.length with
  | _ :: value => .long (String.ofList name) (some (String.ofList value))
  | [] => .long (String.ofList name) none

/-- The looks of an argument. -/
def Word.ofString (argument : String) : Word :=
  match argument.toList with
  | ['-', '-'] => .terminator
  | '-' :: '-' :: s => splitLong s
  | '-' :: c :: s => .letters (c :: s)
  | _ => .plain

/-- The arguments read so far. The last value, or the last option that waits for one,
is not looked at before the next argument calls for it. -/
structure Progress where
  given : Given
  pending : Option (Slot × Option String)

/-- Nothing read. -/
def Progress.start : Progress := ⟨.nothing, none⟩

namespace Progress

/-- The last option waits for its value. -/
def waits (p : Progress) : Bool :=
  match p.pending with
  | some (_, none) => true
  | _ => false

/-- The arguments with the last value. -/
def settle (p : Progress) : Except Usage Given :=
  match p.pending with
  | none => .ok p.given
  | some (_, none) => .error .invalidValue
  | some (slot, some v) => p.given.put slot v

/-- Reads a switch. -/
def readSwitch (p : Progress) (switch : Switch) : Except Usage Progress := do
  return ⟨← (← p.settle).flip switch, none⟩

/-- Reads a long option. -/
def readLong (p : Progress) (level : Level) (name : String) (value : Option String) :
    Except Usage Progress :=
  match level.slot? name, level.switch? name, value with
  | some slot, _, some v => do return ⟨← (← p.settle).put slot v, none⟩
  | some slot, _, none => do return ⟨← p.settle, some (slot, none)⟩
  | none, some _, some _ => .error .tooManyValues
  | none, some switch, none => p.readSwitch switch
  | none, none, _ => .error .unknownArgument

/-- Reads letters behind a single dash. -/
def readLetters (level : Level) : Progress → List Char → Except Usage Progress
  | p, [] => .ok p
  | p, c :: cs => do
    match level.shortSwitch? c with
    | none => throw .unknownArgument
    | some switch => readLetters level (← p.readSwitch switch) cs

/-- There is an envelope among the arguments. -/
def hasEnvelope (p : Progress) : Bool :=
  p.given.envelope.isSome || p.pending.any (·.1 = .envelope)

/-- Reads an argument that is neither an option nor the value of one. -/
def readOperand (p : Progress) (level : Level) (terminated : Bool) (argument : String) :
    Except Usage Progress :=
  match level with
  | .top =>
    if terminated && isCommandWord argument then .error .unknownArgument
    else .error .invalidCommand
  | .under .decrypt =>
    if p.hasEnvelope then .error .unknownArgument
    else do return ⟨← p.settle, some (.envelope, some argument)⟩
  | .under _ => .error .unknownArgument

/-- Reads an argument with no special look. -/
def readPlain (p : Progress) (level : Level) (argument : String) : Except Usage Progress :=
  match p.pending with
  | some (slot, none) => .ok { p with pending := some (slot, some argument) }
  | _ => p.readOperand level false argument

/-- Reads the arguments of a level; at the top, up to a word that names a command or
asks for help. The result has the arguments from that word on. -/
def readAll (level : Level) (terminated : Bool) (p : Progress) :
    List String → Except Usage (Progress × List String)
  | [] => .ok (p, [])
  | a :: rest =>
    if terminated then do readAll level true (← p.readOperand level true a) rest
    else if level = .top && !p.waits && isCommandWord a then .ok (p, a :: rest)
    else
      match Word.ofString a with
      | .terminator => readAll level true p rest
      | .long name value => do readAll level false (← p.readLong level name value) rest
      | .letters cs => do readAll level false (← readLetters level p cs) rest
      | .plain => do readAll level false (← p.readPlain level a) rest

end Progress

/-! ## Whole lines -/

/-- The key is given once, if the environment counts, and so is the envelope. -/
def Given.check (g : Given) (environment : Option String) : Except Usage Unit :=
  if (g.key.isSome || environment.isSome) && g.keyFile.isSome then .error .argumentConflict
  else if g.envelope.isSome && g.input.isSome then .error .argumentConflict
  else .ok ()

/-- A value that has to be there. -/
def required {α : Type} (value : Option α) : Except Usage α :=
  match value with
  | some v => .ok v
  | none => .error .missingRequired

/-- The command of a name with its arguments. -/
def Given.command (g : Given) : Verb → Except Usage Command
  | .keygen => .ok .keygen
  | .pubkey => .ok .pubkey
  | .secret => return .secret (← required g.peer)
  | .encrypt =>
    return .encrypt (← required g.kind) (← required g.recipient) (.ofPath g.input)
  | .decrypt => do
    let source :=
      match g.envelope with
      | some envelope => .text envelope
      | none => .input (.ofPath g.input)
    return .decrypt (← required g.kind) (← required g.sender) source

/-- The options of all commands: those behind the command go before those in front of
it, and the environment comes last. -/
def Given.options (behind front : Given) (environment : Option String) : Options where
  format := behind.format <|> front.format
  verbose := behind.verbose || front.verbose
  debug := behind.debug || front.debug
  config := behind.config <|> front.config
  key := behind.key <|> front.key <|> environment
  keyFile := behind.keyFile <|> front.keyFile

/-- What a line without a command asks for. -/
def withoutCommand (front : Given) (environment : Option String) : Usage :=
  if front = .nothing ∧ environment = none then .displayHelpOnMissing else .missingCommand

/-- What a line asks for that asks for help on the command of a name. -/
def helpAbout : List String → Usage
  | [] => .displayHelp
  | [word] => if isCommandWord word then .displayHelp else .invalidCommand
  | _ => .invalidCommand

/-- The invocation of a command. -/
def invocation (front : Progress) (verb : Verb) (arguments : List String)
    (environment : Option String) : Except Usage Invocation := do
  let (behind, _) ← Progress.readAll (.under verb) false .start arguments
  let behind ← behind.settle
  behind.check environment
  let command ← behind.command verb
  let front ← front.settle
  front.check environment
  return ⟨command, behind.options front environment⟩

/-- The invocation that a command line stands for; `environment` is a key from the
environment. -/
def parse (environment : Option String) (arguments : List String) : Except Usage Invocation := do
  let (front, rest) ← Progress.readAll .top false .start arguments
  match rest with
  | [] => throw (withoutCommand (← front.settle) environment)
  | word :: rest =>
    match Verb.ofString? word with
    | none => throw (helpAbout rest)
    | some verb => invocation front verb rest environment

end OffchainSeal.CommandLine
