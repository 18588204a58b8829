import OffchainSeal.Command.Line

/-!
# Help

What is printed for a command line that asks for no run.
-/

namespace OffchainSeal.CommandLine

/-- The name and the version of the program. -/
def version : String := "obt 0.1.0"

/-- The commands and options. -/
def overview : String :=
  "Encrypt and decrypt FIO off-chain transaction content\n\n" ++
  "Usage: obt [OPTIONS] <COMMAND>\n\n" ++
  "Commands:\n" ++
  "  keygen   Generate a new key pair\n" ++
  "  pubkey   Show the public key for the configured private key\n" ++
  "  secret   Derive the shared secret with a peer: --peer <PEER>\n" ++
  "  encrypt  Encrypt a JSON payload: --type <TYPE> --to <TO> [--input <INPUT>]\n" ++
  "  decrypt  Decrypt a hex envelope: --type <TYPE> --from <FROM> [ENVELOPE] [--input <INPUT>]\n\n" ++
  "Options:\n" ++
  "      --output <OUTPUT>      Output format: table, json, quiet\n" ++
  "  -v, --verbose              Verbose output\n" ++
  "      --debug                Debug logging\n" ++
  "      --config <CONFIG>      Config file path\n" ++
  "      --key <KEY>            Private key (WIF or PVT_K1_)\n" ++
  "      --key-file <KEY_FILE>  File holding the private key\n" ++
  "  -h, --help                 Print help\n" ++
  "  -V, --version              Print version\n"

/-- The wording of a wrong command line. -/
def Usage.message : Usage → String
  | displayHelp | displayHelpOnMissing => overview
  | displayVersion => version ++ "\n"
  | missingCommand => "error: a subcommand is required\n"
  | invalidCommand => "error: unrecognized subcommand\n"
  | unknownArgument => "error: unexpected argument\n"
  | argumentConflict => "error: an argument cannot be used with another one\n"
  | invalidValue => "error: a value is required\n"
  | valueValidation => "error: invalid value\n"
  | missingRequired => "error: a required argument was not provided\n"
  | tooManyValues => "error: unexpected value for a flag\n"

end OffchainSeal.CommandLine
