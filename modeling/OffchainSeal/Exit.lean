import OffchainSeal.Failure

/-!
# Exit codes

How a run ends, as a number for the shell, a name for programs and a
description for people.
-/

namespace OffchainSeal

/-- The ways a run ends. -/
inductive Exit where
  | success
  | generalError
  | authenticationFailed
  | invalidKey
  | invalidEnvelope
  | invalidInput
  | configurationError
  deriving DecidableEq, Repr

namespace Exit

/-- The number of the exit. -/
def code : Exit → Nat
  | success => 0
  | generalError => 1
  | authenticationFailed => 2
  | invalidKey => 3
  | invalidEnvelope => 4
  | invalidInput => 5
  | configurationError => 6

/-- The name of the exit. -/
def name : Exit → String
  | success => "SUCCESS"
  | generalError => "GENERAL_ERROR"
  | authenticationFailed => "AUTH_FAILED"
  | invalidKey => "INVALID_KEY"
  | invalidEnvelope => "INVALID_ENVELOPE"
  | invalidInput => "INVALID_INPUT"
  | configurationError => "CONFIG_ERROR"

/-- What the exit means. -/
def description : Exit → String
  | success => "Operation completed successfully"
  | generalError => "An unspecified error occurred"
  | authenticationFailed => "Envelope failed authentication and was discarded"
  | invalidKey => "Key string is malformed or not a secp256k1 key"
  | invalidEnvelope => "Envelope is malformed"
  | invalidInput => "Payload does not match the requested content type"
  | configurationError => "Configuration file is invalid"

/-- The exit for a failure. -/
def ofFailure : Failure → Exit
  | .authentication => authenticationFailed
  | .keyFormat _ | .keyAgreement _ => invalidKey
  | .envelopeFormat _ | .padding .. => invalidEnvelope
  | .serialization _ => invalidInput
  | .randomSource => generalError

end Exit
end OffchainSeal
