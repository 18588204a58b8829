import OffchainSeal.Exit
import OffchainSeal.Json.Value
import OffchainSeal.Report.Format
import OffchainSeal.Settings.Basic

/-!
# Trouble

Why a run ended early: a cause, and what the run was doing at the time. Both
make up a chain of errors, the outermost first, and the exit is looked for along
that chain.
-/

namespace OffchainSeal

/-! ## Chains of errors -/

/-- An error, without what lies behind it. -/
inductive Link where
  | failure (failure : Failure)
  /-- A fault of the settings; of a malformed text, `detail` is the reader's wording. -/
  | settings (fault : Settings.Fault) (detail : String)
  /-- An error of any other type, by its wording. -/
  | other (wording : String)
  deriving DecidableEq, Repr

namespace Link

/-- The wording of an error. -/
def message : Link → String
  | failure f => f.message
  | settings .malformed detail => s!"{Settings.Fault.malformed.message}: {detail}"
  | settings fault _ => fault.message
  | other wording => wording

/-- The exit for an error, if its type is one that exits are told by. -/
def exit? : Link → Option Exit
  | failure f => some (.ofFailure f)
  | settings .. => some .configurationError
  | other _ => none

end Link

/-- The exit for a chain of errors: that of the first one that has an exit. -/
def Exit.ofChain : List Link → Exit
  | [] => .generalError
  | link :: behind =>
    match link.exit? with
    | some exit => exit
    | none => ofChain behind

/-! ## Causes -/

/-- What lies behind a fault of the settings. -/
def Settings.Fault.source? (detail : String) : Settings.Fault → Option String
  | .unreadable fault => some fault.message
  | .malformed => some detail
  | .badFormat _ | .badLevel _ | .twoKeys => none

/-- The cause that ends a run. -/
inductive Cause where
  | failure (failure : Failure)
  /-- A fault of the settings; of a malformed text, `detail` is the reader's wording. -/
  | settings (fault : Settings.Fault) (detail : String)
  | file (fault : FileFault)
  /-- Any other cause, in words. -/
  | other (text : String)
  deriving DecidableEq, Repr

/-- The error that a cause is, and what lies behind it. -/
def Cause.chain : Cause → List Link
  | failure f => [.failure f]
  | settings fault detail => .settings fault detail :: (fault.source? detail).toList.map .other
  | file fault => [.other fault.message]
  | other text => [.other text]

/-! ## Trouble -/

/-- A cause, and what the run was doing, the outermost first. -/
structure Trouble where
  contexts : List String
  cause : Cause
  deriving DecidableEq, Repr

namespace Trouble

/-- Trouble without a context. -/
def ofCause (cause : Cause) : Trouble := ⟨[], cause⟩

/-- A failure without a context. -/
def ofFailure (f : Failure) : Trouble := ofCause (.failure f)

/-- Trouble while the run was doing something more. -/
def within (context : String) (t : Trouble) : Trouble :=
  { t with contexts := context :: t.contexts }

/-- What the run was doing, each as an error around the next, and the cause. -/
def chain (t : Trouble) : List Link :=
  t.contexts.map .other ++ t.cause.chain

/-- The wordings of the chain in one line. -/
def message (t : Trouble) : String :=
  ": ".intercalate (t.chain.map Link.message)

/-- The exit of the run. -/
def exit (t : Trouble) : Exit := .ofChain t.chain

/-- The document of a run that ended early at a time, its members sorted. -/
def document (time : String) (t : Trouble) : Json.Value :=
  .object
    [("error", .text t.message), ("exit_code", .number t.exit.code),
      ("exit_code_name", .text t.exit.name), ("success", .boolean false),
      ("timestamp", .text time)]

/-- The text of a run that ended early at a time. -/
def render (format : Report.Format) (time : String) (t : Trouble) : String :=
  match format with
  | .table => s!"Error: {t.message}"
  | .json => (t.document time).render
  | .quiet => ""

end Trouble
end OffchainSeal
