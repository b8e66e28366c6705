import Shipyard.Outcome.Failure

/-!
# Exit codes

A program ends with the code of the step that failed. The codes are fixed, because scripts ask for
them.
-/

namespace Shipyard

/-- How a program ends. -/
inductive ExitCode where
  /-- all is well; a bump that was requested before counts as well -/
  | ok
  /-- wrong arguments or no release event -/
  | userError
  /-- no configuration or a missing tool -/
  | environmentError
  /-- checkout or compilation -/
  | buildError
  /-- archive or checksum -/
  | packagingError
  /-- upload -/
  | publishError
  /-- the request for a bump -/
  | formulaError
  deriving DecidableEq, Repr

namespace ExitCode

/-- The number of a code. -/
def number : ExitCode → Nat
  | ok => 0
  | userError => 1
  | environmentError => 2
  | buildError => 3
  | packagingError => 4
  | publishError => 5
  | formulaError => 6

/-- The name of a code. -/
def name : ExitCode → String
  | ok => "OK"
  | userError => "USER_ERROR"
  | environmentError => "ENV_ERROR"
  | buildError => "BUILD_ERROR"
  | packagingError => "PACKAGING_ERROR"
  | publishError => "PUBLISH_ERROR"
  | formulaError => "FORMULA_ERROR"

end ExitCode

/-- The code for the error of a branch. A missing tool is a fault of the environment, not of the
build. -/
def BranchError.exitCode : BranchError → ExitCode
  | build failure => if failure.kind = .toolchainMissing then .environmentError else .buildError
  | packaging _ => .packagingError
  | publish _ => .publishError
  | crashed _ => .buildError

/-- The code for an error. -/
def ReleaseError.exitCode : ReleaseError → ExitCode
  | event _ => .userError
  | branch error => error.exitCode
  | formula _ => .formulaError

end Shipyard
