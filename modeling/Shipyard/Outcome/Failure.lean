import Shipyard.Fault
import Shipyard.Path

/-!
# Failures

How a step of a release fails. A failure is a value: it says what failed in a message for the user,
and it may carry a hint, for instance the end of what a command wrote. A branch that met a fault
instead has crashed.
-/

namespace Shipyard

/-- The trigger of a run is no release event. -/
structure UnrecognizedEvent where
  /-- what is wrong with it -/
  message : String
  /-- what would be right -/
  hint : Option String := none
  deriving DecidableEq, Repr

/-- Where a build fails. -/
inductive BuildFailure.Kind where
  | checkoutFailed
  | toolchainMissing
  | compileFailed
  | outputMissing
  deriving DecidableEq, Repr

/-- A build that failed. -/
structure BuildFailure where
  /-- the platform of the branch -/
  platform : String
  /-- where it failed -/
  kind : BuildFailure.Kind
  /-- what failed -/
  message : String
  /-- what the command or the system said -/
  hint : Option String := none
  /-- the exit code of the command -/
  code : Option Int := none
  deriving DecidableEq, Repr

/-- Where a packaging fails. -/
inductive PackagingFailure.Kind where
  | renameFailed
  | compressFailed
  | checksumFailed
  | checksumMismatch
  deriving DecidableEq, Repr

/-- A packaging, or a check of one, that failed. -/
structure PackagingFailure where
  /-- the platform of the archive -/
  platform : String
  /-- where it failed -/
  kind : PackagingFailure.Kind
  /-- what failed -/
  message : String
  /-- what the system said -/
  hint : Option String := none
  /-- the file that it is about -/
  path : Option Path := none
  deriving DecidableEq, Repr

/-- Where a publication fails. -/
inductive PublishFailure.Kind where
  | authMissing
  | uploadFailed
  | releaseLookupFailed
  | assetMissing
  deriving DecidableEq, Repr

/-- A publication that failed. -/
structure PublishFailure where
  /-- the platform of the artifact -/
  platform : String
  /-- where it failed -/
  kind : PublishFailure.Kind
  /-- what failed -/
  message : String
  /-- what the command said -/
  hint : Option String := none
  deriving DecidableEq, Repr

/-- A branch that met a fault. -/
structure BranchCrash where
  /-- the platform of the branch -/
  platform : String
  /-- the fault -/
  message : String
  /-- more about it -/
  hint : Option String := none
  deriving DecidableEq, Repr

/-- Where a bump of the formula fails. -/
inductive FormulaFailure.Kind where
  | authMissing
  | lookupFailed
  | submitFailed
  deriving DecidableEq, Repr

/-- A bump of the formula that failed. -/
structure FormulaFailure where
  /-- where it failed -/
  kind : FormulaFailure.Kind
  /-- what failed -/
  message : String
  /-- what the command said -/
  hint : Option String := none
  deriving DecidableEq, Repr

/-- Why a branch failed. -/
inductive BranchError where
  | build (failure : BuildFailure)
  | packaging (failure : PackagingFailure)
  | publish (failure : PublishFailure)
  | crashed (crash : BranchCrash)
  deriving DecidableEq, Repr

/-- The message of the error of a branch. -/
def BranchError.message : BranchError → String
  | build failure => failure.message
  | packaging failure => failure.message
  | publish failure => failure.message
  | crashed crash => crash.message

/-- The platform of the error of a branch. -/
def BranchError.platform : BranchError → String
  | build failure => failure.platform
  | packaging failure => failure.platform
  | publish failure => failure.platform
  | crashed crash => crash.platform

/-- Why a release, or a part of it, failed. -/
inductive ReleaseError where
  | event (rejected : UnrecognizedEvent)
  | branch (error : BranchError)
  | formula (failure : FormulaFailure)
  deriving DecidableEq, Repr

namespace ReleaseError

/-- The hint of an error. -/
def hint : ReleaseError → Option String
  | event rejected => rejected.hint
  | branch (.build failure) => failure.hint
  | branch (.packaging failure) => failure.hint
  | branch (.publish failure) => failure.hint
  | branch (.crashed crash) => crash.hint
  | formula failure => failure.hint

/-- The line that tells an error to the user. -/
def headline : ReleaseError → String
  | event rejected => "release event rejected: " ++ rejected.message
  | branch (.build failure) => "[" ++ failure.platform ++ "] build: " ++ failure.message
  | branch (.packaging failure) => "[" ++ failure.platform ++ "] package: " ++ failure.message
  | branch (.publish failure) => "[" ++ failure.platform ++ "] publish: " ++ failure.message
  | branch (.crashed crash) => "[" ++ crash.platform ++ "] " ++ crash.message
  | formula failure => "formula: " ++ failure.message

end ReleaseError

end Shipyard
