/-!
# The exceptions of the inert-fixture modules

One constructor for each class that `inert_fixture.py`, `inert_launch.py` and
`inert_orchestration.py` raise, with its message.
-/

namespace Bpe.Models

inductive CgroupFailureReason where
  | unsupportedPlatform | unsupportedArchitecture | unsupportedPageSize | openat2Unavailable
  | openat2AbiIncompatible | invalidInputs | unsafeDelegate | notCgroupV2 | delegationUnverified
  | delegateBusy | controllersUnavailable | controllerStateMismatch | creationConflict
  | configurationRejected | readbackMismatch | cgroupChanged | cleanupTimeout | cleanupIncomplete
  | resourceExhausted | ioFailure

/-- The subclasses of `OSError` that are caught by name. -/
inductive OsErrorKind where
  | childProcess | processLookup | timeout | other

/-- What the host and the components raise. -/
inductive ComponentError where
  | os (kind : OsErrorKind) (errno : Option Int)
  /-- `LinuxCgroupError`, and the `errno` of the `OSError` behind it. -/
  | cgroup (reason : CgroupFailureReason) (cause : Option Int)
  /-- Any other exception, and the `errno` of the `OSError` behind it. -/
  | other (name : String) (cause : Option Int)

inductive InertError where
  /-- `InertFixtureAuthorizationError` -/
  | authorization (message : String)
  /-- `InertFixtureExpectationError` -/
  | expectation (message : String)
  /-- `InertFixtureLedgerError` -/
  | ledger (message : String)
  /-- `InertFixtureIntentAlreadyClaimed` -/
  | alreadyClaimed (message : String)
  /-- `InertFixtureLaunchAuthorizationError` -/
  | launchAuthorization (message : String)
  /-- `InertFixtureLaunchExpectationError` -/
  | launchExpectation (message : String)
  /-- `InertFixtureLaunchLedgerError` -/
  | launchLedger (message : String)
  /-- `InertFixtureLaunchAttemptAlreadyConsumed` -/
  | attemptAlreadyConsumed (message : String)
  /-- `LinuxInertFixtureOrchestrationPreflightError` -/
  | preflight (message : String)
  /-- `LinuxInertFixtureTerminalConsumptionError` -/
  | terminalConsumption (message : String)
  | component (e : ComponentError)
  /-- Any other exception that none of these modules defines. -/
  | other (name : String)

/-- The subclasses of `InertFixtureIntentError`. -/
def InertError.isIntentError : InertError → Bool
  | .authorization _ | .expectation _ | .ledger _ | .alreadyClaimed _ => true
  | _ => false

/-- What SQLite raises for an integer beyond 64 bits. -/
def InertError.overflow : InertError := .other "OverflowError"

end Bpe.Models
