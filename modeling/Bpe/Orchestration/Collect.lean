import Bpe.Lib.Routine
import Bpe.Orchestration.Model

/-!
# Waiting for the launcher

`_wait_launcher` and `_wait_launcher_resilient`, and what a collection of the
launcher's records observes. The loops poll without a bound; `fuel` bounds how
often the model follows them.
-/

namespace Bpe.Orchestration

open Models Native

variable {σ : Type}

/-! ## Records -/

structure CollectionObservation where
  records : List LinuxInertFixtureNativeSocketRecord
  eofObserved : Bool
  failureReason : Option OrchestrationFailureReason
  failureComponentReason : Option String
  failureErrno : Option Int
  receivedDescriptorsFinalized : Bool

/-- What `_inspect_control_ancillary` finds, besides whether the credentials are
those expected. -/
structure Sender where
  credentialsPresent : Bool := false
  pid : Option Int := none
  uid : Option Int := none
  gid : Option Int := none
  unexpectedAncillaryPresent : Bool := false

/-- `credentials_verified` -/
def Sender.verified (s : Sender) (expected : Int × Int × Int) : Bool :=
  s.credentialsPresent &&
    (s.pid, s.uid, s.gid) == (some expected.1, some expected.2.1, some expected.2.2)

/-- The records so far, and whether every received descriptor was closed. -/
structure CollectState where
  records : List LinuxInertFixtureNativeSocketRecord
  finalized : Bool

def CollectState.failed (s : CollectState) (reason : OrchestrationFailureReason)
    (componentReason : String) (errno : Option Int) : CollectionObservation :=
  ⟨s.records, false, some reason, some componentReason, errno, s.finalized⟩

def CollectState.deadlineExceeded (s : CollectState) : CollectionObservation :=
  s.failed .deadlineExceeded "fixture_deadline" none

def CollectState.eof (s : CollectState) : CollectionObservation :=
  ⟨s.records, true, none, none, none, s.finalized⟩

/-! ## Waiting for the launcher -/

inductive Call where
  | monotonicNs
  | waitpid (pid : Int)
  | kill (pid : Int)
  | sleep

/-- What a call returns, when it does not raise. -/
def Value : Call → Type
  | .monotonicNs => Int
  -- The PID and its exit code.
  | .waitpid _ => Int × Int
  | .kill _ | .sleep => Unit

abbrev Reply : Call → Type := Replies InertError Value

/-- A function with local variables `σ`. -/
abbrev Body (σ α : Type) : Type := Routine Call Reply InertError σ α

def eintr : Int := 4
def echild : Int := 10
def etimedout : Int := 110

/-- `a or b`: zero is false. -/
def errnoOr (a b : Option Int) : Option Int :=
  match a with
  | some n => if n = 0 then b else some n
  | none => b

structure WaitObservation where
  returncode : Option Int
  launcherReaped : Bool
  terminationAttempted : Bool
  terminationSignalSent : Bool
  terminationErrno : Option Int
  waitErrno : Option Int
  cleanupDeadlineNs : Int
  exitDeadlineExceeded : Bool

/-- The variables of `_wait_launcher`, and the deadline in its cleanup window. -/
structure WaitLocals where
  terminationAttempted : Bool := false
  terminationSignalSent : Bool := false
  terminationErrno : Option Int := none
  windowNs : Option Int

structure WaitArgs where
  pid : Int
  exitDeadlineNs : Int
  overallDeadlineNs : Int
  cleanupTimeoutMs : Int

/-- The end of a cleanup that begins at that time. -/
def WaitArgs.cleanupDeadline (w : WaitArgs) (now : Int) : Int :=
  min w.overallDeadlineNs (now + w.cleanupTimeoutMs * 1000000)

def ensureCleanupDeadline (w : WaitArgs) : Body WaitLocals Int := do
  let s ← Routine.get
  match s.windowNs with
  | some deadline => pure deadline
  | none =>
    let now : Int ← Routine.perform Call.monotonicNs
    Routine.assign fun s => { s with windowNs := some (w.cleanupDeadline now) }
    pure (w.cleanupDeadline now)

def signalLauncher (pid : Int) : Body σ (Bool × Option Int) := do
  match ← Routine.attempt (Routine.perform (Call.kill pid)) with
  | .ok _ => pure (true, none)
  | .error (.component (.os .processLookup _)) => pure (false, none)
  | .error (.component (.os _ errno)) => pure (false, boundedErrno errno)
  | .error e => Routine.raise e

def terminate (w : WaitArgs) : Body WaitLocals Unit := do
  let _ ← ensureCleanupDeadline w
  Routine.assign fun s => { s with terminationAttempted := true }
  let (sent, errno) ← signalLauncher w.pid
  Routine.assign fun s => { s with terminationSignalSent := sent, terminationErrno := errno }

def WaitLocals.observe (s : WaitLocals) (returncode : Option Int) (waitErrno : Option Int)
    (cleanupDeadlineNs : Int) (exceeded : Bool) : WaitObservation :=
  ⟨returncode, returncode.isSome, s.terminationAttempted, s.terminationSignalSent,
    s.terminationErrno, waitErrno, cleanupDeadlineNs, exceeded⟩

/-- A wait that ended without the launcher's status. -/
def unreaped (w : WaitArgs) (waitErrno : Option Int) : Body WaitLocals WaitObservation := do
  let deadline ← ensureCleanupDeadline w
  let now : Int ← Routine.perform Call.monotonicNs
  let s ← Routine.get
  pure (s.observe none waitErrno deadline (w.exitDeadlineNs ≤ now))

/-- A wait that returned the launcher's status. -/
def reaped (w : WaitArgs) (returncode : Int) : Body WaitLocals WaitObservation := do
  let observed : Int ← Routine.perform Call.monotonicNs
  let deadline ← ensureCleanupDeadline w
  let s ← Routine.get
  pure (s.observe (some returncode) none deadline (w.exitDeadlineNs ≤ observed))

/-- A launcher that still runs is given up at the end of its time. -/
def awaitLauncher (w : WaitArgs) (now : Int) : Body WaitLocals (Unit ⊕ WaitObservation) := do
  let s ← Routine.get
  if s.windowNs.getD (min w.exitDeadlineNs w.overallDeadlineNs) ≤ now then
    let deadline ← ensureCleanupDeadline w
    let s ← Routine.get
    pure (.inr (s.observe none (some etimedout) deadline true))
  else
    let _ ← Routine.perform Call.sleep
    pure (.inl ())

/-- One turn of `_wait_launcher` with a launcher that still runs. -/
def pollLauncher (w : WaitArgs) (terminateFirst : Bool) :
    Body WaitLocals (Unit ⊕ WaitObservation) := do
  let now : Int ← Routine.perform Call.monotonicNs
  let s ← Routine.get
  Routine.when (¬ s.terminationAttempted ∧ (terminateFirst ∨ w.exitDeadlineNs ≤ now)) (terminate w)
  awaitLauncher w now

/-- One turn of the loop of `_wait_launcher`. -/
def waitOnce (w : WaitArgs) (terminateFirst : Bool) :
    Body WaitLocals (Unit ⊕ WaitObservation) := do
  match ← Routine.attempt (Routine.perform (Call.waitpid w.pid)) with
  | .error (.component (.os .childProcess _)) => .inr <$> unreaped w (some echild)
  | .error (.component (.os _ errno)) =>
    if errno = some eintr then pure (.inl ()) else .inr <$> unreaped w (boundedErrno errno)
  | .error e => Routine.raise e
  | .ok (waited, returncode) =>
    if waited = w.pid then .inr <$> reaped w returncode
    else if waited ≠ 0 then .inr <$> unreaped w (some echild)
    else pollLauncher w terminateFirst

def waitLauncher (fuel : Nat) (w : WaitArgs) (terminateFirst : Bool) :
    Body WaitLocals WaitObservation :=
  Routine.loop fuel (fun _ => waitOnce w terminateFirst) ()

/-- `_wait_launcher` on the cleanup window in hand, with its exception as a
value. -/
def waitPass (fuel : Nat) (w : WaitArgs) (terminateFirst : Bool) :
    Body (Option Int) (Except InertError WaitObservation) := do
  let window ← Routine.get
  let (outcome, locals) ← Routine.nested (waitLauncher fuel w terminateFirst)
    { windowNs := window }
  Routine.assign fun _ => locals.windowNs
  pure outcome

/-- Both passes as one observation. -/
def WaitObservation.merge (first second : WaitObservation) : WaitObservation :=
  let sent := first.terminationSignalSent || second.terminationSignalSent
  { returncode := second.returncode
    launcherReaped := second.launcherReaped
    terminationAttempted := first.terminationAttempted || second.terminationAttempted
    terminationSignalSent := sent
    terminationErrno :=
      if sent then none else errnoOr second.terminationErrno first.terminationErrno
    waitErrno := second.waitErrno
    cleanupDeadlineNs := second.cleanupDeadlineNs
    exitDeadlineExceeded := first.exitDeadlineExceeded || second.exitDeadlineExceeded }

/-- The deadline of a second pass, where the first left none. -/
def openCleanupWindow (w : WaitArgs) (recoveryErrno : Option Int) :
    Body (Option Int) (Option Int) := do
  match ← Routine.get with
  | some _ => pure recoveryErrno
  | none =>
    match ← Routine.attempt (Routine.perform Call.monotonicNs) with
    | .ok (now : Int) =>
      Routine.assign fun _ => some (w.cleanupDeadline now)
      pure recoveryErrno
    | .error e =>
      Routine.assign fun _ => some w.overallDeadlineNs
      pure (errnoOr (exceptionErrno e) recoveryErrno)

/-- The observation of a wait, whether it took a second pass, and the errno that
led to it. -/
abbrev WaitOutcome : Type := Option WaitObservation × Bool × Option Int

/-- The second pass of `_wait_launcher_resilient`. -/
def waitAgain (fuel : Nat) (w : WaitArgs) (first : Option WaitObservation)
    (recoveryErrno : Option Int) : Body (Option Int) WaitOutcome := do
  let recoveryErrno ← openCleanupWindow w recoveryErrno
  match ← waitPass fuel w true with
  | .error e => pure (first, true, errnoOr (exceptionErrno e) recoveryErrno)
  | .ok second =>
    match first with
    | none => pure (some second, true, recoveryErrno)
    | some first => pure (some (first.merge second), true, recoveryErrno)

def waitLauncherResilient (fuel : Nat) (w : WaitArgs) (terminateFirst : Bool) :
    Body (Option Int) WaitOutcome := do
  match ← waitPass fuel w terminateFirst with
  | .error e => waitAgain fuel w none (exceptionErrno e)
  | .ok first =>
    -- A lost child's PID may be reused: no second pass may signal it.
    if first.launcherReaped || first.waitErrno == some echild then pure (some first, false, none)
    else waitAgain fuel w (some first) first.waitErrno

end Bpe.Orchestration
