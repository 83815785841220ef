import Bpe.Launcher.Fixture

/-!
# The launcher's `main`

`main` is one function in the source; here each stretch between two frames
is a definition of its own, and `false` or `none` is `goto fail`. `fuel`
bounds the iterations of each unbounded loop: a run of the launcher is a run
of `main fuel` for some `fuel`.
-/

namespace Bpe.Launcher

open Bpe.Native

/-- What the process is started with: `argc`, the `NULL`-terminated `argv` and
environment vectors (`none` when the pointer is `NULL`), and `getpid()`. -/
structure LaunchArgs where
  argc : Int
  argv : Option (List String)
  environment : Option (List String)
  launcherPid : Pid

def launcherArgv0 : String := "bpe-inert-fixture-launcher"

def checkArguments (args : LaunchArgs) : LM Bool := do
  if args.argc ≠ 1 then
    bpeSetFailure .startup .badArgc 0
    return false
  if args.argv.bind (·[0]?) ≠ some launcherArgv0 ∨ args.argv.bind (·[1]?) ≠ none then
    bpeSetFailure .startup .badArgv 0
    return false
  if args.environment ≠ some [] then
    bpeSetFailure .startup .nonemptyEnvironment 0
    return false
  return true

/-- The first reads of `cgroup.events` and `cgroup.procs`: nothing may run in
the cgroup yet. -/
def checkCgroupEmpty (fuel : Nat) : LM Bool := do
  let some initialEvents ← bpeReadEvents fuel (← getRt).eventsFd
    | do
      bpeSetFailure .cgroupValidation .badCgroupDescriptor (← getErrno)
      return false
  let procsMatch ← bpeReadProcsExact fuel (← getRt).procsFd 0
  if procsMatch = .error then
    bpeSetFailure .cgroupValidation .badCgroupDescriptor (← getErrno)
    return false
  if initialEvents.populated ≠ 0 ∨ procsMatch ≠ .matched then
    bpeSetFailure .cgroupValidation .cgroupNotEmpty 0
    return false
  return true

def confine : LM Bool := do
  if !(← bpeResetSignalState <&&> bpeInstallSeccomp) then
    bpeSetFailure .startup .internal (← getErrno)
    return false
  return true

/-- Emit a success frame; a failed send is `IO_FAILURE` at stage `PROTOCOL`. -/
def emitSuccess (type : NativeFrameType) (stage : NativeStage) (value0 value1 : Nat) : LM Bool := do
  if !(← bpeEmitFrame type .ok (some stage) .none 0 value0 value1) then
    bpeSetFailure .protocol .ioFailure (← getErrno)
    return false
  return true

/-- Up to and including the HELLO frame. -/
def mainHello (fuel : Nat) (args : LaunchArgs) : LM Bool :=
  checkArguments args <&&> bpeValidateStartupFds fuel <&&> bpeOpenCgroupFiles <&&>
  checkCgroupEmpty fuel <&&> confine <&&>
  emitSuccess .hello .startup args.launcherPid.val 0

def startDeadline : LM (Option Nat) := do
  let some runtimeDeadline ← bpeDeadlineAfterMs emergencyRuntimeMs
    | do
      bpeSetFailure .fixtureSetup .internal (← getErrno)
      return none
  return some runtimeDeadline

/-- The child is the only process of its cgroup; then `BUILTIN_NOEXEC`. -/
def checkChildAlone (fuel : Nat) : LM Bool := do
  let rt ← getRt
  let procsMatch ← bpeReadProcsExact fuel rt.procsFd rt.childPid
  let errno ← getErrno
  if procsMatch ≠ .matched then
    bpeSetFailure .childReady
      (if procsMatch = .error then .ioFailure else .childObservationFailed)
      (if procsMatch = .error then errno else 0)
    return false
  modifyRt fun rt => { rt with achieved := rt.achieved ||| builtinNoexecBit }
  return true

/-- From the deadline to the CHILD_READY frame. -/
def mainChildReady (fuel : Nat) (args : LaunchArgs) : LM (Option Nat) := do
  let some runtimeDeadline ← startDeadline | return none
  if !(← bpeControlQuiet .fixtureSetup <&&> bpeCloneFixture args.launcherPid <&&>
      bpeWaitChildReady fuel runtimeDeadline <&&> bpeWaitPopulatedOne fuel runtimeDeadline <&&>
      checkChildAlone fuel <&&> bpeControlQuiet .childReady) then
    return none
  if !(← emitSuccess .childReady .childReady (← getRt).childPid.toNat requiredCloneFlags) then
    return none
  return some runtimeDeadline

/-- The cgroup still holds the stopped child and nothing else. -/
def checkStopped (fuel : Nat) : LM Bool := do
  let rt ← getRt
  let some stoppedEvents ← bpeReadEvents fuel rt.eventsFd
    | do
      bpeSetFailure .pidfdSignal .ioFailure (← getErrno)
      return false
  let procsMatch ← bpeReadProcsExact fuel rt.procsFd rt.childPid
  if procsMatch = .error then
    bpeSetFailure .pidfdSignal .ioFailure (← getErrno)
    return false
  if stoppedEvents.populated ≠ 1 ∨ procsMatch ≠ .matched then
    bpeSetFailure .pidfdSignal .childObservationFailed 0
    return false
  return true

/-- From the stop signal to the CHILD_SIGNALED frame. -/
def mainChildSignaled (fuel runtimeDeadline : Nat) : LM Bool :=
  bpeStopAndObserve fuel runtimeDeadline <&&> checkStopped fuel <&&>
  bpeControlQuiet .pidfdSignal <&&>
  emitSuccess .childSignaled .pidfdSignal cldStopped sigstop

def killLive : LM Bool := do
  if !(← bpeWriteCgroupKill (← getRt).killFd) then
    bpeSetFailure .cgroupKill .cgroupKillFailed (← getErrno)
    return false
  modifyRt fun rt => { rt with achieved := rt.achieved ||| liveCgroupKillBit }
  return true

def observeLive (fuel runtimeDeadline : Nat) : LM Bool := do
  let some exitInformation ← bpeObserveKilledAndEmpty fuel runtimeDeadline true | return false
  if exitInformation.pid ≠ (← getRt).childPid ∨ exitInformation.code ≠ cldKilled ∨
      exitInformation.status ≠ sigkill then
    bpeSetFailure .childObservation .childObservationFailed 0
    return false
  modifyRt fun rt =>
    { rt with achieved := rt.achieved ||| pidfdExitObservedBit ||| cgroupEmptyBit }
  return true

/-- From the kill to the CHILD_OBSERVED frame. -/
def mainChildObserved (fuel runtimeDeadline : Nat) : LM Bool :=
  bpeControlQuiet .cgroupKill <&&> killLive <&&> observeLive fuel runtimeDeadline <&&>
  bpeControlQuiet .childObservation <&&>
  emitSuccess .childObserved .childObservation cldKilled sigkill

/-- The mask and elapsed-time checks: the elapsed nanoseconds. -/
def finalElapsed : LM (Option Nat) := do
  if (← getRt).achieved ≠ achievedResultMask then
    bpeSetFailure .cleanup .internal 0
    return none
  let finalElapsedNs ← bpeElapsedNs
  if finalElapsedNs = 0 then
    bpeSetFailure .cleanup .internal 0
    return none
  return some finalElapsedNs

def closeFinal : LM Bool := do
  if !(← bpeCloseOwned) then
    bpeSetFailure .cleanup .cleanupIncomplete (← getErrno)
    return false
  return true

/-- From the reap to the FINAL frame; `none` is `goto fail`. -/
def mainFinal : LM (Option NativeExitCode) := do
  if !(← bpeReapChild) then return none
  let some finalElapsedNs ← finalElapsed | return none
  if !(← bpeControlQuiet .cleanup <&&> closeFinal) then return none
  if !(← bpeEmitFrame .final .ok (some .cleanup) .none 0 (← getRt).achieved finalElapsedNs) then
    return some .protocol
  return some .ok

/-- `main` from the argument checks to its success return. -/
def mainBody (fuel : Nat) (args : LaunchArgs) : LM (Option NativeExitCode) := do
  if !(← mainHello fuel args) then return none
  let some runtimeDeadline ← mainChildReady fuel args | return none
  if !(← mainChildSignaled fuel runtimeDeadline <&&> mainChildObserved fuel runtimeDeadline) then
    return none
  mainFinal

/-- Cleanup at the label `fail`: the emergency cleanup of a live child, then
every owned descriptor. The first result is `terminal_cleanup_incomplete`, the
second `terminal_cleanup_errno`. -/
def failCleanup (fuel : Nat) : LM (Bool × Nat) := do
  let rt ← getRt
  let emergencyOk ←
    if rt.childCreated ∧ !rt.childReaped then bpeEmergencyCleanup fuel else pure true
  if !(← bpeCloseOwned) then return (true, ← getErrno)
  return (!emergencyOk, 0)

/-- The terminal failure: incomplete cleanup has precedence. -/
def terminalFailure (failure : Failure) (incomplete : Bool) (cleanupErrno : Nat) : Failure :=
  if incomplete then
    { stage := some .cleanup, reason := .cleanupIncomplete, errorNumber := cleanupErrno }
  else if failure.reason = .none then
    { stage := some .startup, reason := .internal, errorNumber := 0 }
  else failure

/-- Report the terminal failure and choose the exit code. -/
def failReport (failure : Failure) : LM NativeExitCode := do
  let exitCode := bpeExitForReason failure.reason
  let rt ← getRt
  if rt.controlUsable ∧ rt.peerOpen then
    let sent ← bpeEmitFrame .error .failed failure.stage failure.reason
      (bpeWireErrno failure.errorNumber) rt.achieved 0
    return if !sent ∧ exitCode ≠ .cleanup then .protocol else exitCode
  return exitCode

/-- The label `fail`. -/
def mainFail (fuel : Nat) : LM NativeExitCode := do
  let (incomplete, cleanupErrno) ← failCleanup fuel
  modify fun s => { s with failure := terminalFailure s.failure incomplete cleanupErrno }
  failReport (← get).failure

def main (fuel : Nat) (args : LaunchArgs) : LM NativeExitCode := do
  let some startedNs ← bpeMonotonicNs | return .internal
  modifyRt fun rt => { rt with startedNs }
  match ← mainBody fuel args with
  | some exitCode => return exitCode
  | none => mainFail fuel

/-- The launcher's whole run: started with `args` in a fresh process, the
calls and replies `t` take it to its exit. -/
def LauncherRuns (args : LaunchArgs) (t : Trace) (exitCode : NativeExitCode) (s : LState) : Prop :=
  ∃ fuel, Proc.Runs (main fuel args) {} t exitCode s

end Bpe.Launcher
