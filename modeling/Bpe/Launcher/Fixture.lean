import Bpe.Launcher.Startup

/-!
# The fixture child and its cgroup

`launcher.c` from `bpe_open_cgroup_files` to `bpe_close_owned`: the cgroup
files, the control-socket monitor, creation and observation of the child,
and the cleanup. The child's own code after `clone3` is not part of the
launcher process and is seen only through the replies.
-/

namespace Bpe.Launcher

open Bpe.Native

def cgroupEventsFd : Int := 5
def cgroupKillFd : Int := 6
def cgroupProcsFd : Int := 7
def childReadyReadFd : Int := 8
def childReadyWriteFd : Int := 9
def expectedPidfd : Int := 10
def emergencyRuntimeMs : Nat := 30000
def emergencyCleanupMs : Nat := 5000

/-! ## Cgroup files -/

/-- The descriptor names a regular file. -/
def regularFile (descriptor : Int) : LM Bool := do
  let some metadata ← sys (.fstat descriptor) | return false
  return metadata.kind = .reg

/-- The check after each `openat` of `bpe_open_cgroup_files`: the descriptor is
`expected` and a regular file. -/
def requireCgroupFile (descriptor expected : Int) : LM Bool := do
  if !(← pure (descriptor = expected : Bool) <&&> regularFile descriptor) then
    bpeSetFailure .cgroupValidation .badCgroupDescriptor (← getErrno)
    return false
  return true

/-- One `openat` of `bpe_open_cgroup_files`: the descriptor is recorded before
it is checked. -/
def openCgroupFile (file : CgroupFile) (expected : Int) (record : Int → Runtime → Runtime) :
    LM Bool := do
  let descriptor := asFd (← sys (.openat file))
  modifyRt (record descriptor)
  requireCgroupFile descriptor expected

def bpeOpenCgroupFiles : LM Bool :=
  openCgroupFile .events cgroupEventsFd (fun fd rt => { rt with eventsFd := fd }) <&&>
  openCgroupFile .kill cgroupKillFd (fun fd rt => { rt with killFd := fd }) <&&>
  openCgroupFile .procs cgroupProcsFd (fun fd rt => { rt with procsFd := fd })

/-- `struct bpe_events`. -/
structure Events where
  populated : Int := -1
  frozen : Int := -1
  sawFrozen : Bool := false
  deriving DecidableEq

/-- The text `populated `, then `frozen `, each with its blank. -/
def populatedKey : List UInt8 := [112, 111, 112, 117, 108, 97, 116, 101, 100, 32]
def frozenKey : List UInt8 := [102, 114, 111, 122, 101, 110, 32]

/-- The digit of a line `key0` or `key1`. -/
def flagLine (key line : List UInt8) : Option Int :=
  if line = key ++ [48] then some 0
  else if line = key ++ [49] then some 1
  else none

/-- The `while (offset < length)` loop of `bpe_parse_events`, on the input
from `offset` on, with the final test. -/
def parseEventLines : Nat → List UInt8 → Events → Bool → Option Events
  | 0, _, _, _ => none
  | fuel + 1, input, events, sawPopulated =>
    if input.length = 0 then
      if sawPopulated ∧ (!events.sawFrozen ∨ events.frozen = 0) then some events else none
    else
      let line := input.takeWhile (· ≠ 10)
      if line.length = input.length then none
      else
        let rest := input.drop (line.length + 1)
        match flagLine populatedKey line, flagLine frozenKey line with
        | some populated, _ =>
          if sawPopulated then none
          else parseEventLines fuel rest { events with populated } true
        | none, some frozen =>
          if events.sawFrozen then none
          else parseEventLines fuel rest { events with frozen, sawFrozen := true } sawPopulated
        | none, none => none

def bpeParseEvents (input : List UInt8) : Option Events :=
  if input.length = 0 ∨ input.getLast? ≠ some 10 then none
  else parseEventLines (input.length + 1) input {} false

def bpeReadEvents (fuel : Nat) (descriptor : Int) : LM (Option Events) := do
  let some offset ← sys (.lseek descriptor) | return none
  if offset ≠ 0 then return none
  let some buffer ← sysInterruptible (.read descriptor 128) | return none
  if buffer.val.length = 0 ∨ buffer.val.length = 128 then return none
  let some extra ← sysUninterrupted fuel (.read descriptor 1) | return none
  if extra.val.length ≠ 0 then return none
  return bpeParseEvents buffer.val

inductive ProcsMatch where
  | error | mismatch | matched
  deriving DecidableEq

/-- The text of `cgroup.procs` is exactly the decimal `expectedPid` and a
newline. -/
def procsText (buffer : List UInt8) (expectedPid : Int) : ProcsMatch :=
  if expectedPid = 0 ∨ buffer.length < 2 ∨ buffer.getLast? ≠ some 10 ∨ buffer.head? = some 48 then
    .mismatch
  else
    match parseDecimal 0 buffer.dropLast with
    | none => .mismatch
    | some parsedPid => if (parsedPid : Int) = expectedPid then .matched else .mismatch

def bpeReadProcsExact (fuel : Nat) (descriptor : Int) (expectedPid : Int) : LM ProcsMatch := do
  if expectedPid < 0 then return .error
  let some offset ← sys (.lseek descriptor) | return .error
  if offset ≠ 0 then return .error
  let some buffer ← sysInterruptible (.read descriptor 64) | return .error
  if buffer.val.length = 64 then
    setErrno 0
    return .mismatch
  if buffer.val.length = 0 then
    setErrno 0
    return if expectedPid = 0 then .matched else .mismatch
  let some extra ← sysUninterrupted fuel (.read descriptor 1) | return .error
  setErrno 0
  if extra.val.length ≠ 0 then return .mismatch
  return procsText buffer.val expectedPid

/-- `bpe_write_cgroup_kill`: write the byte `1`. -/
def bpeWriteCgroupKill (descriptor : Int) : LM Bool := do
  let some written ← sysInterruptible (.write descriptor [49]) | return false
  return written.val = 1

/-! ## Process setup -/

def bpeResetSignalState : LM Bool := do
  let some _ ← sys .sigemptyset | return false
  let some _ ← sys .sigactionSigchld | return false
  let some _ ← sys .sigemptyset | return false
  let some _ ← sys .sigprocmask | return false
  return true

def bpeInstallSeccomp : LM Bool := do
  let some _ ← sys .setNoNewPrivs | return false
  let some _ ← sys .setSeccomp | return false
  let some noNewPrivs ← sys .getNoNewPrivs | return false
  if noNewPrivs ≠ 1 then return false
  let some mode ← sys .getSeccomp | return false
  return mode = seccompModeFilter

/-! ## The control socket -/

def bpeControlFailed (revents : BitVec 16) (stage : NativeStage) : LM Bool := do
  if revents &&& pollin ≠ 0 then
    bpeSetFailure .protocol .protocolInput 0
    return true
  if revents &&& (pollhup ||| pollerr) ≠ 0 then
    modifyRt fun rt => { rt with peerOpen := false }
    bpeSetFailure .protocol .peerClosed 0
    return true
  if revents &&& pollnval ≠ 0 then
    modifyRt fun rt => { rt with controlUsable := false, peerOpen := false }
    bpeSetFailure stage .ioFailure ebadf
    return true
  return false

/-- The return value of a `poll` over `count` descriptors. -/
def pollCount (count : Nat) (revents : Nat → BitVec 16) : Nat :=
  ((List.range count).filter fun i => revents i ≠ 0).length

def controlPollFd : PollFd := { fd := controlFd, events := pollin }

def bpeControlQuiet (stage : NativeStage) : LM Bool := do
  let some revents ← sysInterruptible (.poll [controlPollFd] 0)
    | do
      bpeSetFailure stage .ioFailure (← getErrno)
      return false
  if pollCount 1 revents = 0 then return true
  return !(← bpeControlFailed (revents 0) stage)

/-- `bpe_poll_until`: `none` is the `-1` return; otherwise the count of ready
descriptors and their `revents`, which are zero at a timeout. -/
def bpePollUntil (fuel : Nat) (descriptors : List PollFd) (deadline maximumMs : Nat) :
    LM (Option (Nat × (Nat → BitVec 16))) :=
  Proc.iterate fuel (fun _ => do
    let timeout ← bpeDeadlinePollMs deadline maximumMs
    if timeout = 0 then return .inr (some (0, fun _ => 0))
    match ← sys (.poll descriptors timeout) with
    | some revents => return .inr (some (pollCount descriptors.length revents, revents))
    | none =>
      if (← getErrno) = eintr then return .inl ()
      else return .inr none) ()

/-! ## Creating the child -/

def cloneFailureReason (cloneErrno : Nat) : NativeReason :=
  if cloneErrno = enosys then .clone3Unavailable
  else if cloneErrno = eagain ∨ cloneErrno = enomem ∨ cloneErrno = emfile ∨ cloneErrno = enfile then
    .resourceExhausted
  else .clone3Rejected

/-- The `pipe2` step of `bpe_clone_fixture`. Descriptors other than 8 and 9
are closed again and are never recorded. -/
def openReadyPipe : LM Bool := do
  let some (readFd, writeFd) ← sys .pipe2
    | do
      bpeSetFailure .fixtureSetup .resourceExhausted (← getErrno)
      return false
  if (readFd : Int) ≠ childReadyReadFd ∨ (writeFd : Int) ≠ childReadyWriteFd then
    bpeSetFailure .fixtureSetup .resourceExhausted (← getErrno)
    let _ ← sys (.close readFd)
    let _ ← sys (.close writeFd)
    return false
  modifyRt fun rt => { rt with readyReadFd := readFd, readyWriteFd := writeFd }
  return true

def bpeCloneFixture (launcherPid : Pid) : LM Bool := do
  if !(← openReadyPipe) then return false
  let some (child, pidfd) ← sys (.clone3 launcherPid)
    | do
      let cloneErrno ← getErrno
      bpeSetFailure .clone3 (cloneFailureReason cloneErrno) cloneErrno
      return false
  modifyRt fun rt =>
    { rt with
      childPid := child.val.val, childCreated := true, pidfd := pidfd
      achieved := rt.achieved ||| clone3IntoCgroupBit }
  let pidfdFlags ← sys (.getfd pidfd)
  let errno ← getErrno
  if (pidfd : Int) ≠ expectedPidfd ∨ pidfdFlags.all (· &&& fdCloexec = 0) then
    bpeSetFailure .clone3 .pidfdUnavailable (if pidfdFlags.isNone then errno else 0)
    return false
  modifyRt fun rt => { rt with achieved := rt.achieved ||| pidfdCreatedBit }
  let some _ ← sys (.close (← getRt).readyWriteFd)
    | do
      bpeSetFailure .fixtureSetup .ioFailure (← getErrno)
      return false
  modifyRt fun rt => { rt with readyWriteFd := -1 }
  return true

/-! ## Waiting for the child -/

/-- The text `BPEC`. -/
def childRecordMagic : List UInt8 := [66, 80, 69, 67]

/-- The checks on the first readiness record: `none` accepts it, `some e`
raises `CHILD_SETUP_FAILED` with `e`. -/
def childRecordError (record : List UInt8) : Option Nat :=
  if record.length ≠ 8 ∨ record.take 4 ≠ childRecordMagic ∨ record.getD 5 0 ≠ 0 ∨
      (record.getD 4 0 ≠ 0 ∧ record.getD 4 0 ≠ 1) then
    some 0
  else if record.getD 4 0 = 0 ∧ (record.getD 6 0 ≠ 0 ∨ record.getD 7 0 ≠ 0) then some 0
  else if record.getD 4 0 ≠ 0 then
    some ((record.getD 6 0).toNat <<< 8 ||| (record.getD 7 0).toNat)
  else none

/-- The readable branch of `bpe_wait_child_ready`: `.inl seen` continues the
loop, `.inr` returns. -/
def readChildRecord (readyReadFd : Int) (successRecordSeen : Bool) : LM (Bool ⊕ Bool) := do
  if successRecordSeen then
    match ← sys (.read readyReadFd 1) with
    | some buffer =>
      if buffer.val.length = 0 then return .inr true
      bpeSetFailure .childReady .childSetupFailed 0
      return .inr false
    | none =>
      let errno ← getErrno
      if errno = eagain then return .inl true
      bpeSetFailure .childReady .childSetupFailed errno
      return .inr false
  else
    match ← sys (.read readyReadFd 8) with
    | some record =>
      match childRecordError record.val with
      | some childErrno =>
        bpeSetFailure .childReady .childSetupFailed childErrno
        return .inr false
      | none => return .inl true
    | none =>
      bpeSetFailure .childReady .childSetupFailed (← getErrno)
      return .inr false

def bpeWaitChildReady (fuel deadline : Nat) : LM Bool :=
  Proc.iterate fuel (fun successRecordSeen => do
    let rt ← getRt
    let descriptors := [controlPollFd, { fd := rt.readyReadFd, events := pollin },
      { fd := rt.pidfd, events := pollin }]
    let some (pollResult, revents) ← bpePollUntil fuel descriptors deadline intMax
      | do
        bpeSetFailure .childReady .ioFailure (← getErrno)
        return .inr false
    if pollResult = 0 then
      bpeSetFailure .childReady .timeout 0
      return .inr false
    if ← bpeControlFailed (revents 0) .childReady then return .inr false
    if revents 1 &&& (pollin ||| pollhup) ≠ 0 then readChildRecord rt.readyReadFd successRecordSeen
    else if revents 1 &&& (pollerr ||| pollnval) ≠ 0 ∨
        revents 2 &&& (pollin ||| pollhup ||| pollerr ||| pollnval) ≠ 0 then
      bpeSetFailure .childReady .childSetupFailed 0
      return .inr false
    else return .inl successRecordSeen) false

def bpeWaitPopulatedOne (fuel deadline : Nat) : LM Bool :=
  Proc.iterate fuel (fun _ => do
    let rt ← getRt
    let some events ← bpeReadEvents fuel rt.eventsFd
      | do
        bpeSetFailure .childReady .ioFailure (← getErrno)
        return .inr false
    if events.populated = 1 then return .inr true
    let descriptors := [controlPollFd, { fd := rt.eventsFd, events := pollpri ||| pollerr },
      { fd := rt.pidfd, events := pollin }]
    let some (pollResult, revents) ← bpePollUntil fuel descriptors deadline intMax
      | do
        bpeSetFailure .childReady .ioFailure (← getErrno)
        return .inr false
    if pollResult = 0 then
      bpeSetFailure .childReady .timeout 0
      return .inr false
    if ← bpeControlFailed (revents 0) .childReady then return .inr false
    if revents 1 &&& pollnval ≠ 0 ∨
        revents 2 &&& (pollin ||| pollhup ||| pollerr ||| pollnval) ≠ 0 then
      bpeSetFailure .childReady .childSetupFailed 0
      return .inr false
    return .inl ()) ()

/-! ## Stopping, killing and reaping the child -/

/-- The loop of `bpe_stop_and_observe`, after the signal. -/
def observeStopped (fuel deadline : Nat) : LM Bool :=
  Proc.iterate fuel (fun _ => do
    let rt ← getRt
    let some information ← sys (.waitid rt.pidfd (wstopped ||| wnohang ||| wnowait))
      | do
        bpeSetFailure .pidfdSignal .childObservationFailed (← getErrno)
        return .inr false
    if information.pid ≠ 0 then
      if information.pid ≠ rt.childPid ∨ information.code ≠ cldStopped ∨
          information.status ≠ sigstop then
        bpeSetFailure .pidfdSignal .childObservationFailed 0
        return .inr false
      modifyRt fun rt => { rt with achieved := rt.achieved ||| pidfdStopObservedBit }
      return .inr true
    let descriptors := [controlPollFd, { fd := rt.pidfd, events := pollin }]
    let some (pollResult, revents) ← bpePollUntil fuel descriptors deadline 10
      | do
        bpeSetFailure .pidfdSignal .ioFailure (← getErrno)
        return .inr false
    if ← pure (pollResult = 0 : Bool) <&&> (do return (← bpeDeadlinePollMs deadline 1) = 0) then
      bpeSetFailure .pidfdSignal .timeout 0
      return .inr false
    if ← bpeControlFailed (revents 0) .pidfdSignal then return .inr false
    if revents 1 &&& (pollin ||| pollhup ||| pollerr ||| pollnval) ≠ 0 then
      bpeSetFailure .pidfdSignal .childObservationFailed 0
      return .inr false
    return .inl ()) ()

def bpeStopAndObserve (fuel deadline : Nat) : LM Bool := do
  let some _ ← sys (.pidfdSendSignal (← getRt).pidfd sigstop)
    | do
      bpeSetFailure .pidfdSignal .pidfdSignalFailed (← getErrno)
      return false
  modifyRt fun rt => { rt with achieved := rt.achieved ||| pidfdStopSentBit }
  observeStopped fuel deadline

/-- The `exit_seen` and `empty_seen` of `bpe_observe_killed_and_empty`, the
first with the `siginfo_t` it saved. -/
structure Observed where
  exit : Option SigInfo := none
  empty : Bool := false

/-- The `!empty_seen` step: `none` when the read failed. -/
def observeEmpty (fuel : Nat) (eventsFd : Int) (emptySeen : Bool) : LM (Option Bool) := do
  if emptySeen then return some true
  let some events ← bpeReadEvents fuel eventsFd
    | do
      bpeSetFailure .childObservation .ioFailure (← getErrno)
      return none
  return some (events.populated = 0)

/-- The `!exit_seen` step: the exit seen so far, `none` when `waitid` failed. -/
def observeExit (pidfd : Int) (exitSeen : Option SigInfo) : LM (Option (Option SigInfo)) := do
  if exitSeen.isSome then return some exitSeen
  let some information ← sys (.waitid pidfd (wexited ||| wnohang ||| wnowait))
    | do
      bpeSetFailure .childObservation .childObservationFailed (← getErrno)
      return none
  return some (if information.pid ≠ 0 then some information else none)

/-- `bpe_observe_killed_and_empty`: the saved exit information, `none` on
failure. -/
def bpeObserveKilledAndEmpty (fuel deadline : Nat) (monitorControl : Bool) : LM (Option SigInfo) :=
  Proc.iterate fuel (fun (seen : Observed) => do
    let rt ← getRt
    let some empty ← observeEmpty fuel rt.eventsFd seen.empty | return .inr none
    let some exit ← observeExit rt.pidfd seen.exit | return .inr none
    if exit.isSome ∧ empty then return .inr exit
    let descriptors := [{ fd := if monitorControl then controlFd else -1, events := pollin },
      { fd := rt.eventsFd, events := pollpri ||| pollerr }, { fd := rt.pidfd, events := pollin }]
    let some (pollResult, revents) ← bpePollUntil fuel descriptors deadline intMax
      | do
        bpeSetFailure .childObservation .ioFailure (← getErrno)
        return .inr none
    if pollResult = 0 then
      bpeSetFailure .childObservation .timeout 0
      return .inr none
    if ← pure monitorControl <&&> bpeControlFailed (revents 0) .childObservation then
      return .inr none
    if revents 1 &&& pollnval ≠ 0 ∨ revents 2 &&& pollnval ≠ 0 then
      bpeSetFailure .childObservation .ioFailure ebadf
      return .inr none
    return .inl { exit, empty }) {}

def bpeReapChild : LM Bool := do
  let rt ← getRt
  let information ← sys (.waitid rt.pidfd wexited)
  if information.all (·.pid ≠ rt.childPid) then
    bpeSetFailure .childReap .childReapFailed (← getErrno)
    return false
  modifyRt fun rt =>
    { rt with childReaped := true, achieved := rt.achieved ||| childReapedBit }
  return true

/-! ## Cleanup -/

/-- Run `m` with a failure record of its own, which is then dropped. -/
def withLocalFailure {α : Type} (m : LM α) : LM α := do
  let saved := (← get).failure
  modify fun s => { s with failure := {} }
  let a ← m
  modify fun s => { s with failure := saved }
  return a

/-- The observe-and-reap step of `bpe_emergency_cleanup`: `false` when the
child was observed to be dead and could not be reaped. -/
def observeAndReap (fuel deadline : Nat) : LM Bool := do
  let rt ← getRt
  if !rt.childReaped ∧ rt.pidfd ≥ 0 ∧ rt.eventsFd ≥ 0 then
    let some _ ← withLocalFailure (bpeObserveKilledAndEmpty fuel deadline false) | return true
    withLocalFailure bpeReapChild
  else return true

/-- The closing `cgroup.events` read of `bpe_emergency_cleanup`. -/
def recordEmpty (fuel : Nat) : LM Bool := do
  let rt ← getRt
  if rt.eventsFd < 0 then return false
  let some events ← bpeReadEvents fuel rt.eventsFd | return false
  if events.populated ≠ 0 then return false
  modifyRt fun rt => { rt with achieved := rt.achieved ||| cgroupEmptyBit }
  return true

/-- The `SIGKILL` of `bpe_emergency_cleanup`; its result is ignored. -/
def pidfdKillAttempt : LM Unit := do
  let rt ← getRt
  if !rt.childReaped ∧ rt.pidfd ≥ 0 then
    let _ ← sys (.pidfdSendSignal rt.pidfd sigkill)
    return ()
  else return ()

/-- The `cgroup.kill` write of `bpe_emergency_cleanup`; its result is
ignored. -/
def cgroupKillAttempt : LM Unit := do
  let rt ← getRt
  if rt.killFd ≥ 0 then
    let _ ← bpeWriteCgroupKill rt.killFd
    return ()
  else return ()

def bpeEmergencyCleanup (fuel : Nat) : LM Bool := do
  if !(← getRt).childCreated then return true
  let some deadline ← bpeDeadlineAfterMs emergencyCleanupMs | return false
  pidfdKillAttempt
  cgroupKillAttempt
  if !(← observeAndReap fuel deadline) then return false
  let empty ← recordEmpty fuel
  return (← getRt).childReaped && empty

/-- `bpe_close_descriptor` on the runtime field that `get` reads and `clear`
sets to `-1`. -/
def bpeCloseDescriptor (field : Runtime → Int) (clear : Runtime → Runtime) : LM Bool := do
  let original := field (← getRt)
  if original < 0 then return true
  modifyRt clear
  return (← sys (.close original)).isSome

def closeCgroup : LM Bool := do
  if !(← getRt).cgroupUsable then return true
  modifyRt fun rt => { rt with cgroupUsable := false }
  return (← sys (.close cgroupFd)).isSome

/-- `bpe_close_owned`. Every close is attempted. -/
def bpeCloseOwned : LM Bool := do
  let readyRead ← bpeCloseDescriptor (·.readyReadFd) fun rt => { rt with readyReadFd := -1 }
  let readyWrite ← bpeCloseDescriptor (·.readyWriteFd) fun rt => { rt with readyWriteFd := -1 }
  let pidfd ← bpeCloseDescriptor (·.pidfd) fun rt => { rt with pidfd := -1 }
  let events ← bpeCloseDescriptor (·.eventsFd) fun rt => { rt with eventsFd := -1 }
  let kill ← bpeCloseDescriptor (·.killFd) fun rt => { rt with killFd := -1 }
  let procs ← bpeCloseDescriptor (·.procsFd) fun rt => { rt with procsFd := -1 }
  let cgroup ← closeCgroup
  return readyRead && readyWrite && pidfd && events && kill && procs && cgroup

end Bpe.Launcher
