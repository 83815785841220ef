import Bpe.Launcher.Kernel

/-!
# Clock, frame emission and startup validation

`launcher.c` up to `bpe_open_cgroup_files`: the monotonic clock and its
deadlines, the frame sender, and the checks of the inherited descriptors.
A chain of `||` in the source is a chain of early returns here.
-/

namespace Bpe.Launcher

open Bpe.Native

def controlFd : Int := 3
def cgroupFd : Int := 4
def procFdScanFd : Int := 5
def procFdBufferSize : Nat := 4096
def startupScanTimeoutMs : Nat := 5000

def bpeWireErrno (errorNumber : Nat) : Nat :=
  if errorNumber < 1 ∨ errorNumber > protocolMaxErrno then 0 else errorNumber

def bpeExitForReason (reason : NativeReason) : NativeExitCode :=
  if NativeReason.badArgc.code ≤ reason.code ∧ reason.code ≤ NativeReason.cgroupNotEmpty.code then
    .startup
  else if NativeReason.protocolInput.code ≤ reason.code ∧
      reason.code ≤ NativeReason.peerClosed.code then
    .protocol
  else if (NativeReason.resourceExhausted.code ≤ reason.code ∧
      reason.code ≤ NativeReason.childReapFailed.code) ∨ reason = .ioFailure then
    .kernel
  else if reason = .timeout then .timeout
  else if reason = .cleanupIncomplete then .cleanup
  else .internal

/-- The send of one record, which has to be taken whole. -/
def sendRecord (frame : List UInt8) : LM Bool := do
  let some sent ← sysInterruptible (.send frame) | return false
  return sent.val = frame.length

def bpeEmitFrame (type : NativeFrameType) (status : NativeStatus) (stage : Option NativeStage)
    (reason : NativeReason) (errorNumber value0 value1 : Nat) : LM Bool := do
  let rt ← getRt
  if !rt.controlUsable || !rt.peerOpen || rt.sequence ≥ protocolMaxFrames then return false
  let frame := bpeInertEncodeFrame type.code rt.sequence status.code (stage.elim 0 (·.code))
    reason.code errorNumber value0 value1
  if !(← sendRecord frame) then return false
  modifyRt fun rt => { rt with sequence := rt.sequence + 1 }
  return true

/-! ## The monotonic clock -/

def nsPerSec : Nat := 1000000000
def nsPerMs : Nat := 1000000

/-- `bpe_monotonic_ns`. The product and sum are 64-bit. -/
def bpeMonotonicNs : LM (Option Nat) := do
  let some now ← sys .clockGettime | return none
  if now.sec < 0 ∨ now.nsec < 0 ∨ now.nsec ≥ nsPerSec ∨ now.sec > (uint64Max / nsPerSec : Nat) then
    return none
  return some ((now.sec.toNat * nsPerSec + now.nsec.toNat) % 2 ^ 64)

def bpeDeadlineAfterMs (milliseconds : Nat) : LM (Option Nat) := do
  let some now ← bpeMonotonicNs | return none
  if milliseconds > uint64Max / nsPerMs then return none
  let delta := milliseconds * nsPerMs
  if now > uint64Max - delta then return none
  return some (now + delta)

def bpeDeadlinePollMs (deadline maximumMs : Nat) : LM Nat := do
  let some now ← bpeMonotonicNs | return 0
  if now ≥ deadline then return 0
  let remaining := deadline - now
  let milliseconds := (remaining + 999999) % 2 ^ 64 / nsPerMs
  return if milliseconds > maximumMs then maximumMs else milliseconds

def bpeElapsedNs : LM Nat := do
  let some now ← bpeMonotonicNs | return 0
  let startedNs := (← getRt).startedNs
  if now < startedNs then return 0
  return now - startedNs

/-! ## Inherited descriptors -/

def bpeValidateStdioFd (descriptor : Int) (expectedAccess : Nat) : LM Bool := do
  let some metadata ← sys (.fstat descriptor) | return false
  if metadata.kind ≠ .chr ∨ metadata.rdevMajor ≠ 1 ∨ metadata.rdevMinor ≠ 3 then return false
  let descriptorFlags ← sys (.getfd descriptor)
  let statusFlags ← sys (.getfl descriptor)
  match descriptorFlags, statusFlags with
  | some descriptorFlags, some statusFlags =>
    return descriptorFlags &&& fdCloexec = 0 ∧ statusFlags &&& oPath = 0 ∧
      statusFlags &&& oAccmode = expectedAccess
  | _, _ => return false

/-- The socket checks of `bpe_validate_control_fd`, up to the `recv`. -/
def controlSocketShape : LM Bool := do
  let some (socketType, typeLength) ← sys (.getSoType controlFd) | return false
  if typeLength ≠ 4 ∨ socketType ≠ sockSeqpacket then return false
  let some (acceptConnections, acceptLength) ← sys (.getSoAcceptconn controlFd) | return false
  if acceptLength ≠ 4 ∨ acceptConnections ≠ 0 then return false
  let some (localFamily, localLength) ← sys (.getsockname controlFd) | return false
  let some (peerFamily, peerLength) ← sys (.getpeername controlFd) | return false
  return 2 ≤ localLength ∧ 2 ≤ peerLength ∧ localFamily = afUnix ∧ peerFamily = afUnix

def bpeValidateControlFd : LM Bool := do
  let descriptorFlags ← sys (.getfd controlFd)
  let statusFlags ← sys (.getfl controlFd)
  match descriptorFlags, statusFlags with
  | some descriptorFlags, some statusFlags =>
    if descriptorFlags &&& fdCloexec ≠ 0 ∨ statusFlags &&& oAccmode ≠ oRdwr then return false
    if !(← controlSocketShape) then return false
    match ← sys (.recv controlFd 1) with
    | some received =>
      if received.val.length = 0 then
        modifyRt fun rt => { rt with peerOpen := false }
        return false
      else return false
    | none =>
      if (← getErrno) ≠ eagain then return false
      let some _ ← sys (.setfd controlFd (descriptorFlags ||| fdCloexec)) | return false
      let some _ ← sys (.setfl controlFd (statusFlags ||| oNonblock)) | return false
      modifyRt fun rt => { rt with controlUsable := true }
      return true
  | _, _ => return false

def bpeValidateCgroupFd : LM Bool := do
  let descriptorFlags ← sys (.getfd cgroupFd)
  let statusFlags ← sys (.getfl cgroupFd)
  match descriptorFlags, statusFlags with
  | some descriptorFlags, some statusFlags =>
    if descriptorFlags &&& fdCloexec ≠ 0 ∨ statusFlags &&& oPath ≠ 0 ∨
        statusFlags &&& oAccmode ≠ oRdonly then
      return false
    let some metadata ← sys (.fstat cgroupFd) | return false
    if metadata.kind ≠ .dir then return false
    let some filesystem ← sys (.fstatfs cgroupFd) | return false
    if filesystem ≠ cgroup2SuperMagic then return false
    let some _ ← sys (.setfd cgroupFd (descriptorFlags ||| fdCloexec)) | return false
    modifyRt fun rt => { rt with cgroupUsable := true }
    return true
  | _, _ => return false

/-! ## The descriptor scan -/

/-- The decimal loop shared by `bpe_parse_fd_name` and
`bpe_read_procs_exact`: digits only, and never above `INT_MAX`. -/
def parseDecimal : Nat → List UInt8 → Option Nat
  | parsed, [] => some parsed
  | parsed, character :: rest =>
    if character < 48 ∨ character > 57 ∨ parsed > intMax / 10 then none
    else
      let parsed := parsed * 10 + (character - 48).toNat
      if parsed > intMax then none else parseDecimal parsed rest

def bpeParseFdName (name : List UInt8) : Option Nat :=
  if name.length = 0 ∨ (name.length > 1 ∧ name.head? = some 48) then none
  else parseDecimal 0 name

/-- `offsetof(struct bpe_linux_dirent64, name)`. -/
def direntNameOffset : Nat := 19

/-- The little-endian 16-bit field at offset 16. -/
def recordLength (entry : List UInt8) : Nat :=
  (entry.getD 16 0).toNat + 256 * (entry.getD 17 0).toNat

/-- A turn of the `while (position < length)` loop over one `getdents64` buffer, with
the loop for the rest: the entries from `position` on, and the descriptors seen. -/
def scanDirent (next : List UInt8 → Nat → Option Nat) (entry : List UInt8)
    (seenDescriptors : Nat) : Option Nat :=
  if entry.length = 0 then some seenDescriptors
  else if entry.length < direntNameOffset + 2 then none
  else
    let recordLength := recordLength entry
    if recordLength > entry.length ∨ recordLength < direntNameOffset + 2 then none
    else
      let nameField := (entry.drop direntNameOffset).take (recordLength - direntNameOffset)
      if 0 ∉ nameField then none
      else
        let name := nameField.takeWhile (· ≠ 0)
        if name = [46] ∨ name = [46, 46] then next (entry.drop recordLength) seenDescriptors
        else
          match bpeParseFdName name with
          | none => none
          | some descriptor =>
            if (descriptor : Int) > procFdScanFd then none
            else if seenDescriptors.testBit descriptor then none
            else next (entry.drop recordLength) (seenDescriptors ||| 1 <<< descriptor)

def scanDirents : Nat → List UInt8 → Nat → Option Nat
  | 0 => fun _ _ => none
  | fuel + 1 => scanDirent (scanDirents fuel)

/-- The `for (;;)` loop of `bpe_validate_no_extra_fds`: the result and the
`failure_errno` it leaves. -/
def scanProcFd (fuel : Nat) (directoryFd : Int) (deadline : Nat) : LM (Bool × Nat) :=
  Proc.iterate fuel (fun seenDescriptors => do
    let some buffer ← sysInterruptible (.getdents64 directoryFd procFdBufferSize)
      | return .inr (false, ← getErrno)
    if buffer.val.length = 0 then return .inr (seenDescriptors = 0x3f, 0)
    let some seenDescriptors := scanDirents (buffer.val.length + 1) buffer.val seenDescriptors
      | return .inr (false, 0)
    if (← bpeDeadlinePollMs deadline 1) = 0 then return .inr (false, 0)
    return .inl seenDescriptors) 0

/-- `/proc/self/fd` was opened as descriptor 5 and is a procfs directory. -/
def procFdDirectory (directoryFd : Int) : LM Bool := do
  if directoryFd ≠ procFdScanFd then return false
  let some metadata ← sys (.fstat directoryFd) | return false
  if metadata.kind ≠ .dir then return false
  let some filesystem ← sys (.fstatfs directoryFd) | return false
  return filesystem = procSuperMagic

/-- Close a descriptor unless it is negative; `false` when `close` fails. -/
def closeIfOpen (descriptor : Int) : LM Bool := do
  if descriptor < 0 then return true
  return (← sys (.close descriptor)).isSome

/-- The `finished:` label of `bpe_validate_no_extra_fds`. -/
def finishNoExtraFds (directoryFd : Int) (valid : Bool) (failureErrno : Nat) : LM Bool := do
  if !(← closeIfOpen directoryFd) then
    bpeSetFailure .descriptorValidation .badDescriptorLayout (← getErrno)
    return false
  if !valid then
    bpeSetFailure .descriptorValidation .badDescriptorLayout failureErrno
    return false
  return true

def bpeValidateNoExtraFds (fuel : Nat) : LM Bool := do
  let some deadline ← bpeDeadlineAfterMs startupScanTimeoutMs
    | do finishNoExtraFds (-1) false (← getErrno)
  let directoryFd := asFd (← sys .openProcFd)
  if !(← procFdDirectory directoryFd) then
    let errno ← getErrno
    finishNoExtraFds directoryFd false (if directoryFd < 0 then errno else 0)
  else
    let (valid, failureErrno) ← scanProcFd fuel directoryFd deadline
    finishNoExtraFds directoryFd valid failureErrno

def bpeValidateStartupFds (fuel : Nat) : LM Bool := do
  if !(← bpeValidateStdioFd 0 oRdonly <&&> bpeValidateStdioFd 1 oWronly <&&>
      bpeValidateStdioFd 2 oWronly) then
    bpeSetFailure .descriptorValidation .badStdio (← getErrno)
    return false
  if !(← bpeValidateControlFd) then
    bpeSetFailure .descriptorValidation
      (if (← getRt).peerOpen then .badControlSocket else .peerClosed) (← getErrno)
    return false
  if !(← bpeValidateCgroupFd) then
    bpeSetFailure .descriptorValidation .badCgroupDescriptor (← getErrno)
    return false
  bpeValidateNoExtraFds fuel

end Bpe.Launcher
