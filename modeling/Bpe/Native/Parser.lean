import Bpe.Native.Protocol

/-!
# The native transcript parser

`inert_native_protocol.py`: the record decoder, the table of reachable ERROR
states, and `parse_inert_native_transcript`. A violation carries the message
the source raises. The source's runtime type tests are the Lean types here.
-/

namespace Bpe.Native

/-- `InertNativeSocketRecord`: one `recvmsg` result. -/
structure InertNativeSocketRecord where
  payload : List UInt8
  messageTruncated : Bool := false
  controlTruncated : Bool := false
  ancillaryPresent : Bool := false

structure InertNativeTranscript where
  succeeded : Bool
  frames : List InertNativeFrame
  launcherExitCode : NativeExitCode
  launcherPid : Int
  childPid : Option Int
  achievedResultMask : Nat
  elapsedNs : Option Nat
  failureStage : Option NativeStage
  failureReason : Option NativeReason
  failureErrno : Option Nat
  deriving DecidableEq

def successTypes : List NativeFrameType :=
  [.hello, .childReady, .childSignaled, .childObserved, .final]

def successStages : List NativeStage :=
  [.startup, .childReady, .pidfdSignal, .childObservation, .cleanup]

/-! ## Reachable ERROR states -/

/-- Success frames already emitted, terminal reason, terminal stage. -/
abbrev GrammarKey := Nat × NativeReason × NativeStage

instance : LawfulBEq GrammarKey := inferInstanceAs (LawfulBEq (Nat × NativeReason × NativeStage))

instance : LawfulBEq (GrammarKey × Nat) :=
  inferInstanceAs (LawfulBEq ((Nat × NativeReason × NativeStage) × Nat))

/-- `_ERROR_GRAMMAR`: the achieved masks possible for each key. -/
def errorGrammar : List (GrammarKey × List Nat) :=
  [((0, .badDescriptorLayout, .descriptorValidation), [0x000]),
   ((0, .badCgroupDescriptor, .descriptorValidation), [0x000]),
   ((0, .badCgroupDescriptor, .cgroupValidation), [0x000]),
   ((0, .cgroupNotEmpty, .cgroupValidation), [0x000]),
   ((0, .internal, .startup), [0x000]),
   ((0, .ioFailure, .protocol), [0x000]),
   ((0, .cleanupIncomplete, .cleanup), [0x000]),
   ((1, .internal, .fixtureSetup), [0x000]),
   ((1, .resourceExhausted, .fixtureSetup), [0x000]),
   ((1, .resourceExhausted, .clone3), [0x000]),
   ((1, .clone3Unavailable, .clone3), [0x000]),
   ((1, .clone3Rejected, .clone3), [0x000]),
   ((1, .pidfdUnavailable, .clone3), [0x0C1]),
   ((1, .childSetupFailed, .childReady), [0x0C3]),
   ((1, .childObservationFailed, .childReady), [0x0C3]),
   ((1, .timeout, .childReady), [0x0C3]),
   ((1, .protocolInput, .protocol), [0x000, 0x0C3, 0x1C3]),
   ((1, .ioFailure, .fixtureSetup), [0x000, 0x0C3]),
   ((1, .ioFailure, .childReady), [0x0C3, 0x1C3]),
   ((1, .ioFailure, .protocol), [0x1C3]),
   ((1, .cleanupIncomplete, .cleanup),
     [0x000, 0x001, 0x041, 0x081, 0x0C1, 0x003, 0x043, 0x083, 0x0C3, 0x103, 0x143, 0x183, 0x1C3]),
   ((2, .pidfdSignalFailed, .pidfdSignal), [0x1C3]),
   ((2, .childObservationFailed, .pidfdSignal), [0x1C7, 0x1CF]),
   ((2, .timeout, .pidfdSignal), [0x1C7]),
   ((2, .protocolInput, .protocol), [0x1C7, 0x1CF]),
   ((2, .ioFailure, .pidfdSignal), [0x1C7, 0x1CF]),
   ((2, .ioFailure, .protocol), [0x1CF]),
   ((2, .cleanupIncomplete, .cleanup),
     [0x103, 0x143, 0x183, 0x1C3, 0x107, 0x147, 0x187, 0x1C7, 0x10F, 0x14F, 0x18F, 0x1CF]),
   ((3, .cgroupKillFailed, .cgroupKill), [0x1CF]),
   ((3, .childObservationFailed, .childObservation), [0x1DF]),
   ((3, .timeout, .childObservation), [0x1DF]),
   ((3, .protocolInput, .protocol), [0x1CF, 0x1DF, 0x1FF]),
   ((3, .ioFailure, .cgroupKill), [0x1CF]),
   ((3, .ioFailure, .childObservation), [0x1DF, 0x1FF]),
   ((3, .ioFailure, .protocol), [0x1FF]),
   ((3, .cleanupIncomplete, .cleanup),
     [0x10F, 0x14F, 0x18F, 0x1CF, 0x11F, 0x15F, 0x19F, 0x1DF, 0x1BF, 0x1FF]),
   ((4, .childReapFailed, .childReap), [0x1FF]),
   ((4, .internal, .cleanup), [0x1FF]),
   ((4, .protocolInput, .protocol), [0x1FF]),
   ((4, .ioFailure, .cleanup), [0x1FF]),
   ((4, .cleanupIncomplete, .cleanup), [0x1BF, 0x1FF])]

def zeroErrnoErrorKeys : List GrammarKey :=
  (errorGrammar.map (·.1)).filter
      (fun key => key.2.1 ∈ [NativeReason.cgroupNotEmpty, .protocolInput, .timeout]) ++
    [(1, .childObservationFailed, .childReady), (4, .internal, .cleanup)]

def zeroErrnoErrorStates : List (GrammarKey × Nat) :=
  [((2, .childObservationFailed, .pidfdSignal), 0x1CF)]

def linuxEnosys : Nat := 38
def linuxCloneResourceErrnos : List Nat := [11, 12, 23, 24]
def linuxClassifiedCloneErrnos : List Nat := linuxCloneResourceErrnos ++ [linuxEnosys]

def nonzeroErrnoErrorStates : List (GrammarKey × Nat) :=
  [((0, .ioFailure, .protocol), 0x000),
   ((1, .ioFailure, .protocol), 0x1C3),
   ((2, .ioFailure, .protocol), 0x1CF),
   ((3, .ioFailure, .protocol), 0x1FF),
   ((1, .ioFailure, .fixtureSetup), 0x000),
   ((1, .ioFailure, .fixtureSetup), 0x0C3),
   ((1, .ioFailure, .childReady), 0x1C3),
   ((2, .ioFailure, .pidfdSignal), 0x1C7),
   ((3, .ioFailure, .cgroupKill), 0x1CF),
   ((3, .ioFailure, .childObservation), 0x1FF),
   ((4, .ioFailure, .cleanup), 0x1FF),
   ((1, .resourceExhausted, .fixtureSetup), 0x000),
   ((3, .cgroupKillFailed, .cgroupKill), 0x1CF),
   ((0, .cleanupIncomplete, .cleanup), 0x000),
   ((1, .cleanupIncomplete, .cleanup), 0x000),
   ((1, .cleanupIncomplete, .cleanup), 0x0C1),
   ((1, .cleanupIncomplete, .cleanup), 0x0C3),
   ((1, .cleanupIncomplete, .cleanup), 0x1C3),
   ((2, .cleanupIncomplete, .cleanup), 0x1C3),
   ((2, .cleanupIncomplete, .cleanup), 0x1C7),
   ((2, .cleanupIncomplete, .cleanup), 0x1CF),
   ((3, .cleanupIncomplete, .cleanup), 0x1CF),
   ((3, .cleanupIncomplete, .cleanup), 0x1DF),
   ((3, .cleanupIncomplete, .cleanup), 0x1FF),
   ((4, .cleanupIncomplete, .cleanup), 0x1FF)]

def exitCodeForReason (reason : NativeReason) : Except String NativeExitCode :=
  if NativeReason.badArgc.code ≤ reason.code ∧ reason.code ≤ NativeReason.cgroupNotEmpty.code then
    .ok .startup
  else if NativeReason.protocolInput.code ≤ reason.code ∧
      reason.code ≤ NativeReason.peerClosed.code then
    .ok .protocol
  else if NativeReason.resourceExhausted.code ≤ reason.code ∧
      reason.code ≤ NativeReason.childReapFailed.code then
    .ok .kernel
  else if reason = .timeout then .ok .timeout
  else if reason = .cleanupIncomplete then .ok .cleanup
  else if reason = .ioFailure then .ok .kernel
  else if reason = .internal then .ok .internal
  else .error "native error frame has no failure reason"

/-! ## Records -/

/-- The bytes `[offset, offset + size)` of a payload. -/
def wireField (payload : List UInt8) (offset size : Nat) : List UInt8 :=
  (payload.drop offset).take size

def decodeRecord (record : InertNativeSocketRecord) : Except String InertNativeFrame :=
  if record.messageTruncated || record.controlTruncated then
    .error "native record was truncated"
  else if record.ancillaryPresent then
    .error "native record carried ancillary data"
  else if record.payload.length ≠ protocolFrameSize then
    .error "native record has an invalid size"
  else if wireField record.payload 0 8 ≠ protocolMagic then
    .error "native record has invalid magic"
  else if beNat (wireField record.payload 8 2) ≠ protocolVersion then
    .error "native record has an invalid version"
  else if beNat (wireField record.payload 12 4) ≠ protocolPayloadSize then
    .error "native record has an invalid payload size"
  else if wireField record.payload 56 8 ≠ List.replicate 8 0 then
    .error "native record has nonzero reserved bytes"
  else if beNat (wireField record.payload 36 4) > protocolMaxErrno then
    .error "native record errno exceeds the fixed bound"
  else
    match NativeFrameType.ofCode (beNat (wireField record.payload 10 2)),
      NativeStatus.ofCode (beNat (wireField record.payload 24 4)),
      NativeStage.ofCode (beNat (wireField record.payload 28 4)),
      NativeReason.ofCode (beNat (wireField record.payload 32 4)) with
    | some frameType, some status, some stage, some reason =>
      .ok {
        frameType, status, stage, reason
        sequence := beNat (wireField record.payload 16 8)
        systemErrno := beNat (wireField record.payload 36 4)
        value0 := beNat (wireField record.payload 40 8)
        value1 := beNat (wireField record.payload 48 8) }
    | _, _, _, _ => .error "native record contains an unknown enum"

def validateSuccessFrame (frame : InertNativeFrame) (index : Nat) : Except String Unit :=
  if some frame.frameType ≠ successTypes[index]? then
    .error "native success frames are out of order"
  else if frame.status ≠ .ok then
    .error "native success frame has failure status"
  else if some frame.stage ≠ successStages[index]? then
    .error "native success frame has the wrong stage"
  else if frame.reason ≠ .none ∨ frame.systemErrno ≠ 0 then
    .error "native success frame contains failure fields"
  else if index = 0 then
    if ¬ (1 ≤ frame.value0 ∧ frame.value0 ≤ linuxMaxPid) ∨ frame.value1 ≠ 0 then
      .error "native hello frame has invalid values"
    else .ok ()
  else if index = 1 then
    if ¬ (1 ≤ frame.value0 ∧ frame.value0 ≤ linuxMaxPid) then
      .error "native child-ready frame has an invalid pid"
    else if frame.value1 ≠ requiredCloneFlags then
      .error "native child-ready frame has invalid clone3 flags"
    else .ok ()
  else if index = 2 then
    if frame.value0 ≠ cldStopped ∨ frame.value1 ≠ sigstop then
      .error "native child-signaled frame is invalid"
    else .ok ()
  else if index = 3 then
    if frame.value0 ≠ cldKilled ∨ frame.value1 ≠ sigkill then
      .error "native child-observed frame is invalid"
    else .ok ()
  else if frame.value0 ≠ achievedResultMask ∨ frame.value1 = 0 then
    .error "native final frame is invalid"
  else .ok ()

def validateErrorFrame (frame : InertNativeFrame) (prefixLength : Nat) (returncode : Int) :
    Except String NativeExitCode :=
  let key : GrammarKey := (prefixLength, frame.reason, frame.stage)
  if frame.status ≠ .failed then
    .error "native error frame has success status"
  else if frame.reason = .none then
    .error "native error frame has no failure reason"
  else if frame.value0 &&& achievedResultMask ≠ frame.value0 then
    .error "native error frame has unknown result flags"
  else if frame.value1 ≠ 0 then
    .error "native error frame has a nonzero reserved value"
  else
    match errorGrammar.lookup key with
    | none => .error "native error reason and stage are impossible after its success prefix"
    | some allowedMasks =>
      if frame.value0 ∉ allowedMasks then
        .error "native error mask is impossible for its prefix, reason, and stage"
      else if key ∈ zeroErrnoErrorKeys ∧ frame.systemErrno ≠ 0 then
        .error "native error errno is impossible for its prefix, reason, and stage"
      else if (key, frame.value0) ∈ zeroErrnoErrorStates ∧ frame.systemErrno ≠ 0 then
        .error "native error errno is impossible for its exact achieved state"
      else if frame.reason = .clone3Unavailable ∧ frame.systemErrno ≠ linuxEnosys then
        .error "native clone3-unavailable errno is impossible"
      else if frame.reason = .resourceExhausted ∧ frame.stage = .clone3 ∧
          frame.systemErrno ∉ linuxCloneResourceErrnos then
        .error "native clone3 resource errno is impossible"
      else if frame.reason = .clone3Rejected ∧
          (frame.systemErrno = 0 ∨ frame.systemErrno ∈ linuxClassifiedCloneErrnos) then
        .error "native clone3-rejected errno is impossible"
      else if frame.reason = .pidfdSignalFailed ∧ frame.systemErrno = 0 then
        .error "native pidfd-signal errno is impossible"
      else if (key, frame.value0) ∈ nonzeroErrnoErrorStates ∧ frame.systemErrno = 0 then
        .error "native I/O failure is missing its required Linux errno"
      else
        match exitCodeForReason frame.reason with
        | .error e => .error e
        | .ok expectedExit =>
          if returncode ≠ expectedExit.code then
            .error "native error exit code does not match its reason"
          else .ok expectedExit

/-- The first loop of `parse_inert_native_transcript`: decode every record and
check that the sequence numbers are contiguous from `index`. -/
def decodeRecords : Nat → List InertNativeSocketRecord → Except String (List InertNativeFrame)
  | _, [] => .ok []
  | index, record :: records =>
    match decodeRecord record with
    | .error e => .error e
    | .ok frame =>
      if frame.sequence ≠ index then .error "native frame sequence is not contiguous"
      else
        match decodeRecords (index + 1) records with
        | .error e => .error e
        | .ok frames => .ok (frame :: frames)

/-- The second loop of `parse_inert_native_transcript`, from `index` on, with
the success return after it. -/
def validateFrames (returncode launcherPid : Int) (frames : List InertNativeFrame) :
    Nat → Option Int → List InertNativeFrame → Except String InertNativeTranscript
  | _, childPid, [] =>
    if frames.length ≠ successTypes.length then
      .error "native success transcript is incomplete"
    else if returncode ≠ NativeExitCode.ok.code then
      .error "native success transcript has a nonzero exit code"
    else
      .ok {
        succeeded := true, frames, launcherExitCode := .ok, launcherPid, childPid
        achievedResultMask := (frames.getLast?.map (·.value0)).getD 0
        elapsedNs := frames.getLast?.map (·.value1)
        failureStage := none, failureReason := none, failureErrno := none }
  | index, childPid, frame :: rest =>
    if frame.frameType = .error then
      if index ≥ successTypes.length then
        .error "native error frame followed a final frame"
      else if index + 1 ≠ frames.length then
        .error "native error frame is not terminal"
      else
        match validateErrorFrame frame index returncode with
        | .error e => .error e
        | .ok exitCode =>
          .ok {
            succeeded := false, frames, launcherExitCode := exitCode, launcherPid, childPid
            achievedResultMask := frame.value0, elapsedNs := none
            failureStage := some frame.stage, failureReason := some frame.reason
            failureErrno := some frame.systemErrno }
    else if index ≥ successTypes.length then
      .error "native transcript continued after success"
    else
      match validateSuccessFrame frame index with
      | .error e => .error e
      | .ok () =>
        if index = 0 ∧ (frame.value0 : Int) ≠ launcherPid then
          .error "native hello pid does not match the spawned launcher"
        else if index = 1 ∧ (frame.value0 : Int) = launcherPid then
          .error "native child pid must differ from the launcher pid"
        else
          validateFrames returncode launcherPid frames (index + 1)
            (if index = 1 then some (frame.value0 : Int) else childPid) rest

def parseInertNativeTranscript (records : List InertNativeSocketRecord) (returncode : Int)
    (eofObserved : Bool) (expectedLauncherPid : Int) : Except String InertNativeTranscript :=
  if ¬ eofObserved then
    .error "native transcript must include an observed socket EOF"
  else if ¬ (1 ≤ expectedLauncherPid ∧ expectedLauncherPid ≤ linuxMaxPid) then
    .error "expected native launcher pid is invalid"
  else if records.length = 0 then
    .error "native transcript is empty"
  else if records.length > protocolMaxFrames then
    .error "native transcript exceeds the frame bound"
  else
    match decodeRecords 0 records with
    | .error e => .error e
    | .ok frames => validateFrames returncode expectedLauncherPid frames 0 none frames

end Bpe.Native
