import Bpe.Lib.BigEndian

/-!
# The inert-fixture wire protocol

The enums and constants shared by the C launcher (`protocol.h`) and the
Python transcript parser (`inert_native_protocol.py`), which assign the same
numbers, and the C frame encoder (`wire.h`). A frame is 64 bytes:

| offset | 0 | 8 | 10 | 12 | 16 | 24 | 28 | 32 | 36 | 40 | 48 | 56 |
|---|---|---|---|---|---|---|---|---|---|---|---|---|
| field | magic | version | type | length | sequence | status | stage | reason | errno | value0 | value1 | 0 |
-/

namespace Bpe.Native

def protocolMagic : List UInt8 := [0x42, 0x50, 0x45, 0x49, 0x46, 0x58, 0x31, 0x00]
def protocolVersion : Nat := 1
def protocolFrameSize : Nat := 64
def protocolPayloadSize : Nat := 40
def protocolMaxFrames : Nat := 8
def protocolMaxErrno : Nat := 4095

/-- The largest PID Linux allocates: `pid_max` is at most `2 ^ 22`, and is
itself the wrap point. -/
def linuxMaxPid : Nat := 2 ^ 22 - 1

def clonePidfd : Nat := 0x1000
def cloneIntoCgroup : Nat := 0x200000000
def requiredCloneFlags : Nat := clonePidfd ||| cloneIntoCgroup
def cldKilled : Nat := 2
def cldStopped : Nat := 5
def sigkill : Nat := 9
def sigstop : Nat := 19

inductive NativeFrameType where
  | hello | childReady | childSignaled | childObserved | final | error
  deriving DecidableEq

inductive NativeStatus where
  | ok | failed
  deriving DecidableEq

inductive NativeStage where
  | startup | descriptorValidation | cgroupValidation | fixtureSetup | clone3 | childReady
  | pidfdSignal | cgroupKill | childObservation | childReap | cleanup | protocol
  deriving DecidableEq

inductive NativeReason where
  | none | badArgc | badArgv | nonemptyEnvironment | badDescriptorLayout | badStdio
  | badControlSocket | badCgroupDescriptor | cgroupNotEmpty | protocolInput | peerClosed
  | resourceExhausted | clone3Unavailable | clone3Rejected | pidfdUnavailable
  | childSetupFailed | pidfdSignalFailed | cgroupKillFailed | childObservationFailed
  | childReapFailed | timeout | cleanupIncomplete | ioFailure | internal
  deriving DecidableEq

inductive NativeExitCode where
  | ok | startup | protocol | kernel | timeout | cleanup | internal
  deriving DecidableEq

def NativeFrameType.code : NativeFrameType → Nat
  | hello => 1 | childReady => 2 | childSignaled => 3 | childObserved => 4 | final => 5
  | error => 6

def NativeStatus.code : NativeStatus → Nat
  | ok => 0 | failed => 1

def NativeStage.code : NativeStage → Nat
  | startup => 1 | descriptorValidation => 2 | cgroupValidation => 3 | fixtureSetup => 4
  | clone3 => 5 | childReady => 6 | pidfdSignal => 7 | cgroupKill => 8 | childObservation => 9
  | childReap => 10 | cleanup => 11 | protocol => 12

def NativeReason.code : NativeReason → Nat
  | none => 0 | badArgc => 1 | badArgv => 2 | nonemptyEnvironment => 3
  | badDescriptorLayout => 4 | badStdio => 5 | badControlSocket => 6 | badCgroupDescriptor => 7
  | cgroupNotEmpty => 8 | protocolInput => 9 | peerClosed => 10 | resourceExhausted => 11
  | clone3Unavailable => 12 | clone3Rejected => 13 | pidfdUnavailable => 14
  | childSetupFailed => 15 | pidfdSignalFailed => 16 | cgroupKillFailed => 17
  | childObservationFailed => 18 | childReapFailed => 19 | timeout => 20
  | cleanupIncomplete => 21 | ioFailure => 22 | internal => 23

def NativeExitCode.code : NativeExitCode → Int
  | ok => 0 | startup => 64 | protocol => 65 | kernel => 66 | timeout => 67 | cleanup => 68
  | internal => 69

def NativeFrameType.ofCode (n : Nat) : Option NativeFrameType :=
  [hello, childReady, childSignaled, childObserved, final, error].find? (·.code == n)

def NativeStatus.ofCode (n : Nat) : Option NativeStatus := [ok, failed].find? (·.code == n)

def NativeStage.ofCode (n : Nat) : Option NativeStage :=
  [startup, descriptorValidation, cgroupValidation, fixtureSetup, clone3, childReady, pidfdSignal,
    cgroupKill, childObservation, childReap, cleanup, protocol].find? (·.code == n)

def NativeReason.ofCode (n : Nat) : Option NativeReason :=
  [none, badArgc, badArgv, nonemptyEnvironment, badDescriptorLayout, badStdio, badControlSocket,
    badCgroupDescriptor, cgroupNotEmpty, protocolInput, peerClosed, resourceExhausted,
    clone3Unavailable, clone3Rejected, pidfdUnavailable, childSetupFailed, pidfdSignalFailed,
    cgroupKillFailed, childObservationFailed, childReapFailed, timeout, cleanupIncomplete,
    ioFailure, internal].find? (·.code == n)

theorem NativeFrameType.ofCode_eq_some {n : Nat} {x : NativeFrameType} :
    ofCode n = some x ↔ x.code = n := by
  constructor
  · intro h; simpa using List.find?_some h
  · rintro rfl; cases x <;> rfl

theorem NativeStatus.ofCode_eq_some {n : Nat} {x : NativeStatus} :
    ofCode n = some x ↔ x.code = n := by
  constructor
  · intro h; simpa using List.find?_some h
  · rintro rfl; cases x <;> rfl

theorem NativeStage.ofCode_eq_some {n : Nat} {x : NativeStage} :
    ofCode n = some x ↔ x.code = n := by
  constructor
  · intro h; simpa using List.find?_some h
  · rintro rfl; cases x <;> rfl

theorem NativeReason.ofCode_eq_some {n : Nat} {x : NativeReason} :
    ofCode n = some x ↔ x.code = n := by
  constructor
  · intro h; simpa using List.find?_some h
  · rintro rfl; cases x <;> rfl

/-! ## Achieved-result bits -/

def clone3IntoCgroupBit : Nat := 1 <<< 0
def pidfdCreatedBit : Nat := 1 <<< 1
def pidfdStopSentBit : Nat := 1 <<< 2
def pidfdStopObservedBit : Nat := 1 <<< 3
def liveCgroupKillBit : Nat := 1 <<< 4
def pidfdExitObservedBit : Nat := 1 <<< 5
def childReapedBit : Nat := 1 <<< 6
def cgroupEmptyBit : Nat := 1 <<< 7
def builtinNoexecBit : Nat := 1 <<< 8

def achievedResultMask : Nat :=
  clone3IntoCgroupBit ||| pidfdCreatedBit ||| pidfdStopSentBit ||| pidfdStopObservedBit |||
    liveCgroupKillBit ||| pidfdExitObservedBit ||| childReapedBit ||| cgroupEmptyBit |||
    builtinNoexecBit

example : achievedResultMask = 0x1ff := by decide

/-! ## Frames -/

structure InertNativeFrame where
  frameType : NativeFrameType
  sequence : Nat
  status : NativeStatus
  stage : NativeStage
  reason : NativeReason
  systemErrno : Nat
  value0 : Nat
  value1 : Nat
  deriving DecidableEq

/-- The fields fit the wire widths and the errno bound. -/
structure InertNativeFrame.Fits (f : InertNativeFrame) : Prop where
  sequence : f.sequence < 2 ^ 64
  systemErrno : f.systemErrno ≤ protocolMaxErrno
  value0 : f.value0 < 2 ^ 64
  value1 : f.value1 < 2 ^ 64

def bpeInertPutBe16 (value : Nat) : List UInt8 :=
  [UInt8.ofNat (value >>> 8), UInt8.ofNat value]

def bpeInertPutBe32 (value : Nat) : List UInt8 :=
  [UInt8.ofNat (value >>> 24), UInt8.ofNat (value >>> 16), UInt8.ofNat (value >>> 8),
    UInt8.ofNat value]

def bpeInertPutBe64 (value : Nat) : List UInt8 :=
  [UInt8.ofNat (value >>> 56), UInt8.ofNat (value >>> 48), UInt8.ofNat (value >>> 40),
    UInt8.ofNat (value >>> 32), UInt8.ofNat (value >>> 24), UInt8.ofNat (value >>> 16),
    UInt8.ofNat (value >>> 8), UInt8.ofNat value]

theorem bpeInertPutBe16_eq (value : Nat) : bpeInertPutBe16 value = beBytes 2 value := by
  simp [bpeInertPutBe16, beBytes, Nat.shiftRight_eq_div_pow]

theorem bpeInertPutBe32_eq (value : Nat) : bpeInertPutBe32 value = beBytes 4 value := by
  simp [bpeInertPutBe32, beBytes, Nat.shiftRight_eq_div_pow, Nat.div_div_eq_div_mul]

theorem bpeInertPutBe64_eq (value : Nat) : bpeInertPutBe64 value = beBytes 8 value := by
  simp [bpeInertPutBe64, beBytes, Nat.shiftRight_eq_div_pow, Nat.div_div_eq_div_mul]

/-- Overwrite `output` at `offset`. -/
def putAt (output : List UInt8) (offset : Nat) (bytes : List UInt8) : List UInt8 :=
  output.take offset ++ bytes ++ output.drop (offset + bytes.length)

/-- Writing over the zero tail of a partly written frame. -/
theorem putAt_zeros {pre bytes : List UInt8} {offset k : Nat} (h : offset = pre.length) :
    putAt (pre ++ List.replicate k 0) offset bytes =
      (pre ++ bytes) ++ List.replicate (k - bytes.length) 0 := by
  subst h
  simp [putAt, List.drop_append]

/-- `bpe_inert_encode_frame`: zero the frame, then write each field at its
offset. -/
def bpeInertEncodeFrame (type sequence status stage reason errorNumber value0 value1 : Nat) :
    List UInt8 :=
  let output := List.replicate protocolFrameSize 0
  let output := putAt output 0 protocolMagic
  let output := putAt output 8 (bpeInertPutBe16 protocolVersion)
  let output := putAt output 10 (bpeInertPutBe16 type)
  let output := putAt output 12 (bpeInertPutBe32 protocolPayloadSize)
  let output := putAt output 16 (bpeInertPutBe64 sequence)
  let output := putAt output 24 (bpeInertPutBe32 status)
  let output := putAt output 28 (bpeInertPutBe32 stage)
  let output := putAt output 32 (bpeInertPutBe32 reason)
  let output := putAt output 36 (bpeInertPutBe32 errorNumber)
  let output := putAt output 40 (bpeInertPutBe64 value0)
  putAt output 48 (bpeInertPutBe64 value1)

theorem bpeInertEncodeFrame_eq (type sequence status stage reason errorNumber value0 value1 : Nat) :
    bpeInertEncodeFrame type sequence status stage reason errorNumber value0 value1 =
      protocolMagic ++ beBytes 2 protocolVersion ++ beBytes 2 type ++
        beBytes 4 protocolPayloadSize ++ beBytes 8 sequence ++ beBytes 4 status ++
        beBytes 4 stage ++ beBytes 4 reason ++ beBytes 4 errorNumber ++ beBytes 8 value0 ++
        beBytes 8 value1 ++ List.replicate 8 0 := by
  have hmagic : protocolMagic.length = 8 := rfl
  have hzero : List.replicate protocolFrameSize (0 : UInt8) = [] ++ List.replicate 64 0 := rfl
  simp only [bpeInertEncodeFrame, bpeInertPutBe16_eq, bpeInertPutBe32_eq, bpeInertPutBe64_eq, hzero]
  repeat rw [putAt_zeros (by simp [hmagic])]
  simp [hmagic]

/-- The bytes the launcher sends for a frame. -/
def InertNativeFrame.encode (f : InertNativeFrame) : List UInt8 :=
  bpeInertEncodeFrame f.frameType.code f.sequence f.status.code f.stage.code f.reason.code
    f.systemErrno f.value0 f.value1

end Bpe.Native
