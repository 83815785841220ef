import Bpe.Lib.Except
import Bpe.Models.InertError
import Bpe.Native.Parser

/-!
# The native observation of an orchestration

The observation record of `inert_orchestration.py`, how it is built from a run
of the launcher, and what its validator checks. Literal fields have one value and
are left out, and payloads are bytes instead of their hexadecimal text. A
refused value carries the validator's message, or the name of the field that is
out of range.
-/

namespace Bpe.Orchestration

open Models Native

inductive OrchestrationFailureReason where
  | attemptConsumptionAmbiguous | attemptReceiptVerificationFailed | deadlineExceeded
  | cgroupRetentionFailed | cgroupHandoffFailed | launcherSetupFailed | launcherSpawnFailed
  | transcriptCollectionFailed | controlProtocolFailed | launcherWaitFailed
  | nativeTranscriptRejected | cleanupIncomplete | unexpectedError

def boundedErrno (value : Option Int) : Option Int :=
  value.filter fun n => 0 ≤ n && n ≤ 4095

def exceptionErrno : InertError → Option Int
  | .component (.os _ errno) => boundedErrno errno
  | .component (.cgroup _ cause) => boundedErrno cause
  | .component (.other _ cause) => boundedErrno cause
  | _ => none

/-! ## The native observation -/

structure LinuxInertFixtureNativeSocketRecord where
  payload : List UInt8
  messageTruncated : Bool
  controlTruncated : Bool
  senderCredentialsPresent : Bool
  senderPid : Option Int
  senderUid : Option Int
  senderGid : Option Int
  unexpectedAncillaryPresent : Bool

def inUint32 (n : Int) : Bool := 0 ≤ n && n ≤ 2 ^ 32 - 1

def LinuxInertFixtureNativeSocketRecord.validate (r : LinuxInertFixtureNativeSocketRecord) :
    Except String Unit :=
  let valuesPresent := r.senderPid.isSome
  let absent := [r.senderPid.isNone, r.senderUid.isNone, r.senderGid.isNone]
  refuse [
    (!(r.payload.length ≤ protocolFrameSize + 1), "payload_hex"),
    (!(r.senderPid.all fun n => -(2 ^ 31) ≤ n && n ≤ 2 ^ 31 - 1), "sender_pid"),
    (!(r.senderUid.all inUint32), "sender_uid"),
    (!(r.senderGid.all inUint32), "sender_gid"),
    (absent.any id != absent.all id,
      "sender credential values must be all present or all absent"),
    (valuesPresent && !r.senderCredentialsPresent,
      "sender credential values require ancillary presence"),
    (r.senderCredentialsPresent && !valuesPresent && !r.unexpectedAncillaryPresent,
      "unparsed sender credentials require unexpected ancillary evidence")]

/-- `as_protocol_record`, for the sender's PID, UID and GID. -/
def LinuxInertFixtureNativeSocketRecord.asProtocolRecord (r : LinuxInertFixtureNativeSocketRecord)
    (expected : Int × Int × Int) : InertNativeSocketRecord :=
  let credentialsAreExact := r.senderCredentialsPresent &&
    (r.senderPid, r.senderUid, r.senderGid) ==
      (some expected.1, some expected.2.1, some expected.2.2)
  { payload := r.payload
    messageTruncated := r.messageTruncated
    controlTruncated := r.controlTruncated
    ancillaryPresent := r.unexpectedAncillaryPresent || !credentialsAreExact }

/-- What an observation's digest covers. -/
structure ObservationFields where
  launcherPid : Int
  expectedSenderUid : Int
  expectedSenderGid : Int
  launcherReturncode : Option Int
  eofObserved : Bool
  records : List LinuxInertFixtureNativeSocketRecord

inductive TranscriptReplay where
  | accepted | rejected | notReplayable
  deriving DecidableEq

/-- `name.lower()` -/
def nativeStageName : NativeStage → String
  | .startup => "startup"
  | .descriptorValidation => "descriptor_validation"
  | .cgroupValidation => "cgroup_validation"
  | .fixtureSetup => "fixture_setup"
  | .clone3 => "clone3"
  | .childReady => "child_ready"
  | .pidfdSignal => "pidfd_signal"
  | .cgroupKill => "cgroup_kill"
  | .childObservation => "child_observation"
  | .childReap => "child_reap"
  | .cleanup => "cleanup"
  | .protocol => "protocol"

/-- `name.lower()` -/
def nativeReasonName : NativeReason → String
  | .none => "none"
  | .badArgc => "bad_argc"
  | .badArgv => "bad_argv"
  | .nonemptyEnvironment => "nonempty_environment"
  | .badDescriptorLayout => "bad_descriptor_layout"
  | .badStdio => "bad_stdio"
  | .badControlSocket => "bad_control_socket"
  | .badCgroupDescriptor => "bad_cgroup_descriptor"
  | .cgroupNotEmpty => "cgroup_not_empty"
  | .protocolInput => "protocol_input"
  | .peerClosed => "peer_closed"
  | .resourceExhausted => "resource_exhausted"
  | .clone3Unavailable => "clone3_unavailable"
  | .clone3Rejected => "clone3_rejected"
  | .pidfdUnavailable => "pidfd_unavailable"
  | .childSetupFailed => "child_setup_failed"
  | .pidfdSignalFailed => "pidfd_signal_failed"
  | .cgroupKillFailed => "cgroup_kill_failed"
  | .childObservationFailed => "child_observation_failed"
  | .childReapFailed => "child_reap_failed"
  | .timeout => "timeout"
  | .cleanupIncomplete => "cleanup_incomplete"
  | .ioFailure => "io_failure"
  | .internal => "internal"

/-- What an accepted transcript says. -/
structure Projection where
  transcriptSucceeded : Option Bool
  launcherExitCode : Option Int
  fixtureChildPid : Option Int
  achievedResultMask : Option Nat
  elapsedNs : Option Nat
  failureStage : Option NativeStage
  failureReason : Option NativeReason
  failureErrno : Option Nat
  deriving DecidableEq

def Projection.none : Projection :=
  ⟨.none, .none, .none, .none, .none, .none, .none, .none⟩

def Projection.ofTranscript (t : InertNativeTranscript) : Projection where
  transcriptSucceeded := t.succeeded
  launcherExitCode := t.launcherExitCode.code
  fixtureChildPid := t.childPid
  achievedResultMask := t.achievedResultMask
  elapsedNs := t.elapsedNs
  failureStage := t.failureStage
  failureReason := t.failureReason
  failureErrno := t.failureErrno

structure LinuxInertFixtureNativeObservation (D : Type) extends ObservationFields, Projection where
  observationSha256 : D
  transcriptReplay : TranscriptReplay

def ObservationFields.replay (f : ObservationFields) (returncode : Int) :
    Except String InertNativeTranscript :=
  parseInertNativeTranscript
    (f.records.map (·.asProtocolRecord (f.launcherPid, f.expectedSenderUid, f.expectedSenderGid)))
    returncode f.eofObserved f.launcherPid

/-- `_native_observation_sha256` -/
structure Crypto (D : Type) where
  observationSha256 : ObservationFields → D

section Validators

variable {D : Type} [DecidableEq D] (K : Crypto D)

def inPidRange (pid : Int) : Bool := 1 ≤ pid && pid ≤ linuxMaxPid

/-- The ranges of an observation's fields. -/
def LinuxInertFixtureNativeObservation.ranges (o : LinuxInertFixtureNativeObservation D) :
    List (Bool × String) := [
  (!inPidRange o.launcherPid, "launcher_pid"),
  (!inUint32 o.expectedSenderUid, "expected_sender_uid"),
  (!inUint32 o.expectedSenderGid, "expected_sender_gid"),
  (!(o.launcherReturncode.all fun n => -255 ≤ n && n ≤ 255), "launcher_returncode"),
  (!(o.records.length ≤ protocolMaxFrames && o.records.all (·.validate.isOk)), "records"),
  (!(o.launcherExitCode.all fun n => 0 ≤ n && n ≤ 255), "launcher_exit_code"),
  (!(o.fixtureChildPid.all inPidRange), "fixture_child_pid"),
  (!(o.achievedResultMask.all (· ≤ achievedResultMask)), "achieved_result_mask"),
  (!(o.elapsedNs.all (1 ≤ ·)), "elapsed_ns"),
  (!(o.failureErrno.all (· ≤ protocolMaxErrno)), "failure_errno")]

/-- `raw_observation_replays_exactly`, after the ranges of the fields. -/
def LinuxInertFixtureNativeObservation.validate (o : LinuxInertFixtureNativeObservation D) :
    Except String Unit := do
  refuse o.ranges
  refuse [(decide (o.observationSha256 ≠ K.observationSha256 o.toObservationFields),
    "native observation digest is inconsistent")]
  match o.launcherReturncode with
  | none => refuse [(decide (o.transcriptReplay ≠ .notReplayable ∨ o.toProjection ≠ .none),
      "an unreaped launcher cannot claim transcript replay")]
  | some returncode =>
    match o.toObservationFields.replay returncode with
    | .error _ => refuse [(decide (o.transcriptReplay ≠ .rejected ∨ o.toProjection ≠ .none),
        "rejected native replay contains a derived projection")]
    | .ok transcript => refuse [(decide (o.transcriptReplay ≠ .accepted ∨
          o.toProjection ≠ .ofTranscript transcript),
        "accepted native replay projection is inconsistent")]

/-! ## Building an observation -/

/-- What `_NativeRun` says of the launcher. -/
structure NativeRun where
  pid : Option Int
  expectedSenderUid : Int
  expectedSenderGid : Int
  returncode : Option Int
  records : List LinuxInertFixtureNativeSocketRecord
  eofObserved : Bool

def validationError : InertError := .component (.other "ValidationError" none)

def buildNativeObservation (run : NativeRun) :
    Except InertError (Option (LinuxInertFixtureNativeObservation D)) :=
  match run.pid with
  | none => .ok none
  | some pid =>
    let fields : ObservationFields :=
      ⟨pid, run.expectedSenderUid, run.expectedSenderGid, run.returncode, run.eofObserved,
        run.records⟩
    let (replay, projection) : TranscriptReplay × Projection :=
      match run.returncode with
      | none => (.notReplayable, .none)
      | some returncode =>
        match fields.replay returncode with
        | .error _ => (.rejected, .none)
        | .ok transcript => (.accepted, .ofTranscript transcript)
    let observation : LinuxInertFixtureNativeObservation D :=
      { fields, projection with
        observationSha256 := K.observationSha256 fields
        transcriptReplay := replay }
    if (observation.validate K).isOk then .ok (some observation) else .error validationError

end Validators

end Bpe.Orchestration
