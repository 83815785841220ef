import Bpe.Native.Transcript
import Bpe.Orchestration.Model

/-!
# Native observations replay

`_build_native_observation` projects the transcript parser's result, and the
model that it builds parses the raw records again. The two agree, the projected
values lie in the ranges that the model declares, and no other projection of the
same records is valid.
-/

namespace Bpe.Orchestration

open Models Native Option

variable {D : Type}

/-- `os.waitstatus_to_exitcode`; a stopped process has no exit code. -/
def waitstatusToExitcode (status : Nat) : Option Int :=
  if status % 128 = 0 then some (status / 256 % 256 : Nat)
  else if status % 128 ≠ 127 then some (-(status % 128 : Nat))
  else none

theorem waitstatusToExitcode_bounds {status : Nat} {code : Int}
    (h : waitstatusToExitcode status = some code) : -255 ≤ code ∧ code ≤ 255 := by
  unfold waitstatusToExitcode at h
  split at h
  · cases h; omega
  · split at h
    · cases h; omega
    · cases h

def nativeStageNames : List String :=
  ["startup", "descriptor_validation", "cgroup_validation", "fixture_setup", "clone3",
    "child_ready", "pidfd_signal", "cgroup_kill", "child_observation", "child_reap", "cleanup",
    "protocol"]

def nativeReasonNames : List String :=
  ["none", "bad_argc", "bad_argv", "nonempty_environment", "bad_descriptor_layout", "bad_stdio",
    "bad_control_socket", "bad_cgroup_descriptor", "cgroup_not_empty", "protocol_input",
    "peer_closed", "resource_exhausted", "clone3_unavailable", "clone3_rejected",
    "pidfd_unavailable", "child_setup_failed", "pidfd_signal_failed", "cgroup_kill_failed",
    "child_observation_failed", "child_reap_failed", "timeout", "cleanup_incomplete",
    "io_failure", "internal"]

theorem nativeStageName_mem (s : NativeStage) : nativeStageName s ∈ nativeStageNames := by
  cases s <;> decide

theorem nativeReasonName_mem (r : NativeReason) : nativeReasonName r ∈ nativeReasonNames := by
  cases r <;> decide

/-! ## The projection -/

/-- What the raw fields say of the transcript. -/
def ObservationFields.projected (f : ObservationFields) : TranscriptReplay × Projection :=
  match f.launcherReturncode with
  | none => (.notReplayable, .none)
  | some returncode =>
    match f.replay returncode with
    | .error _ => (.rejected, .none)
    | .ok transcript => (.accepted, .ofTranscript transcript)

def NativeRun.fields (run : NativeRun) (pid : Int) : ObservationFields :=
  ⟨pid, run.expectedSenderUid, run.expectedSenderGid, run.returncode, run.eofObserved,
    run.records⟩

theorem NativeRun.projected_fields (run : NativeRun) (pid : Int) : (run.fields pid).projected =
    match run.returncode with
    | none => (.notReplayable, .none)
    | some code =>
      match parseInertNativeTranscript (run.records.map (·.asProtocolRecord
          (pid, run.expectedSenderUid, run.expectedSenderGid))) code run.eofObserved pid with
      | .error _ => (.rejected, .none)
      | .ok transcript => (.accepted, .ofTranscript transcript) :=
  rfl

def ObservationFields.observation (K : Crypto D) (f : ObservationFields) :
    LinuxInertFixtureNativeObservation D :=
  { f, f.projected.2 with
    observationSha256 := K.observationSha256 f
    transcriptReplay := f.projected.1 }

theorem exitCode_bounds (code : NativeExitCode) : 0 ≤ code.code ∧ code.code ≤ 255 := by
  cases code <;> decide

/-- The projected values are in the ranges that the observation declares. -/
theorem projected_ranges (K : Crypto D) {f : ObservationFields} (hpid : inPidRange f.launcherPid)
    (huid : inUint32 f.expectedSenderUid) (hgid : inUint32 f.expectedSenderGid)
    (hcode : ∀ n ∈ f.launcherReturncode, -255 ≤ n ∧ n ≤ 255)
    (hlen : f.records.length ≤ protocolMaxFrames)
    (hrecords : ∀ r ∈ f.records, r.validate = .ok ()) :
    refuse (f.observation K).ranges = .ok () := by
  have hcode' : f.launcherReturncode.all fun n => decide (-255 ≤ n) && decide (n ≤ 255) := by
    rw [all_eq_true]
    intro n hn
    simpa using hcode n hn
  have hrecords' : f.records.all (·.validate.isOk) := by
    rw [List.all_eq_true]
    intro r hr
    exact isOk_iff.2 (hrecords r hr)
  -- Only an accepted transcript projects any value.
  have hprojected : f.projected.2 = .none ∨
      ∃ transcript, f.projected.2 = .ofTranscript transcript ∧ BoundedTranscript transcript := by
    unfold ObservationFields.projected
    split
    · exact .inl rfl
    · next returncode _ =>
      cases hreplay : f.replay returncode with
      | error e => exact .inl rfl
      | ok transcript => exact .inr ⟨transcript, rfl, parse_bounded hreplay⟩
  unfold LinuxInertFixtureNativeObservation.ranges ObservationFields.observation
  rcases hprojected with hnone | ⟨transcript, hsome, hbounds⟩
  · rw [hnone]
    simp [refuse, hpid, huid, hgid, hcode', hlen, hrecords', Projection.none]
  · have hexit := exitCode_bounds transcript.launcherExitCode
    have hmask := hbounds.mask
    have hchild : transcript.childPid.all inPidRange := by
      rw [all_eq_true]
      intro n hn
      simpa [inPidRange] using hbounds.childPid n hn
    have helapsed : transcript.elapsedNs.all fun n => decide (1 ≤ n) := by
      rw [all_eq_true]
      intro n hn
      exact decide_eq_true (hbounds.elapsedNs n hn).1
    have herrno : transcript.failureErrno.all fun n => decide (n ≤ protocolMaxErrno) := by
      rw [all_eq_true]
      intro n hn
      exact decide_eq_true (hbounds.failureErrno n hn)
    rw [hsome]
    simp [refuse, hpid, huid, hgid, hcode', hlen, hrecords', Projection.ofTranscript, hexit, hmask,
      hchild, helapsed, herrno]

section Validate

variable [DecidableEq D] {K : Crypto D} {o : LinuxInertFixtureNativeObservation D}

/-- An observation is valid when its fields are in range, its digest is theirs and
its projection is what they say. -/
theorem validate_eq_ok : o.validate K = .ok () ↔ refuse o.ranges = .ok () ∧
    o.observationSha256 = K.observationSha256 o.toObservationFields ∧
    (o.transcriptReplay, o.toProjection) = o.toObservationFields.projected := by
  have hsingle : ∀ {p : Prop} [Decidable p] {message : String},
      refuse [(decide p, message)] = .ok () ↔ ¬ p := by
    intro p _ message
    simp [refuse_eq_ok]
  unfold LinuxInertFixtureNativeObservation.validate ObservationFields.projected
  rw [seq_eq_ok, seq_eq_ok, hsingle, not_not]
  refine and_congr_right fun _ => and_congr_right fun _ => ?_
  cases o.launcherReturncode with
  | none => simp only [hsingle, not_or, not_not, Prod.mk.injEq]
  | some returncode =>
    cases hreplay : o.toObservationFields.replay returncode with
    | error e => simp only [hreplay, hsingle, not_or, not_not, Prod.mk.injEq]
    | ok transcript => simp only [hreplay, hsingle, not_or, not_not, Prod.mk.injEq]

theorem buildNativeObservation_eq {run : NativeRun} {pid : Int} (hpid : run.pid = some pid) :
    buildNativeObservation K run =
      if (((run.fields pid).observation K).validate K).isOk then
        .ok (some ((run.fields pid).observation K))
      else .error validationError := by
  unfold buildNativeObservation
  rw [hpid]
  rfl

/-- Only exact credentials leave a protocol record without ancillary data. -/
theorem credentials_of_ancillary {r : LinuxInertFixtureNativeSocketRecord}
    {expected : Int × Int × Int} (h : (r.asProtocolRecord expected).ancillaryPresent = false) :
    r.senderCredentialsPresent ∧ r.unexpectedAncillaryPresent = false ∧
      r.senderPid = some expected.1 ∧ r.senderUid = some expected.2.1 ∧
      r.senderGid = some expected.2.2 := by
  simp only [LinuxInertFixtureNativeSocketRecord.asProtocolRecord, Bool.or_eq_false_iff,
    Bool.not_eq_false', Bool.and_eq_true, beq_iff_eq, Prod.mk.injEq] at h
  obtain ⟨hunexpected, hpresent, hpid, huid, hgid⟩ := h
  exact ⟨hpresent, hunexpected, hpid, huid, hgid⟩

theorem credentials_of_accepted {f : ObservationFields} (h : f.projected.1 = .accepted) :
    ∀ r ∈ f.records, r.senderCredentialsPresent ∧ r.senderPid = some f.launcherPid ∧
      r.senderUid = some f.expectedSenderUid ∧ r.senderGid = some f.expectedSenderGid := by
  intro r hr
  unfold ObservationFields.projected at h
  split at h
  · cases h
  · next returncode _ =>
    cases hreplay : f.replay returncode with
    | error e => rw [hreplay] at h; cases h
    | ok transcript =>
      have hrecord := parse_records hreplay _ (List.mem_map_of_mem hr)
      obtain ⟨hpresent, -, hvalues⟩ :=
        credentials_of_ancillary (congrArg InertNativeSocketRecord.ancillaryPresent hrecord)
      exact ⟨hpresent, hvalues⟩

end Validate

/-- Building an observation never raises, its projection is the parser's result,
and no other projection of the same raw fields is valid. -/
theorem nativeObservation_replays [DecidableEq D] (K : Crypto D) (run : NativeRun) (pid : Int)
    (hpid : run.pid = some pid) (hlauncher : 1 ≤ pid ∧ pid ≤ linuxMaxPid)
    (huid : 0 ≤ run.expectedSenderUid ∧ run.expectedSenderUid < 2 ^ 32)
    (hgid : 0 ≤ run.expectedSenderGid ∧ run.expectedSenderGid < 2 ^ 32)
    (hcode : ∀ code ∈ run.returncode, ∃ status, waitstatusToExitcode status = some code)
    (hlen : run.records.length ≤ protocolMaxFrames)
    (hrecords : ∀ r ∈ run.records, r.validate = .ok ()) :
    ∃ o, buildNativeObservation K run = .ok (some o) ∧ o.validate K = .ok () ∧
      (o.transcriptReplay, o.toProjection) =
        (match run.returncode with
        | none => (.notReplayable, .none)
        | some code =>
          match parseInertNativeTranscript (run.records.map (·.asProtocolRecord
              (pid, run.expectedSenderUid, run.expectedSenderGid))) code run.eofObserved pid with
          | .error _ => (.rejected, .none)
          | .ok transcript => (.accepted, .ofTranscript transcript)) ∧
      (∀ stage ∈ o.failureStage, nativeStageName stage ∈ nativeStageNames) ∧
      (∀ reason ∈ o.failureReason, nativeReasonName reason ∈ nativeReasonNames) ∧
      (o.transcriptReplay = .accepted → ∀ r ∈ run.records, r.senderCredentialsPresent ∧
        r.senderPid = some pid ∧ r.senderUid = some run.expectedSenderUid ∧
        r.senderGid = some run.expectedSenderGid) ∧
      ∀ o' : LinuxInertFixtureNativeObservation D,
        o'.toObservationFields = o.toObservationFields →
        o'.observationSha256 = o.observationSha256 →
        (o'.transcriptReplay, o'.toProjection) ≠ (o.transcriptReplay, o.toProjection) →
        o'.validate K ≠ .ok () := by
  have hranges : refuse ((run.fields pid).observation K).ranges = .ok () := by
    refine projected_ranges K ?_ ?_ ?_ (fun code hmem => ?_) hlen hrecords
    · exact Bool.and_eq_true_iff.2 ⟨decide_eq_true hlauncher.1, decide_eq_true hlauncher.2⟩
    · exact Bool.and_eq_true_iff.2
        ⟨decide_eq_true huid.1, decide_eq_true (Int.le_sub_one_of_lt huid.2)⟩
    · exact Bool.and_eq_true_iff.2
        ⟨decide_eq_true hgid.1, decide_eq_true (Int.le_sub_one_of_lt hgid.2)⟩
    · obtain ⟨status, hstatus⟩ := hcode code hmem
      exact waitstatusToExitcode_bounds hstatus
  have hvalid : ((run.fields pid).observation K).validate K = .ok () :=
    validate_eq_ok.2 ⟨hranges, rfl, rfl⟩
  refine ⟨(run.fields pid).observation K, ?_, hvalid, run.projected_fields pid,
    fun stage _ => nativeStageName_mem stage, fun reason _ => nativeReasonName_mem reason,
    fun h => credentials_of_accepted h,
    fun o' hfields _ hne hvalid' => ?_⟩
  · rw [buildNativeObservation_eq hpid, if_pos (isOk_iff.2 hvalid)]
  · have hprojection := (validate_eq_ok.1 hvalid').2.2
    rw [hfields] at hprojection
    exact hne hprojection

def constantCrypto : Crypto Unit where
  observationSha256 _ := ()

/-- The record of a frame that the launcher 2 sent as root. -/
def rootRecord (f : InertNativeFrame) : LinuxInertFixtureNativeSocketRecord where
  payload := f.encode
  messageTruncated := false
  controlTruncated := false
  senderCredentialsPresent := true
  senderPid := some 2
  senderUid := some 0
  senderGid := some 0
  unexpectedAncillaryPresent := false

def successfulRun : NativeRun where
  pid := some 2
  expectedSenderUid := 0
  expectedSenderGid := 0
  returncode := some 0
  records := (successFrames 2 3 ++ [finalFrame 1]).map rootRecord
  eofObserved := true

theorem nativeObservation_replays_success :
    ∃ o, buildNativeObservation constantCrypto successfulRun = .ok (some o) ∧
      o.transcriptReplay = .accepted ∧ o.fixtureChildPid = some 3 := by
  have hroot : (0 : Int) ≤ 0 ∧ (0 : Int) < 2 ^ 32 := ⟨le_refl 0, by norm_num⟩
  have hrecords : ∀ r ∈ successfulRun.records, r.validate = .ok () := by decide +kernel
  have hpid : successfulRun.pid = some 2 := by rfl
  have hlauncher : 1 ≤ (2 : Int) ∧ (2 : Int) ≤ linuxMaxPid := by decide
  have hcode : ∀ code ∈ successfulRun.returncode, ∃ status,
      waitstatusToExitcode status = some code := by
    intro code hcode
    cases hcode
    exact ⟨0, rfl⟩
  have hlen : successfulRun.records.length ≤ protocolMaxFrames := by decide
  obtain ⟨o, hbuilt, -, hprojection, -⟩ := nativeObservation_replays constantCrypto successfulRun 2
    hpid hlauncher hroot hroot hcode hlen hrecords
  have hfields : (o.transcriptReplay, o.toProjection) = (successfulRun.fields 2).projected :=
    hprojection.trans (successfulRun.projected_fields 2).symm
  have hvalue : (successfulRun.fields 2).projected.1 = .accepted ∧
      (successfulRun.fields 2).projected.2.fixtureChildPid = some 3 := by
    decide +kernel
  exact ⟨o, hbuilt, (congrArg Prod.fst hfields).trans hvalue.1,
    (congrArg (·.2.fixtureChildPid) hfields).trans hvalue.2⟩

end Bpe.Orchestration
