import Bpe.Launcher.Reach

/-!
# The launcher and the parser

The records of a run, its exit code and the launcher's PID form a transcript.
The parser accepts it unless the run took one of three turns that leave an
ERROR record without an `errno`, it accepts only what some run sends but for
two kinds of state, and the exit code never conceals an incomplete cleanup.
-/

namespace Bpe.Launcher

open Bpe.Native Proc List

variable {args : LaunchArgs} {t : Trace} {code : NativeExitCode} {s : LState}

/-- The records of a run, as an orderly receiver sees them. -/
def records (t : Trace) : List InertNativeSocketRecord :=
  (delivered t).map fun payload => { payload }

/-- What the parser says of a run, with the end of file observed. -/
def verdict (args : LaunchArgs) (t : Trace) (code : NativeExitCode) :
    Except String InertNativeTranscript :=
  parseInertNativeTranscript (records t) code.code true args.launcherPid.val

/-- A FINAL or ERROR frame was delivered. -/
def TerminalDelivered (t : Trace) : Prop :=
  ∃ f : InertNativeFrame, (f.frameType = .final ∨ f.frameType = .error) ∧ f.encode ∈ delivered t

variable {frames : List InertNativeFrame}

theorem records_eq (h : delivered t = frames.map InertNativeFrame.encode) :
    records t = frames.map InertNativeFrame.record := by
  rw [records, h, map_map]
  rfl

/-! ## Frames -/

theorem frameType_eq_of_encode {f g : InertNativeFrame} (h : f.encode = g.encode) :
    f.frameType = g.frameType := by
  have hf := f.wireField_encode.2.2.1
  have hg := g.wireField_encode.2.2.1
  have hcode : f.frameType.code = g.frameType.code := by
    rw [← beNat_beBytes 2 f.frameType.code_lt, ← hf, h, hg, beNat_beBytes 2 g.frameType.code_lt]
  have hof := NativeFrameType.ofCode_eq_some (x := f.frameType).2 rfl
  rw [hcode, NativeFrameType.ofCode_eq_some.2 rfl] at hof
  exact (Option.some.inj hof).symm

theorem record_inj {f g : InertNativeFrame} (hf : f.Fits) (hg : g.Fits) (h : f.record = g.record) :
    f = g := by
  have hdec := decodeRecord_record hf
  rw [h, decodeRecord_record hg] at hdec
  exact (Except.ok.inj hdec).symm

theorem not_terminal_successRecords {pid child k : Nat} {f : InertNativeFrame}
    (hf : f.encode ∈ successRecords pid child k) :
    ¬ (f.frameType = .final ∨ f.frameType = .error) := by
  obtain ⟨g, hg, heq⟩ := mem_map.1 hf
  have htype := frameType_eq_of_encode heq
  have hmem : g ∈ successFrames pid child := mem_of_mem_take hg
  simp only [successFrames, mem_cons, not_mem_nil, or_false] at hmem
  rw [← htype]
  rcases hmem with rfl | rfl | rfl | rfl <;> simp

theorem exitCode_agree (reason : NativeReason) (h : reason ≠ .none) :
    exitCodeForReason reason = .ok (bpeExitForReason reason) := by
  cases reason <;> first | exact absurd rfl h | rfl

/-! ## Runs that end with a terminal frame -/

/-- The transcripts of the runs. -/
inductive Sent (args : LaunchArgs) (t : Trace) (code : NativeExitCode) (s : LState) : Prop where
  | final (child elapsed : Nat) (hchild : ValidChild args.launcherPid.val child)
      (hpos : 0 < elapsed) (hlt : elapsed < 2 ^ 64) (hcode : code = .ok)
      (hd : delivered t = (successFrames args.launcherPid.val child ++
        [finalFrame elapsed]).map InertNativeFrame.encode)
  | error (k child : Nat) (stage : NativeStage) (hk : k ≤ 4)
      (hchild : 2 ≤ k → ValidChild args.launcherPid.val child)
      (hrep : Reported t k s.failure.reason stage s.rt.achieved
        (bpeWireErrno s.failure.errorNumber))
      (hcode : code = bpeExitForReason s.failure.reason)
      (hd : delivered t = ((successFrames args.launcherPid.val child).take k ++
        [sentFrame k stage s]).map InertNativeFrame.encode)

theorem sent_of_runs (h : LauncherRuns args t code s) (hw : WholeSends t)
    (hterm : TerminalDelivered t) : Sent args t code s := by
  obtain ⟨fuel, hrun⟩ := h
  obtain ⟨f, hf, hmem⟩ := hterm
  cases main_outcome fuel args t code s hrun with
  | noClock _ hcalls _ =>
    rw [delivered_eq_nil fun e he => Call.scanning_of_plain (hcalls e he)] at hmem
    cases hmem
  | finished child h =>
    rcases h.sent with ⟨-, hd⟩ | ⟨hcode, elapsed, hpos, hlt, hd⟩
    · rw [hd] at hmem
      exact absurd hf (not_terminal_successRecords hmem)
    · exact .final child elapsed h.child_pid hpos hlt hcode (by rw [hd]; rfl)
  | failed t₀ t₁ s₀ ht hat h =>
    subst ht
    obtain ⟨child, hd₀, hchild⟩ := hat.delivered
    rw [delivered_append, hd₀] at hmem
    rcases h.report ((wholeSends_append _ _).1 hw).1 with hd₁ | ⟨stage, hcode, hd₁, hrep⟩
    · rw [hd₁, append_nil] at hmem
      exact absurd hf (not_terminal_successRecords hmem)
    · refine .error _ child stage hat.sequence hchild hrep hcode ?_
      rw [delivered_append, hd₀, hd₁, map_append]
      rfl

/-- The recorded failure has no `errno` to report. -/
def NoErrno (s : LState) : Prop := bpeWireErrno s.failure.errorNumber = 0

/-- With an `errno`, what was recorded without a failed call is what a failed
call would have recorded. -/
theorem Reported.errorRecord {k mask e : Nat} {reason : NativeReason} {stage : NativeStage}
    (h : Reported t k reason stage mask e) (hcause : e = 0 → ¬ OddPipe t ∧ ¬ EmptyWrite t) :
    ErrorRecord k reason stage mask e := by
  rcases h.record with hrec | ⟨mask₀, site, hstale, hclean, rfl, rfl⟩
  · exact hrec
  · have hfresh : Fresh e := by
      refine ⟨Nat.pos_of_ne_zero fun he => ?_, h.errno⟩
      cases hstale with
      | oddPipe hodd => exact (hcause he).1 hodd
      | emptyWrite hempty => exact (hcause he).2 hempty
    exact @ErrorRecord.raised k mask₀ mask e ⟨site.reason, site.stage, .fresh⟩ hstale.mem_sitesAt
      hclean hfresh

theorem Sent.accepted (h : Sent args t code s) (hodd : ¬ (OddPipe t ∧ NoErrno s))
    (hempty : ¬ (EmptyWrite t ∧ NoErrno s))
    (hlate : ¬ (LateRead t ∧ s.rt.achieved = achievedResultMask ∧ NoErrno s)) :
    ∃ frames, records t = frames.map InertNativeFrame.record ∧
      Accepted args.launcherPid.val code.code frames := by
  cases h with
  | final child elapsed hchild hpos hlt hcode hd =>
    exact ⟨_, records_eq hd, .final child elapsed hchild (by omega) hlt (by rw [hcode])⟩
  | error k child stage hk hchild hrep hcode hd =>
    have hrec := hrep.errorRecord fun he => ⟨fun h => hodd ⟨h, he⟩, fun h => hempty ⟨h, he⟩⟩
    have haccept := hrec.accepted hrep.errno
      fun ⟨hr, he, hm⟩ => hlate ⟨hrep.late hr he hm, hm, he⟩
    exact ⟨_, records_eq hd, .error k child _ stage _ _ _ hk hchild haccept hrep.errno
      (exitCode_agree _ haccept.1) (by rw [hcode])⟩

/-! ## A successful run -/

def eventsRead (populated : Bool) : Trace :=
  [⟨.lseek 5, .ok (0 : Nat)⟩,
   ⟨.read 5 128, .ok ⟨populatedText (if populated then 49 else 48),
     by cases populated <;> decide⟩⟩,
   ⟨.read 5 1, .ok ⟨[], by decide⟩⟩]

/-- A read of `cgroup.procs` that shows process 2 alone. -/
def procsRead : Trace :=
  [⟨.lseek 7, .ok (0 : Nat)⟩, ⟨.read 7 64, .ok ⟨[50, 10], by decide⟩⟩,
   ⟨.read 7 1, .ok ⟨[], by decide⟩⟩]

def quietPoll : Event Reply := ⟨.poll [controlPollFd] 0, .ok fun _ => 0⟩

def clockRead (nsec : Int) : Event Reply := ⟨.clockGettime, .ok ⟨0, nsec⟩⟩

/-- The poll of `bpe_wait_child_ready` that finds the pipe readable. -/
def readyPoll : Trace :=
  [clockRead 0,
   ⟨.poll [controlPollFd, ⟨8, pollin⟩, ⟨10, pollin⟩] 30000, .ok (onlyRevents 1 pollin)⟩]

/-- Up to the HELLO frame. -/
def startupTrace : Trace :=
  [clockRead 0,
   ⟨.fstat 0, .ok ⟨.chr, 1, 3⟩⟩, ⟨.getfd 0, .ok (0 : Nat)⟩, ⟨.getfl 0, .ok (0 : Nat)⟩,
   ⟨.fstat 1, .ok ⟨.chr, 1, 3⟩⟩, ⟨.getfd 1, .ok (0 : Nat)⟩, ⟨.getfl 1, .ok (1 : Nat)⟩,
   ⟨.fstat 2, .ok ⟨.chr, 1, 3⟩⟩, ⟨.getfd 2, .ok (0 : Nat)⟩, ⟨.getfl 2, .ok (1 : Nat)⟩,
   ⟨.getfd 3, .ok (0 : Nat)⟩, ⟨.getfl 3, .ok (2 : Nat)⟩,
   ⟨.getSoType 3, .ok ((5 : Int), (4 : Nat))⟩, ⟨.getSoAcceptconn 3, .ok ((0 : Int), (4 : Nat))⟩,
   ⟨.getsockname 3, .ok ((1 : Nat), (2 : Nat))⟩, ⟨.getpeername 3, .ok ((1 : Nat), (2 : Nat))⟩,
   ⟨.recv 3 1, .error ⟨eagain, by decide⟩⟩, ⟨.setfd 3 1, .ok ()⟩, ⟨.setfl 3 0x802, .ok ()⟩,
   ⟨.getfd 4, .ok (0 : Nat)⟩, ⟨.getfl 4, .ok (0 : Nat)⟩, ⟨.fstat 4, .ok ⟨.dir, 0, 0⟩⟩,
   ⟨.fstatfs 4, .ok cgroup2SuperMagic⟩, ⟨.setfd 4 1, .ok ()⟩,
   clockRead 0, ⟨.openProcFd, .ok (5 : Nat)⟩, ⟨.fstat 5, .ok ⟨.dir, 0, 0⟩⟩,
   ⟨.fstatfs 5, .ok procSuperMagic⟩, ⟨.getdents64 5 4096, .ok ⟨fdDirents, by decide +kernel⟩⟩,
   clockRead 0, ⟨.getdents64 5 4096, .ok ⟨[], by decide⟩⟩, ⟨.close 5, .ok ()⟩,
   ⟨.openat .events, .ok (5 : Nat)⟩, ⟨.fstat 5, .ok ⟨.reg, 0, 0⟩⟩,
   ⟨.openat .kill, .ok (6 : Nat)⟩, ⟨.fstat 6, .ok ⟨.reg, 0, 0⟩⟩,
   ⟨.openat .procs, .ok (7 : Nat)⟩, ⟨.fstat 7, .ok ⟨.reg, 0, 0⟩⟩] ++ eventsRead false ++
  [⟨.lseek 7, .ok (0 : Nat)⟩, ⟨.read 7 64, .ok ⟨[], by decide⟩⟩,
   ⟨.sigemptyset, .ok ()⟩, ⟨.sigactionSigchld, .ok ()⟩, ⟨.sigemptyset, .ok ()⟩,
   ⟨.sigprocmask, .ok ()⟩, ⟨.setNoNewPrivs, .ok ()⟩, ⟨.setSeccomp, .ok ()⟩,
   ⟨.getNoNewPrivs, .ok (1 : Nat)⟩, ⟨.getSeccomp, .ok (2 : Nat)⟩]

def sends (k : Nat) : Trace :=
  ((successFrames 1 2 ++ [finalFrame 1]).drop k).head?.toList.map fun f =>
    ⟨.send f.encode, .ok ⟨f.encode.length, le_rfl⟩⟩

/-- A run of launcher 1 with child 2 that succeeds. -/
def successTrace : Trace :=
  startupTrace ++ sends 0 ++ [clockRead 0, quietPoll, ⟨.pipe2, .ok ((8 : Nat), (9 : Nat))⟩,
   ⟨.clone3 ⟨1, by decide⟩, .ok (⟨⟨2, by decide⟩, by decide⟩, (10 : Nat))⟩,
   ⟨.getfd 10, .ok (1 : Nat)⟩, ⟨.close 9, .ok ()⟩] ++
  readyPoll ++ [⟨.read 8 8, .ok ⟨[66, 80, 69, 67, 0, 0, 0, 0], by decide⟩⟩] ++
  readyPoll ++ [⟨.read 8 1, .ok ⟨[], by decide⟩⟩] ++
  eventsRead true ++ procsRead ++ [quietPoll] ++ sends 1 ++
  [⟨.pidfdSendSignal 10 sigstop, .ok ()⟩,
   ⟨.waitid 10 (wstopped ||| wnohang ||| wnowait), .ok ⟨2, cldStopped, sigstop⟩⟩] ++
  eventsRead true ++ procsRead ++ [quietPoll] ++ sends 2 ++
  [quietPoll, ⟨.write 6 [49], .ok ⟨1, by decide⟩⟩] ++ eventsRead false ++
  [⟨.waitid 10 (wexited ||| wnohang ||| wnowait), .ok ⟨2, cldKilled, sigkill⟩⟩, quietPoll] ++
  sends 3 ++
  [⟨.waitid 10 wexited, .ok ⟨2, cldKilled, sigkill⟩⟩, clockRead 1, quietPoll,
   ⟨.close 8, .ok ()⟩, ⟨.close 10, .ok ()⟩, ⟨.close 5, .ok ()⟩, ⟨.close 6, .ok ()⟩,
   ⟨.close 7, .ok ()⟩, ⟨.close 4, .ok ()⟩] ++ sends 4

theorem successTrace_runs : ∃ s, LauncherRuns (soleArgs ⟨1, by decide⟩) successTrace .ok s := by
  have hreplay : ((main 2 (soleArgs ⟨1, by decide⟩) {}).replay successTrace).map (·.1) =
      some .ok := by
    decide +kernel
  obtain ⟨⟨code, s⟩, hs, rfl⟩ := Option.map_eq_some_iff.1 hreplay
  exact ⟨s, 2, Prog.runs_of_replay hs⟩

/-! ## What the parser accepts -/

/-- The record ends a transcript in a state that no run reaches. -/
def UnreachableRecord (record : InertNativeSocketRecord) : Prop :=
  ∃ f : InertNativeFrame, f.Fits ∧ record = f.record ∧ f.frameType = .error ∧
    Unreachable f.sequence f.reason f.stage f.value0 f.systemErrno

/-- Some run, on a socket that takes records whole, sends exactly these records,
with this exit code and PID. -/
def SentBy (records : List InertNativeSocketRecord) (returncode pid : Int) : Prop :=
  ∃ args t code s, LauncherRuns args t code s ∧ WholeSends t ∧ Launcher.records t = records ∧
    code.code = returncode ∧ args.launcherPid.val = pid

theorem cleanupResults_le : ∀ row ∈ raiseTable, ∀ result ∈ cleanupResults row.2.1,
    result.1 ≤ achievedResultMask := by
  decide +kernel

theorem ErrorRecord.mask_le {k mask e : Nat} {reason : NativeReason} {stage : NativeStage}
    (h : ErrorRecord k reason stage mask e) : mask ≤ achievedResultMask := by
  cases h with
  | raised hsite hclean _ => exact cleanupResults_le _ (mem_raiseTable.1 hsite) _ hclean
  | closeFailed hpoint hclean _ | incomplete hpoint hclean =>
    obtain ⟨site, hrow⟩ := exists_row hpoint
    exact cleanupResults_le _ hrow _ hclean

theorem Reported.fits {k mask e : Nat} {reason : NativeReason} {stage : NativeStage}
    (h : Reported t k reason stage mask e) (hk : k ≤ 4) :
    (errorFrame k reason stage mask e).Fits := by
  have hmask : mask ≤ achievedResultMask := by
    rcases h.record with hrec | ⟨mask₀, site, hstale, hclean, -⟩
    · exact hrec.mask_le
    · exact cleanupResults_le _ (mem_raiseTable.1 hstale.mem_sitesAt) _ hclean
  have hlt : achievedResultMask < 2 ^ 64 := by decide
  exact fits_mk (by omega) h.errno (by omega) (by omega)

theorem last_record {f : InertNativeFrame} {record : InertNativeSocketRecord}
    (hd : delivered t = (frames ++ [f]).map InertNativeFrame.encode)
    (hlast : (records t).getLast? = some record) : f.record = record := by
  rw [records_eq hd, map_append, map_singleton, getLast?_concat] at hlast
  exact Option.some.inj hlast

/-- No run ends in an unreachable state. -/
theorem last_record_reachable (h : LauncherRuns args t code s) (hw : WholeSends t)
    {record : InertNativeSocketRecord}
    (hlast : (records t).getLast? = some record) : ¬ UnreachableRecord record := by
  rintro ⟨f, hfits, rfl, htype, hu⟩
  have hmem : f.encode ∈ delivered t := by
    obtain ⟨bytes, hb, heq⟩ := mem_map.1 (mem_of_getLast? hlast)
    have : bytes = f.encode := congrArg InertNativeSocketRecord.payload heq
    rwa [← this]
  cases sent_of_runs h hw ⟨f, .inr htype, hmem⟩ with
  | final child elapsed _ _ _ _ hd =>
    have heq := congrArg InertNativeSocketRecord.payload (last_record hd hlast)
    rw [← frameType_eq_of_encode heq] at htype
    cases htype
  | error k child stage hk _ hrep _ hd =>
    obtain rfl := record_inj (hrep.fits hk) hfits (last_record hd hlast)
    rcases hrep.record with hrec | ⟨mask₀, site, hstale, -⟩
    · exact hrec.reachable hrep.errno hu
    · cases hstale <;> simp [errorFrame, Unreachable] at hu

theorem exists_child (pid : Pid) {child k : Nat} (h : 2 ≤ k → ValidChild pid.val child) :
    ∃ child' : { child : Pid // child ≠ pid },
      (successFrames pid.val child).take k = (successFrames pid.val child'.val.val).take k := by
  by_cases hk : 2 ≤ k
  · obtain ⟨hpos, hle, hne⟩ := h hk
    exact ⟨⟨⟨child, hpos, hle⟩, fun heq => hne (congrArg Subtype.val heq)⟩, rfl⟩
  · obtain ⟨child', hne⟩ : ∃ child' : Pid, child' ≠ pid := by
      by_cases h1 : pid.val = 1
      · exact ⟨⟨2, by decide⟩, fun heq => by simp [← heq] at h1⟩
      · exact ⟨⟨1, by decide⟩, fun heq => h1 (by rw [← heq])⟩
    refine ⟨⟨child', hne⟩, ?_⟩
    interval_cases k <;> rfl

/-- Accepted frames in a reachable state are sent. -/
theorem sentBy_of_accepted (pid : Pid) {returncode : Int} (h : Accepted pid.val returncode frames)
    (hu : ∀ record, (frames.map InertNativeFrame.record).getLast? = some record →
      ¬ UnreachableRecord record) :
    SentBy (frames.map InertNativeFrame.record) returncode pid.val := by
  have hfits := (h.frames_ok pid.property.2).2.1
  cases h with
  | final child elapsed hchild hne hlt hcode =>
    obtain ⟨hpos, hle, hpid⟩ := hchild
    obtain ⟨t, s, hrun, hw, hd⟩ := final_sent pid
      ⟨⟨child, hpos, hle⟩, fun heq => hpid (congrArg Subtype.val heq)⟩ (by omega) hlt
    exact ⟨_, t, _, s, hrun, hw, records_eq (by rw [hd]; rfl), hcode.symm, rfl⟩
  | error k child reason stage mask e exit hk hchild haccept he hexit hcode =>
    have hreach : ¬ Unreachable k reason stage mask e := fun hun =>
      hu _ (by rw [map_append, map_singleton, getLast?_concat])
        ⟨_, hfits _ (by simp), rfl, rfl, hun⟩
    obtain ⟨child', hsame⟩ := exists_child pid hchild
    obtain ⟨t, s, hrun, hw, hd⟩ := ((errorRecord_iff haccept he).2 hreach).sent pid child' he
    have hcode' : (bpeExitForReason reason).code = returncode := by
      rw [exitCode_agree reason haccept.1] at hexit
      rw [hcode, Except.ok.inj hexit]
    refine ⟨_, t, _, s, hrun, hw, records_eq ?_, hcode', rfl⟩
    rw [hd, hsame, map_append]
    rfl

/-- An accepted transcript is sent by some run exactly if it does not end in
one of the two kinds of unreachable state. -/
theorem accepted_transcript_sent_iff {records : List InertNativeSocketRecord} {returncode pid : Int}
    (h : ∃ transcript, parseInertNativeTranscript records returncode true pid = .ok transcript) :
    SentBy records returncode pid ↔
      ∀ record, records.getLast? = some record → ¬ UnreachableRecord record := by
  obtain ⟨launcherPid, rfl, hpid, frames, rfl, hacc⟩ := parse_eq_ok.1 h
  constructor
  · rintro ⟨args, t, code, s, hrun, hw, hrec, -, -⟩ record hlast
    rw [← hrec] at hlast
    exact last_record_reachable hrun hw hlast
  · exact fun hu => sentBy_of_accepted ⟨launcherPid, hpid⟩ hacc hu

theorem final_transcript_sent :
    SentBy ((successFrames 1 2 ++ [finalFrame 1]).map InertNativeFrame.record) 0 1 := by
  have hchild : ValidChild 1 2 := ⟨by decide, by decide, by decide⟩
  refine (accepted_transcript_sent_iff (parse_eq_ok.2 ⟨1, rfl, by decide, _, rfl,
    .final 2 1 hchild (by decide) (by decide) rfl⟩)).2 ?_
  rintro _ hlast ⟨f, -, rfl, htype, -⟩
  rw [map_append, map_singleton, getLast?_concat] at hlast
  have heq := congrArg InertNativeSocketRecord.payload (Option.some.inj hlast)
  rw [← frameType_eq_of_encode heq] at htype
  cases htype

/-- A rejected cgroup descriptor without an `errno`: accepted, never sent. -/
theorem unreachable_transcript_accepted :
    (∃ transcript, parseInertNativeTranscript
      [(errorFrame 0 .badCgroupDescriptor .descriptorValidation 0 0).record] 64 true 1 =
        .ok transcript) ∧
    ¬ SentBy [(errorFrame 0 .badCgroupDescriptor .descriptorValidation 0 0).record] 64 1 := by
  constructor
  · exact parse_eq_ok.2 ⟨1, rfl, by decide, [_], rfl, .error 0 2 _ _ 0 0 .startup (by decide) nofun
      (by decide +kernel) (by decide) rfl rfl⟩
  · rintro ⟨args, t, code, s, hrun, hw, hrec, -, -⟩
    exact last_record_reachable hrun hw (by rw [hrec]; rfl)
      ⟨_, fits_mk (by decide) (by decide) (by decide) (by decide), rfl, rfl, .inl ⟨rfl, rfl, rfl⟩⟩

/-! ## Cleanup -/

/-- The children of a run, as the label `fail` finds them. -/
theorem ChildState.created_eq {s : LState} (h : ChildState t s) {child pidfd : Nat}
    (hmem : (child, pidfd) ∈ created t) : created t = [(child, pidfd)] := by
  cases h with
  | none hc => rw [hc] at hmem; cases hmem
  | live _ _ hc | reaped _ hc =>
    rw [hc, mem_singleton] at hmem
    rw [hc, hmem]

/-- The exit code never conceals an incomplete cleanup. -/
theorem exit_never_conceals_cleanup (h : LauncherRuns args t code s) :
    (∀ child pidfd, (child, pidfd) ∈ created t → code.code ≠ 68 → Accounted t child pidfd) ∧
    (code.code = 0 → s.rt.achieved = 0x1FF ∧ ∃ elapsed, (finalFrame elapsed).encode ∈ delivered t) ∧
    (s.failure.reason = .cleanupIncomplete → code.code = 68) := by
  obtain ⟨fuel, hrun⟩ := h
  have hcode : ∀ {code' : NativeExitCode}, code.code ≠ code'.code → code ≠ code' := by
    rintro _ hne rfl
    exact hne rfl
  cases main_outcome fuel args t code s hrun with
  | noClock hc hcalls hfail =>
    subst hc
    refine ⟨fun child pidfd hmem => ?_, nofun, fun hr => by rw [hfail] at hr; cases hr⟩
    rw [created_steady fun e he => Call.steady_of_plain (hcalls e he)] at hmem
    cases hmem
  | finished child h =>
    refine ⟨fun child' pidfd hmem _ => ?_, fun hzero => ⟨h.achieved, ?_⟩, fun hr => ?_⟩
    · rw [h.created, mem_singleton, Prod.mk.injEq] at hmem
      rw [hmem.1, hmem.2]
      exact h.accounted
    · rcases h.sent with ⟨hc, -⟩ | ⟨-, elapsed, -, -, hd⟩
      · rw [hc] at hzero
        cases hzero
      · exact ⟨elapsed, by rw [hd]; simp⟩
    · rw [h.failure] at hr
      cases hr
  | failed t₀ t₁ s₀ ht hat h =>
    subst ht
    refine ⟨fun child pidfd hmem hne => ?_, fun hzero => ?_, fun hr => by rw [h.precedence hr]; rfl⟩
    · rw [created_append, h.created, append_nil] at hmem
      exact h.accounted (hcode hne) child pidfd (hat.child.created_eq hmem)
    · have hne := h.code_ne
      cases code <;> first | exact absurd rfl hne | cases hzero

theorem success_accounted : Accounted successTrace 2 10 := by
  obtain ⟨s, hrun⟩ := successTrace_runs
  exact (exit_never_conceals_cleanup hrun).1 2 10 (by decide +kernel) (by decide)

/-! ## Success, from the launcher to the parser -/

theorem returncode_of_succeeded {returncode pid : Int} {frames rest : List InertNativeFrame}
    {i : Nat} {childPid : Option Int} {transcript : InertNativeTranscript}
    (h : validateFrames returncode pid frames i childPid rest = .ok transcript)
    (hok : transcript.succeeded = true) : returncode = NativeExitCode.ok.code := by
  induction rest generalizing i childPid with
  | nil =>
    simp only [validateFrames, ite_error_eq_ok, ne_eq, not_not] at h
    exact h.2.1
  | cons f rest ih =>
    rw [validateFrames] at h
    split at h
    · simp only [ite_error_eq_ok] at h
      split at h
      · cases h.2.2
      · cases h.2.2
        cases hok
    · simp only [ite_error_eq_ok] at h
      split at h
      · cases h.2
      · simp only [ite_error_eq_ok] at h
        exact ih h.2.2.2

theorem parse_success {pid child elapsed : Nat} (hpid : 1 ≤ pid ∧ pid ≤ linuxMaxPid)
    (hchild : ValidChild pid child) (hpos : elapsed ≠ 0) (hlt : elapsed < 2 ^ 64) :
    parseInertNativeTranscript
      ((successFrames pid child ++ [finalFrame elapsed]).map InertNativeFrame.record)
      NativeExitCode.ok.code true pid = .ok
        ⟨true, successFrames pid child ++ [finalFrame elapsed], .ok, pid, some (child : Int),
          achievedResultMask, some elapsed, none, none, none⟩ := by
  obtain ⟨-, hfits, hseq⟩ := (Accepted.final child elapsed hchild hpos hlt rfl).frames_ok hpid.2
  obtain ⟨h1, h2, h3⟩ := hchild
  rw [parseInertNativeTranscript, decodeRecords_eq_ok.2 ⟨rfl, hfits, hseq⟩]
  simp [validateFrames, validateSuccessFrame, successFrames, finalFrame, successTypes,
    successStages, hpid, h1, h2, h3, hpos, protocolMaxFrames]

/-- The parser reports success exactly for the runs that exit with 0, and the
child it then names is the one that `clone3` created and the run cleaned up. -/
theorem success_verdict_iff (h : LauncherRuns args t code s) : code = .ok ↔
    ∃ transcript, ∃ child : Nat, verdict args t code = .ok transcript ∧
      transcript.succeeded = true ∧ transcript.childPid = some (child : Int) ∧
      created t = [(child, 10)] ∧ Accounted t child 10 := by
  constructor
  · rintro rfl
    obtain ⟨fuel, hrun⟩ := h
    cases main_outcome fuel args t .ok s hrun with
    | noClock hc => cases hc
    | failed _ _ _ _ _ h => exact absurd rfl h.code_ne
    | finished child h =>
      obtain ⟨⟨⟩, -⟩ | ⟨-, elapsed, hpos, hlt, hd⟩ := h.sent
      have hv := parse_success args.launcherPid.2 h.child_pid hpos.ne' hlt
      rw [← records_eq (t := t) (by rw [hd]; rfl)] at hv
      exact ⟨_, child, hv, rfl, rfl, h.created, h.accounted⟩
  · rintro ⟨transcript, child, hv, hok, -⟩
    simp only [verdict, parseInertNativeTranscript, ite_error_eq_ok] at hv
    split at hv
    · cases hv.2.2.2.2
    · have hcode := returncode_of_succeeded hv.2.2.2.2 hok
      cases code <;> first | rfl | cases hcode

theorem success_verdict : ∃ transcript,
    verdict (soleArgs ⟨1, by decide⟩) successTrace .ok = .ok transcript := by
  obtain ⟨s, h⟩ := successTrace_runs
  obtain ⟨transcript, -, hv, -⟩ := (success_verdict_iff h).1 rfl
  exact ⟨transcript, hv⟩

end Bpe.Launcher
