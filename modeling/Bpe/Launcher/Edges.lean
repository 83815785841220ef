import Bpe.Launcher.CleanupPaths

/-!
# Every failure edge occurs

For each row of `raiseTable` and each `errno` it allows, replies that take
`main` to the label `fail` along that edge. The clock reads zero throughout,
so that the runtime deadline is `runtimeDeadline`.
-/

namespace Bpe.Launcher

open Bpe.Native Proc List

variable {err : Nat} {rt : Runtime}

def runtimeDeadline : Nat := emergencyRuntimeMs * nsPerMs

/-! ## The control socket and polls -/

theorem yields_controlQuiet (s : LState) (stage : NativeStage) :
    Yields (bpeControlQuiet stage) s [] true s :=
  yields_replay [⟨.poll [controlPollFd] 0, .ok fun _ => 0⟩] rfl rfl

theorem yields_controlQuiet_input (stage : NativeStage) :
    Yields (bpeControlQuiet stage) ⟨err, rt, {}⟩ [] false
      ⟨err, rt, ⟨some .protocol, .protocolInput, 0⟩⟩ :=
  yields_replay [⟨.poll [controlPollFd] 0, .ok fun _ => pollin⟩] rfl rfl

theorem yields_controlQuiet_error (stage : NativeStage) (e : Errno) :
    Yields (bpeControlQuiet stage) ⟨err, rt, {}⟩ [] false ⟨e, rt, ⟨some stage, .ioFailure, e⟩⟩ :=
  (yields_interruptible_error e).then yields_fail_errno

section Poll

variable (s : LState) (fuel : Nat) (fds : List PollFd) {maximumMs : Nat}

theorem yields_pollUntil (hm : 0 < maximumMs) (revents : Nat → BitVec 16) {n : Nat}
    (hn : pollCount fds.length revents = n) :
    Yields (bpePollUntil (fuel + 1) fds runtimeDeadline maximumMs) s [] (some (n, revents)) s := by
  subst hn
  obtain ⟨timeout, hpos, hpoll⟩ := yields_deadlinePollMs s runtimeDeadline (by decide)
    (by decide) hm
  refine yields_done fuel (hpoll.then (yields_ite_neg (by omega) ?_))
  exact (yields_sys (c := .poll fds timeout) revents rfl).then (yields_pure _ _)

theorem yields_pollUntil_error (hm : 0 < maximumMs) (e : Errno) (he : e.val ≠ eintr) :
    Yields (bpePollUntil (fuel + 1) fds runtimeDeadline maximumMs) s [] none
      { s with errno := e } := by
  obtain ⟨timeout, hpos, hpoll⟩ := yields_deadlinePollMs s runtimeDeadline (by decide)
    (by decide) hm
  refine yields_done fuel (hpoll.then (yields_ite_neg (by omega) ?_))
  exact (yields_sys_error (c := .poll fds timeout) e).then (yields_getErrno (yields_ite_neg he
    (yields_pure _ _)))

theorem yields_pollUntil_timeout (deadline maximumMs : Nat) :
    Yields (bpePollUntil (fuel + 1) fds deadline maximumMs) s [] (some (0, fun _ => 0)) s :=
  yields_done fuel ((yields_deadlinePollMs_zero s deadline maximumMs).then
    (yields_ite_pos rfl (yields_pure _ _)))

end Poll

theorem yields_controlFailed_input {revents : BitVec 16} (h : revents &&& pollin ≠ 0)
    (stage : NativeStage) : Yields (bpeControlFailed revents stage) ⟨err, rt, {}⟩ [] true
      ⟨err, rt, ⟨some .protocol, .protocolInput, 0⟩⟩ :=
  yields_ite_pos h yields_fail

theorem yields_controlFailed_quiet (s : LState) (stage : NativeStage) :
    Yields (bpeControlFailed 0 stage) s [] false s :=
  yields_replay [] rfl rfl

/-! ## Creating the child -/

section Clone

variable (pid : Pid) (child : { child : Pid // child ≠ pid })

def pipedRt : Runtime := { setupRt 0 1 with readyReadFd := 8, readyWriteFd := 9 }

/-- The child exists; its pidfd has not been checked. -/
def bornRt (child : Nat) : Runtime :=
  { pipedRt with childPid := child, childCreated := true, pidfd := 10, achieved := 0x001 }

theorem yields_openReadyPipe : Yields openReadyPipe ⟨0, setupRt 0 1, {}⟩ [] true ⟨0, pipedRt, {}⟩ :=
  yields_replay [⟨.pipe2, .ok ((8 : Nat), (9 : Nat))⟩] rfl rfl

theorem yields_cloneFixture_pipe (e : Errno) : Yields (bpeCloneFixture pid) ⟨0, setupRt 0 1, {}⟩ []
    false ⟨e, setupRt 0 1, ⟨some .fixtureSetup, .resourceExhausted, e⟩⟩ :=
  yields_replay [⟨.pipe2, .error e⟩] rfl rfl

theorem yields_cloneFixture_clone (e : Errno) : Yields (bpeCloneFixture pid) ⟨0, setupRt 0 1, {}⟩ []
    false ⟨e, pipedRt, ⟨some .clone3, cloneFailureReason e, e⟩⟩ := by
  refine yields_openReadyPipe.then ((yields_sys_error (c := .clone3 pid) e).then ?_)
  exact yields_fail_errno

theorem yields_cloneFixture_pidfd {e : Nat} (he : e ≤ protocolMaxErrno) : ∃ err',
    Yields (bpeCloneFixture pid) ⟨0, setupRt 0 1, {}⟩ [] false
      ⟨err', bornRt child.val.val, ⟨some .clone3, .pidfdUnavailable, e⟩⟩ := by
  have hborn : ∀ {b s'}, Yields _ ⟨0, bornRt child.val.val, {}⟩ [] b s' →
      Yields (bpeCloneFixture pid) ⟨0, setupRt 0 1, {}⟩ [] b s' := fun h =>
    yields_openReadyPipe.then ((yields_sys (c := .clone3 pid) (child, (10 : Nat)) rfl).then
      (yields_modifyRt h))
  obtain rfl | ⟨e, rfl⟩ := zero_or_errno he
  · exact ⟨_, hborn (yields_replay [⟨.getfd 10, .ok (0 : Nat)⟩] rfl rfl)⟩
  · exact ⟨_, hborn (yields_replay [⟨.getfd 10, .error e⟩] rfl rfl)⟩

theorem yields_cloneFixture_close (e : Errno) : Yields (bpeCloneFixture pid) ⟨0, setupRt 0 1, {}⟩ []
    false ⟨e, { bornRt child.val.val with achieved := 0x003 },
      ⟨some .fixtureSetup, .ioFailure, e⟩⟩ := by
  rw [show 0x003 = 0x001 ||| pidfdCreatedBit by decide]
  refine yields_openReadyPipe.then ((yields_sys (c := .clone3 pid) (child, (10 : Nat)) rfl).then ?_)
  exact yields_modifyRt (yields_replay [⟨.getfd 10, .ok (1 : Nat)⟩, ⟨.close 9, .error e⟩] rfl rfl)

theorem yields_cloneFixture : Yields (bpeCloneFixture pid) ⟨0, setupRt 0 1, {}⟩ [] true
    ⟨0, liveRt 0 child.val.val 1 0x003, {}⟩ := by
  rw [show 0x003 = 0x001 ||| pidfdCreatedBit by decide]
  refine yields_openReadyPipe.then ((yields_sys (c := .clone3 pid) (child, (10 : Nat)) rfl).then ?_)
  exact yields_modifyRt (yields_replay [⟨.getfd 10, .ok (1 : Nat)⟩, ⟨.close 9, .ok ()⟩] rfl rfl)

end Clone

/-! ## Waiting for the child -/

section Wait

variable (fuel : Nat)

/-- The `revents` of one descriptor, the others silent. -/
def onlyRevents (index : Nat) (events : BitVec 16) : Nat → BitVec 16 :=
  fun i => if i = index then events else 0

/-- The child's record, then end of file. -/
theorem yields_waitChildReady (s : LState) :
    Yields (bpeWaitChildReady (fuel + 2) runtimeDeadline) s [] true s := by
  refine yields_next true s ?_ (yields_done fuel ?_)
  · refine yields_getRt ((yields_pollUntil s _ _ (by decide) (onlyRevents 1 pollin)
      (n := 1) rfl).then ?_)
    refine yields_ite_neg (by decide) ((yields_controlFailed_quiet s _).then
      (yields_ite_neg (by decide) (yields_ite_pos (by decide) ?_)))
    exact (yields_sys (c := .read s.rt.readyReadFd 8) ⟨[66, 80, 69, 67, 0, 0, 0, 0], by decide⟩
      rfl).then (yields_pure _ _)
  · refine yields_getRt ((yields_pollUntil s _ _ (by decide) (onlyRevents 1 pollin)
      (n := 1) rfl).then ?_)
    refine yields_ite_neg (by decide) ((yields_controlFailed_quiet s _).then
      (yields_ite_neg (by decide) (yields_ite_pos (by decide) ?_)))
    exact (yields_sys (c := .read s.rt.readyReadFd 1) ⟨[], by decide⟩ rfl).then (yields_pure _ _)

theorem yields_waitChildReady_timeout : Yields (bpeWaitChildReady (fuel + 1) runtimeDeadline)
    ⟨err, rt, {}⟩ [] false ⟨err, rt, ⟨some .childReady, .timeout, 0⟩⟩ := by
  refine yields_done fuel (yields_getRt ((yields_pollUntil_timeout _ _ _ _ _).then ?_))
  exact yields_ite_pos rfl yields_fail

theorem yields_waitChildReady_input : Yields (bpeWaitChildReady (fuel + 1) runtimeDeadline)
    ⟨err, rt, {}⟩ [] false ⟨err, rt, ⟨some .protocol, .protocolInput, 0⟩⟩ := by
  refine yields_done fuel (yields_getRt ((yields_pollUntil _ _ _ (by decide)
    (onlyRevents 0 pollin) (n := 1) rfl).then (yields_ite_neg (by decide) ?_)))
  exact (yields_controlFailed_input (by decide) _).then (yields_ite_pos rfl (yields_pure _ _))

/-- The child's record reports a failed setup, with any `errno`. -/
theorem yields_waitChildReady_setup {e : Nat} (he : e ≤ protocolMaxErrno) : ∃ err',
    Yields (bpeWaitChildReady (fuel + 1) runtimeDeadline) ⟨err, rt, {}⟩ [] false
      ⟨err', rt, ⟨some .childReady, .childSetupFailed, e⟩⟩ := by
  have hread : ∀ {s'}, Yields (readChildRecord rt.readyReadFd false)
      ⟨err, rt, {}⟩ [] (.inr false) s' →
      Yields (bpeWaitChildReady (fuel + 1) runtimeDeadline) ⟨err, rt, {}⟩ [] false s' := by
    intro s' h
    refine yields_done fuel (yields_getRt ((yields_pollUntil _ _ _ (by decide)
      (onlyRevents 1 pollin) (n := 1) rfl).then ?_))
    exact yields_ite_neg (by decide) ((yields_controlFailed_quiet _ _).then
      (yields_ite_neg (by decide) (yields_ite_pos (by decide) h)))
  obtain rfl | ⟨e, rfl⟩ := zero_or_errno he
  · refine ⟨err, hread ?_⟩
    exact (yields_sys (c := .read rt.readyReadFd 8) ⟨[], by decide⟩ rfl).then
      yields_fail
  · refine ⟨e, hread ?_⟩
    exact (yields_sys_error (c := .read rt.readyReadFd 8) e).then
      yields_fail_errno

theorem yields_waitPopulatedOne (s : LState) :
    Yields (bpeWaitPopulatedOne (fuel + 1) runtimeDeadline) s [] true s :=
  yields_done fuel (yields_getRt ((yields_readEvents s fuel _ true).then
    (yields_ite_pos rfl (yields_pure _ _))))

/-- `cgroup.events` cannot be read, with any `errno`. -/
theorem yields_readEvents_fails (rt : Runtime) (fd : Int) {e : Nat} (he : e ≤ protocolMaxErrno) :
    Yields (bpeReadEvents fuel fd) ⟨0, rt, {}⟩ [] none ⟨e, rt, {}⟩ := by
  obtain rfl | ⟨e, rfl⟩ := zero_or_errno he
  · exact yields_readEvents_empty _ fuel fd
  · exact yields_readEvents_error ⟨0, rt, {}⟩ fuel fd e

theorem yields_waitPopulatedOne_io {e : Nat} (he : e ≤ protocolMaxErrno) :
    Yields (bpeWaitPopulatedOne (fuel + 1) runtimeDeadline) ⟨0, rt, {}⟩ [] false
      ⟨e, rt, ⟨some .childReady, .ioFailure, e⟩⟩ :=
  yields_done fuel (yields_getRt ((yields_readEvents_fails (fuel + 1) rt rt.eventsFd he).then
    yields_fail_errno))

end Wait

/-! ## One process in the cgroup -/

/-- The decimal text of a number, most significant digit first. -/
def decimalText (n : Nat) : List UInt8 :=
  ((Nat.digits 10 n).map fun d => UInt8.ofNat (48 + d)).reverse

theorem parseDecimal_append (parsed : Nat) (text rest : List UInt8) :
    parseDecimal parsed (text ++ rest) =
      (parseDecimal parsed text).bind fun parsed => parseDecimal parsed rest := by
  induction text generalizing parsed with
  | nil => rfl
  | cons character text ih =>
    simp only [cons_append, parseDecimal]
    split
    · rfl
    · split
      · rfl
      · exact ih _

theorem parseDecimal_digit {parsed d : Nat} (hd : d < 10) (h : parsed * 10 + d ≤ intMax) :
    parseDecimal parsed [UInt8.ofNat (48 + d)] = some (parsed * 10 + d) := by
  have hval : (UInt8.ofNat (48 + d)).toNat = 48 + d := by
    rw [UInt8.toNat_ofNat']; omega
  have hsub : (UInt8.ofNat (48 + d) - 48).toNat = d := by
    rw [UInt8.toNat_sub_of_le _ _ (by rw [UInt8.le_iff_toNat_le, hval]; simp), hval]
    simp
  have hlow : ¬ (UInt8.ofNat (48 + d) < 48) := by rw [UInt8.lt_iff_toNat_lt, hval]; simp
  have hhigh : ¬ (UInt8.ofNat (48 + d) > 57) := by
    rw [gt_iff_lt, UInt8.lt_iff_toNat_lt, hval]
    simp; omega
  have hbound : ¬ parsed > intMax / 10 := by unfold intMax at *; omega
  simp only [parseDecimal, hlow, hhigh, hbound, or_self, if_false, hsub]
  rw [if_neg (by omega)]

theorem parseDecimal_decimalText (n : Nat) (h : n ≤ intMax) :
    parseDecimal 0 (decimalText n) = some n := by
  induction n using Nat.strong_induction_on with
  | _ n ih =>
    by_cases h0 : n = 0
    · subst h0; rfl
    · have hdigits : decimalText n = decimalText (n / 10) ++ [UInt8.ofNat (48 + n % 10)] := by
        simp only [decimalText]
        rw [Nat.digits_def' (by decide) (Nat.pos_of_ne_zero h0), map_cons, reverse_cons]
      rw [hdigits, parseDecimal_append, ih (n / 10) (by omega) (by omega), Option.bind_some,
        parseDecimal_digit (by omega) (by omega)]
      congr 1
      omega

theorem length_decimalText_le {n k : Nat} (h : n < 10 ^ k) : (decimalText n).length ≤ k := by
  rw [decimalText, length_reverse, length_map]
  exact (Nat.digits_length_le_iff (by decide) n).mpr h

theorem head_decimalText {n : Nat} (h : 0 < n) : (decimalText n).head? ≠ some 48 := by
  rw [decimalText, head?_reverse, getLast?_map]
  intro hlast
  obtain ⟨d, hd, h48⟩ := Option.map_eq_some_iff.mp hlast
  have hmem : d < 10 := Nat.digits_lt_base (by decide) (mem_of_getLast? hd)
  have hzero : d = 0 := by
    have := congrArg UInt8.toNat h48
    rw [UInt8.toNat_ofNat'] at this
    simp at this
    omega
  have hne : Nat.digits 10 n ≠ [] := Nat.digits_ne_nil_iff_ne_zero.mpr (by omega)
  rw [getLast?_eq_some_getLast hne, hzero] at hd
  exact Nat.getLast_digit_ne_zero 10 (by omega) (Option.some.inj hd)

/-- `cgroup.procs` with one process matches its pid. -/
theorem procsText_decimalText {n : Nat} (h : 0 < n) (hn : n ≤ intMax) :
    procsText (decimalText n ++ [10]) n = .matched := by
  have hne : decimalText n ≠ [] := by
    simp [decimalText, Nat.digits_ne_nil_iff_ne_zero]; omega
  have hlen := length_pos_iff.mpr hne
  have hhead : (decimalText n ++ [10]).head? ≠ some 48 := by
    rw [head?_append_of_ne_nil _ hne]
    exact head_decimalText h
  rw [procsText, if_neg]
  · rw [dropLast_concat, parseDecimal_decimalText n hn]
    simp
  · simp only [not_or, length_append, length_singleton, getLast?_concat]
    exact ⟨by omega, by omega, by simp, hhead⟩

section Procs

variable (s : LState) (fuel : Nat)

theorem yields_readProcs_pid (fd : Int) (child : Pid) :
    Yields (bpeReadProcsExact (fuel + 1) fd child.val) s [] .matched { s with errno := 0 } := by
  have hpid := child.property
  unfold linuxMaxPid at hpid
  have hlen : (decimalText child.val).length ≤ 7 := length_decimalText_le (by omega)
  refine yields_ite_neg (by omega) ((yields_sys (c := .lseek fd) (0 : Nat) rfl).then
    (yields_ite_neg (fun h => h rfl) ?_))
  refine (yields_interruptible (yields_sys (c := .read fd 64) ⟨decimalText child.val ++ [10], by
    simp; omega⟩ rfl)).then (yields_ite_neg ?_ (yields_ite_neg ?_ ?_))
  · simp; omega
  · simp
  refine (yields_uninterrupted fuel (yields_sys (c := .read fd 1) ⟨[], by decide⟩ rfl)).then
    (yields_setErrno (yields_ite_neg (by decide) ?_))
  dsimp only
  rw [procsText_decimalText hpid.1 (by unfold intMax; omega)]
  exact yields_pure _ _

theorem yields_checkChildAlone (child : Pid) (started k mask : Nat) :
    Yields (checkChildAlone (fuel + 1)) ⟨0, liveRt started child.val k mask, {}⟩ [] true
      ⟨0, liveRt started child.val k (mask ||| builtinNoexecBit), {}⟩ := by
  refine yields_getRt ((yields_readProcs_pid _ fuel _ child).then (yields_getErrno ?_))
  exact yields_ite_neg (by decide) (yields_modifyRt (yields_pure _ _))

theorem yields_checkChildAlone_mismatch (child : Pid) (started k mask : Nat) :
    Yields (checkChildAlone fuel) ⟨0, liveRt started child.val k mask, {}⟩ [] false
      ⟨0, liveRt started child.val k mask, ⟨some .childReady, .childObservationFailed, 0⟩⟩ := by
  have hpid : (child.val : Int) ≠ 0 := by have := child.property.1; omega
  have hread := yields_readProcs_empty ⟨0, liveRt started child.val k mask, {}⟩ fuel
    (liveRt started child.val k mask).procsFd child.val (by omega)
  rw [if_neg hpid] at hread
  refine yields_getRt (hread.then (yields_getErrno ?_))
  exact yields_ite_pos (by decide) yields_fail

end Procs

/-! ## Stopping the child -/

section Stop

variable (fuel : Nat) (err : Nat) (rt : Runtime)

/-- `waitid` while the child has not changed state. -/
def noChange : SigInfo := ⟨0, 0, 0⟩

theorem yields_observeStopped (hpid : rt.childPid ≠ 0) {mask : Nat}
    (hm : rt.achieved ||| pidfdStopObservedBit = mask) :
    Yields (observeStopped (fuel + 1) runtimeDeadline) ⟨err, rt, {}⟩ [] true
      ⟨err, { rt with achieved := mask }, {}⟩ := by
  subst hm
  refine yields_done fuel (yields_getRt ?_)
  refine (yields_sys (c := .waitid rt.pidfd (wstopped ||| wnohang ||| wnowait))
    ⟨rt.childPid, cldStopped, sigstop⟩ rfl).then (yields_ite_pos hpid (yields_ite_neg ?_ ?_))
  · simp
  · exact yields_modifyRt (yields_pure _ _)

/-- The stop is not observed, with any `errno`. -/
theorem yields_observeStopped_wait {e : Nat} (he : e ≤ protocolMaxErrno) (hpid : rt.childPid ≠ 0) :
    ∃ err', Yields (observeStopped (fuel + 1) runtimeDeadline) ⟨err, rt, {}⟩ [] false
      ⟨err', rt, ⟨some .pidfdSignal, .childObservationFailed, e⟩⟩ := by
  obtain rfl | ⟨e, rfl⟩ := zero_or_errno he
  · refine ⟨err, yields_done fuel (yields_getRt ?_)⟩
    refine (yields_sys (c := .waitid rt.pidfd (wstopped ||| wnohang ||| wnowait))
      ⟨rt.childPid, cldKilled, sigstop⟩ rfl).then (yields_ite_pos hpid (yields_ite_pos ?_ ?_))
    · exact .inr (.inl (show (cldKilled : Int) ≠ cldStopped by decide))
    · exact yields_fail
  · refine ⟨e, yields_done fuel (yields_getRt ?_)⟩
    exact (yields_sys_error (c := .waitid rt.pidfd (wstopped ||| wnohang ||| wnowait))
      e).then yields_fail_errno

theorem yields_observeStopped_poll (e : Errno) (he : e.val ≠ eintr) :
    Yields (observeStopped (fuel + 1) runtimeDeadline) ⟨err, rt, {}⟩ [] false
      ⟨e, rt, ⟨some .pidfdSignal, .ioFailure, e⟩⟩ := by
  refine yields_done fuel (yields_getRt ?_)
  refine (yields_sys (c := .waitid rt.pidfd (wstopped ||| wnohang ||| wnowait)) noChange rfl).then
    (yields_ite_neg (by decide) ?_)
  exact (yields_pollUntil_error _ fuel _ (by decide) e he).then yields_fail_errno

theorem yields_observeStopped_timeout :
    Yields (observeStopped (fuel + 1) runtimeDeadline) ⟨err, rt, {}⟩ [] false
      ⟨err, rt, ⟨some .pidfdSignal, .timeout, 0⟩⟩ := by
  refine yields_done fuel (yields_getRt ?_)
  refine (yields_sys (c := .waitid rt.pidfd (wstopped ||| wnohang ||| wnowait)) noChange rfl).then
    (yields_ite_neg (by decide) ((yields_pollUntil_timeout _ fuel _ _ _).then ?_))
  refine ((yields_pure true _).andM ((yields_deadlinePollMs_zero _ _ _).then
    (yields_pure true _))).then ?_
  exact yields_ite_pos rfl yields_fail

theorem yields_observeStopped_input :
    Yields (observeStopped (fuel + 1) runtimeDeadline) ⟨err, rt, {}⟩ [] false
      ⟨err, rt, ⟨some .protocol, .protocolInput, 0⟩⟩ := by
  refine yields_done fuel (yields_getRt ?_)
  refine (yields_sys (c := .waitid rt.pidfd (wstopped ||| wnohang ||| wnowait)) noChange rfl).then
    (yields_ite_neg (by decide) ((yields_pollUntil _ fuel _ (by decide) (onlyRevents 0 pollin)
      (n := 1) rfl).then ?_))
  refine ((yields_pure false _).andM_false).then (yields_ite_neg (by decide) ?_)
  exact (yields_controlFailed_input (by decide) _).then (yields_ite_pos rfl (yields_pure _ _))

theorem yields_stopAndObserve {b : Bool} {s' : LState} {mask : Nat}
    (hm : rt.achieved ||| pidfdStopSentBit = mask)
    (h : Yields (observeStopped fuel runtimeDeadline) ⟨err, { rt with achieved := mask }, {}⟩ []
      b s') :
    Yields (bpeStopAndObserve fuel runtimeDeadline) ⟨err, rt, {}⟩ [] b s' := by
  subst hm
  exact yields_getRt ((yields_sys (c := .pidfdSendSignal rt.pidfd sigstop) () rfl).then
    (yields_modifyRt h))

theorem yields_stopAndObserve_error (e : Errno) :
    Yields (bpeStopAndObserve fuel runtimeDeadline) ⟨err, rt, {}⟩ [] false
      ⟨e, rt, ⟨some .pidfdSignal, .pidfdSignalFailed, e⟩⟩ :=
  yields_getRt ((yields_sys_error (c := .pidfdSendSignal rt.pidfd sigstop) e).then
    yields_fail_errno)

theorem yields_checkStopped (child : Pid) (started k mask : Nat) :
    Yields (checkStopped (fuel + 1)) ⟨0, liveRt started child.val k mask, {}⟩ [] true
      ⟨0, liveRt started child.val k mask, {}⟩ := by
  refine yields_getRt ((yields_readEvents _ fuel _ true).then
    ((yields_readProcs_pid _ fuel _ child).then (yields_ite_neg (by decide) ?_)))
  exact yields_ite_neg (by decide) (yields_pure _ _)

theorem yields_checkStopped_empty (child : Pid) (started k mask : Nat) :
    Yields (checkStopped (fuel + 1)) ⟨0, liveRt started child.val k mask, {}⟩ [] false
      ⟨0, liveRt started child.val k mask, ⟨some .pidfdSignal, .childObservationFailed, 0⟩⟩ := by
  refine yields_getRt ((yields_readEvents _ fuel _ false).then
    ((yields_readProcs_pid _ fuel _ child).then (yields_ite_neg (by decide) ?_)))
  exact yields_ite_pos (by decide) yields_fail

theorem yields_checkStopped_io {e : Nat} (he : e ≤ protocolMaxErrno) :
    Yields (checkStopped fuel) ⟨0, rt, {}⟩ [] false ⟨e, rt, ⟨some .pidfdSignal, .ioFailure, e⟩⟩ :=
  yields_getRt ((yields_readEvents_fails fuel rt rt.eventsFd he).then
    yields_fail_errno)

end Stop

/-! ## Killing and reaping the child -/

section Kill

variable (fuel : Nat) (err : Nat) (rt : Runtime)

theorem yields_killLive {mask : Nat} (hm : rt.achieved ||| liveCgroupKillBit = mask) :
    Yields killLive ⟨err, rt, {}⟩ [] true ⟨err, { rt with achieved := mask }, {}⟩ := by
  subst hm
  have hwrite : Yields (bpeWriteCgroupKill rt.killFd) ⟨err, rt, {}⟩ [] true ⟨err, rt, {}⟩ :=
    (yields_interruptible (yields_sys (c := .write rt.killFd [49]) ⟨1, by decide⟩ rfl)).then
      (yields_pure _ _)
  exact yields_getRt (hwrite.then (yields_modifyRt (yields_pure _ _)))

theorem yields_killLive_error (e : Errno) : Yields killLive ⟨err, rt, {}⟩ [] false
    ⟨e, rt, ⟨some .cgroupKill, .cgroupKillFailed, e⟩⟩ := by
  have hwrite : Yields (bpeWriteCgroupKill rt.killFd) ⟨err, rt, {}⟩ [] false ⟨e, rt, {}⟩ :=
    (yields_interruptible_error e).then (yields_pure _ _)
  exact yields_getRt (hwrite.then yields_fail_errno)

theorem yields_observeLive (hpid : rt.childPid ≠ 0) {mask : Nat}
    (hm : rt.achieved ||| pidfdExitObservedBit ||| cgroupEmptyBit = mask) :
    Yields (observeLive (fuel + 1) runtimeDeadline) ⟨err, rt, {}⟩ [] true
      ⟨err, { rt with achieved := mask }, {}⟩ := by
  subst hm
  refine (yields_observeKilled fuel runtimeDeadline true _ ⟨rt.childPid, cldKilled, sigkill⟩
    hpid).then (yields_getRt (yields_ite_neg ?_ ?_))
  · simp
  · exact yields_modifyRt (yields_pure _ _)

theorem yields_observeLive_none {s s' : LState}
    (h : Yields (bpeObserveKilledAndEmpty fuel runtimeDeadline true) s [] none s') :
    Yields (observeLive fuel runtimeDeadline) s [] false s' :=
  h.then (yields_pure _ _)

theorem yields_observeLive_io {e : Nat} (he : e ≤ protocolMaxErrno) :
    Yields (observeLive (fuel + 1) runtimeDeadline) ⟨0, rt, {}⟩ [] false
      ⟨e, rt, ⟨some .childObservation, .ioFailure, e⟩⟩ := by
  have hempty : Yields (observeEmpty (fuel + 1) rt.eventsFd false) ⟨0, rt, {}⟩ [] none
      ⟨e, rt, ⟨some .childObservation, .ioFailure, e⟩⟩ :=
    (yields_readEvents_fails (fuel + 1) rt rt.eventsFd he).then
      yields_fail_errno
  exact yields_observeLive_none _ (yields_done fuel (yields_getRt (hempty.then (yields_pure _ _))))

/-- The exit is not that of a killed child, with any `errno`. -/
theorem yields_observeLive_wait {e : Nat} (he : e ≤ protocolMaxErrno) (hpid : rt.childPid ≠ 0) :
    ∃ err', Yields (observeLive (fuel + 1) runtimeDeadline) ⟨err, rt, {}⟩ [] false
      ⟨err', rt, ⟨some .childObservation, .childObservationFailed, e⟩⟩ := by
  obtain rfl | ⟨e, rfl⟩ := zero_or_errno he
  · refine ⟨err, (yields_observeKilled fuel runtimeDeadline true _
      ⟨rt.childPid, cldStopped, sigkill⟩ hpid).then (yields_getRt (yields_ite_pos ?_ ?_))⟩
    · exact .inr (.inl (show (cldStopped : Int) ≠ cldKilled by decide))
    · exact yields_fail
  · have hempty : Yields (observeEmpty (fuel + 1) rt.eventsFd false) ⟨err, rt, {}⟩ [] (some true)
        ⟨err, rt, {}⟩ :=
      (yields_readEvents _ fuel rt.eventsFd false).then (yields_pure _ _)
    have hexit : Yields (observeExit rt.pidfd none) ⟨err, rt, {}⟩ [] none
        ⟨e, rt, ⟨some .childObservation, .childObservationFailed, e⟩⟩ :=
      (yields_sys_error (c := .waitid rt.pidfd (wexited ||| wnohang ||| wnowait))
        e).then yields_fail_errno
    exact ⟨e, yields_observeLive_none _ (yields_done fuel (yields_getRt (hempty.then
      (hexit.then (yields_pure _ _)))))⟩

/-- Nothing to see yet: the cgroup is populated and the child has not exited. -/
theorem yields_observeNothing : Yields (observeEmpty (fuel + 1) rt.eventsFd false) ⟨err, rt, {}⟩ []
      (some false) ⟨err, rt, {}⟩ ∧
    Yields (observeExit rt.pidfd none) ⟨err, rt, {}⟩ [] (some none) ⟨err, rt, {}⟩ :=
  ⟨(yields_readEvents _ fuel rt.eventsFd true).then (yields_pure _ _),
    (yields_sys (c := .waitid rt.pidfd (wexited ||| wnohang ||| wnowait)) noChange rfl).then
      (yields_pure _ _)⟩

theorem yields_observeLive_timeout : Yields (observeLive (fuel + 1) runtimeDeadline)
    ⟨err, rt, {}⟩ [] false ⟨err, rt, ⟨some .childObservation, .timeout, 0⟩⟩ := by
  obtain ⟨hempty, hexit⟩ := yields_observeNothing fuel err rt
  refine yields_observeLive_none _ (yields_done fuel (yields_getRt (hempty.then (hexit.then
    (yields_ite_neg (by decide) ((yields_pollUntil_timeout _ fuel _ _ _).then ?_))))))
  exact yields_ite_pos rfl yields_fail

theorem yields_observeLive_input : Yields (observeLive (fuel + 1) runtimeDeadline) ⟨err, rt, {}⟩ []
    false ⟨err, rt, ⟨some .protocol, .protocolInput, 0⟩⟩ := by
  obtain ⟨hempty, hexit⟩ := yields_observeNothing fuel err rt
  refine yields_observeLive_none _ (yields_done fuel (yields_getRt (hempty.then (hexit.then
    (yields_ite_neg (by decide) ((yields_pollUntil _ fuel _ (by decide) (onlyRevents 0 pollin)
      (n := 1) rfl).then (yields_ite_neg (by decide) ?_)))))))
  exact ((yields_pure true _).andM (yields_controlFailed_input (by decide) _)).then
    (yields_ite_pos rfl (yields_pure _ _))

theorem yields_reapChild_fails {e : Nat} (he : e ≤ protocolMaxErrno) (hpid : rt.childPid ≠ 0) :
    Yields bpeReapChild ⟨0, rt, {}⟩ [] false ⟨e, rt, ⟨some .childReap, .childReapFailed, e⟩⟩ := by
  obtain rfl | ⟨e, rfl⟩ := zero_or_errno he
  · refine yields_getRt ((yields_sys (c := .waitid rt.pidfd wexited) noChange rfl).then ?_)
    refine yields_ite_pos (by simpa [noChange] using hpid.symm) (yields_getErrno ?_)
    exact yields_fail
  · refine yields_getRt ((yields_sys_error (c := .waitid rt.pidfd wexited)
      e).then (yields_ite_pos rfl (yields_getErrno ?_)))
    exact yields_fail

end Kill

/-! ## The end -/

section Final

variable {rt : Runtime}

theorem yields_finalElapsed (hstart : rt.startedNs = 0) (hmask : rt.achieved = achievedResultMask)
    {elapsed : Nat} (hpos : 0 < elapsed) (hlt : elapsed < 2 ^ 64) :
    Yields finalElapsed ⟨0, rt, {}⟩ [] (some elapsed) ⟨0, rt, {}⟩ := by
  have helapsed : Yields bpeElapsedNs ⟨0, rt, {}⟩ [] elapsed ⟨0, rt, {}⟩ := by
    refine (yields_monotonicNs _ elapsed hlt).then (yields_getRt ?_)
    simpa [hstart] using yields_pure elapsed _
  refine yields_getRt (yields_ite_neg (by simpa using hmask) (helapsed.then ?_))
  exact yields_ite_neg (by omega) (yields_pure _ _)

/-- The clock cannot be read. -/
theorem yields_finalElapsed_zero (hmask : rt.achieved = achievedResultMask) :
    Yields finalElapsed ⟨0, rt, {}⟩ [] none ⟨0, rt, ⟨some .cleanup, .internal, 0⟩⟩ := by
  have helapsed : Yields bpeElapsedNs ⟨0, rt, {}⟩ [] 0 ⟨0, rt, {}⟩ :=
    (yields_monotonicNs_none _).then (yields_pure _ _)
  refine yields_getRt (yields_ite_neg (by simpa using hmask) (helapsed.then ?_))
  exact yields_ite_pos rfl yields_fail

theorem yields_closeFinal (rt : Runtime) : ∃ rt', SameReport rt rt' ∧
    Yields closeFinal ⟨0, rt, {}⟩ [] true ⟨0, rt', {}⟩ := by
  obtain ⟨rt', hsame, hclose⟩ := yields_closeOwned 0 rt {}
  exact ⟨rt', hsame, hclose.then (yields_pure _ _)⟩

theorem yields_closeFinal_error (h : rt.cgroupUsable = true) (e : Errno) :
    ∃ rt', SameReport rt rt' ∧ Yields closeFinal ⟨0, rt, {}⟩ [] false
      ⟨e, rt', ⟨some .cleanup, .cleanupIncomplete, e⟩⟩ := by
  obtain ⟨rt', hsame, hclose⟩ := yields_closeOwned_error 0 {} h e
  exact ⟨rt', hsame, hclose.then yields_fail_errno⟩

end Final

end Bpe.Launcher
