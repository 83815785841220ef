import Bpe.Launcher.Edges

/-!
# Every record of the abstract launcher is sent

Each row of `raiseTable` is reached from the start of its stretch of `main`,
for every `errno` the row allows. With the outcomes of the cleanup, every
`ErrorRecord` ends a run of the launcher, and so does every FINAL record.
-/

namespace Bpe.Launcher

open Bpe.Native Proc List

variable {k mask e : Nat} {site : Site}

/-! ## Failing stretches -/

/-- The failures that leave the cgroup directory open. -/
def KeepsCgroup (site : Site) : Prop :=
  site.reason ≠ .badCgroupDescriptor ∧ site.reason ≠ .cleanupIncomplete

instance (site : Site) : Decidable (KeepsCgroup site) := by unfold KeepsCgroup; infer_instance

/-- A stretch of `main` can deliver `frames` and go to `fail` at the point
`(k, mask)`, with the failure of `site` and the error number `e`. -/
def Fails {α : Type} (m : LM α) (a : α) (s : LState) (frames : List (List UInt8)) (k mask : Nat)
    (site : Site) (e : Nat) : Prop :=
  ∃ err rt, Ready k mask rt ∧ (KeepsCgroup site → rt.cgroupUsable = true) ∧
    Yields m s frames a ⟨err, rt, ⟨some site.stage, site.reason, e⟩⟩

theorem Fails.imp {α β : Type} {m : LM α} {m' : LM β} {a : α} {b : β} {s s' : LState}
    {frames frames' : List (List UInt8)} (h : Fails m a s frames k mask site e)
    (hm : ∀ {s₁}, Yields m s frames a s₁ → Yields m' s' frames' b s₁) :
    Fails m' b s' frames' k mask site e := by
  obtain ⟨err, rt, hready, hcgroup, hy⟩ := h
  exact ⟨err, rt, hready, hcgroup, hm hy⟩

theorem ready_live (child k : Nat) (h : mask ∈ liveMasks) : Ready k mask (liveRt 0 child k mask) :=
  ⟨⟨rfl, rfl, rfl, rfl⟩, fun _ => ⟨rfl, rfl, show (0 : Int) ≤ 10 by decide,
    show (0 : Int) ≤ 5 by decide, show (0 : Int) ≤ 6 by decide⟩, fun hn => absurd h hn⟩

theorem ready_idle {rt : Runtime} (hs : rt.sequence = k) (ha : rt.achieved = 0)
    (hctl : rt.controlUsable = true) (hpeer : rt.peerOpen = true) (hc : rt.childCreated = false) :
    Ready k 0 rt :=
  ⟨⟨hs, ha, hctl, hpeer⟩, fun h => absurd h (by decide), fun _ => by simp [hc]⟩

theorem Fails.idle {α : Type} {m : LM α} {a : α} {s : LState} {frames : List (List UInt8)}
    {err : Nat} (hy : Yields m s frames a ⟨err, setupRt 0 k, ⟨some site.stage, site.reason, e⟩⟩) :
    Fails m a s frames k 0 site e :=
  ⟨err, _, ready_idle rfl rfl rfl rfl rfl, fun _ => rfl, hy⟩

theorem Fails.live {α : Type} {m : LM α} {a : α} {s : LState} {frames : List (List UInt8)}
    {err child : Nat} (h : mask ∈ liveMasks)
    (hy : Yields m s frames a ⟨err, liveRt 0 child k mask, ⟨some site.stage, site.reason, e⟩⟩) :
    Fails m a s frames k mask site e :=
  ⟨err, _, ready_live child k h, fun _ => rfl, hy⟩

section Hello

variable (pid : Pid)

/-- Rows after no frame. -/
theorem mainHello_fails (h : (0, mask, site) ∈ raiseTable) (he : site.errnos.Mem e) :
    Fails (mainHello 2 (soleArgs pid)) false ⟨0, startRt 0, {}⟩ [] 0 mask site e := by
  have hargs := yields_checkArguments pid ⟨0, startRt 0, {}⟩
  have hfds := yields_startupFds ⟨0, startRt 0, {}⟩ 0
  have hopen := yields_openCgroupFiles ⟨eagain, checkedRt 0, {}⟩
  simp only [raiseTable, protocolInputSite, mem_cons, Prod.mk.injEq, true_and, not_mem_nil,
    OfNat.zero_ne_ofNat, zero_ne_one, false_and, or_false] at h
  rcases h with ⟨rfl, rfl⟩ | ⟨rfl, rfl⟩ | ⟨rfl, rfl⟩ | ⟨rfl, rfl⟩ | ⟨rfl, rfl⟩ | ⟨rfl, rfl⟩
  · obtain ⟨err', hfail⟩ := yields_startupFds_layout 0 (startRt 0) 2 he
    exact ⟨err', _, ready_idle rfl rfl rfl rfl rfl, fun _ => rfl, hargs.andM hfail.andM_false⟩
  · exact ⟨_, _, ready_idle rfl rfl rfl rfl rfl, fun hk => absurd rfl hk.1,
      hargs.andM (yields_startupFds_cgroup 0 (startRt 0) 2 ⟨e, he⟩).andM_false⟩
  · exact ⟨_, _, ready_idle rfl rfl rfl rfl rfl, fun hk => absurd rfl hk.1,
      hargs.andM (hfds.andM (yields_openCgroupFiles_error _ _ ⟨e, he⟩).andM_false)⟩
  · obtain rfl : e = 0 := he
    exact .idle
      (hargs.andM (hfds.andM (hopen.andM (yields_cgroupEmpty_populated _ _ 1).andM_false)))
  · obtain ⟨err', hfail⟩ := yields_confine_fails (setupRt 0 0) he
    exact .idle
      (hargs.andM (hfds.andM (hopen.andM ((yields_cgroupEmpty _ 1).andM hfail.andM_false))))
  · exact .idle
      (hargs.andM (hfds.andM (hopen.andM ((yields_cgroupEmpty _ 1).andM ((yields_confine _).andM
        (yields_emitSuccess_error rfl rfl (by decide) _ _ _ _ ⟨e, he⟩))))))

end Hello

section ChildReady

variable (pid : Pid)

theorem yields_startDeadline (s : LState) : Yields startDeadline s [] (some runtimeDeadline) s :=
  (yields_deadlineAfterMs s (by decide)).then (yields_pure _ _)

/-- The clock cannot be read, with any `errno`. -/
theorem yields_startDeadline_fails (rt : Runtime) (he : e ≤ protocolMaxErrno) :
    Yields startDeadline ⟨0, rt, {}⟩ [] none ⟨e, rt, ⟨some .fixtureSetup, .internal, e⟩⟩ := by
  obtain rfl | ⟨e, rfl⟩ := zero_or_errno he
  · exact yields_replay [⟨.clockGettime, .ok ⟨-1, 0⟩⟩] rfl rfl
  · exact yields_replay [⟨.clockGettime, .error e⟩] rfl rfl

/-- The checks between the deadline and the CHILD_READY frame. -/
def childReadyChecks (args : LaunchArgs) : LM Bool :=
  bpeControlQuiet .fixtureSetup <&&> bpeCloneFixture args.launcherPid <&&>
    bpeWaitChildReady 2 runtimeDeadline <&&> bpeWaitPopulatedOne 2 runtimeDeadline <&&>
    checkChildAlone 2 <&&> bpeControlQuiet .childReady

theorem yields_childReadyChecks (child : { child : Pid // child ≠ pid }) :
    Yields (childReadyChecks (soleArgs pid)) ⟨0, setupRt 0 1, {}⟩ [] true
      ⟨0, liveRt 0 child.val.val 1 0x103, {}⟩ :=
  (yields_controlQuiet _ _).andM ((yields_cloneFixture pid child).andM
    ((yields_waitChildReady 0 _).andM ((yields_waitPopulatedOne 1 _).andM
    ((yields_checkChildAlone 1 child.val 0 1 0x003).andM (yields_controlQuiet _ _)))))

theorem yields_mainChildReady_false {s' : LState} {args : LaunchArgs}
    (h : Yields (childReadyChecks args) ⟨0, setupRt 0 1, {}⟩ [] false s') :
    Yields (mainChildReady 2 args) ⟨0, setupRt 0 1, {}⟩ [] none s' :=
  (yields_startDeadline _).then (h.then (yields_pure _ _))

theorem ready_born (child : Nat) (h : mask ∈ liveMasks) :
    Ready 1 mask { bornRt child with achieved := mask } :=
  ⟨⟨rfl, rfl, rfl, rfl⟩, fun _ => ⟨rfl, rfl, show (0 : Int) ≤ 10 by decide,
    show (0 : Int) ≤ 5 by decide, show (0 : Int) ≤ 6 by decide⟩, fun hn => absurd h hn⟩

/-- A failed `clone3`, for each of its reasons. -/
theorem fails_clone {reason : NativeReason} {errnos : ErrnoSet} (hf : Fresh e)
    (hr : cloneFailureReason e = reason) :
    Fails (mainChildReady 2 (soleArgs pid)) none ⟨0, setupRt 0 1, {}⟩ [] 1 0
      ⟨reason, .clone3, errnos⟩ e := by
  subst hr
  exact ⟨_, _, ready_idle rfl rfl rfl rfl rfl, fun _ => rfl, yields_mainChildReady_false
    ((yields_controlQuiet _ _).andM (yields_cloneFixture_clone pid ⟨e, hf⟩).andM_false)⟩

theorem mainChildReady_fails (child : { child : Pid // child ≠ pid })
    (h : (1, mask, site) ∈ raiseTable) (he : site.errnos.Mem e) :
    Fails (mainChildReady 2 (soleArgs pid)) none ⟨0, setupRt 0 1, {}⟩ [] 1 mask site e := by
  have hquiet := yields_controlQuiet ⟨0, setupRt 0 1, {}⟩ .fixtureSetup
  have hclone := yields_cloneFixture pid child
  have hready := yields_waitChildReady 0 ⟨0, liveRt 0 child.val.val 1 0x003, {}⟩
  have hpopulated := yields_waitPopulatedOne 1 ⟨0, liveRt 0 child.val.val 1 0x003, {}⟩
  have halone : Yields (checkChildAlone 2) ⟨0, liveRt 0 child.val.val 1 0x003, {}⟩ [] true
      ⟨0, liveRt 0 child.val.val 1 0x103, {}⟩ := yields_checkChildAlone 1 child.val 0 1 0x003
  simp only [raiseTable, protocolInputSite, mem_cons, Prod.mk.injEq, true_and, not_mem_nil,
    OfNat.one_ne_ofNat, one_ne_zero, false_and, or_false, false_or] at h
  rcases h with ⟨rfl, rfl⟩ | ⟨rfl, rfl⟩ | ⟨rfl, rfl⟩ | ⟨rfl, rfl⟩ | ⟨rfl, rfl⟩ | ⟨rfl, rfl⟩ |
    ⟨rfl, rfl⟩ | ⟨rfl, rfl⟩ | ⟨rfl, rfl⟩ | ⟨rfl, rfl⟩ | ⟨rfl, rfl⟩ | ⟨rfl, rfl⟩ | ⟨rfl, rfl⟩ |
    ⟨rfl, rfl⟩ | ⟨rfl, rfl⟩ | ⟨rfl, rfl⟩ | ⟨rfl, rfl⟩
  · exact .idle ((yields_startDeadline_fails _ he).then (yields_pure _ _))
  · exact .idle (yields_mainChildReady_false (yields_controlQuiet_error _ ⟨e, he⟩).andM_false)
  · obtain rfl : e = 0 := he
    exact .idle (yields_mainChildReady_false (yields_controlQuiet_input _).andM_false)
  · exact .idle (yields_mainChildReady_false (hquiet.andM
      (yields_cloneFixture_pipe pid ⟨e, he⟩).andM_false))
  · rcases he with rfl | rfl | rfl | rfl <;> exact fails_clone pid (by decide) rfl
  · obtain rfl : e = enosys := he
    exact fails_clone pid (by decide) rfl
  · obtain ⟨hfresh, h₁, h₂, h₃, h₄, h₅⟩ := he
    exact fails_clone pid hfresh (by simp [cloneFailureReason, h₁, h₂, h₃, h₄, h₅])
  · obtain ⟨err', hfail⟩ := yields_cloneFixture_pidfd pid child he
    exact ⟨err', _, ready_born _ (by decide), fun _ => rfl,
      yields_mainChildReady_false (hquiet.andM hfail.andM_false)⟩
  · exact ⟨_, _, ready_born _ (by decide), fun _ => rfl,
      yields_mainChildReady_false (hquiet.andM (yields_cloneFixture_close pid child
        ⟨e, he⟩).andM_false)⟩
  · obtain rfl : e = 0 := he
    exact .live (by decide) (yields_mainChildReady_false (hquiet.andM (hclone.andM
      (yields_waitChildReady_timeout 1).andM_false)))
  · exact .live (by decide) (yields_mainChildReady_false (hquiet.andM (hclone.andM (hready.andM
      (yields_waitPopulatedOne_io 1 he).andM_false))))
  · obtain rfl : e = 0 := he
    exact .live (by decide) (yields_mainChildReady_false (hquiet.andM (hclone.andM
      (yields_waitChildReady_input 1).andM_false)))
  · obtain ⟨err', hfail⟩ := yields_waitChildReady_setup 1 he
    exact .live (by decide) (yields_mainChildReady_false (hquiet.andM (hclone.andM
      hfail.andM_false)))
  · obtain rfl : e = 0 := he
    exact .live (by decide) (yields_mainChildReady_false (hquiet.andM (hclone.andM (hready.andM
      (hpopulated.andM (yields_checkChildAlone_mismatch 2 child.val 0 1 0x003).andM_false)))))
  · exact .live (by decide) (yields_mainChildReady_false (hquiet.andM (hclone.andM (hready.andM
      (hpopulated.andM (halone.andM (yields_controlQuiet_error _ ⟨e, he⟩)))))))
  · obtain rfl : e = 0 := he
    exact .live (by decide) (yields_mainChildReady_false (hquiet.andM (hclone.andM (hready.andM
      (hpopulated.andM (halone.andM (yields_controlQuiet_input _)))))))
  · refine ⟨e, liveRt 0 child.val.val 1 0x103, ready_live _ _ (by decide), fun _ => rfl,
      (yields_startDeadline _).then ((yields_childReadyChecks pid child).then (yields_getRt ?_))⟩
    exact (yields_emitSuccess_error rfl rfl (show 1 < 8 by decide) _ _ _ _ ⟨e, he⟩).then
      (yields_pure _ _)

theorem yields_mainChildReady (child : { child : Pid // child ≠ pid }) :
    Yields (mainChildReady 2 (soleArgs pid)) ⟨0, setupRt 0 1, {}⟩
      [InertNativeFrame.encode ⟨.childReady, 1, .ok, .childReady, .none, 0, child.val.val,
        requiredCloneFlags⟩] (some runtimeDeadline) ⟨0, liveRt 0 child.val.val 2 0x103, {}⟩ := by
  refine (yields_startDeadline _).then ((yields_childReadyChecks pid child).then (yields_getRt ?_))
  exact (yields_emitSuccess rfl rfl (show 1 < 8 by decide) _ _ _ _).last (yields_pure _ _)

end ChildReady

section Live

variable (child : Pid)

theorem childPid_ne_zero (k mask : Nat) : (liveRt 0 child.val k mask).childPid ≠ 0 := by
  have hpid := child.property.1
  show (child.val : Int) ≠ 0
  omega

theorem yields_stopped : Yields (bpeStopAndObserve 2 runtimeDeadline)
    ⟨0, liveRt 0 child.val 2 0x103, {}⟩ [] true ⟨0, liveRt 0 child.val 2 0x10F, {}⟩ :=
  yields_stopAndObserve 2 0 _ (show 0x103 ||| pidfdStopSentBit = 0x107 by decide)
    (yields_observeStopped 1 0 (liveRt 0 child.val 2 0x107) (childPid_ne_zero child _ _)
      (show 0x107 ||| pidfdStopObservedBit = 0x10F by decide))

theorem yields_signaled_false {s' : LState} (h : Yields (observeStopped 2 runtimeDeadline)
      ⟨0, liveRt 0 child.val 2 0x107, {}⟩ [] false s') :
    Yields (mainChildSignaled 2 runtimeDeadline) ⟨0, liveRt 0 child.val 2 0x103, {}⟩ [] false s' :=
  (yields_stopAndObserve 2 0 _ (show 0x103 ||| pidfdStopSentBit = 0x107 by decide) h).andM_false

theorem mainChildSignaled_fails (h : (2, mask, site) ∈ raiseTable) (he : site.errnos.Mem e) :
    Fails (mainChildSignaled 2 runtimeDeadline) false ⟨0, liveRt 0 child.val 2 0x103, {}⟩ [] 2
      mask site e := by
  have hstop := yields_stopped child
  have hcheck := yields_checkStopped 1 child 0 2 0x10F
  have hpid := childPid_ne_zero child 2 0x107
  simp only [raiseTable, protocolInputSite, mem_cons, Prod.mk.injEq, true_and, not_mem_nil,
    OfNat.ofNat_ne_zero, OfNat.ofNat_ne_one, Nat.reduceEqDiff, false_and, or_false, false_or] at h
  rcases h with ⟨rfl, rfl⟩ | ⟨rfl, rfl⟩ | ⟨rfl, rfl⟩ | ⟨rfl, rfl⟩ | ⟨rfl, rfl⟩ | ⟨rfl, rfl⟩ |
    ⟨rfl, rfl⟩ | ⟨rfl, rfl⟩ | ⟨rfl, rfl⟩ | ⟨rfl, rfl⟩
  · exact .live (by decide) ((yields_stopAndObserve_error 2 0 _ ⟨e, he⟩).andM_false)
  · obtain ⟨err', hfail⟩ := yields_observeStopped_wait 1 0 _ he hpid
    exact .live (by decide) (yields_signaled_false child hfail)
  · exact .live (by decide) (yields_signaled_false child (yields_observeStopped_poll 1 0 _ ⟨e, he.1⟩
      he.2))
  · obtain rfl : e = 0 := he
    exact .live (by decide) (yields_signaled_false child (yields_observeStopped_timeout 1 0 _))
  · obtain rfl : e = 0 := he
    exact .live (by decide) (yields_signaled_false child (yields_observeStopped_input 1 0 _))
  · exact .live (by decide) (hstop.andM (yields_checkStopped_io 2 _ he).andM_false)
  · obtain rfl : e = 0 := he
    exact .live (by decide) (hstop.andM (yields_checkStopped_empty 1 child 0 2 0x10F).andM_false)
  · exact .live (by decide) (hstop.andM (hcheck.andM (yields_controlQuiet_error _ ⟨e,
      he⟩).andM_false))
  · obtain rfl : e = 0 := he
    exact .live (by decide) (hstop.andM (hcheck.andM (yields_controlQuiet_input _).andM_false))
  · exact .live (by decide) (hstop.andM (hcheck.andM ((yields_controlQuiet _ _).andM
      (yields_emitSuccess_error rfl rfl (show 2 < 8 by decide) _ _ _ _ ⟨e, he⟩))))

theorem yields_mainChildSignaled : Yields (mainChildSignaled 2 runtimeDeadline)
    ⟨0, liveRt 0 child.val 2 0x103, {}⟩
    [InertNativeFrame.encode ⟨.childSignaled, 2, .ok, .pidfdSignal, .none, 0, cldStopped, sigstop⟩]
    true ⟨0, liveRt 0 child.val 3 0x10F, {}⟩ :=
  (yields_stopped child).andM ((yields_checkStopped 1 child 0 2 0x10F).andM
    ((yields_controlQuiet _ _).andM (yields_emitSuccess rfl rfl (show 2 < 8 by decide) _ _ _ _)))

theorem yields_killed : Yields killLive ⟨0, liveRt 0 child.val 3 0x10F, {}⟩ [] true
    ⟨0, liveRt 0 child.val 3 0x11F, {}⟩ :=
  yields_killLive 0 _ (show 0x10F ||| liveCgroupKillBit = 0x11F by decide)

theorem yields_observed : Yields (observeLive 2 runtimeDeadline) ⟨0, liveRt 0 child.val 3 0x11F, {}⟩
    [] true ⟨0, liveRt 0 child.val 3 0x1BF, {}⟩ :=
  yields_observeLive 1 0 _ (childPid_ne_zero child _ _)
    (show 0x11F ||| pidfdExitObservedBit ||| cgroupEmptyBit = 0x1BF by decide)

theorem mainChildObserved_fails (h : (3, mask, site) ∈ raiseTable) (he : site.errnos.Mem e) :
    Fails (mainChildObserved 2 runtimeDeadline) false ⟨0, liveRt 0 child.val 3 0x10F, {}⟩ [] 3
      mask site e := by
  have hquiet := yields_controlQuiet ⟨0, liveRt 0 child.val 3 0x10F, {}⟩ .cgroupKill
  have hkill := yields_killed child
  have hobserve := yields_observed child
  simp only [raiseTable, protocolInputSite, mem_cons, Prod.mk.injEq, true_and, not_mem_nil,
    OfNat.ofNat_ne_zero, OfNat.ofNat_ne_one, Nat.reduceEqDiff, false_and, or_false, false_or] at h
  rcases h with ⟨rfl, rfl⟩ | ⟨rfl, rfl⟩ | ⟨rfl, rfl⟩ | ⟨rfl, rfl⟩ | ⟨rfl, rfl⟩ | ⟨rfl, rfl⟩ |
    ⟨rfl, rfl⟩ | ⟨rfl, rfl⟩ | ⟨rfl, rfl⟩ | ⟨rfl, rfl⟩
  · exact .live (by decide) ((yields_controlQuiet_error _ ⟨e, he⟩).andM_false)
  · obtain rfl : e = 0 := he
    exact .live (by decide) ((yields_controlQuiet_input _).andM_false)
  · exact .live (by decide) (hquiet.andM (yields_killLive_error 0 _ ⟨e, he⟩).andM_false)
  · exact .live (by decide) (hquiet.andM (hkill.andM (yields_observeLive_io 1 _ he).andM_false))
  · obtain ⟨err', hfail⟩ := yields_observeLive_wait 1 0 _ he (childPid_ne_zero child 3 0x11F)
    exact .live (by decide) (hquiet.andM (hkill.andM hfail.andM_false))
  · obtain rfl : e = 0 := he
    exact .live (by decide) (hquiet.andM (hkill.andM (yields_observeLive_timeout 1 0 _).andM_false))
  · obtain rfl : e = 0 := he
    exact .live (by decide) (hquiet.andM (hkill.andM (yields_observeLive_input 1 0 _).andM_false))
  · exact .live (by decide) (hquiet.andM (hkill.andM (hobserve.andM (yields_controlQuiet_error _ ⟨e,
      he⟩).andM_false)))
  · obtain rfl : e = 0 := he
    exact .live (by decide) (hquiet.andM (hkill.andM (hobserve.andM (yields_controlQuiet_input
      _).andM_false)))
  · exact .live (by decide) (hquiet.andM (hkill.andM (hobserve.andM ((yields_controlQuiet _ _).andM
      (yields_emitSuccess_error rfl rfl (show 3 < 8 by decide) _ _ _ _ ⟨e, he⟩)))))

theorem yields_mainChildObserved : Yields (mainChildObserved 2 runtimeDeadline)
    ⟨0, liveRt 0 child.val 3 0x10F, {}⟩
    [InertNativeFrame.encode
      ⟨.childObserved, 3, .ok, .childObservation, .none, 0, cldKilled, sigkill⟩]
    true ⟨0, liveRt 0 child.val 4 0x1BF, {}⟩ :=
  (yields_controlQuiet _ _).andM ((yields_killed child).andM ((yields_observed child).andM
    ((yields_controlQuiet _ _).andM (yields_emitSuccess rfl rfl (show 3 < 8 by decide) _ _ _ _))))

end Live

section Final

variable (child : Pid)

def finalRt (child : Nat) : Runtime :=
  { liveRt 0 child 4 achievedResultMask with childReaped := true }

theorem ready_final {rt : Runtime} (h : SameReport (finalRt child.val) rt) :
    Ready 4 achievedResultMask rt :=
  ⟨⟨h.sequence, h.achieved, h.controlUsable, h.peerOpen⟩, fun hm => absurd hm (by decide),
    fun _ => by simp [h.childReaped, finalRt]⟩

theorem yields_reaped : Yields bpeReapChild ⟨0, liveRt 0 child.val 4 0x1BF, {}⟩ [] true
    ⟨0, finalRt child.val, {}⟩ := by
  have hrt : reapedRt (liveRt 0 child.val 4 0x1BF) true = finalRt child.val := by
    rw [finalRt, show achievedResultMask = 0x1BF ||| childReapedBit by decide]
    rfl
  rw [← hrt]
  exact yields_reapChild

theorem mainFinal_fails (h : (4, mask, site) ∈ raiseTable) (he : site.errnos.Mem e) :
    Fails mainFinal none ⟨0, liveRt 0 child.val 4 0x1BF, {}⟩ [] 4 mask site e := by
  have hreap := yields_reaped child
  have hsame : SameReport (finalRt child.val) (finalRt child.val) := (Kept.refl _).1
  have helapsed : Yields finalElapsed ⟨0, finalRt child.val, {}⟩ [] (some 1)
      ⟨0, finalRt child.val, {}⟩ := yields_finalElapsed rfl rfl (by decide) (by decide)
  simp only [raiseTable, protocolInputSite, mem_cons, Prod.mk.injEq, true_and, not_mem_nil,
    OfNat.ofNat_ne_zero, OfNat.ofNat_ne_one, Nat.reduceEqDiff, false_and, or_false, false_or] at h
  rcases h with ⟨rfl, rfl⟩ | ⟨rfl, rfl⟩ | ⟨rfl, rfl⟩ | ⟨rfl, rfl⟩ | ⟨rfl, rfl⟩
  · exact .live (by decide) ((yields_reapChild_fails _ he (childPid_ne_zero child _ _)).then
      (yields_pure _ _))
  · obtain rfl : e = 0 := he
    exact ⟨_, _, ready_final child hsame, fun _ => rfl,
      hreap.then ((yields_finalElapsed_zero rfl).then (yields_pure _ _))⟩
  · exact ⟨_, _, ready_final child hsame, fun _ => rfl, hreap.then (helapsed.then
      ((yields_controlQuiet_error _ ⟨e, he⟩).andM_false.then (yields_pure _ _)))⟩
  · obtain rfl : e = 0 := he
    exact ⟨_, _, ready_final child hsame, fun _ => rfl, hreap.then (helapsed.then
      ((yields_controlQuiet_input _).andM_false.then (yields_pure _ _)))⟩
  · obtain ⟨rt', hrt, hclose⟩ := yields_closeFinal_error
      (show (finalRt child.val).cgroupUsable = true from rfl) ⟨e, he⟩
    exact ⟨_, rt', ready_final child hrt, fun hk => absurd rfl hk.2, hreap.then (helapsed.then
      (((yields_controlQuiet _ _).andM hclose).then (yields_pure _ _)))⟩

theorem yields_mainFinal {elapsed : Nat} (hpos : 0 < elapsed) (hlt : elapsed < 2 ^ 64) : ∃ s',
    Yields mainFinal ⟨0, liveRt 0 child.val 4 0x1BF, {}⟩ [(finalFrame elapsed).encode] (some .ok)
      s' := by
  obtain ⟨rt', hrt, hclose⟩ := yields_closeFinal (finalRt child.val)
  have hready := ready_final child hrt
  have hemit := yields_emitFrame (s := ⟨0, rt', {}⟩) hready.control hready.peer
    (by rw [hready.sequence]; decide) .final .ok .cleanup .none 0 rt'.achieved elapsed
  have hframe : (⟨.final, rt'.sequence, .ok, .cleanup, .none, 0, rt'.achieved, elapsed⟩ :
      InertNativeFrame) = finalFrame elapsed := by
    rw [hready.sequence, hready.achieved]; rfl
  rw [hframe] at hemit
  exact ⟨_, (yields_reaped child).then ((yields_finalElapsed rfl rfl hpos hlt).then
    (((yields_controlQuiet _ _).andM hclose).then (yields_getRt (hemit.last (yields_pure _ _)))))⟩

end Final

/-! ## The whole of `main` -/

section Body

variable (pid : Pid) (child : { child : Pid // child ≠ pid })

theorem raiseTable_le : ∀ row ∈ raiseTable, row.1 ≤ 4 := by
  decide

/-- Every row of the table is reached from the start of `main`. -/
theorem mainBody_fails (h : (k, mask, site) ∈ raiseTable) (he : site.errnos.Mem e) :
    Fails (mainBody 2 (soleArgs pid)) none ⟨0, startRt 0, {}⟩
      (successRecords pid.val child.val.val k) k mask site e := by
  have hk : k ≤ 4 := raiseTable_le _ h
  have hhello := yields_mainHello pid 0
  have hready := yields_mainChildReady pid child
  have hsignaled := yields_mainChildSignaled child.val
  have hobserved := yields_mainChildObserved child.val
  interval_cases k
  · exact (mainHello_fails pid h he).imp fun hy => hy.then (yields_pure _ _)
  · exact (mainChildReady_fails pid child h he).imp fun hy =>
      hhello.last (hy.then (yields_pure _ _))
  · exact (mainChildSignaled_fails child.val h he).imp fun hy =>
      hhello.bind (hready.last (hy.andM_false.then (yields_pure _ _)))
  · exact (mainChildObserved_fails child.val h he).imp fun hy =>
      hhello.bind (hready.bind ((hsignaled.andM hy).last (yields_pure _ _)))
  · exact (mainFinal_fails child.val h he).imp fun hy =>
      hhello.bind (hready.bind ((hsignaled.andM hobserved).bind hy))

theorem yields_mainBody {elapsed : Nat} (hpos : 0 < elapsed) (hlt : elapsed < 2 ^ 64) : ∃ s',
    Yields (mainBody 2 (soleArgs pid)) ⟨0, startRt 0, {}⟩
      (successRecords pid.val child.val.val 4 ++ [(finalFrame elapsed).encode]) (some .ok) s' := by
  obtain ⟨s', hfinal⟩ := yields_mainFinal child.val hpos hlt
  exact ⟨s', (yields_mainHello pid 0).bind ((yields_mainChildReady pid child).bind
    (((yields_mainChildSignaled child.val).andM (yields_mainChildObserved child.val)).bind hfinal))⟩

/-- `main` reads the clock, then runs its body. -/
theorem yields_main {code : NativeExitCode} {frames : List (List UInt8)} {s' : LState}
    (h : Yields (do
      match ← mainBody 2 (soleArgs pid) with
      | some exitCode => return exitCode
      | none => mainFail 2) ⟨0, startRt 0, {}⟩ frames code s') :
    ∃ t s, LauncherRuns (soleArgs pid) t code s ∧ WholeSends t ∧ delivered t = frames := by
  obtain ⟨t, hr, hd, hw⟩ : Yields (main 2 (soleArgs pid)) {} frames code s' :=
    (yields_monotonicNs {} 0 (by decide)).then (yields_modifyRt h)
  exact ⟨t, s', ⟨2, hr⟩, hw, hd⟩

theorem final_sent {elapsed : Nat} (hpos : 0 < elapsed) (hlt : elapsed < 2 ^ 64) :
    ∃ t s, LauncherRuns (soleArgs pid) t .ok s ∧ WholeSends t ∧ delivered t =
      successRecords pid.val child.val.val 4 ++ [(finalFrame elapsed).encode] := by
  obtain ⟨s', hbody⟩ := yields_mainBody pid child hpos hlt
  exact yields_main pid (hbody.last (yields_pure _ _))

/-- The body fails, the cleanup is as given, and the ERROR record is sent. -/
theorem error_sent (incomplete : Bool) (e₁ : Nat) {mask' e₂ : Nat} {ok : Bool}
    {reason : NativeReason} {stage : NativeStage}
    (hbody : Fails (mainBody 2 (soleArgs pid)) none ⟨0, startRt 0, {}⟩
      (successRecords pid.val child.val.val k) k mask site e)
    (hk : k ≤ 4) (hclean : (mask', ok) ∈ cleanupResults mask)
    (hclose : ∀ {err rt}, Sendable k mask' rt → (KeepsCgroup site → rt.cgroupUsable = true) →
      ∃ err' rt', Sendable k mask' rt' ∧
        Yields (lastCloses ok) ⟨err, rt, ⟨some site.stage, site.reason, e⟩⟩ [] (incomplete, e₁)
          ⟨err', rt', ⟨some site.stage, site.reason, e⟩⟩)
    (hterm : terminalFailure ⟨some site.stage, site.reason, e⟩ incomplete e₁ =
      ⟨some stage, reason, e₂⟩) (he : e₂ ≤ protocolMaxErrno) :
    ∃ t s, LauncherRuns (soleArgs pid) t (bpeExitForReason reason) s ∧ WholeSends t ∧ delivered t =
      successRecords pid.val child.val.val k ++ [(errorFrame k reason stage mask' e₂).encode] := by
  obtain ⟨err, rt, hready, hcgroup, hy⟩ := hbody
  obtain ⟨err₁, rt₁, hsend, hkept, hclean⟩ := yields_failCleanup 1 err _ hready hclean
  obtain ⟨err', rt', hsend', hlast⟩ := hclose hsend fun hs => hkept.trans (hcgroup hs)
  obtain ⟨s', hfail⟩ := yields_mainFail 2 (hclean hlast) hsend' hk hterm
  have hwire : bpeWireErrno e₂ = e₂ := by unfold bpeWireErrno; split <;> omega
  rw [hwire] at hfail
  exact yields_main pid (hy.bind hfail)

theorem raiseTable_reason : ∀ row ∈ raiseTable, row.2.2.reason ≠ .none := by
  decide

/-- Every point can be left with the cgroup directory open. -/
theorem raiseTable_keeps : ∀ row ∈ raiseTable, ∃ row' ∈ raiseTable,
    (row'.1 = row.1 ∧ row'.2.1 = row.2.1) ∧ KeepsCgroup row'.2.2 ∧
      ∃ e ∈ errnoClasses, row'.2.2.errnos.Mem e := by
  decide +kernel

theorem ErrorRecord.sent {reason : NativeReason} {stage : NativeStage}
    (h : ErrorRecord k reason stage mask e) (he : e ≤ protocolMaxErrno) :
    ∃ t s, LauncherRuns (soleArgs pid) t (bpeExitForReason reason) s ∧ WholeSends t ∧ delivered t =
      successRecords pid.val child.val.val k ++ [(errorFrame k reason stage mask e).encode] := by
  cases h with
  | @raised mask₀ _ _ site hsite hclean hmem =>
    have hrow := mem_raiseTable.1 hsite
    refine error_sent pid child false 0 (mainBody_fails pid child hrow hmem) (raiseTable_le _ hrow)
      hclean (fun hs _ => ?_) (if_neg (raiseTable_reason _ hrow)) he
    obtain ⟨rt', hs', hy⟩ := yields_lastCloses _ _ hs true
    exact ⟨_, rt', hs', hy⟩
  | closeFailed hpoint hclean hfresh =>
    obtain ⟨site, hrow⟩ := exists_row hpoint
    obtain ⟨⟨_, _, site'⟩, hrow', ⟨rfl, rfl⟩, hkeeps, e', -, hmem⟩ := raiseTable_keeps _ hrow
    refine error_sent pid child true e (mainBody_fails pid child hrow' hmem)
      (raiseTable_le _ hrow') hclean (fun hs hcgroup => ?_) rfl he
    obtain ⟨rt', hs', hy⟩ := yields_lastCloses_error _ _ hs (hcgroup hkeeps) _ ⟨e, hfresh⟩
    exact ⟨_, rt', hs', hy⟩
  | incomplete hpoint hclean =>
    obtain ⟨site, hrow⟩ := exists_row hpoint
    obtain ⟨⟨_, _, site'⟩, hrow', ⟨rfl, rfl⟩, -, e', -, hmem⟩ := raiseTable_keeps _ hrow
    refine error_sent pid child true 0 (mainBody_fails pid child hrow' hmem)
      (raiseTable_le _ hrow') hclean (fun hs _ => ?_) rfl he
    obtain ⟨rt', hs', hy⟩ := yields_lastCloses _ _ hs false
    exact ⟨_, rt', hs', hy⟩

end Body

end Bpe.Launcher
