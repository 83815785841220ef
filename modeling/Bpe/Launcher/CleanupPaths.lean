import Bpe.Launcher.Paths

/-!
# Every outcome of the cleanup occurs

From the label `fail`, replies can be chosen so that the emergency cleanup
reaps the child or not and sees the cgroup empty or not, and so that the last
closes succeed or one of them fails with any `errno`.
-/

namespace Bpe.Launcher

open Bpe.Native Proc

variable {err : Nat} {rt rt₁ rt₂ : Runtime} {f : Failure}

/-! ## Closes -/

/-- What a close of one owned descriptor leaves alone. -/
def Kept (rt rt' : Runtime) : Prop := SameReport rt rt' ∧ rt'.cgroupUsable = rt.cgroupUsable

theorem Kept.refl (rt : Runtime) : Kept rt rt := ⟨⟨rfl, rfl, rfl, rfl, rfl, rfl, rfl⟩, rfl⟩

theorem SameReport.trans (h : SameReport rt rt₁) (h' : SameReport rt₁ rt₂) : SameReport rt rt₂ :=
  ⟨h'.childPid.trans h.childPid, h'.sequence.trans h.sequence, h'.achieved.trans h.achieved,
    h'.controlUsable.trans h.controlUsable, h'.peerOpen.trans h.peerOpen,
    h'.childCreated.trans h.childCreated, h'.childReaped.trans h.childReaped⟩

theorem Kept.trans (h : Kept rt rt₁) (h' : Kept rt₁ rt₂) : Kept rt rt₂ :=
  ⟨h.1.trans h'.1, h'.2.trans h.2⟩

theorem yields_closeDescriptor (err : Nat) (rt : Runtime) (f : Failure) (field : Runtime → Int)
    (clear : Runtime → Runtime) (hclear : Kept rt (clear rt)) : ∃ rt', Kept rt rt' ∧
      Yields (bpeCloseDescriptor field clear) ⟨err, rt, f⟩ [] true ⟨err, rt', f⟩ := by
  by_cases h : field rt < 0
  · exact ⟨rt, Kept.refl rt, yields_getRt (yields_ite_pos h (yields_pure _ _))⟩
  · refine ⟨clear rt, hclear, yields_getRt (yields_ite_neg h (yields_modifyRt ?_))⟩
    exact (yields_sys (c := .close (field rt)) () rfl).then (yields_pure _ _)

theorem yields_closeCgroup : Yields closeCgroup ⟨err, rt, f⟩ [] true
    ⟨err, { rt with cgroupUsable := false }, f⟩ := by
  refine yields_getRt ?_
  by_cases h : rt.cgroupUsable = true
  · refine yields_ite_neg (by simp [h]) (yields_modifyRt ?_)
    exact (yields_sys (c := .close cgroupFd) () rfl).then (yields_pure _ _)
  · have hrt : { rt with cgroupUsable := false } = rt := by
      cases rt
      simpa using h
    rw [hrt]
    exact yields_ite_pos (by simpa using h) (yields_pure _ _)

theorem yields_closeCgroup_error (h : rt.cgroupUsable = true) (e : Errno) :
    Yields closeCgroup ⟨err, rt, f⟩ [] false ⟨e, { rt with cgroupUsable := false }, f⟩ := by
  refine yields_getRt (yields_ite_neg (by simp [h]) (yields_modifyRt ?_))
  exact (yields_sys_error (c := .close cgroupFd) e).then (yields_pure _ _)

theorem yields_closeOwned_of {b : Bool} {err' : Nat} (hlast : ∀ rt', Kept rt rt' →
      Yields closeCgroup ⟨err, rt', f⟩ [] b ⟨err', { rt' with cgroupUsable := false }, f⟩) :
    ∃ rt', SameReport rt rt' ∧ Yields bpeCloseOwned ⟨err, rt, f⟩ [] b ⟨err', rt', f⟩ := by
  obtain ⟨rt₁, k₁, y₁⟩ := yields_closeDescriptor err rt f (·.readyReadFd)
    (fun rt => { rt with readyReadFd := -1 }) ⟨⟨rfl, rfl, rfl, rfl, rfl, rfl, rfl⟩, rfl⟩
  obtain ⟨rt₂, k₂, y₂⟩ := yields_closeDescriptor err rt₁ f (·.readyWriteFd)
    (fun rt => { rt with readyWriteFd := -1 }) ⟨⟨rfl, rfl, rfl, rfl, rfl, rfl, rfl⟩, rfl⟩
  obtain ⟨rt₃, k₃, y₃⟩ := yields_closeDescriptor err rt₂ f (·.pidfd)
    (fun rt => { rt with pidfd := -1 }) ⟨⟨rfl, rfl, rfl, rfl, rfl, rfl, rfl⟩, rfl⟩
  obtain ⟨rt₄, k₄, y₄⟩ := yields_closeDescriptor err rt₃ f (·.eventsFd)
    (fun rt => { rt with eventsFd := -1 }) ⟨⟨rfl, rfl, rfl, rfl, rfl, rfl, rfl⟩, rfl⟩
  obtain ⟨rt₅, k₅, y₅⟩ := yields_closeDescriptor err rt₄ f (·.killFd)
    (fun rt => { rt with killFd := -1 }) ⟨⟨rfl, rfl, rfl, rfl, rfl, rfl, rfl⟩, rfl⟩
  obtain ⟨rt₆, k₆, y₆⟩ := yields_closeDescriptor err rt₅ f (·.procsFd)
    (fun rt => { rt with procsFd := -1 }) ⟨⟨rfl, rfl, rfl, rfl, rfl, rfl, rfl⟩, rfl⟩
  have hk := k₁.trans (k₂.trans (k₃.trans (k₄.trans (k₅.trans k₆))))
  refine ⟨{ rt₆ with cgroupUsable := false }, hk.1.trans ⟨rfl, rfl, rfl, rfl, rfl, rfl, rfl⟩,
    y₁.then (y₂.then (y₃.then (y₄.then (y₅.then (y₆.then ((hlast rt₆ hk).then ?_))))))⟩
  simpa using yields_pure b _

theorem yields_closeOwned (err : Nat) (rt : Runtime) (f : Failure) : ∃ rt', SameReport rt rt' ∧
    Yields bpeCloseOwned ⟨err, rt, f⟩ [] true ⟨err, rt', f⟩ :=
  yields_closeOwned_of fun _ _ => yields_closeCgroup

theorem yields_closeOwned_error (err : Nat) (f : Failure) (h : rt.cgroupUsable = true) (e : Errno) :
    ∃ rt', SameReport rt rt' ∧ Yields bpeCloseOwned ⟨err, rt, f⟩ [] false ⟨e, rt', f⟩ :=
  yields_closeOwned_of fun _ hk => yields_closeCgroup_error (hk.2.trans h) e

/-! ## Emergency cleanup -/

theorem yields_withLocalFailure {α : Type} {m : LM α} {a : α} {err' : Nat} {rt' : Runtime}
    {f' : Failure} (h : Yields m ⟨err, rt, {}⟩ [] a ⟨err', rt', f'⟩) :
    Yields (withLocalFailure m) ⟨err, rt, f⟩ [] a ⟨err', rt', f⟩ := by
  refine Yields.then ⟨[], runs_get _, rfl, rfl⟩ (yields_modify (h.then (yields_modify ?_)))
  exact yields_pure _ _

theorem yields_observeKilled (fuel deadline : Nat) (monitor : Bool) (s : LState)
    (information : SigInfo) (hpid : information.pid ≠ 0) :
    Yields (bpeObserveKilledAndEmpty (fuel + 1) deadline monitor) s [] (some information) s := by
  have hempty : Yields (observeEmpty (fuel + 1) s.rt.eventsFd false) s [] (some true) s :=
    (yields_readEvents s fuel s.rt.eventsFd false).then (yields_pure _ _)
  have hexit : Yields (observeExit s.rt.pidfd none) s [] (some (some information)) s := by
    refine (yields_sys (c := .waitid s.rt.pidfd (wexited ||| wnohang ||| wnowait)) information
      rfl).then ?_
    simpa [hpid] using yields_pure (some (some information)) s
  exact yields_done fuel (yields_getRt (hempty.then (hexit.then (yields_ite_pos ⟨rfl, rfl⟩
    (yields_pure _ _)))))

theorem yields_observeKilled_error (fuel deadline : Nat) (monitor : Bool) (e : Errno) :
    Yields (bpeObserveKilledAndEmpty (fuel + 1) deadline monitor) ⟨err, rt, {}⟩ [] none
      ⟨e, rt, ⟨some .childObservation, .ioFailure, e⟩⟩ := by
  have hempty : Yields (observeEmpty (fuel + 1) rt.eventsFd false) ⟨err, rt, {}⟩ [] none
      ⟨e, rt, ⟨some .childObservation, .ioFailure, e⟩⟩ :=
    (yields_readEvents_error _ (fuel + 1) rt.eventsFd e).then
      yields_fail_errno
  exact yields_done fuel (yields_getRt (hempty.then (yields_pure _ _)))

theorem yields_reapChild : Yields bpeReapChild ⟨err, rt, f⟩ [] true ⟨err, reapedRt rt true, f⟩ := by
  refine yields_getRt ((yields_sys (c := .waitid rt.pidfd wexited) ⟨rt.childPid, 0, 0⟩ rfl).then ?_)
  refine yields_ite_neg (by simp) (yields_modifyRt ?_)
  exact yields_pure _ _

/-- The runtime of a live child. -/
structure Killable (rt : Runtime) : Prop where
  created : rt.childCreated = true
  notReaped : rt.childReaped = false
  pidfd : 0 ≤ rt.pidfd
  eventsFd : 0 ≤ rt.eventsFd
  killFd : 0 ≤ rt.killFd

theorem yields_observeAndReap (err : Nat) (f : Failure) (fuel deadline : Nat) (h : Killable rt)
    (reaped : Bool) : ∃ err',
    Yields (observeAndReap (fuel + 1) deadline) ⟨err, rt, f⟩ [] true
      ⟨err', reapedRt rt reaped, f⟩ := by
  have hcond : (!rt.childReaped) = true ∧ rt.pidfd ≥ 0 ∧ rt.eventsFd ≥ 0 :=
    ⟨by simp [h.notReaped], h.pidfd, h.eventsFd⟩
  cases reaped with
  | true =>
    refine ⟨err, yields_getRt (yields_ite_pos hcond ((yields_withLocalFailure
      (yields_observeKilled fuel deadline false _ ⟨1, 0, 0⟩ (by decide))).then ?_))⟩
    exact yields_withLocalFailure yields_reapChild
  | false =>
    rw [reapedRt_false h.notReaped]
    exact ⟨_, yields_getRt (yields_ite_pos hcond ((yields_withLocalFailure
      (yields_observeKilled_error fuel deadline false ⟨1, by decide⟩)).then (yields_pure _ _)))⟩

theorem yields_recordEmpty (err : Nat) (f : Failure) (fuel : Nat) (h : 0 ≤ rt.eventsFd)
    (empty : Bool) : Yields (recordEmpty (fuel + 1)) ⟨err, rt, f⟩ [] empty
      ⟨err, { rt with achieved := rt.achieved ||| if empty then cgroupEmptyBit else 0 }, f⟩ := by
  refine yields_getRt (yields_ite_neg (by dsimp only; omega) ?_)
  cases empty with
  | true =>
    refine (yields_readEvents _ fuel rt.eventsFd false).then (yields_ite_neg (by decide) ?_)
    exact yields_modifyRt (yields_pure _ _)
  | false =>
    have hrt : { rt with achieved := rt.achieved ||| if false then cgroupEmptyBit else 0 } =
        rt := by
      simp
    rw [hrt]
    exact (yields_readEvents_empty _ (fuel + 1) rt.eventsFd).then (yields_pure _ _)

/-- The emergency cleanup reaps or not and sees the cgroup empty or not. -/
theorem yields_emergencyCleanup (err : Nat) (f : Failure) (fuel : Nat) (h : Killable rt)
    (reaped empty : Bool) : ∃ err',
    Yields (bpeEmergencyCleanup (fuel + 1)) ⟨err, rt, f⟩ [] (reaped && empty)
      ⟨err', cleanedRt rt reaped empty, f⟩ := by
  have hkill : Yields pidfdKillAttempt ⟨err, rt, f⟩ [] () ⟨err, rt, f⟩ := by
    refine yields_getRt (yields_ite_pos ⟨by simp [h.notReaped], h.pidfd⟩ ?_)
    exact (yields_sys (c := .pidfdSendSignal rt.pidfd sigkill) () rfl).then (yields_pure _ _)
  have hcgroup : Yields cgroupKillAttempt ⟨err, rt, f⟩ [] () ⟨err, rt, f⟩ := by
    have hwrite : Yields (bpeWriteCgroupKill rt.killFd) ⟨err, rt, f⟩ [] true ⟨err, rt, f⟩ :=
      (yields_interruptible (yields_sys (c := .write rt.killFd [49]) ⟨1, by decide⟩ rfl)).then
        (yields_pure _ _)
    exact yields_getRt (yields_ite_pos h.killFd (hwrite.then (yields_pure _ _)))
  obtain ⟨err', hreap⟩ := yields_observeAndReap err f fuel (emergencyCleanupMs * nsPerMs) h reaped
  have hevents : 0 ≤ (reapedRt rt reaped).eventsFd := h.eventsFd
  refine ⟨err', yields_getRt (yields_ite_neg (by simp [h.created]) ?_)⟩
  refine (yields_deadlineAfterMs _ (by decide)).then (hkill.then (hcgroup.then (hreap.then
    (yields_ite_neg (by decide) ?_))))
  refine (yields_recordEmpty err' f fuel hevents empty).then (yields_getRt ?_)
  exact yields_pure _ _

/-! ## The label `fail` -/

/-- An ERROR record with this sequence number and mask can be sent. -/
structure Sendable (k mask : Nat) (rt : Runtime) : Prop where
  sequence : rt.sequence = k
  achieved : rt.achieved = mask
  control : rt.controlUsable = true
  peer : rt.peerOpen = true

/-- The runtime at `fail`, for one of the points. -/
structure Ready (k mask : Nat) (rt : Runtime) : Prop extends Sendable k mask rt where
  live : mask ∈ liveMasks → Killable rt
  idle : mask ∉ liveMasks → ¬ (rt.childCreated = true ∧ (!rt.childReaped) = true)

theorem Sendable.same {k mask : Nat} (h : Sendable k mask rt) (h' : SameReport rt rt₁) :
    Sendable k mask rt₁ :=
  ⟨h'.sequence.trans h.sequence, h'.achieved.trans h.achieved, h'.controlUsable.trans h.control,
    h'.peerOpen.trans h.peer⟩

/-- What is left of `fail_cleanup` after the emergency cleanup. -/
def lastCloses (emergencyOk : Bool) : LM (Bool × Nat) := do
  if !(← bpeCloseOwned) then return (true, ← getErrno)
  return (!emergencyOk, 0)

theorem yields_failCleanup (fuel : Nat) (err : Nat) (f : Failure) {k mask mask' : Nat} {ok : Bool}
    (h : Ready k mask rt) (hclean : (mask', ok) ∈ cleanupResults mask) :
    ∃ err₁ rt₁, Sendable k mask' rt₁ ∧ rt₁.cgroupUsable = rt.cgroupUsable ∧
      ∀ {r s'}, Yields (lastCloses ok) ⟨err₁, rt₁, f⟩ [] r s' →
        Yields (failCleanup (fuel + 1)) ⟨err, rt, f⟩ [] r s' := by
  by_cases hlive : mask ∈ liveMasks
  · have hk := h.live hlive
    have hcond : rt.childCreated = true ∧ (!rt.childReaped) = true :=
      ⟨hk.created, by simp [hk.notReaped]⟩
    obtain ⟨reaped, empty, hmask, hok⟩ : ∃ reaped empty : Bool,
        (cleanedRt rt reaped empty).achieved = mask' ∧ (reaped && empty) = ok := by
      rw [cleanupResults, if_pos hlive, ← h.achieved] at hclean
      simp only [List.mem_cons, Prod.mk.injEq, List.not_mem_nil, or_false] at hclean
      rcases hclean with ⟨rfl, rfl⟩ | ⟨rfl, rfl⟩ | ⟨rfl, rfl⟩ | ⟨rfl, rfl⟩
      · exact ⟨false, false, by simp [cleanedRt, reapedRt], rfl⟩
      · exact ⟨true, false, by simp [cleanedRt, reapedRt], rfl⟩
      · exact ⟨false, true, by simp [cleanedRt, reapedRt], rfl⟩
      · exact ⟨true, true, by simp [cleanedRt, reapedRt], rfl⟩
    obtain ⟨err₁, hem⟩ := yields_emergencyCleanup err f fuel hk reaped empty
    refine ⟨err₁, cleanedRt rt reaped empty, ⟨h.sequence, hmask, h.control, h.peer⟩, rfl,
      fun hlast => yields_getRt (yields_ite_pos hcond (hem.then ?_))⟩
    rw [hok]
    exact hlast
  · rw [cleanupResults, if_neg hlive, List.mem_singleton] at hclean
    cases hclean
    exact ⟨err, rt, h.toSendable, rfl, fun hlast => yields_getRt (yields_ite_neg (h.idle hlive)
      ((yields_pure true _).then hlast))⟩

theorem yields_lastCloses (err : Nat) (f : Failure) {k mask : Nat} (h : Sendable k mask rt)
    (ok : Bool) : ∃ rt', Sendable k mask rt' ∧
      Yields (lastCloses ok) ⟨err, rt, f⟩ [] (!ok, 0) ⟨err, rt', f⟩ := by
  obtain ⟨rt', hsame, hclose⟩ := yields_closeOwned err rt f
  exact ⟨rt', h.same hsame, hclose.then (yields_pure _ _)⟩

theorem yields_lastCloses_error (err : Nat) (f : Failure) {k mask : Nat} (h : Sendable k mask rt)
    (hcgroup : rt.cgroupUsable = true) (ok : Bool) (e : Errno) : ∃ rt', Sendable k mask rt' ∧
      Yields (lastCloses ok) ⟨err, rt, f⟩ [] (true, e.val) ⟨e, rt', f⟩ := by
  obtain ⟨rt', hsame, hclose⟩ := yields_closeOwned_error err f hcgroup e
  exact ⟨rt', h.same hsame, hclose.then (yields_getErrno (yields_pure _ _))⟩

theorem yields_failReport (err : Nat) {k mask : Nat} (h : Sendable k mask rt) (hk : k ≤ 4)
    (stage : NativeStage) (reason : NativeReason) (e : Nat) : ∃ s',
      Yields (failReport ⟨some stage, reason, e⟩) ⟨err, rt, ⟨some stage, reason, e⟩⟩
        [(errorFrame k reason stage mask (bpeWireErrno e)).encode]
        (bpeExitForReason reason) s' := by
  have hseq : rt.sequence < protocolMaxFrames := by rw [h.sequence]; show k < 8; omega
  have hemit := yields_emitFrame (s := ⟨err, rt, ⟨some stage, reason, e⟩⟩) h.control h.peer hseq
    .error .failed stage reason (bpeWireErrno e) rt.achieved 0
  have hframe : (⟨.error, rt.sequence, .failed, stage, reason, bpeWireErrno e, rt.achieved, 0⟩ :
      InertNativeFrame) = errorFrame k reason stage mask (bpeWireErrno e) := by
    rw [h.sequence, h.achieved]; rfl
  rw [hframe] at hemit
  exact ⟨_, yields_getRt (yields_ite_pos ⟨h.control, h.peer⟩ (Yields.last hemit (yields_pure _ _)))⟩

theorem yields_mainFail (fuel : Nat) {k mask e : Nat} {incomplete : Bool} {s : LState} {err₁ : Nat}
    {stage : NativeStage} {reason : NativeReason} {e₀ : Nat}
    (hclean : Yields (failCleanup fuel) s [] (incomplete, e) ⟨err₁, rt₁, f⟩)
    (hsend : Sendable k mask rt₁) (hk : k ≤ 4)
    (hterm : terminalFailure f incomplete e = ⟨some stage, reason, e₀⟩) :
    ∃ s', Yields (mainFail fuel) s
      [(errorFrame k reason stage mask (bpeWireErrno e₀)).encode] (bpeExitForReason reason) s' := by
  obtain ⟨s', hreport⟩ := yields_failReport err₁ hsend hk stage reason e₀
  refine ⟨s', hclean.then (yields_modify (Yields.then ⟨[], runs_get _, rfl, rfl⟩ ?_))⟩
  dsimp only
  rw [hterm]
  exact hreport

end Bpe.Launcher
