import Bpe.Launcher.Hello

/-!
# Stopping, killing, reaping and cleaning up

Specifications of the steps on a live child and of the two cleanup routines.
They say what each step can raise, how it moves the achieved mask, and which
calls its success rests on: a reaping `waitid`, a `cgroup.events` read
showing `populated 0`, and successful closes.
-/

namespace Bpe.Launcher

open Bpe.Native Proc

variable {s s₁ s' : LState} {t t' : Trace} {sites : List Site}

/-- Some complete read of the descriptor showed `populated 0`. -/
def ShowsEmpty (fd : Int) (t : Trace) : Prop :=
  ∃ events, EventsShown fd events t ∧ events.populated = 0

theorem EventsShown.append_left {fd : Int} {events : Events} (h : EventsShown fd events t') :
    EventsShown fd events (t ++ t') := by
  obtain ⟨buffer, u, hread, hsub, hparse⟩ := h
  exact ⟨buffer, u, hread, hsub.trans (List.suffix_append t t').isInfix, hparse⟩

theorem ShowsEmpty.append_left {fd : Int} (h : ShowsEmpty fd t') : ShowsEmpty fd (t ++ t') := by
  obtain ⟨events, h, h0⟩ := h
  exact ⟨events, h.append_left, h0⟩

theorem ShowsEmpty.append_right {fd : Int} (h : ShowsEmpty fd t) (t' : Trace) :
    ShowsEmpty fd (t ++ t') := by
  obtain ⟨events, ⟨buffer, u, hread, hsub, hparse⟩, h0⟩ := h
  exact ⟨events, ⟨buffer, u, hread, hsub.trans (List.prefix_append t t').isInfix, hparse⟩, h0⟩

/-! ## Stopping the child -/

def observeStoppedSites : List Site :=
  [⟨.childObservationFailed, .pidfdSignal, .any⟩, ⟨.ioFailure, .pidfdSignal, .freshNotEintr⟩,
    ⟨.timeout, .pidfdSignal, .zero⟩, protocolInputSite]

theorem observeStopped_spec (fuel deadline : Nat) (hs : Clear s) :
    Ensures (observeStopped fuel deadline) s
      (AdvancesOrRaises { s.rt with achieved := s.rt.achieved ||| pidfdStopObservedBit } []
        observeStoppedSites s) := by
  refine ensures_iterate (fun _ t s₁ => Calm Call.plain s t s₁) (fun _ t s₁ ht => ?_) fuel
    ((Calm.composes _).refl s)
  refine bind_getRt ((calm_sys (P := Call.plain) rfl s₁).bind fun t₁ r s₂ h₁ => ?_)
  have h₂ := ht.trans h₁
  rcases r with _ | information
  · exact ensures_raise_errno ⟨.childObservationFailed, .pidfdSignal, .any⟩ h₂ hs (mem_any _)
      (fun _ _ h => by simpa using h) (by decide)
  refine ensures_ite (fun _ => ensures_ite (fun _ => ?_) fun _ => ?_) fun _ => ?_
  · exact ensures_raise ⟨.childObservationFailed, .pidfdSignal, .any⟩ h₂ hs (mem_any 0)
      (fun _ _ h => by simpa using h) (by decide)
  · refine bind_modifyRt (ensures_pure ?_)
    simpa [h₂.rt] using h₂.advances.setRt _
  refine (pollUntil_spec _ _ _ _).bind fun t₂ r s₃ hpoll => ?_
  obtain ⟨h₃, hfresh⟩ := hpoll
  have h₄ := h₂.trans h₃
  rcases r with _ | ⟨pollResult, revents⟩
  · refine ensures_raise_errno ⟨.ioFailure, .pidfdSignal, .freshNotEintr⟩ h₄ hs ?_
      (fun _ _ h => by simpa using h) (by decide)
    rw [(hfresh rfl).1.wire]
    exact hfresh rfl
  -- the deadline is read again only when the poll timed out
  have hexpired : Within (Calm Call.plain)
      (pure (decide (pollResult = 0)) <&&>
        (do return decide ((← bpeDeadlinePollMs deadline 1) = 0))) :=
    (calm_pure _).andM (Calm.composes _) (calm_bind (calm_deadlinePollMs _ _) fun _ => calm_pure _)
  refine (hexpired s₃).bind fun t₃ expired s₄ h₅ => ?_
  have h₆ := h₄.trans h₅
  refine ensures_ite (fun _ => ?_) fun _ =>
    ite_controlFailed h₆ hs (fun s' h => ensures_pure (by simpa using h)) ?_ (by decide)
  · exact ensures_raise ⟨.timeout, .pidfdSignal, .zero⟩ h₆ hs mem_zero
      (fun _ _ h => by simpa using h) (by decide)
  refine ensures_ite (fun _ => ?_) fun _ => ensures_pure (by simpa using h₆)
  exact ensures_raise ⟨.childObservationFailed, .pidfdSignal, .any⟩ h₆ hs (mem_any 0)
    (fun _ _ h => by simpa using h) (by decide)

/-- `bpe_stop_and_observe` fails before or after the stop signal was sent. -/
theorem stopAndObserve_spec (fuel deadline : Nat) (hs : Clear s) :
    Ensures (bpeStopAndObserve fuel deadline) s fun t b s' =>
      if b then
        Advances { s.rt with
          achieved := s.rt.achieved ||| pidfdStopSentBit ||| pidfdStopObservedBit } [] s t s'
      else
        Raises [⟨.pidfdSignalFailed, .pidfdSignal, .fresh⟩] s.rt t s' ∨
          Raises observeStoppedSites
            { s.rt with achieved := s.rt.achieved ||| pidfdStopSentBit } t s' := by
  refine bind_getRt ((sys_spec (P := Call.plain) rfl).bind fun t r s₁ ⟨h, hfresh, _⟩ => ?_)
  rcases r with _ | _
  · exact ensures_raise_errno ⟨.pidfdSignalFailed, .pidfdSignal, .fresh⟩ h hs
      (mem_fresh (hfresh rfl)) (fun _ _ h => .inl h) (by decide)
  refine bind_modifyRt ((observeStopped_spec fuel deadline ?_).mono fun t' b s' h' => ?_)
  · exact hs.of_eq h.failure
  cases b with
  | true =>
    simp only [advancesOrRaises_true, h.rt] at h'
    simpa using (h.advances.setRt _).trans h'
  | false =>
    simp only [advancesOrRaises_false, h.rt] at h'
    simpa using .inr (h'.prepend h.steady h.delivered)

def checkStoppedSites : List Site :=
  [⟨.ioFailure, .pidfdSignal, .any⟩, ⟨.childObservationFailed, .pidfdSignal, .zero⟩]

theorem checkStopped_spec (fuel : Nat) (hs : Clear s) :
    Ensures (checkStopped fuel) s (AdvancesOrRaises s.rt [] checkStoppedSites s) := by
  refine bind_getRt ((calm_readEvents _ _ _).bind fun t r s₁ h => ?_)
  rcases r with _ | events
  · exact ensures_raise_errno ⟨.ioFailure, .pidfdSignal, .any⟩ h hs (mem_any _)
      (fun _ _ h => by simpa using h) (by decide)
  refine (readProcsExact_spec _ _ _).bind fun t₁ r s₂ ⟨hcalls, hrt, hfail, _⟩ => ?_
  have hadv : Advances s.rt [] s (t ++ t₁) s₂ := by
    refine h.advances.trans ⟨fun e he => Call.steady_of_plain (hcalls e he), ?_, ?_, hfail⟩
    · exact delivered_eq_nil fun e he => Call.scanning_of_plain (hcalls e he)
    · rw [hrt, h.rt]
  have hnone : Clear s₂ := hs.of_eq hadv.failure
  refine ensures_ite (fun _ => bind_getErrno (bind_setFailure hnone (ensures_pure ?_)))
    fun _ => ensures_ite (fun _ => bind_setFailure hnone (ensures_pure ?_)) fun _ => ?_
  · simpa using hadv.raise ⟨.ioFailure, .pidfdSignal, .any⟩ (fun _ => mem_any _) (by decide)
  · simpa using hadv.raise ⟨.childObservationFailed, .pidfdSignal, .zero⟩ (fun _ => mem_zero)
      (by decide)
  · exact ensures_pure (by simpa using hadv)

/-! ## Killing and reaping the child -/

/-- The record left by a kill write that took no byte: its `errno` is whatever
an interrupted call left. -/
def emptyWriteSite : Site := ⟨.cgroupKillFailed, .cgroupKill, .any⟩

theorem killLive_spec (hs : Clear s) : Ensures killLive s fun t b s' =>
    if b then
      Advances { s.rt with achieved := s.rt.achieved ||| liveCgroupKillBit } [] s t s' ∧
        ∃ r, ⟨.write s.rt.killFd [49], r⟩ ∈ t
    else
      Raises [⟨.cgroupKillFailed, .cgroupKill, .fresh⟩] s.rt t s' ∨
        Raises [emptyWriteSite] s.rt t s' ∧ ∃ n, ⟨.write s.rt.killFd [49], .ok n⟩ ∈ t ∧
          n.val ≠ 1 := by
  refine bind_getRt ((writeCgroupKill_spec _).bind fun t b s₁ ⟨h, hfail, hmem⟩ => ?_)
  cases b with
  | false =>
    rcases hfail rfl with hfresh | hempty
    · exact ensures_raise_errno ⟨.cgroupKillFailed, .cgroupKill, .fresh⟩ h hs
        (mem_fresh hfresh) (fun _ _ h => .inl h) (by decide)
    · exact ensures_raise_errno emptyWriteSite h hs (mem_any _)
        (fun _ _ h => .inr ⟨h, by simpa using hempty⟩) (by decide)
  | true =>
    refine bind_modifyRt (ensures_pure ⟨?_, by simpa using hmem rfl⟩)
    simpa [h.rt] using h.advances.setRt _

def observeSites : List Site :=
  [⟨.ioFailure, .childObservation, .any⟩, ⟨.childObservationFailed, .childObservation, .any⟩,
    ⟨.timeout, .childObservation, .zero⟩, protocolInputSite]

theorem observeEmpty_spec (fuel : Nat) {emptySeen : Bool} (hcalm : Calm Call.plain s t s₁)
    (hs : Clear s) (hseen : emptySeen → ShowsEmpty s.rt.eventsFd t) :
    Ensures (observeEmpty fuel s₁.rt.eventsFd emptySeen) s₁ fun t' r s' =>
      match r with
      | some b => Calm Call.plain s (t ++ t') s' ∧ (b → ShowsEmpty s.rt.eventsFd (t ++ t'))
      | none => Raises observeSites s.rt (t ++ t') s' ∧ s'.rt = s.rt := by
  refine ensures_ite (fun he => ensures_pure ⟨by simpa using hcalm, fun _ => ?_⟩) fun _ => ?_
  · simpa using hseen he
  refine (readEvents_spec _ _).bind fun t₁ r s₂ ⟨h₁, _, hshow⟩ => ?_
  have h₂ := hcalm.trans h₁
  rcases r with _ | events
  · exact ensures_raise_errno ⟨.ioFailure, .childObservation, .any⟩ h₂ hs (mem_any _)
      (fun s' he h => ⟨by simpa using h, by rw [he, ← h₂.rt]⟩) (by decide)
  · refine ensures_pure ⟨by simpa using h₂, fun he => ?_⟩
    have hshown := (hshow events).1 rfl
    rw [hcalm.rt] at hshown
    have hempty : ShowsEmpty s.rt.eventsFd t₁ := ⟨events, hshown, by simpa using he⟩
    simpa using hempty.append_left (t := t)

theorem observeExit_spec {exitSeen : Option SigInfo} (hcalm : Calm Call.plain s t s₁)
    (hs : Clear s) :
    Ensures (observeExit s₁.rt.pidfd exitSeen) s₁ fun t' r s' =>
      match r with
      | some _ => Calm Call.plain s (t ++ t') s'
      | none => Raises observeSites s.rt (t ++ t') s' ∧ s'.rt = s.rt := by
  refine ensures_ite (fun he => ensures_pure (by simpa using hcalm)) fun _ => ?_
  refine (calm_sys (P := Call.plain) rfl s₁).bind fun t₁ r s₂ h₁ => ?_
  have h₂ := hcalm.trans h₁
  rcases r with _ | information
  · exact ensures_raise_errno ⟨.childObservationFailed, .childObservation, .any⟩ h₂ hs (mem_any _)
      (fun s' he h => ⟨by simpa using h, by rw [he, ← h₂.rt]⟩) (by decide)
  · exact ensures_pure (by simpa using h₂)

theorem observeControl_spec {monitor : Bool} {revents : BitVec 16}
    (hcalm : Calm Call.plain s t s₁) (hs : Clear s) :
    Ensures (pure monitor <&&> bpeControlFailed revents .childObservation) s₁ fun t' b s' =>
      t' = [] ∧ if b then Raises observeSites s.rt t s' ∧ monitor = true else s' = s₁ := by
  cases monitor with
  | false => exact ensures_pure ⟨rfl, by simp⟩
  | true =>
    refine (controlFailed_spec (hs.of_eq hcalm.failure)).mono ?_
    rintro _ b s' ⟨rfl, -, h⟩
    refine ⟨rfl, ?_⟩
    cases b with
    | true =>
      have hr : Raises observeSites s.rt (t ++ []) s' :=
        (hcalm.raises h).mono (by simp [observeSites])
      simpa using hr
    | false => simpa using h

/-- The observation loop. Without `monitor_control` it never touches the
runtime record. -/
theorem observeKilledAndEmpty_spec (fuel deadline : Nat) (monitor : Bool)
    (hs : Clear s) :
    Ensures (bpeObserveKilledAndEmpty fuel deadline monitor) s fun t r s' =>
      match r with
      | some _ => Calm Call.plain s t s' ∧ ShowsEmpty s.rt.eventsFd t
      | none => Raises observeSites s.rt t s' ∧ (monitor = false → s'.rt = s.rt) := by
  refine ensures_iterate (fun seen t s₁ => Calm Call.plain s t s₁ ∧
      (seen.empty → ShowsEmpty s.rt.eventsFd t)) (fun seen t s₁ ⟨ht, hseen⟩ => ?_) fuel
    ⟨(Calm.composes _).refl s, by simp⟩
  refine bind_getRt ((observeEmpty_spec fuel ht hs hseen).bind fun t₁ r s₂ h₁ => ?_)
  rcases r with _ | empty
  · refine ensures_pure ⟨by simpa using h₁.1, fun _ => h₁.2⟩
  obtain ⟨h₁, hempty⟩ := h₁
  have hpid : s₁.rt.pidfd = s₂.rt.pidfd := by rw [ht.rt, h₁.rt]
  rw [hpid]
  refine (observeExit_spec h₁ hs).bind fun t₂ r s₃ h₂ => ?_
  rcases r with _ | exit
  · refine ensures_pure ⟨by simpa using h₂.1, fun _ => h₂.2⟩
  replace h₂ : Calm Call.plain s (t ++ t₁ ++ t₂) s₃ := h₂
  replace hempty : empty → ShowsEmpty s.rt.eventsFd (t ++ t₁ ++ t₂) :=
    fun he => (hempty he).append_right t₂
  refine ensures_ite (fun h => ?_) fun _ => ?_
  · obtain ⟨info, rfl⟩ := Option.isSome_iff_exists.1 h.1
    exact ensures_pure ⟨by simpa using h₂, by simpa using hempty h.2⟩
  refine (pollUntil_spec _ _ _ _).bind fun t₃ r s₄ ⟨h₃, _⟩ => ?_
  have h₄ := h₂.trans h₃
  -- a failure recorded here leaves the runtime as it was
  have hraised : ∀ s' failure, s' = { s₄ with failure := failure } →
      Raises observeSites s.rt (t ++ t₁ ++ t₂ ++ t₃ ++ []) s' →
      Raises observeSites s.rt (t ++ (t₁ ++ (t₂ ++ (t₃ ++ [])))) s' ∧
        (monitor = false → s'.rt = s.rt) := by
    rintro s' failure rfl h
    exact ⟨by simpa using h, fun _ => h₄.rt⟩
  rcases r with _ | ⟨pollResult, revents⟩
  · exact ensures_raise_errno ⟨.ioFailure, .childObservation, .any⟩ h₄ hs (mem_any _)
      (fun s' he h => hraised s' _ he h) (by decide)
  refine ensures_ite (fun _ => ?_) fun _ => ?_
  · exact ensures_raise ⟨.timeout, .childObservation, .zero⟩ h₄ hs mem_zero
      (fun s' he h => hraised s' _ he h) (by decide)
  refine (observeControl_spec h₄ hs).bind fun t₄ failed s₅ ⟨ht₄, h₅⟩ => ?_
  subst ht₄
  cases failed with
  | true =>
    obtain ⟨h₅, hm⟩ : Raises observeSites s.rt (t ++ t₁ ++ t₂ ++ t₃) s₅ ∧ monitor = true := by
      simpa using h₅
    refine ensures_pure ?_
    simpa [hm] using h₅
  | false =>
    obtain rfl : s₅ = s₄ := by simpa using h₅
    refine ensures_ite (fun h => by simp at h) fun _ => ?_
    refine ensures_ite (fun _ => ?_) fun _ => ensures_pure ?_
    · exact ensures_raise ⟨.ioFailure, .childObservation, .any⟩ h₄ hs (mem_any _)
        (fun s' he h => hraised s' _ he h) (by decide)
    · refine ⟨by simpa using h₄, fun he => ?_⟩
      simpa using (hempty he).append_right t₃

theorem observeLive_spec (fuel deadline : Nat) (hs : Clear s) :
    Ensures (observeLive fuel deadline) s fun t b s' =>
      AdvancesOrRaises { s.rt with
        achieved := s.rt.achieved ||| pidfdExitObservedBit ||| cgroupEmptyBit } [] observeSites s
        t b s' ∧ (b → ShowsEmpty s.rt.eventsFd t) := by
  refine (observeKilledAndEmpty_spec fuel deadline true hs).bind fun t r s₁ h => ?_
  rcases r with _ | information
  · exact ensures_pure ⟨by simpa using h.1, by simp⟩
  obtain ⟨h, hempty⟩ := h
  refine bind_getRt (ensures_ite (fun _ => ?_) fun _ => ?_)
  · exact ensures_raise ⟨.childObservationFailed, .childObservation, .any⟩ h hs (mem_any 0)
      (fun _ _ h => ⟨h, by simp⟩) (by decide)
  · refine bind_modifyRt (ensures_pure ⟨?_, fun _ => by simpa using hempty⟩)
    simpa [h.rt] using h.advances.setRt _

/-- A `waitid` on the pidfd that reaps: it returned the child's PID. -/
def ReapEvent (pidfd childPid : Int) (e : Event Reply) : Prop :=
  ∃ information : SigInfo, e = ⟨.waitid pidfd wexited, .ok information⟩ ∧ information.pid = childPid

theorem reapChild_spec (hs : Clear s) : Ensures bpeReapChild s fun t b s' =>
    AdvancesOrRaises { s.rt with
      childReaped := true, achieved := s.rt.achieved ||| childReapedBit } []
      [⟨.childReapFailed, .childReap, .any⟩] s t b s' ∧
      (b → ∃ e, t = [e] ∧ ReapEvent s.rt.pidfd s.rt.childPid e) ∧ (b = false → s'.rt = s.rt) := by
  refine bind_getRt (ensures_sys_bind (fun information => ?_) fun e => ?_)
  · have h : Calm Call.plain s [⟨.waitid s.rt.pidfd wexited, .ok information⟩] s :=
      ⟨by simp [Call.plain], rfl, rfl, .inl rfl⟩
    refine ensures_ite (fun _ => ?_) fun hpid => ?_
    · exact ensures_raise_errno ⟨.childReapFailed, .childReap, .any⟩ h hs (mem_any _)
        (fun s' he hr => ⟨by simpa using hr, by simp, fun _ => by rw [he]⟩) (by decide)
    · refine bind_modifyRt (ensures_pure ⟨by simpa using h.advances.setRt _, fun _ => ?_, by simp⟩)
      exact ⟨_, rfl, information, rfl, by simpa using hpid⟩
  · have h : Calm Call.plain s [⟨.waitid s.rt.pidfd wexited, .error e⟩] { s with errno := e } :=
      ⟨by simp [Call.plain], rfl, rfl, .inr e.2⟩
    refine ensures_ite (fun _ => ?_) fun hn => by simp at hn
    exact ensures_raise_errno ⟨.childReapFailed, .childReap, .any⟩ h hs (mem_any _)
      (fun s' he hr => ⟨by simpa using hr, by simp, fun _ => by rw [he]⟩) (by decide)

/-- A reading that `bpe_monotonic_ns` accepts. -/
def Timespec.Accepted (now : Timespec) : Prop :=
  0 ≤ now.sec ∧ now.sec ≤ 18446744073 ∧ 0 ≤ now.nsec ∧ now.nsec < 1000000000

/-- The time of a reading in nanoseconds. -/
def Timespec.ns (now : Timespec) : Int := now.sec * 1000000000 + now.nsec

theorem monotonicNs_spec : Ensures bpeMonotonicNs s fun t r _ => ∀ v, r = some v →
    ∃ now : Timespec, t = [⟨.clockGettime, .ok now⟩] ∧ now.Accepted ∧
      (v : Int) = now.ns % 2 ^ 64 := by
  refine ensures_sys_bind (fun now => ?_) fun _ => ensures_pure (by simp)
  refine ensures_ite (fun _ => ensures_pure (by simp)) fun hvalid => ensures_pure ?_
  rintro _ ⟨⟩
  simp only [not_or, uint64Max, nsPerSec] at hvalid
  refine ⟨now, rfl, by unfold Timespec.Accepted; omega, ?_⟩
  simp only [Timespec.ns, nsPerSec]
  omega

theorem elapsedNs_lt : Ensures bpeElapsedNs s fun _ elapsed _ => elapsed < 2 ^ 64 := by
  refine monotonicNs_spec.bind fun t r s₁ h => ?_
  rcases r with _ | now
  · exact ensures_pure (by decide)
  · obtain ⟨_, -, -, _⟩ := h now rfl
    exact bind_getRt (ensures_ite (fun _ => ensures_pure (by decide))
      fun _ => ensures_pure (by omega))

theorem finalElapsed_spec (hs : Clear s) : Ensures finalElapsed s fun t r s' =>
    match r with
    | some elapsed => Advances s.rt [] s t s' ∧ s.rt.achieved = achievedResultMask ∧
        0 < elapsed ∧ elapsed < 2 ^ 64
    | none => Raises [⟨.internal, .cleanup, .zero⟩] s.rt t s' := by
  have h₀ : Calm Call.plain s [] s := (Calm.composes _).refl s
  refine bind_getRt (ensures_ite (fun _ => ?_) fun hmask => ?_)
  · exact ensures_raise ⟨.internal, .cleanup, .zero⟩ h₀ hs mem_zero (fun _ _ h => h) (by decide)
  refine ((calm_elapsedNs s).and elapsedNs_lt).bind fun t elapsed s₁ ⟨h, hlt⟩ => ?_
  refine ensures_ite (fun _ => ?_) fun hne => ensures_pure ?_
  · exact ensures_raise ⟨.internal, .cleanup, .zero⟩ h hs mem_zero (fun _ _ h => h) (by decide)
  · exact ⟨by simpa using h.advances, by simpa using hmask, by omega, hlt⟩

/-! ## The clock -/

/-- A deadline is the stored value and the milliseconds, with nothing lost. -/
theorem deadlineAfterMs_spec (milliseconds : Nat) :
    Ensures (bpeDeadlineAfterMs milliseconds) s fun t r _ => ∀ deadline, r = some deadline →
      ∃ now : Timespec, t = [⟨.clockGettime, .ok now⟩] ∧ now.Accepted ∧
        (deadline : Int) = now.ns % 2 ^ 64 + milliseconds * 1000000 := by
  refine monotonicNs_spec.bind fun t r s₁ h => ?_
  rcases r with _ | v
  · exact ensures_pure (by simp)
  obtain ⟨now, rfl, hnow, hv⟩ := h v rfl
  refine ensures_ite (fun _ => ensures_pure (by simp)) fun _ => ?_
  refine ensures_ite (fun _ => ensures_pure (by simp)) fun _ => ensures_pure ?_
  rintro _ ⟨⟩
  refine ⟨now, rfl, hnow, ?_⟩
  rw [← hv]
  simp only [nsPerMs]
  omega

theorem runs_monotonicNs {now : Timespec} (h : now.Accepted) :
    Runs bpeMonotonicNs s [⟨.clockGettime, .ok now⟩]
      (some ((now.sec.toNat * nsPerSec + now.nsec.toNat) % 2 ^ 64)) s := by
  refine (runs_sys_ok (c := .clockGettime) now s).bind (?_ : Runs _ s [] _ s)
  unfold Timespec.Accepted at h
  dsimp only
  rw [if_neg (by simp only [uint64Max, nsPerSec]; omega)]
  exact runs_pure _ _

/-- **What is stored of a reading, and every deadline from it, is exact unless the reading
is in the last second that is accepted and past what 64 bits hold of it.** -/
theorem clock_exact_iff (s : LState) (now : Timespec) :
    (Ensures bpeMonotonicNs s (fun t r _ => t = [⟨.clockGettime, .ok now⟩] →
        ∀ v, r = some v → (v : Int) = now.ns) ∧
      ∀ milliseconds : Nat, Ensures (bpeDeadlineAfterMs milliseconds) s fun t r _ =>
        t = [⟨.clockGettime, .ok now⟩] →
          ∀ v, r = some v → (v : Int) = now.ns + milliseconds * 1000000) ↔
      ¬ (now.sec = 18446744073 ∧ 709551616 ≤ now.nsec ∧ now.nsec < 1000000000) := by
  constructor
  · rintro ⟨hstored, -⟩ ⟨hsec, hlow, hhigh⟩
    have haccepted : now.Accepted := ⟨by omega, by omega, by omega, hhigh⟩
    have hv := hstored _ _ _ (runs_monotonicNs haccepted) rfl _ rfl
    simp only [Timespec.ns, nsPerSec] at hv
    omega
  · intro hnot
    have hexact (h : now.Accepted) : now.ns % 2 ^ 64 = now.ns := by
      unfold Timespec.Accepted at h
      simp only [Timespec.ns]
      omega
    refine ⟨monotonicNs_spec.mono ?_, fun milliseconds => (deadlineAfterMs_spec _).mono ?_⟩
    · rintro t r - h ht v hr
      obtain ⟨now', ht', hnow, hv⟩ := h v hr
      cases ht.symm.trans ht'
      rw [hv, hexact hnow]
    · rintro t r - h ht v hr
      obtain ⟨now', ht', hnow, hv⟩ := h v hr
      cases ht.symm.trans ht'
      rw [hv, hexact hnow]

/-- A reading of `2 ^ 64` nanoseconds is stored as zero. -/
theorem bpeMonotonicNs_wraps :
    Runs bpeMonotonicNs {} [⟨.clockGettime, .ok ⟨18446744073, 709551616⟩⟩] (some 0) {} ∧
      (⟨18446744073, 709551616⟩ : Timespec).ns = 2 ^ 64 :=
  ⟨runs_monotonicNs (by unfold Timespec.Accepted; decide), by decide⟩

end Bpe.Launcher
