import Bpe.Launcher.Sections

/-!
# Whole runs of the launcher

From the reap to FINAL, the label `fail`, and `main`. `ErrorRecord` is the
abstract launcher: the ERROR records it can send, read off `raiseTable` and
the effect of the cleanup on the achieved mask. `main_outcome` says that
every run of `main` ends as the abstract launcher does.
-/

namespace Bpe.Launcher

open Bpe.Native Proc List

variable {args : LaunchArgs} {n child : Nat} {s s₁ s' : LState} {t t₀ t' : Trace}

/-! ## From the reap to FINAL -/

/-- A child that was cleaned up: it was reaped, its cgroup was seen empty
after a kill, and the last close of every descriptor succeeded. -/
structure Accounted (t : Trace) (child pidfd : Nat) : Prop where
  reap : ∃ e ∈ t, ReapEvent pidfd child e
  empty : EmptyAfterKill pidfd 6 5 t
  closed : ∀ fd : Int, fd ∈ opened t ∨ fd = cgroupFd → LastCloseOk fd t

/-- `main` stands between the reap and the last closes. -/
structure Reaped (args : LaunchArgs) (n child : Nat) (t : Trace) (s : LState) : Prop where
  rt : s.rt = reapedRt (liveRt n child 4 0x1BF) true
  failure : Clear s
  delivered : delivered t = successRecords args.launcherPid.val child 4
  created : created t = [(child, 10)]
  opened : opened t = [5, 6, 7, 8, 9, 10]
  readyWrite : LastCloseOk 9 t
  child_pid : ValidChild args.launcherPid.val child
  reap : ∃ e ∈ t, ReapEvent 10 child e
  empty : EmptyAfterKill 10 6 5 t

theorem achieved_reapedRt : (reapedRt (liveRt n child 4 0x1BF) true).achieved =
    achievedResultMask := by
  show 0x1BF ||| childReapedBit = achievedResultMask
  decide

section

variable (h : Reaped args n child t s)

include h

theorem Reaped.heldOrClosed : HeldOrClosed t s.rt := by
  intro fd hfd
  rw [h.opened, h.rt] at *
  by_cases h9 : fd = 9
  · exact .inr (h9 ▸ h.readyWrite)
  · left
    simp only [cgroupFd, mem_cons, not_mem_nil, or_false] at hfd
    simp [Runtime.held, heldFd, reapedRt, liveRt, setupRt, checkedRt, cgroupFd]
    omega

theorem Reaped.advance (ha : Advances s.rt [] s t' s') :
    Reaped args n child (t ++ t') s' where
  rt := by rw [ha.rt, h.rt]
  failure := h.failure.of_eq ha.failure
  delivered := by rw [delivered_append, h.delivered, ha.delivered, append_nil]
  created := by
    rw [created_append, h.created, created_steady ha.calls]
    rfl
  opened := by
    rw [opened_append, h.opened, opened_steady ha.calls]
    rfl
  readyWrite := h.readyWrite.steady ha.calls
  child_pid := h.child_pid
  reap := by
    obtain ⟨e, he, hr⟩ := h.reap
    exact ⟨e, mem_append_left _ he, hr⟩
  empty := h.empty.append_right t'

theorem Reaped.atFail (hreport : Reports (sitesAt 4 0x1FF) t' s')
    (hrt : SameReport s.rt s'.rt ∨ PeerOnly s.rt s'.rt)
    (hheld : s'.failure.reason ≠ .cleanupIncomplete → HeldOrClosed (t ++ t') s'.rt)
    (hdel : Launcher.delivered t' = []) (hcr : Launcher.created t' = []) :
    AtFail args (t ++ t') s' := by
  have hseq : s'.rt.sequence = 4 := by
    rcases hrt with hrt | hrt
    · rw [hrt.sequence, h.rt]; rfl
    · rw [hrt, h.rt]; rfl
  have hach : s'.rt.achieved = achievedResultMask := by
    rcases hrt with hrt | hrt
    · rw [hrt.achieved, h.rt, achieved_reapedRt]
    · rw [hrt, h.rt]; exact achieved_reapedRt
  have hreaped : s'.rt.childReaped = true := by
    rcases hrt with hrt | hrt
    · rw [hrt.childReaped, h.rt]; rfl
    · rw [hrt, h.rt]; rfl
  obtain ⟨e, he, hr⟩ := h.reap
  refine ⟨.reaped child ?_ hreaped hach ⟨e, mem_append_left _ he, hr⟩ (h.empty.append_right t')
    hheld, ?_, ⟨child, ?_, fun _ => h.child_pid⟩, hreport.reason, ?_⟩
  · rw [created_append, h.created, hcr]; rfl
  · rw [hseq]
  · rw [delivered_append, h.delivered, hdel, append_nil, hseq]
  · rw [hseq, hach]
    exact fun hw => (hreport.record ((wholeSends_append _ _).1 hw).2).imp_right .inl

theorem Reaped.fail {sites : List Site} (hr : Raises sites s.rt t' s')
    (hsub : sites ⊆ sitesAt 4 0x1FF) : AtFail args (t ++ t') s' := by
  refine h.atFail (hr.reports.mono hsub) (.inr hr.rt) (fun _ => ?_) hr.delivered
    (created_steady hr.calls)
  have hheld : s'.rt.held = s.rt.held := by rw [hr.rt]; rfl
  have := h.heldOrClosed.steady hr.calls
  intro fd hfd
  rw [hheld]
  exact this fd hfd

end

/-! ### The closes -/

variable {fds : List Int}

theorem Closes.closeResults {b : Bool} (h : Closes fds s t b s') (hb : b = true) (fd : Int) :
    ∀ r ∈ closeResults fd t, r = true := by
  intro r hr
  simp only [Launcher.closeResults, mem_filterMap] at hr
  obtain ⟨e, he, hsome⟩ := hr
  obtain ⟨fd', rfl⟩ := h.succeeded hb e he
  by_cases hfd : fd' = fd
  · simpa [hfd, Except.isOk, Except.toBool, eq_comm] using hsome
  · simp [hfd] at hsome

/-- After closes that all succeeded, the last close of everything held before
succeeded. -/
theorem Closes.lastCloseOk (h : Closes fds s t true s') {fd : Int}
    (hfd : fd ∈ fds ∨ LastCloseOk fd t₀) : LastCloseOk fd (t₀ ++ t) := by
  have hall := h.closeResults rfl fd
  rw [LastCloseOk, closeResults_append]
  rcases eq_nil_or_concat (Launcher.closeResults fd t) with hnil | ⟨l, r, hlast⟩
  · rw [hnil, append_nil]
    rcases hfd with hfd | hfd
    · obtain ⟨r, hr⟩ := h.attempted fd hfd
      have : r.isOk ∈ Launcher.closeResults fd t :=
        mem_filterMap.2 ⟨_, hr, by simp⟩
      rw [hnil] at this
      cases this
    · exact hfd
  · rw [hlast, hall r (by rw [hlast]; simp)]
    simp

theorem Closes.early {b : Bool} (h : Closes fds s t b s') :
    ∀ e ∈ t, Call.early e.1 := by
  intro e he
  obtain ⟨fd, r, rfl⟩ := h.calls e he
  rfl

theorem Closes.opened {b : Bool} (h : Closes fds s t b s') : opened t = [] := by
  refine opened_eq_nil fun e he => .inl ?_
  obtain ⟨fd, r, rfl⟩ := h.calls e he
  rfl

/-- Everything that was held or closed is closed after `bpe_close_owned`. -/
theorem HeldOrClosed.closed (h : HeldOrClosed t₀ s.rt) (hc : Closes s.rt.held s t true s') :
    ∀ fd : Int, fd ∈ Launcher.opened (t₀ ++ t) ∨ fd = cgroupFd → LastCloseOk fd (t₀ ++ t) := by
  intro fd hfd
  rw [opened_append, hc.opened, append_nil] at hfd
  exact hc.lastCloseOk (h fd hfd)

theorem closeFinal_spec (h : Reaped args n child t₀ s) : Ensures closeFinal s fun t b s' =>
    if b then Closes s.rt.held s t true s' ∧ SameReport s.rt s'.rt
    else AtFail args (t₀ ++ t) s' := by
  refine closeOwned_spec.bind fun t b s₁ ⟨hc, hsame⟩ => ?_
  cases b with
  | true => exact ensures_pure (by simpa using ⟨hc, hsame⟩)
  | false =>
    refine bind_getErrno (bind_setFailure (h.failure.of_eq hc.failure) (ensures_pure ?_))
    rw [append_nil]
    refine h.atFail ⟨nofun, fun _ => .inr ?_⟩ (.inl hsame) (fun hne => absurd rfl hne) hc.delivered
      (created_eq_nil hc.early)
    exact ⟨⟨.cleanupIncomplete, .cleanup, .fresh⟩, by decide, rfl, rfl, mem_fresh (hc.failed rfl)⟩

/-- The success return of `main`: FINAL was sent, or its send failed. -/
structure Finished (args : LaunchArgs) (child : Nat) (t : Trace) (code : NativeExitCode)
    (s : LState) : Prop where
  created : created t = [(child, 10)]
  accounted : Accounted t child 10
  child_pid : ValidChild args.launcherPid.val child
  achieved : s.rt.achieved = achievedResultMask
  failure : Clear s
  sent : (code = .protocol ∧ delivered t = successRecords args.launcherPid.val child 4) ∨
    (code = .ok ∧ ∃ elapsed, 0 < elapsed ∧ elapsed < 2 ^ 64 ∧ delivered t =
      successRecords args.launcherPid.val child 4 ++ [(finalFrame elapsed).encode])

/-- The last closes succeeded and `t'` sent FINAL, or nothing. -/
theorem Reaped.finished {t₁ : Trace} (h : Reaped args n child t₀ s) (code : NativeExitCode)
    (hc : Closes s.rt.held s t₁ true s₁) {rt : Runtime} {frames : List (List UInt8)}
    (ha : Advances rt frames s₁ t' s') (hmask : rt.achieved = achievedResultMask)
    (hsent : (code = .protocol ∧ frames = []) ∨ (code = .ok ∧ ∃ elapsed, 0 < elapsed ∧
      elapsed < 2 ^ 64 ∧ frames = [(finalFrame elapsed).encode])) :
    Finished args child (t₀ ++ t₁ ++ t') code s' := by
  have ho : Launcher.opened t' = [] := opened_steady ha.calls
  have hcr : Launcher.created t' = [] :=
    created_steady ha.calls
  obtain ⟨e, he, hreap⟩ := h.reap
  refine ⟨?_, ⟨⟨e, by simp [he], hreap⟩, ?_, fun fd hfd => ?_⟩, h.child_pid, ?_, ?_, ?_⟩
  · rw [created_append, created_append, h.created, created_eq_nil hc.early, hcr]; rfl
  · exact (h.empty.append_right t₁).append_right t'
  · rw [opened_append, ho, append_nil] at hfd
    exact (h.heldOrClosed.closed hc fd hfd).steady ha.calls
  · rw [ha.rt, hmask]
  · exact h.failure.of_eq (ha.failure.trans hc.failure)
  · rw [delivered_append, delivered_append, h.delivered, hc.delivered, ha.delivered,
      append_nil]
    rcases hsent with ⟨hcode, rfl⟩ | ⟨hcode, elapsed, h0, hlt, rfl⟩
    · exact .inl ⟨hcode, by simp⟩
    · exact .inr ⟨hcode, elapsed, h0, hlt, rfl⟩

theorem Live.reap (h : Live args n child 4 0x1BF t₀ s) (hempty : EmptyAfterKill 10 6 5 t₀) :
    Ensures bpeReapChild s fun t b s' =>
      if b then Reaped args n child (t₀ ++ t) s' else AtFail args (t₀ ++ t) s' := by
  refine (reapChild_spec h.failure).mono fun t b s' ⟨hb, hreap, _⟩ => ?_
  cases b with
  | false =>
    rw [advancesOrRaises_false, h.rt] at hb
    exact h.fail hb (by decide) (by decide) (by decide)
  | true =>
    rw [advancesOrRaises_true, h.rt] at hb
    obtain ⟨e, rfl, he⟩ := hreap rfl
    rw [h.rt] at he
    have hlive : Live args n child 4 0x1BF (t₀ ++ [e]) _ :=
      h.advance (hb.setRt (liveRt n child 4 0x1BF)) (by simp)
    exact ⟨hb.rt, hlive.failure, hlive.delivered, hlive.created, hlive.opened, hlive.readyWrite,
      h.child_pid, ⟨e, by simp, he⟩, hempty.append_right _⟩

theorem mainFinal_spec (h : Live args n child 4 0x1BF t₀ s) (hempty : EmptyAfterKill 10 6 5 t₀) :
    Ensures mainFinal s fun t r s' =>
      match r with
      | some code => Finished args child (t₀ ++ t) code s'
      | none => AtFail args (t₀ ++ t) s' := by
  refine (h.reap hempty).bind fun t₁ b s₁ h₁ => ?_
  cases b with
  | false => exact ensures_pure (by simpa using h₁)
  | true =>
  replace h₁ : Reaped args n child (t₀ ++ t₁) s₁ := h₁
  refine (finalElapsed_spec h₁.failure).bind fun t₂ r s₂ h₂ => ?_
  rcases r with _ | elapsed
  · exact ensures_pure (by simpa using h₁.fail h₂ (by decide))
  obtain ⟨h₂, -, h0, hlt⟩ := h₂
  replace h₂ := h₁.advance h₂
  have hclose : Ensures (bpeControlQuiet .cleanup <&&> closeFinal) s₂ fun t b s' =>
      if b then ∃ u t₃ s₃, t = u ++ t₃ ∧ Reaped args n child (t₀ ++ t₁ ++ t₂ ++ u) s₃ ∧
        Closes s₃.rt.held s₃ t₃ true s' ∧ SameReport s₃.rt s'.rt
      else AtFail args (t₀ ++ t₁ ++ t₂ ++ t) s' := by
    refine Ensures.andM (controlQuiet_spec h₂.failure) (fun u s₃ ⟨h₃, _⟩ => ?_)
      fun u s₃ ⟨h₃, _⟩ => ?_
    · replace h₃ := h₂.advance (calmOrRaises_true.1 h₃).advances
      refine (closeFinal_spec h₃).mono fun t₃ b s' hc => ?_
      cases b with
      | true => exact ⟨u, t₃, s₃, rfl, h₃, hc⟩
      | false => simpa using hc
    · exact h₂.fail (calmOrRaises_false.1 h₃) (by decide)
  refine hclose.bind fun t₃ b s₄ h₃ => ?_
  cases b with
  | false => exact ensures_pure (by simpa using h₃)
  | true =>
  obtain ⟨u, t₃, s₃, rfl, h₃, hc, hsame⟩ := h₃
  have hseq : s₄.rt.sequence = 4 := by rw [hsame.sequence, h₃.rt]; rfl
  have hmask : s₄.rt.achieved = achievedResultMask := by
    rw [hsame.achieved, h₃.rt, achieved_reapedRt]
  refine bind_getRt ((emitFrame_spec ?_ ?_ ?_ _ _ _ _ _ _ _).bind fun t₄ b s₅ h₄ => ?_)
  · rw [hsame.controlUsable, h₃.rt]; rfl
  · rw [hsame.peerOpen, h₃.rt]; rfl
  · rw [hseq]; decide
  cases b with
  | false =>
    obtain ⟨ha, -⟩ : Advances s₄.rt [] s₄ t₄ s₅ ∧ _ := h₄
    refine ensures_pure ?_
    simpa using h₃.finished .protocol hc ha hmask (.inl ⟨rfl, rfl⟩)
  | true =>
    obtain ⟨ha, -⟩ : Advances _ _ s₄ t₄ s₅ ∧ _ := h₄
    rw [hseq, hmask] at ha
    refine ensures_pure ?_
    simpa using h₃.finished .ok hc ha hmask (.inr ⟨rfl, elapsed, h0, hlt, rfl⟩)

/-! ## `main` up to the label `fail` -/

theorem EarlyFails.atFail (h : EarlyFails helloSites 0 t s) : AtFail args t s := by
  refine ⟨.none (created_eq_nil h.calls) h.early.childCreated h.early.achieved, ?_, ⟨0, ?_, ?_⟩,
    h.reports.reason, ?_⟩
  · rw [h.early.sequence]; decide
  · rw [h.delivered, h.early.sequence]; rfl
  · rw [h.early.sequence]; intro h; omega
  · rw [h.early.sequence, h.early.achieved]
    exact fun hw => (h.reports.record hw).imp_right fun hrec => .inl (hrec.mono (by decide))

theorem mainBody_spec (fuel : Nat) (hcalls : ∀ e ∈ t₀, Call.plain e.1) (hrt : s.rt = startRt n)
    (hs : Clear s) : Ensures (mainBody fuel args) s fun t r s' =>
      match r with
      | some code => ∃ child, Finished args child (t₀ ++ t) code s'
      | none => AtFail args (t₀ ++ t) s' := by
  have h₀ := earlyRun_of_plain hcalls
  refine (mainHello_spec fuel args hs hrt).bind fun t₁ b s₁ h₁ => ?_
  cases b with
  | false =>
    have h₁ : EarlyFails helloSites 0 t₁ s₁ := h₁
    exact ensures_pure (by simpa using (h₁.prepend h₀).atFail)
  | true =>
  obtain ⟨h₁, hrt₁, hs₁, -⟩ : _ ∧ _ ∧ _ ∧ _ := h₁
  replace h₁ := h₀.append h₁
  have h₁ : Setup args n (t₀ ++ t₁) s₁ :=
    ⟨hrt₁, hs₁, h₁.delivered, created_eq_nil h₁.calls, h₁.opened⟩
  refine (mainChildReady_spec fuel h₁).bind fun t₂ r s₂ h₂ => ?_
  rcases r with _ | deadline
  · exact ensures_pure (by simpa using h₂)
  obtain ⟨child, h₂⟩ := h₂
  have hlive : Ensures (mainChildSignaled fuel deadline <&&> mainChildObserved fuel deadline) s₂
      fun t b s' => LiveOrFail args n child 4 0x1BF (t₀ ++ t₁ ++ t₂ ++ t) b s' ∧
        (b → EmptyAfterKill 10 6 5 (t₀ ++ t₁ ++ t₂ ++ t)) := by
    refine Ensures.andM (mainChildSignaled_spec fuel deadline h₂) (fun t₃ s₃ h₃ => ?_)
      fun t₃ s₃ h₃ => ⟨liveOrFail_false.2 (liveOrFail_false.1 h₃), by simp⟩
    simpa only [append_assoc] using
      mainChildObserved_spec fuel deadline (liveOrFail_true.1 h₃)
  refine hlive.bind fun t₃ b s₃ ⟨h₃, hempty⟩ => ?_
  cases b with
  | false => exact ensures_pure (by simpa using h₃)
  | true =>
    refine (mainFinal_spec (liveOrFail_true.1 h₃) (hempty rfl)).mono fun t₄ r s₄ h₄ => ?_
    rcases r with _ | code
    · simpa using h₄
    · exact ⟨child, by simpa using h₄⟩

end Bpe.Launcher
