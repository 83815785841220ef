import Bpe.Launcher.Outcome

/-!
# The label `fail`

The emergency cleanup, the last closes and the ERROR record. The abstract
launcher is `ErrorRecord`: the ERROR records that `raiseTable` and the
effect of the cleanup on the achieved mask allow. Every record the model of
`launcher.c` sends is one of them, but for an odd `pipe2`, a kill write that
takes no byte, and a `cgroup.events` read after the reap that does not show
an empty cgroup.
-/

namespace Bpe.Launcher

open Bpe.Native Proc List

variable {args : LaunchArgs} {s s₁ s' : LState} {t t₀ t' : Trace}

/-- The mask after the cleanup, and whether the cleanup was complete. A child
that never existed or was already reaped needs none. -/
def cleanupResults (mask : Nat) : List (Nat × Bool) :=
  if mask ∈ liveMasks then
    [(mask, false), (mask ||| childReapedBit, false), (mask ||| cgroupEmptyBit, false),
      (mask ||| childReapedBit ||| cgroupEmptyBit, true)]
  else [(mask, true)]

/-- `cgroup.events` was read after the child was reaped, and no such read
showed `populated 0`. -/
def LateRead (t : Trace) : Prop :=
  ∃ t₁ e t₂ pidfd childPid, t = t₁ ++ e :: t₂ ∧ ReapEvent pidfd childPid e ∧
    (∃ r, ⟨.lseek 5, r⟩ ∈ t₂) ∧ ¬ ShowsEmpty 5 t₂

/-- Calls other than reads cannot show anything. -/
theorem ShowsEmpty.of_append {fd : Int} (h : ShowsEmpty fd (t ++ t'))
    (ht' : ∀ e ∈ t', ∀ fd' size, e.1 ≠ .lseek fd' ∧ e.1 ≠ .read fd' size) : ShowsEmpty fd t := by
  obtain ⟨events, ⟨buffer, u, hread, ⟨l₁, l₂, heq⟩, hparse⟩, h0⟩ := h
  refine ⟨events, ⟨buffer, u, hread, ?_, hparse⟩, h0⟩
  rcases append_eq_append_iff.1 heq with ⟨v, hv, -⟩ | ⟨v, hv, hv'⟩
  · exact ⟨l₁, v, hv.symm⟩
  -- the read would end in `t'`, but its last call is a read
  obtain ⟨text, last, rfl, -, fails, rfl, -⟩ := hread
  rcases eq_nil_or_concat v with rfl | ⟨v', e, rfl⟩
  · exact ⟨l₁, [], by simpa using hv⟩
  · have he : e = ⟨.read fd 1, .ok ⟨[], by simp⟩⟩ := by
      have hlast := congrArg getLast? hv
      rw [← cons_append, ← append_assoc, ← append_assoc, getLast?_concat, concat_eq_append,
        ← append_assoc, getLast?_concat] at hlast
      exact (Option.some.inj hlast).symm
    exact absurd (by rw [he]) (ht' e (by simp [hv']) fd 1).2

theorem LateRead.append (h : LateRead t) (u : Trace)
    (ht' : ∀ e ∈ t', ∀ fd size, e.1 ≠ .lseek fd ∧ e.1 ≠ .read fd size) :
    LateRead (u ++ (t ++ t')) := by
  obtain ⟨t₁, e, t₂, pidfd, childPid, rfl, he, ⟨r, hr⟩, hne⟩ := h
  exact ⟨u ++ t₁, e, t₂ ++ t', pidfd, childPid, by simp, he, ⟨r, mem_append_left _ hr⟩,
    fun hs => hne (hs.of_append ht')⟩

/-! ## Emergency cleanup -/

/-- The child's fate before the last closes. -/
structure Settled (s : LState) (t₀ t : Trace) (ok : Bool) (s' : LState) : Prop where
  calls : ∀ e ∈ t, Call.steady e.1
  delivered : delivered t = []
  failure : s'.failure = s.failure
  sequence : s'.rt.sequence = s.rt.sequence
  control : s'.rt.controlUsable = s.rt.controlUsable ∧ s'.rt.peerOpen = s.rt.peerOpen
  mask : (s'.rt.achieved, ok) ∈ cleanupResults s.rt.achieved
  late : ok = false → s'.rt.achieved = achievedResultMask → LateRead t
  child : ok → s.failure.reason ≠ .cleanupIncomplete → ∀ child pidfd : Nat,
    created t₀ = [(child, pidfd)] → (∃ e ∈ t₀ ++ t, ReapEvent pidfd child e) ∧
      EmptyAfterKill pidfd 6 5 (t₀ ++ t) ∧ HeldOrClosed (t₀ ++ t) s'.rt

theorem mem_cleanupResults {mask : Nat} (hmask : mask ∈ liveMasks) (reaped empty : Bool) :
    ((mask ||| if reaped then childReapedBit else 0) ||| if empty then cgroupEmptyBit else 0,
      reaped && empty) ∈ cleanupResults mask := by
  rw [cleanupResults, if_pos hmask]
  cases reaped <;> cases empty <;> simp

/-- Without the reap the mask is never full. -/
theorem mask_ne_full : ∀ mask ∈ liveMasks, ∀ empty : Bool,
    ((mask ||| 0) ||| if empty then cgroupEmptyBit else 0) ≠ achievedResultMask := by
  decide

theorem AtFail.settled_nil (h : AtFail args t₀ s)
    (hc : ¬ (s.rt.childCreated = true ∧ s.rt.childReaped = false)) : Settled s t₀ [] true s := by
  refine ⟨by simp, rfl, rfl, rfl, ⟨rfl, rfl⟩, ?_, by simp, fun _ hne child pidfd hcr => ?_⟩
  · cases h.child with
    | none _ _ hmask => rw [hmask]; decide
    | live _ _ _ hcreated hreaped => exact absurd ⟨hcreated, hreaped⟩ hc
    | reaped _ _ _ hmask => rw [hmask]; decide
  · cases h.child with
    | none hc' => rw [hc'] at hcr; cases hcr
    | live _ _ _ hcreated hreaped => exact absurd ⟨hcreated, hreaped⟩ hc
    | reaped child' hc' _ _ hreap hempty hheld =>
      rw [hc'] at hcr
      cases hcr
      rw [append_nil]
      exact ⟨hreap, hempty, hheld hne⟩

theorem AtFail.settled_live (h : AtFail args t₀ s) (fuel : Nat)
    (hc : s.rt.childCreated = true ∧ s.rt.childReaped = false) :
    Ensures (bpeEmergencyCleanup fuel) s fun t ok s' => Settled s t₀ t ok s' := by
  cases h.child with
  | none _ hcreated => rw [hc.1] at hcreated; cases hcreated
  | reaped _ _ hreaped => rw [hc.2] at hreaped; cases hreaped
  | live child pidfd hcr _ _ hpid hpidfd hev hkill hmask hheld =>
    refine (emergencyCleanup_spec fuel hc.1 hc.2 (by rw [hpidfd]; omega)
      (by rw [hev]; decide)).mono fun t ok s' ⟨reaped, empty, h'⟩ => ?_
    have hrt := h'.advances.rt
    refine ⟨h'.advances.calls, h'.advances.delivered, h'.advances.failure, by rw [hrt]; rfl,
      ⟨by rw [hrt]; rfl, by rw [hrt]; rfl⟩, ?_, fun hok hfull => ?_,
      fun hok _ child' pidfd' hcr' => ?_⟩
    · rw [hrt, h'.result]
      exact mem_cleanupResults hmask reaped empty
    · rw [hrt] at hfull
      cases reaped with
      | false => exact absurd hfull (mask_ne_full _ hmask empty)
      | true =>
        have hempty : empty = false := by simpa [h'.result] using hok
        obtain ⟨u, e, v, ht, he, hseek, hne⟩ := h'.late rfl hempty
        rw [hev] at hseek hne
        exact ⟨u, e, v, _, _, ht, he, hseek, hne⟩
    · rw [hcr] at hcr'
      cases hcr'
      obtain ⟨⟨e, he, hreap⟩, hempty⟩ := h'.complete hok
      rw [hpidfd, hpid] at hreap
      rw [hpidfd, hkill, hev] at hempty
      refine ⟨⟨e, mem_append_right _ he, hreap⟩, hempty.append_left, ?_⟩
      have := hheld.steady h'.advances.calls
      intro fd hfd
      rw [show s'.rt.held = s.rt.held by rw [hrt]; rfl]
      exact this fd hfd

/-! ## The last closes -/

/-- The cleanup at `fail`, with its two results. -/
structure Cleaned (s : LState) (t₀ t : Trace) (incomplete : Bool) (cleanupErrno : Nat)
    (s' : LState) : Prop where
  delivered : delivered t = []
  created : created t = []
  failure : s'.failure = s.failure
  sequence : s'.rt.sequence = s.rt.sequence
  control : s'.rt.controlUsable = s.rt.controlUsable ∧ s'.rt.peerOpen = s.rt.peerOpen
  mask : ∃ ok, (s'.rt.achieved, ok) ∈ cleanupResults s.rt.achieved ∧
    (incomplete = false → ok = true) ∧
    (incomplete = true → Fresh cleanupErrno ∨ (cleanupErrno = 0 ∧ ok = false))
  late : incomplete = true → cleanupErrno = 0 → s'.rt.achieved = achievedResultMask →
    LateRead (t₀ ++ t)
  accounted : incomplete = false → s.failure.reason ≠ .cleanupIncomplete → ∀ child pidfd : Nat,
    Launcher.created t₀ = [(child, pidfd)] → Accounted (t₀ ++ t) child pidfd

theorem Settled.cleaned {ok b : Bool} {t₁ : Trace} (h : Settled s t₀ t ok s₁)
    (hc : Closes s₁.rt.held s₁ t₁ b s') (hsame : SameReport s₁.rt s'.rt) :
    Cleaned s t₀ (t ++ t₁) (!b || !ok) (if b then 0 else s'.errno) s' := by
  refine ⟨?_, ?_, hc.failure.trans h.failure, hsame.sequence.trans h.sequence,
    ⟨hsame.controlUsable.trans h.control.1, hsame.peerOpen.trans h.control.2⟩, ⟨ok, ?_, ?_, ?_⟩,
    fun hinc he hfull => ?_, fun hinc hne child pidfd hcr => ?_⟩
  · rw [delivered_append, h.delivered, hc.delivered]; rfl
  · rw [created_append, created_eq_nil hc.early,
      created_steady h.calls]
    rfl
  · rw [hsame.achieved]; exact h.mask
  · cases b <;> cases ok <;> simp
  · cases b with
    | false => exact fun _ => .inl (hc.failed rfl)
    | true => exact fun hok => .inr ⟨rfl, by simpa using hok⟩
  · cases b with
    | false =>
      have hfresh := hc.failed rfl
      have : s'.errno = 0 := by simpa using he
      rw [this] at hfresh
      exact absurd hfresh.1 (by decide)
    | true =>
      rw [hsame.achieved] at hfull
      refine (h.late (by simpa using hinc) hfull).append t₀ fun e he fd size => ?_
      obtain ⟨fd', r, rfl⟩ := hc.calls e he
      exact ⟨nofun, nofun⟩
  · obtain ⟨rfl, rfl⟩ : b = true ∧ ok = true := by simpa using hinc
    obtain ⟨⟨e, he, hreap⟩, hempty, hheld⟩ := h.child rfl hne child pidfd hcr
    rw [← append_assoc]
    exact ⟨⟨e, mem_append_left _ he, hreap⟩, hempty.append_right t₁, hheld.closed hc⟩

theorem AtFail.failCleanup (h : AtFail args t₀ s) (fuel : Nat) :
    Ensures (Launcher.failCleanup fuel) s fun t r s' => Cleaned s t₀ t r.1 r.2 s' := by
  have hclose : ∀ t₁ ok s₁, Settled s t₀ t₁ ok s₁ → Ensures (do
      if !(← bpeCloseOwned) then return (true, ← getErrno)
      return (!ok, 0)) s₁ fun t₂ r s' => Cleaned s t₀ (t₁ ++ t₂) r.1 r.2 s' := by
    intro t₁ ok s₁ h₁
    refine closeOwned_spec.bind fun t₂ b s₂ ⟨hc, hsame⟩ => ?_
    have h₂ := h₁.cleaned hc hsame
    cases b with
    | false => exact bind_getErrno (ensures_pure (by simpa using h₂))
    | true => exact ensures_pure (by simpa using h₂)
  refine bind_getRt (ensures_ite (fun hc => ?_) fun hc => ?_)
  · exact (h.settled_live fuel ⟨hc.1, by simpa using hc.2⟩).bind hclose
  · refine Ensures.bind (P := fun t ok s' => Settled s t₀ t ok s') (ensures_pure ?_) hclose
    exact h.settled_nil fun hc' => hc ⟨hc'.1, by simp [hc'.2]⟩

/-! ## The ERROR record -/

/-- The ERROR records the abstract launcher can send after `k` success
frames: reason, stage, mask and `errno`. -/
inductive ErrorRecord (k : Nat) : NativeReason → NativeStage → Nat → Nat → Prop where
  /-- A recorded failure, after a complete cleanup. -/
  | raised {mask mask' e : Nat} {site : Site} (hsite : site ∈ sitesAt k mask)
      (hclean : (mask', true) ∈ cleanupResults mask) (he : site.errnos.Mem e) :
      ErrorRecord k site.reason site.stage mask' e
  /-- A close failed. -/
  | closeFailed {mask mask' e : Nat} {ok : Bool} (hpoint : sitesAt k mask ≠ [])
      (hclean : (mask', ok) ∈ cleanupResults mask) (he : Fresh e) :
      ErrorRecord k .cleanupIncomplete .cleanup mask' e
  /-- The child was not reaped or its cgroup not seen empty. -/
  | incomplete {mask mask' : Nat} (hpoint : sitesAt k mask ≠ [])
      (hclean : (mask', false) ∈ cleanupResults mask) :
      ErrorRecord k .cleanupIncomplete .cleanup mask' 0

/-- An ERROR record sent at `fail`, in a run with trace `t`. -/
structure Reported (t : Trace) (k : Nat) (reason : NativeReason) (stage : NativeStage)
    (mask e : Nat) : Prop where
  record : ErrorRecord k reason stage mask e ∨ ∃ mask₀ site, Stale t k mask₀ site ∧
    (mask, true) ∈ cleanupResults mask₀ ∧ reason = site.reason ∧ stage = site.stage
  errno : e ≤ protocolMaxErrno
  late : reason = .cleanupIncomplete → e = 0 → mask = achievedResultMask → LateRead t

theorem mem_raiseTable {k mask : Nat} {site : Site} :
    site ∈ sitesAt k mask ↔ (k, mask, site) ∈ raiseTable := by
  simp only [sitesAt, mem_map, mem_filter, Bool.and_eq_true, beq_iff_eq]
  constructor
  · rintro ⟨⟨k', mask', site'⟩, ⟨hmem, rfl, rfl⟩, rfl⟩
    exact hmem
  · intro h
    exact ⟨_, ⟨h, rfl, rfl⟩, rfl⟩

theorem cleanupIncomplete_fresh : ∀ row ∈ raiseTable, row.2.2.reason = .cleanupIncomplete →
    row.2.2.errnos = .fresh := by
  decide

/-- A call that failed there would have recorded the same, with its `errno`. -/
theorem Stale.mem_sitesAt {k mask : Nat} {site : Site} (h : Stale t k mask site) :
    ⟨site.reason, site.stage, .fresh⟩ ∈ sitesAt k mask := by
  cases h <;> decide

theorem Stale.reason_ne {k mask : Nat} {site : Site} (h : Stale t k mask site) :
    site.reason ≠ .cleanupIncomplete := by
  cases h <;> decide

/-- What `fail` reports was recorded by a step, or is an incomplete cleanup. -/
theorem AtFail.reported {incomplete : Bool} {e : Nat} (h : AtFail args t₀ s)
    (hc : Cleaned s t₀ t incomplete e s₁) (hctl : ¬ Silent s.rt) (hw : WholeSends t₀) :
    ∃ stage, (terminalFailure s.failure incomplete e).stage = some stage ∧
      Reported (t₀ ++ t) s.rt.sequence (terminalFailure s.failure incomplete e).reason stage
        s₁.rt.achieved (bpeWireErrno (terminalFailure s.failure incomplete e).errorNumber) := by
  obtain ⟨ok, hmask, hok, herr⟩ := hc.mask
  have hrec := (h.record hw).resolve_left hctl
  cases incomplete with
  | true =>
    refine ⟨.cleanup, rfl, .inl ?_, bpeWireErrno_le _, fun _ he hfull => ?_⟩
    · have hpoint : sitesAt s.rt.sequence s.rt.achieved ≠ [] := by
        rcases hrec with ⟨site, hsite, -⟩ | ⟨site, hstale, -⟩
        · exact ne_nil_of_mem hsite
        · exact ne_nil_of_mem hstale.mem_sitesAt
      rcases herr rfl with hfresh | ⟨rfl, rfl⟩
      · refine .closeFailed hpoint hmask ?_
        show Fresh (bpeWireErrno e)
        rwa [hfresh.wire]
      · exact .incomplete hpoint hmask
    · rcases herr rfl with hfresh | ⟨rfl, -⟩
      · have hzero : e = 0 := hfresh.wire.symm.trans he
        rw [hzero] at hfresh
        exact absurd hfresh.1 (by decide)
      · exact hc.late rfl rfl hfull
  | false =>
    obtain rfl := hok rfl
    have hterm : terminalFailure s.failure false e = s.failure := by
      simp [terminalFailure, h.reason]
    rw [hterm]
    rcases hrec with ⟨site, hsite, hstage, hreason, he⟩ | ⟨site, hstale, hrec⟩
    · refine ⟨site.stage, hstage, .inl ?_, bpeWireErrno_le _, fun hr he0 => ?_⟩
      · rw [hreason]
        exact .raised hsite hmask he
      · rw [hreason] at hr
        rw [cleanupIncomplete_fresh _ (mem_raiseTable.1 hsite) hr, he0] at he
        exact absurd he.1 (by decide)
    · obtain ⟨site', hsite, hstage, hreason, -⟩ := hrec
      obtain rfl : site' = site := by simpa using hsite
      refine ⟨site'.stage, hstage, .inr ⟨_, site', hstale.mono (subset_append_left _ _), hmask,
        hreason, rfl⟩, bpeWireErrno_le _, fun hr => ?_⟩
      have hne : site'.reason ≠ .cleanupIncomplete := hstale.reason_ne
      exact absurd (hreason ▸ hr) hne

/-! ## Exit codes -/

theorem exitForReason_cleanup {reason : NativeReason} (h : bpeExitForReason reason ≠ .cleanup) :
    reason ≠ .cleanupIncomplete := by
  rintro rfl
  exact h rfl

theorem exitForReason_ne_ok (reason : NativeReason) : bpeExitForReason reason ≠ .ok := by
  cases reason <;> decide

/-- The ERROR frame that reports the failure of the final state. -/
def sentFrame (k : Nat) (stage : NativeStage) (s : LState) : InertNativeFrame :=
  errorFrame k s.failure.reason stage s.rt.achieved (bpeWireErrno s.failure.errorNumber)

/-- How `main` ends after the label `fail` was reached in state `s`. -/
structure FailExit (s : LState) (t₀ t : Trace) (code : NativeExitCode) (s' : LState) : Prop where
  created : created t = []
  accounted : code ≠ .cleanup → ∀ child pidfd : Nat, Launcher.created t₀ = [(child, pidfd)] →
    Accounted (t₀ ++ t) child pidfd
  precedence : s'.failure.reason = .cleanupIncomplete → code = .cleanup
  code_ne : code ≠ .ok
  report : WholeSends t₀ → delivered t = [] ∨ ∃ stage, code = bpeExitForReason s'.failure.reason ∧
    delivered t = [(sentFrame s.rt.sequence stage s').encode] ∧
    Reported (t₀ ++ t) s.rt.sequence s'.failure.reason stage s'.rt.achieved
      (bpeWireErrno s'.failure.errorNumber)

theorem Accounted.steady {child pidfd : Nat} (h : Accounted t child pidfd)
    (hs : ∀ e ∈ t', Call.steady e.1) : Accounted (t ++ t') child pidfd := by
  obtain ⟨⟨e, he, hreap⟩, hempty, hclosed⟩ := h
  refine ⟨⟨e, mem_append_left _ he, hreap⟩, hempty.append_right t', fun fd hfd => ?_⟩
  rw [opened_append, opened_steady hs, append_nil] at hfd
  exact (hclosed fd hfd).steady hs

theorem Cleaned.exit {incomplete : Bool} {e : Nat} {code : NativeExitCode} {t₁ : Trace}
    (hc : Cleaned s t₀ t incomplete e s₁) (hreason : s.failure.reason ≠ .none)
    (hsteady : ∀ e ∈ t₁, Call.steady e.1)
    (hfail : s'.failure = terminalFailure s.failure incomplete e)
    (hcode : code = bpeExitForReason s'.failure.reason ∨
      (code = .protocol ∧ bpeExitForReason s'.failure.reason ≠ .cleanup))
    (hreport : WholeSends t₀ → Launcher.delivered t₁ = [] ∨ ∃ stage,
      code = bpeExitForReason s'.failure.reason ∧
      Launcher.delivered t₁ = [(sentFrame s.rt.sequence stage s').encode] ∧
        Reported (t₀ ++ (t ++ t₁)) s.rt.sequence s'.failure.reason stage s'.rt.achieved
          (bpeWireErrno s'.failure.errorNumber)) :
    FailExit s t₀ (t ++ t₁) code s' := by
  have hcleanup : s'.failure.reason = .cleanupIncomplete → code = .cleanup := by
    intro hr
    rcases hcode with rfl | ⟨-, hne⟩
    · rw [hr]; rfl
    · exact absurd hr (exitForReason_cleanup hne)
  refine ⟨?_, fun hne child pidfd hcr => ?_, hcleanup, ?_, ?_⟩
  · rw [created_append, hc.created,
      created_steady hsteady]
    rfl
  · rw [← append_assoc]
    have hr : (terminalFailure s.failure incomplete e).reason ≠ .cleanupIncomplete := by
      rw [← hfail]
      exact fun hr => hne (hcleanup hr)
    cases incomplete with
    | true => exact absurd rfl hr
    | false =>
      rw [show terminalFailure s.failure false e = s.failure by
        simp [terminalFailure, hreason]] at hr
      exact (hc.accounted rfl hr child pidfd hcr).steady hsteady
  · rcases hcode with rfl | ⟨rfl, -⟩
    · exact exitForReason_ne_ok _
    · decide
  · rw [delivered_append, hc.delivered]
    exact hreport

theorem Reported.steady {k mask e : Nat} {reason : NativeReason} {stage : NativeStage}
    (h : Reported t k reason stage mask e)
    (ht' : ∀ e ∈ t', ∀ fd size, e.1 ≠ .lseek fd ∧ e.1 ≠ .read fd size) :
    Reported (t ++ t') k reason stage mask e := by
  refine ⟨?_, h.errno, fun hr he hfull => ?_⟩
  · refine h.record.imp_right fun ⟨mask₀, site, hstale, hr⟩ => ⟨mask₀, site, ?_, hr⟩
    exact hstale.mono (subset_append_left _ _)
  · simpa using (h.late hr he hfull).append [] ht'

theorem AtFail.report {incomplete : Bool} {e : Nat} (h : AtFail args t₀ s)
    (hc : Cleaned s t₀ t incomplete e s₁) {f : Failure}
    (hf : f = terminalFailure s.failure incomplete e) :
    Ensures (failReport f) { s₁ with failure := f } fun t' code s' =>
      FailExit s t₀ (t ++ t') code s' := by
  have hnone : FailExit s t₀ (t ++ []) (bpeExitForReason f.reason) { s₁ with failure := f } :=
    hc.exit h.reason (by simp) hf (.inl rfl) fun _ => .inl rfl
  refine bind_getRt (ensures_ite (fun hctl => ?_) fun _ => ensures_pure hnone)
  have hsilent : ¬ Silent s.rt := by
    rintro (hs | hs)
    · rw [← hc.control.1, hctl.1] at hs; cases hs
    · rw [← hc.control.2, hctl.2] at hs; cases hs
  have hseq := hc.sequence
  refine ((emitFrame_spec hctl.1 hctl.2 ?_ _ _ _ _ _ _ _).and (emitFrame_calls _ _ _ _ _ _ _)).bind
    fun t₁ b s₂ ⟨h₁, hsend⟩ => ensures_pure ?_
  · show s₁.rt.sequence < 8
    have := h.sequence
    omega
  rw [append_nil]
  cases b with
  | false =>
    obtain ⟨ha, -⟩ : Advances s₁.rt [] { s₁ with failure := f } t₁ s₂ ∧ _ := h₁
    have hfail : s₂.failure = f := ha.failure
    refine hc.exit h.reason ha.calls (hfail.trans hf) ?_ fun _ => .inl ha.delivered
    rw [hfail]
    by_cases hcode : bpeExitForReason f.reason = .cleanup
    · exact .inl (if_neg fun hn => hn.2 hcode)
    · exact .inr ⟨if_pos ⟨rfl, hcode⟩, hcode⟩
  | true =>
    obtain ⟨ha, -⟩ : Advances _ _ { s₁ with failure := f } t₁ s₂ ∧ _ := h₁
    have hfail : s₂.failure = f := ha.failure
    have hmask : s₂.rt.achieved = s₁.rt.achieved := by rw [ha.rt]
    refine hc.exit h.reason ha.calls (hfail.trans hf) (.inl (by rw [hfail]; rfl)) fun hw => .inr ?_
    obtain ⟨stage, hstage, hrep⟩ := h.reported hc hsilent hw
    rw [← hf] at hstage hrep
    refine ⟨stage, by rw [hfail]; rfl, ?_, ?_⟩
    · rw [ha.delivered, sentFrame, hfail, hmask, ← hseq, hstage]
      rfl
    · rw [← append_assoc, hfail, hmask]
      refine hrep.steady fun e he fd size => ?_
      obtain ⟨bytes, hb⟩ := hsend e he
      rw [hb]
      exact ⟨nofun, nofun⟩

theorem AtFail.mainFail (h : AtFail args t₀ s) (fuel : Nat) :
    Ensures (Launcher.mainFail fuel) s fun t code s' => FailExit s t₀ t code s' := by
  refine (h.failCleanup fuel).bind fun t₁ ⟨incomplete, e⟩ s₁ hc => bind_modify ?_
  have hf : s₁.failure = s.failure := hc.failure
  refine (ensures_get (Q := fun t s₀ s' => t = [] ∧ s₀ = s' ∧
    s' = { s₁ with failure := terminalFailure s₁.failure incomplete e }) ⟨rfl, rfl, rfl⟩).bind ?_
  rintro _ _ _ ⟨rfl, rfl, rfl⟩
  exact h.report hc (by rw [hf])

/-! ## `main` -/

/-- How a run of `main` ends. -/
inductive Outcome (args : LaunchArgs) (t : Trace) (code : NativeExitCode) (s : LState) : Prop where
  /-- The first clock reading failed. -/
  | noClock (hcode : code = .internal) (hcalls : ∀ e ∈ t, Call.plain e.1)
      (hfail : Clear s)
  | finished (child : Nat) (h : Finished args child t code s)
  | failed (t₀ t₁ : Trace) (s₀ : LState) (ht : t = t₀ ++ t₁) (hat : AtFail args t₀ s₀)
      (h : FailExit s₀ t₀ t₁ code s)

theorem main_outcome (fuel : Nat) (args : LaunchArgs) :
    Ensures (main fuel args) {} fun t code s => Outcome args t code s := by
  refine (calm_monotonicNs {}).bind fun t₁ r s₁ h₁ => ?_
  rcases r with _ | startedNs
  · refine ensures_pure (.noClock rfl (by simpa using h₁.calls) (Clear.of_eq rfl h₁.failure))
  refine bind_modifyRt ((mainBody_spec fuel h₁.calls (n := startedNs) (by rw [h₁.rt]; rfl)
    (by rw [h₁.failure])).bind fun t₂ r s₂ h₂ => ?_)
  rcases r with _ | code
  · refine (h₂.mainFail fuel).mono fun t₃ code s₃ h₃ => ?_
    exact .failed (t₁ ++ t₂) t₃ s₂ (by simp) h₂ h₃
  · obtain ⟨child, h₂⟩ := h₂
    exact ensures_pure (.finished child (by simpa using h₂))

end Bpe.Launcher
