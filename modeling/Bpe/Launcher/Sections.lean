import Bpe.Launcher.Points

/-!
# The stretches of `main` between frames

Each stretch of `main` takes one point of `Points` to the next or ends at the
label `fail`. Traces are accumulated from the start of the run, so that the
statements compose by appending.
-/

namespace Bpe.Launcher

open Bpe.Native Proc List

variable {s s₁ s' : LState} {t t₀ t' : Trace} {args : LaunchArgs} {n child : Nat}

/-- `main` after HELLO: the descriptors are open and no child exists. -/
structure Setup (args : LaunchArgs) (n : Nat) (t : Trace) (s : LState) : Prop where
  rt : s.rt = setupRt n 1
  failure : Clear s
  delivered : delivered t = [(helloFrame args).encode]
  created : created t = []
  opened : opened t = [5, 6, 7]

theorem Setup.atFail (h : Setup args n t₀ s) (hcr : Launcher.created t = [])
    (hdel : Launcher.delivered t = []) (hearly : Early 1 s'.rt)
    (hreason : s'.failure.reason ≠ .none)
    (hrec : WholeSends t → Silent s'.rt ∨ Recorded t 1 0 s'.failure) :
    AtFail args (t₀ ++ t) s' := by
  refine ⟨.none ?_ hearly.childCreated hearly.achieved, ?_, ⟨0, ?_, ?_⟩, hreason, ?_⟩
  · rw [created_append, h.created, hcr]; rfl
  · rw [hearly.sequence]; decide
  · rw [delivered_append, h.delivered, hdel, hearly.sequence]; rfl
  · rw [hearly.sequence]; intro h; omega
  · rw [hearly.sequence, hearly.achieved]
    refine fun hw => (hrec ((wholeSends_append _ _).1 hw).2).imp_right (Or.imp_right ?_)
    exact fun ⟨site, hstale, hr⟩ => ⟨site, hstale.mono (subset_append_right _ _), hr⟩

theorem Setup.fail {sites : List Site} (h : Setup args n t₀ s)
    (hr : Raises sites (setupRt n 1) t s') (hsub : sites ⊆ sitesAt 1 0) :
    AtFail args (t₀ ++ t) s' :=
  h.atFail (created_steady hr.calls) hr.delivered
    (Early.peerOnly ⟨rfl, rfl, rfl, rfl⟩ hr.rt) hr.reports.reason
    (fun hw => (hr.reports.record hw).imp_right fun hrec => .inl (hrec.mono hsub))

theorem Setup.calm (h : Setup args n t₀ s) (hc : Calm Call.plain s t s') :
    Setup args n (t₀ ++ t) s' where
  rt := hc.rt.trans h.rt
  failure := h.failure.of_eq hc.failure
  delivered := by rw [delivered_append, h.delivered, hc.delivered]; rfl
  created := by
    rw [created_append, h.created, created_steady hc.steady]
    rfl
  opened := by
    rw [opened_append, h.opened, opened_steady hc.steady]
    rfl

/-! ## Creating the child -/

theorem mem_cloneErrno {e : Nat} (h : Fresh e) :
    ∃ site ∈ sitesAt 1 0, site.stage = .clone3 ∧ site.reason = cloneFailureReason e ∧
      site.errnos.Mem (bpeWireErrno e) := by
  rw [h.wire]
  unfold cloneFailureReason
  split
  · next he => exact ⟨⟨.clone3Unavailable, .clone3, .cloneUnavailable⟩, by decide, rfl, rfl, he⟩
  · next hn =>
    split
    · next he => exact ⟨⟨.resourceExhausted, .clone3, .cloneResource⟩, by decide, rfl, rfl, he⟩
    · next he =>
      simp only [not_or] at he
      exact ⟨⟨.clone3Rejected, .clone3, .cloneRejected⟩, by decide, rfl, rfl, h, he.1, he.2.1,
        he.2.2.1, he.2.2.2, hn⟩

theorem openReadyPipe_spec (h : Setup args n t₀ s) : Ensures openReadyPipe s fun t b s' =>
    if b then t = [⟨.pipe2, .ok (8, 9)⟩] ∧
      s' = { s with rt := { s.rt with readyReadFd := 8, readyWriteFd := 9 } }
    else AtFail args (t₀ ++ t) s' := by
  have hearly : Early 1 (setupRt n 1) := ⟨rfl, rfl, rfl, rfl⟩
  refine ensures_sys_bind (fun fds => ?_) fun e => ?_
  · obtain ⟨readFd, writeFd⟩ := fds
    refine ensures_ite (fun hodd => ?_) fun heq => ?_
    · refine bind_getErrno (bind_setFailure h.failure ?_)
      refine (calm_sys (P := Call.scanning) rfl _).bind fun t₁ _ s₁ h₁ => ?_
      refine (calm_sys (P := Call.scanning) rfl _).bind fun t₂ _ s₂ h₂ => ensures_pure ?_
      have h₃ := h₁.trans h₂
      have hrt : s₂.rt = setupRt n 1 := h₃.rt.trans h.rt
      have hcr := created_eq_nil fun e he => Call.early_of_scanning (h₃.calls e he)
      have hdel := delivered_eq_nil h₃.calls
      have hodd' : OddPipe (⟨.pipe2, .ok (readFd, writeFd)⟩ :: (t₁ ++ t₂)) := by
        refine ⟨readFd, writeFd, mem_cons_self, ?_⟩
        rintro ⟨⟩
        exact hodd.elim (fun h => h rfl) (fun h => h rfl)
      simp only [Bool.false_eq_true, if_false, append_nil]
      refine h.atFail hcr hdel (by rw [hrt]; exact hearly) ?_
        (fun _ => .inr (.inr ⟨_, .oddPipe hodd', oddPipeSite, by simp, ?_⟩))
      · rw [h₃.failure]; simp
      · rw [h₃.failure]
        exact ⟨rfl, rfl, mem_any _⟩
    · obtain ⟨hr, hw⟩ : readFd = 8 ∧ writeFd = 9 := by
        simp only [childReadyReadFd, childReadyWriteFd, not_or, not_not] at heq
        omega
      subst hr hw
      exact bind_modifyRt (ensures_pure ⟨rfl, rfl⟩)
  · refine bind_getErrno (bind_setFailure h.failure (ensures_pure ?_))
    simp only [Bool.false_eq_true, if_false]
    refine h.atFail rfl rfl (by simp only [h.rt]; exact hearly) (by simp) (fun _ => .inr (.inl ?_))
    exact ⟨⟨.resourceExhausted, .fixtureSetup, .fresh⟩, by decide, rfl, rfl, mem_fresh e.2⟩

/-- The runtime record between `clone3` and the pidfd checks. -/
def clonedRt (n child pidfd achieved : Nat) : Runtime :=
  { liveRt n child 1 achieved with readyWriteFd := 9, pidfd }

/-- A failure after `clone3` succeeded and before the ready pipe's write end
was closed. -/
theorem Setup.failCloned (h : Setup args n t₀ s)
    {child : { child : Pid // child ≠ args.launcherPid }} {pidfd mask : Nat} (r : Site)
    {e errno : Nat} (hscan : ∀ e ∈ t, Call.scanning e.1) (hm : mask ∈ liveMasks)
    (hmem : r ∈ sitesAt 1 mask) (hr : r.reason ≠ .none) (he : r.errnos.Mem (bpeWireErrno e)) :
    AtFail args (t₀ ++ ⟨.pipe2, .ok (8, 9)⟩ :: ⟨.clone3 args.launcherPid, .ok (child, pidfd)⟩ :: t)
      ⟨errno, clonedRt n child.val.val pidfd mask, ⟨some r.stage, r.reason, e⟩⟩ := by
  have hcr : Launcher.created t = [] :=
    created_eq_nil fun e he => Call.early_of_scanning (hscan e he)
  have hop : Launcher.opened t = [] := opened_eq_nil fun e he => .inl (hscan e he)
  have hdel : Launcher.delivered t = [] := delivered_eq_nil hscan
  refine ⟨.live child.val.val pidfd ?_ rfl rfl rfl rfl rfl rfl hm ?_, (by decide : 1 ≤ 4),
    ⟨0, ?_, fun h => absurd h (by decide : ¬ 2 ≤ 1)⟩, hr,
    fun _ => .inr (.inl ⟨r, hmem, rfl, rfl, he⟩)⟩
  · rw [created_append, h.created, nil_append]
    show Launcher.created ([_, _] ++ t) = _
    rw [created_append, hcr]; rfl
  · intro fd hfd
    left
    rw [opened_append, h.opened] at hfd
    change fd ∈ _ ++ Launcher.opened ([_, _] ++ t) ∨ _ at hfd
    rw [opened_append, hop] at hfd
    simp [Launcher.opened, cgroupFd] at hfd
    have hneg : ¬ (pidfd : Int) < 0 := by omega
    simp [Runtime.held, heldFd, clonedRt, liveRt, setupRt, checkedRt, cgroupFd, hneg]
    omega
  · rw [delivered_append, h.delivered]
    show _ ++ Launcher.delivered t = _
    rw [hdel]; rfl

theorem cloneFixture_spec (h : Setup args n t₀ s) :
    Ensures (bpeCloneFixture args.launcherPid) s fun t b s' =>
      if b then ∃ child, Live args n child 1 0x003 (t₀ ++ t) s' else AtFail args (t₀ ++ t) s' := by
  refine (openReadyPipe_spec h).bind fun t₁ b s₁ h₁ => ?_
  cases b with
  | false => exact ensures_pure (by simpa using h₁)
  | true =>
  obtain ⟨rfl, rfl⟩ : t₁ = _ ∧ s₁ = _ := h₁
  refine ensures_ite (fun h => by simp at h) fun _ => ?_
  refine ensures_sys_bind (fun cloned => ?_) fun e => ?_
  · obtain ⟨⟨child, hne⟩, pidfd⟩ := cloned
    refine bind_modifyRt ?_
    -- the record is now `clonedRt` with the first bit
    have hrt₁ : clonedRt n child.val pidfd 0x001 = { s.rt with
        readyReadFd := 8, readyWriteFd := 9, childPid := child.val, childCreated := true
        pidfd := pidfd, achieved := s.rt.achieved ||| clone3IntoCgroupBit } := by
      rw [h.rt]; simp [clonedRt, liveRt, setupRt, checkedRt, clone3IntoCgroupBit]
    rw [← hrt₁]
    refine (calm_sys (P := Call.plain) rfl _).bind fun t₂ flags s₂ h₂ => bind_getErrno ?_
    obtain ⟨errno₂, rt₂, failure₂⟩ := s₂
    obtain rfl : rt₂ = clonedRt n child.val pidfd 0x001 := h₂.rt
    have hnone : failure₂.reason = .none := by
      rw [show failure₂ = s.failure from h₂.failure, h.failure]
    have hscan := h₂.scanning.calls
    refine ensures_ite (fun _ => bind_setFailure hnone (ensures_pure ?_)) fun hok =>
      bind_modifyRt ?_
    · simpa using h.failCloned ⟨.pidfdUnavailable, .clone3, .any⟩ hscan (by decide)
        (by decide) (by decide) (mem_any _)
    obtain rfl : pidfd = 10 := by
      simp only [expectedPidfd, not_or, not_not] at hok
      omega
    have hrt₃ : { clonedRt n child.val 10 0x001 with
        achieved := (clonedRt n child.val 10 0x001).achieved ||| pidfdCreatedBit } =
          clonedRt n child.val 10 0x003 := by
      simp [clonedRt, liveRt, setupRt, checkedRt, pidfdCreatedBit]
    simp only [hrt₃]
    refine bind_getRt ?_
    rw [show (clonedRt n child.val 10 0x003).readyWriteFd = 9 from rfl]
    refine ensures_sys_bind (fun _ => bind_modifyRt (ensures_pure ?_)) fun e =>
      bind_getErrno (bind_setFailure hnone (ensures_pure ?_))
    · have hevents : ∀ e : Event Reply, ∀ t : Trace, [(⟨.pipe2, .ok (8, 9)⟩ : Event Reply)] ++
          ⟨.clone3 args.launcherPid, .ok (⟨child, hne⟩, 10)⟩ :: (t₂ ++ e :: t) =
          [⟨.pipe2, .ok (8, 9)⟩, ⟨.clone3 args.launcherPid, .ok (⟨child, hne⟩, 10)⟩]
          ++ t₂ ++ e :: t := by simp
      refine ⟨child.val, rfl, hnone, ?_, ?_, ?_, ?_, child.2.1, child.2.2, fun he => ?_⟩
      · rw [delivered_append, h.delivered, hevents, delivered_append, delivered_append,
          h₂.delivered]
        rfl
      · rw [created_append, h.created, hevents, created_append, created_append,
          created_eq_nil fun e he => Call.early_of_scanning (hscan e he)]
        rfl
      · rw [opened_append, h.opened, hevents, opened_append, opened_append,
          opened_eq_nil fun e he => .inl (hscan e he)]
        rfl
      · rw [LastCloseOk, closeResults_append, hevents, closeResults_append, ← append_assoc]
        exact getLast?_concat
      · exact hne (Subtype.ext he)
    · simpa using h.failCloned (t := t₂ ++ [⟨.close 9, .error e⟩]) ⟨.ioFailure, .fixtureSetup, .fresh⟩
        (fun x hx => (mem_append.1 hx).elim (hscan x) fun hx => by
          rw [mem_singleton.1 hx]; rfl) (by decide) (by decide) (by decide) (mem_fresh e.2)
  · refine bind_getErrno (bind_setFailure h.failure (ensures_pure ?_))
    simp only [Bool.false_eq_true, if_false]
    obtain ⟨site, hmem, hstage, hreason, he⟩ := mem_cloneErrno e.2
    refine h.atFail rfl rfl ?_ ?_
      (fun _ => .inr (.inl ⟨site, hmem, by rw [hstage], by rw [hreason], he⟩))
    · simp only [h.rt]; exact ⟨rfl, rfl, rfl, rfl⟩
    · unfold cloneFailureReason; dsimp only; split <;> [simp; split <;> simp]

/-! ## Up to CHILD_READY -/

def LiveOrFail (args : LaunchArgs) (n child k mask : Nat) (t : Trace) (b : Bool) (s : LState) :
    Prop :=
  if b then Live args n child k mask t s else AtFail args t s

@[simp] theorem liveOrFail_true {k mask : Nat} :
    LiveOrFail args n child k mask t true s ↔ Live args n child k mask t s := by
  simp [LiveOrFail]

@[simp] theorem liveOrFail_false {k mask : Nat} :
    LiveOrFail args n child k mask t false s ↔ AtFail args t s := by
  simp [LiveOrFail]

section Steps

variable {k mask : Nat} {sites : List Site} {m : LM Bool}

theorem Live.calmOrFail (h : Live args n child k mask t s)
    (hm : Ensures m s (CalmOrRaises sites s)) (hk : k ≤ 4) (hmask : mask ∈ liveMasks)
    (hsub : sites ⊆ sitesAt k mask) :
    Ensures m s fun t' => LiveOrFail args n child k mask (t ++ t') := by
  refine hm.mono fun t' b s' hb => ?_
  cases b with
  | true =>
    rw [calmOrRaises_true] at hb
    exact h.advance (h.rt ▸ hb.advances) (by simp)
  | false =>
    rw [calmOrRaises_false, h.rt] at hb
    exact h.fail hb hk hmask hsub

theorem Live.advanceOrFail (h : Live args n child k mask t s) (k' mask' : Nat) {rt : Runtime}
    {frames : List (List UInt8)} (hm : Ensures m s (AdvancesOrRaises rt frames sites s))
    (hrt : rt = liveRt n child k' mask') (hk : k ≤ 4) (hmask : mask ∈ liveMasks)
    (hsub : sites ⊆ sitesAt k mask)
    (hf : successRecords args.launcherPid.val child k ++ frames =
      successRecords args.launcherPid.val child k') :
    Ensures m s fun t' => LiveOrFail args n child k' mask' (t ++ t') := by
  subst hrt
  refine hm.mono fun t' b s' hb => ?_
  cases b with
  | true =>
    rw [advancesOrRaises_true] at hb
    exact h.advance hb hf
  | false =>
    rw [advancesOrRaises_false, h.rt] at hb
    exact h.fail hb hk hmask hsub

theorem Live.emit (h : Live args n child k mask t s) {type : NativeFrameType}
    {stage : NativeStage} {v₀ v₁ : Nat} (hk : k < 4) (hmask : mask ∈ liveMasks)
    (hsub : [⟨.ioFailure, .protocol, .fresh⟩] ⊆ sitesAt k mask)
    (hf : (successFrames args.launcherPid.val child)[k]? =
      some ⟨type, k, .ok, stage, .none, 0, v₀, v₁⟩) :
    Ensures (emitSuccess type stage v₀ v₁) s fun t' =>
      LiveOrFail args n child (k + 1) mask (t ++ t') := by
  have hseq : s.rt.sequence = k := by rw [h.rt]; rfl
  refine h.advanceOrFail (k + 1) mask ((emitSuccess_spec ?_ ?_ ?_ h.failure _ _ _ _).mono
    fun _ _ _ h => h.1) ?_ (by omega) hmask hsub ?_
  · rw [h.rt]; rfl
  · rw [h.rt]; rfl
  · rw [hseq]; show k < 8; omega
  · rw [h.rt]; rfl
  · rw [hseq, successRecords, successRecords, take_add_one, hf]
    simp

theorem LiveOrFail.andM {k' mask' : Nat} {x y : LM Bool}
    (hx : Ensures x s fun t' => LiveOrFail args n child k mask (t ++ t'))
    (hy : ∀ t' s', Live args n child k mask (t ++ t') s' →
      Ensures y s' fun t'' => LiveOrFail args n child k' mask' (t ++ t' ++ t'')) :
    Ensures (x <&&> y) s fun t' => LiveOrFail args n child k' mask' (t ++ t') := by
  refine Ensures.andM hx (fun t' s' h => ?_) fun t' s' h => h
  simpa using hy t' s' h

end Steps

theorem startDeadline_spec (h : Setup args n t₀ s) : Ensures startDeadline s fun t r s' =>
    match r with
    | some _ => Setup args n (t₀ ++ t) s'
    | none => AtFail args (t₀ ++ t) s' := by
  refine (calm_deadlineAfterMs _ s).bind fun t r s₁ h₁ => ?_
  rcases r with _ | deadline
  · refine ensures_raise_errno ⟨.internal, .fixtureSetup, .any⟩ h₁ h.failure (mem_any _)
      (fun s' _ (hr : Raises (sitesAt 1 0) s.rt (t ++ []) s') => ?_) (by decide)
    rw [h.rt] at hr
    exact h.fail hr (Subset.refl _)
  · exact ensures_pure (by simpa using h.calm h₁)

/-- From the new child to the last check before CHILD_READY. -/
theorem childReadyChecks_spec (fuel deadline : Nat) (h : Live args n child 1 0x003 t s) :
    Ensures (bpeWaitChildReady fuel deadline <&&> bpeWaitPopulatedOne fuel deadline <&&>
      checkChildAlone fuel <&&> bpeControlQuiet .childReady) s fun t' =>
        LiveOrFail args n child 1 0x103 (t ++ t') := by
  refine LiveOrFail.andM (h.calmOrFail (waitChildReady_spec fuel deadline h.failure) (by decide)
    (by decide) (by decide)) fun t₁ s₁ h₁ => ?_
  refine LiveOrFail.andM (h₁.calmOrFail (waitPopulatedOne_spec fuel deadline h₁.failure) (by decide)
    (by decide) (by decide)) fun t₂ s₂ h₂ => ?_
  refine LiveOrFail.andM (h₂.advanceOrFail 1 0x103 (checkChildAlone_spec fuel h₂.failure)
    ?_ (by decide) (by decide) (by decide) (by simp)) fun t₃ s₃ h₃ => ?_
  · rw [h₂.rt, show 0x103 = 0x003 ||| builtinNoexecBit by decide]; rfl
  exact h₃.calmOrFail ((controlQuiet_spec h₃.failure).mono fun _ _ _ h => h.1) (by decide)
    (by decide) (by decide)

theorem mainChildReady_spec (fuel : Nat) (h : Setup args n t₀ s) :
    Ensures (mainChildReady fuel args) s fun t r s' =>
      match r with
      | some _ => ∃ child, Live args n child 2 0x103 (t₀ ++ t) s'
      | none => AtFail args (t₀ ++ t) s' := by
  refine (startDeadline_spec h).bind fun t₁ r s₁ h₁ => ?_
  rcases r with _ | deadline
  · exact ensures_pure (by simpa using h₁)
  replace h₁ : Setup args n (t₀ ++ t₁) s₁ := h₁
  have hchild : Ensures (bpeControlQuiet .fixtureSetup <&&> bpeCloneFixture args.launcherPid <&&>
      bpeWaitChildReady fuel deadline <&&> bpeWaitPopulatedOne fuel deadline <&&>
      checkChildAlone fuel <&&> bpeControlQuiet .childReady) s₁ fun t b s' =>
        if b then ∃ child, Live args n child 1 0x103 (t₀ ++ t₁ ++ t) s'
        else AtFail args (t₀ ++ t₁ ++ t) s' := by
    refine Ensures.andM (controlQuiet_spec h₁.failure) (fun t₂ s₂ ⟨h₂, _⟩ => ?_)
      fun t₂ s₂ ⟨h₂, _⟩ => ?_
    · replace h₂ := h₁.calm (calmOrRaises_true.1 h₂)
      refine Ensures.andM (cloneFixture_spec h₂) (fun t₃ s₃ ⟨child, h₃⟩ => ?_) fun t₃ s₃ h₃ => ?_
      · refine (childReadyChecks_spec fuel deadline h₃).mono fun t₄ b s₄ h₄ => ?_
        cases b with
        | true => exact ⟨child, by simpa using (show Live _ _ _ _ _ _ _ from h₄)⟩
        | false => simpa using (show AtFail _ _ _ from h₄)
      · simpa using (show AtFail _ _ _ from h₃)
    · have hr := calmOrRaises_false.1 h₂
      rw [h₁.rt] at hr
      exact h₁.fail hr (by decide)
  refine hchild.bind fun t₂ b s₂ h₂ => ?_
  cases b with
  | false => exact ensures_pure (by simpa using (show AtFail _ _ _ from h₂))
  | true =>
    obtain ⟨child, h₂⟩ := h₂
    refine bind_getRt (Ensures.bind (h₂.emit (by decide) (by decide) (by decide) ?_)
      fun t₃ b s₃ h₃ => ?_)
    · rw [h₂.rt]; rfl
    cases b with
    | false => exact ensures_pure (by simpa using (show AtFail _ _ _ from h₃))
    | true => exact ensures_pure ⟨child, by simpa using (show Live _ _ _ _ _ _ _ from h₃)⟩

/-! ## Up to CHILD_SIGNALED and CHILD_OBSERVED -/

theorem stopAndObserve_live (fuel deadline : Nat) (h : Live args n child 2 0x103 t s) :
    Ensures (bpeStopAndObserve fuel deadline) s fun t' =>
      LiveOrFail args n child 2 0x10F (t ++ t') := by
  refine (stopAndObserve_spec fuel deadline h.failure).mono fun t' b s' hb => ?_
  rw [h.rt] at hb
  cases b with
  | true =>
    have hrt : { liveRt n child 2 0x103 with
        achieved := 0x103 ||| pidfdStopSentBit ||| pidfdStopObservedBit } =
          liveRt n child 2 0x10F := by
      rw [show 0x10F = 0x103 ||| pidfdStopSentBit ||| pidfdStopObservedBit by decide]; rfl
    exact h.advance (hrt ▸ hb) (by simp)
  | false =>
    rcases (hb : _ ∨ _) with hb | hb
    · exact h.fail hb (by decide) (by decide) (by decide)
    · have hrt : { liveRt n child 2 0x103 with achieved := 0x103 ||| pidfdStopSentBit } =
          liveRt n child 2 0x107 := by
        rw [show 0x107 = 0x103 ||| pidfdStopSentBit by decide]; rfl
      exact h.fail (hrt ▸ hb) (by decide) (by decide) (by decide)

theorem mainChildSignaled_spec (fuel deadline : Nat) (h : Live args n child 2 0x103 t s) :
    Ensures (mainChildSignaled fuel deadline) s fun t' =>
      LiveOrFail args n child 3 0x10F (t ++ t') := by
  refine LiveOrFail.andM (stopAndObserve_live fuel deadline h) fun t₁ s₁ h₁ => ?_
  refine LiveOrFail.andM (h₁.advanceOrFail 2 0x10F (checkStopped_spec fuel h₁.failure) h₁.rt
    (by decide) (by decide) (by decide) (by simp)) fun t₂ s₂ h₂ => ?_
  refine LiveOrFail.andM (h₂.calmOrFail ((controlQuiet_spec h₂.failure).mono fun _ _ _ h => h.1)
    (by decide) (by decide) (by decide)) fun t₃ s₃ h₃ => ?_
  exact h₃.emit (by decide) (by decide) (by decide) rfl

theorem killLive_live (h : Live args n child 3 0x10F t s) : Ensures killLive s fun t' b s' =>
    LiveOrFail args n child 3 0x11F (t ++ t') b s' ∧ (b → ∃ e ∈ t', KillAttempt 10 6 e) := by
  refine (killLive_spec h.failure).mono fun t' b s' hb => ?_
  rw [h.rt] at hb
  cases b with
  | true =>
    obtain ⟨hadv, r, hr⟩ : _ ∧ _ := hb
    have hrt : { liveRt n child 3 0x10F with achieved := 0x10F ||| liveCgroupKillBit } =
        liveRt n child 3 0x11F := by
      rw [show 0x11F = 0x10F ||| liveCgroupKillBit by decide]; rfl
    exact ⟨h.advance (hrt ▸ hadv) (by simp), fun _ => ⟨_, hr, .inr ⟨r, rfl⟩⟩⟩
  | false =>
    refine ⟨?_, by simp⟩
    rcases (hb : _ ∨ _) with hr | ⟨hr, hempty⟩
    · exact h.fail hr (by decide) (by decide) (by decide)
    · exact h.atFail hr (by decide) (by decide) fun hrec =>
        .inr ⟨_, (Stale.emptyWrite hempty).mono (subset_append_right _ _), hrec⟩

theorem observeLive_live (fuel deadline : Nat) (h : Live args n child 3 0x11F t s) :
    Ensures (observeLive fuel deadline) s fun t' b s' =>
      LiveOrFail args n child 3 0x1BF (t ++ t') b s' ∧ (b → ShowsEmpty 5 t') := by
  have hrt : { s.rt with achieved := s.rt.achieved ||| pidfdExitObservedBit ||| cgroupEmptyBit } =
      liveRt n child 3 0x1BF := by
    rw [h.rt, show 0x1BF = 0x11F ||| pidfdExitObservedBit ||| cgroupEmptyBit by decide]; rfl
  have hspec := observeLive_spec fuel deadline h.failure
  refine ((h.advanceOrFail 3 0x1BF (hspec.mono fun _ _ _ h => h.1) hrt (by decide) (by decide)
    (by decide) (by simp)).and hspec).mono fun t' b s' ⟨h', _, hempty⟩ => ⟨h', fun hb => ?_⟩
  have := hempty hb
  rw [h.rt] at this
  exact this

/-- `main` up to CHILD_OBSERVED. The cgroup was seen empty after the kill. -/
theorem mainChildObserved_spec (fuel deadline : Nat) (h : Live args n child 3 0x10F t s) :
    Ensures (mainChildObserved fuel deadline) s fun t' b s' =>
      LiveOrFail args n child 4 0x1BF (t ++ t') b s' ∧ (b → EmptyAfterKill 10 6 5 (t ++ t')) := by
  have hquiet : ∀ {stage : NativeStage} {mask : Nat} {t : Trace} {s : LState},
      mask ∈ liveMasks → [⟨.ioFailure, stage, .fresh⟩, protocolInputSite] ⊆ sitesAt 3 mask →
      Live args n child 3 mask t s → Ensures (bpeControlQuiet stage) s fun t' =>
        LiveOrFail args n child 3 mask (t ++ t') := fun hmask hsub h =>
    h.calmOrFail ((controlQuiet_spec h.failure).mono fun _ _ _ h => h.1) (by decide) hmask hsub
  refine Ensures.andM (hquiet (by decide) (by decide) h) (fun t₁ s₁ h₁ => ?_)
    fun t₁ s₁ h₁ => ⟨h₁, by simp⟩
  refine Ensures.andM (killLive_live h₁) (fun t₂ s₂ ⟨h₂, hkill⟩ => ?_)
    fun t₂ s₂ ⟨h₂, _⟩ => ⟨by simpa using h₂, by simp⟩
  obtain ⟨e, he, hkill⟩ := hkill rfl
  refine Ensures.andM (observeLive_live fuel deadline h₂) (fun t₃ s₃ ⟨h₃, hempty⟩ => ?_)
    fun t₃ s₃ ⟨h₃, _⟩ => ⟨by simpa using h₃, by simp⟩
  have hdone : EmptyAfterKill 10 6 5 (t ++ t₁ ++ t₂ ++ t₃) :=
    ⟨t ++ t₁ ++ t₂, t₃, rfl, ⟨e, mem_append_right _ he, hkill⟩, hempty rfl⟩
  refine (LiveOrFail.andM (hquiet (by decide) (by decide) h₃)
    fun t₄ s₄ h₄ => h₄.emit (by decide) (by decide) (by decide) rfl).mono fun t₄ b s₄ h₄ => ?_
  exact ⟨by simpa using h₄, fun _ => by simpa using hdone.append_right t₄⟩

end Bpe.Launcher
