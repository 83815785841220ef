import Bpe.Launcher.Observe

/-!
# The two cleanup routines

`bpe_close_owned` attempts every close and reports whether all of them
succeeded. `bpe_emergency_cleanup` kills, reaps and checks the cgroup; it
moves the achieved mask by at most the two bits `CHILD_REAPED` and
`CGROUP_EMPTY`.
-/

namespace Bpe.Launcher

open Bpe.Native Proc List Bool

variable {s s₁ s' : LState} {t t' : Trace}

/-! ## Closing -/

/-- A run of closes: `fds` were all attempted, and `b` says that every attempt
succeeded. -/
structure Closes (fds : List Int) (s : LState) (t : Trace) (b : Bool) (s' : LState) : Prop where
  failure : s'.failure = s.failure
  errno : s'.errno = s.errno ∨ Fresh s'.errno
  failed : b = false → Fresh s'.errno
  calls : ∀ e ∈ t, ∃ fd r, e = ⟨.close fd, r⟩
  succeeded : b → ∀ e ∈ t, ∃ fd, e = ⟨.close fd, .ok ()⟩
  attempted : ∀ fd ∈ fds, ∃ r, ⟨.close fd, r⟩ ∈ t

theorem Closes.nil (s : LState) : Closes [] s [] true s :=
  ⟨rfl, .inl rfl, by simp, by simp, by simp, by simp⟩

theorem Closes.trans {fds fds' : List Int} {b b' : Bool} (h : Closes fds s t b s₁)
    (h' : Closes fds' s₁ t' b' s') : Closes (fds ++ fds') s (t ++ t') (b && b') s' := by
  refine ⟨h'.failure.trans h.failure, ?_, fun hb => ?_, fun e he => ?_, fun hb e he => ?_,
    fun fd hfd => ?_⟩
  · rcases h'.errno with e | e
    · rw [e]; exact h.errno
    · exact .inr e
  · -- a later success leaves the `errno` of an earlier failure
    cases b' with
    | false => exact h'.failed rfl
    | true =>
      rcases h'.errno with e | e
      · rw [e]; exact h.failed (by simpa using hb)
      · exact e
  · rcases mem_append.1 he with he | he
    · exact h.calls e he
    · exact h'.calls e he
  · rw [and_eq_true] at hb
    rcases mem_append.1 he with he | he
    · exact h.succeeded hb.1 e he
    · exact h'.succeeded hb.2 e he
  · rcases mem_append.1 hfd with hfd | hfd
    · obtain ⟨r, hr⟩ := h.attempted fd hfd
      exact ⟨r, mem_append_left _ hr⟩
    · obtain ⟨r, hr⟩ := h'.attempted fd hfd
      exact ⟨r, mem_append_right _ hr⟩

theorem Closes.delivered {fds : List Int} {b : Bool} (h : Closes fds s t b s') :
    delivered t = [] := by
  rw [Launcher.delivered, filterMap_eq_nil_iff]
  intro e he
  obtain ⟨fd, r, rfl⟩ := h.calls e he
  rfl

/-- One `close`, after the state was updated to `s₁`. -/
theorem close_spec (fd : Int) : Ensures (do return (← sys (.close fd)).isSome) s fun t b s' =>
    Closes [fd] s t b s' ∧ s'.rt = s.rt := by
  refine ensures_sys_bind (fun r => ensures_pure ⟨?_, rfl⟩) fun e => ensures_pure ⟨?_, rfl⟩
  · exact ⟨rfl, .inl rfl, by simp, by simp, by simp, by simp⟩
  · exact ⟨rfl, .inr e.2, fun _ => e.2, by simp, by simp, by simp⟩

/-- The descriptors that a runtime field holds. -/
def heldFd (fd : Int) : List Int := if fd < 0 then [] else [fd]

theorem closeDescriptor_spec (field : Runtime → Int) (clear : Runtime → Runtime) :
    Ensures (bpeCloseDescriptor field clear) s fun t b s' =>
      Closes (heldFd (field s.rt)) s t b s' ∧
        s'.rt = if field s.rt < 0 then s.rt else clear s.rt := by
  refine bind_getRt (ensures_ite (fun hneg => ensures_pure ?_) fun hpos => bind_modifyRt ?_)
  · rw [heldFd, if_pos hneg, if_pos hneg]
    exact ⟨Closes.nil s, rfl⟩
  · rw [heldFd, if_neg hpos, if_neg hpos]
    refine (close_spec (field s.rt)).mono fun t b s' ⟨h, hrt⟩ => ⟨?_, hrt⟩
    exact ⟨h.failure, h.errno, h.failed, h.calls, h.succeeded, h.attempted⟩

/-- The descriptors `bpe_close_owned` closes. -/
def Runtime.held (rt : Runtime) : List Int :=
  heldFd rt.readyReadFd ++ (heldFd rt.readyWriteFd ++ (heldFd rt.pidfd ++ (heldFd rt.eventsFd ++
    (heldFd rt.killFd ++ (heldFd rt.procsFd ++ if rt.cgroupUsable then [cgroupFd] else [])))))

/-- The part of the runtime record that no close touches. -/
structure SameReport (rt rt' : Runtime) : Prop where
  childPid : rt'.childPid = rt.childPid
  sequence : rt'.sequence = rt.sequence
  achieved : rt'.achieved = rt.achieved
  controlUsable : rt'.controlUsable = rt.controlUsable
  peerOpen : rt'.peerOpen = rt.peerOpen
  childCreated : rt'.childCreated = rt.childCreated
  childReaped : rt'.childReaped = rt.childReaped

theorem closeCgroup_spec : Ensures closeCgroup s fun t b s' =>
    Closes (if s.rt.cgroupUsable then [cgroupFd] else []) s t b s' ∧
      s'.rt = { s.rt with cgroupUsable := false } := by
  refine bind_getRt (ensures_ite (fun hn => ensures_pure ?_) fun hu => bind_modifyRt ?_)
  · have hn : s.rt.cgroupUsable = false := by simpa using hn
    rw [hn]
    refine ⟨Closes.nil s, ?_⟩
    rw [← hn]
  · have hu : s.rt.cgroupUsable = true := by simpa using hu
    rw [hu]
    refine (close_spec cgroupFd).mono fun t b s' ⟨h, hrt⟩ => ⟨?_, hrt⟩
    exact ⟨h.failure, h.errno, h.failed, h.calls, h.succeeded, h.attempted⟩

theorem closeOwned_spec : Ensures bpeCloseOwned s fun t b s' =>
    Closes s.rt.held s t b s' ∧ SameReport s.rt s'.rt := by
  refine (closeDescriptor_spec _ _).bind fun t₁ b₁ s₁ ⟨h₁, e₁⟩ => ?_
  refine (closeDescriptor_spec _ _).bind fun t₂ b₂ s₂ ⟨h₂, e₂⟩ => ?_
  refine (closeDescriptor_spec _ _).bind fun t₃ b₃ s₃ ⟨h₃, e₃⟩ => ?_
  refine (closeDescriptor_spec _ _).bind fun t₄ b₄ s₄ ⟨h₄, e₄⟩ => ?_
  refine (closeDescriptor_spec _ _).bind fun t₅ b₅ s₅ ⟨h₅, e₅⟩ => ?_
  refine (closeDescriptor_spec _ _).bind fun t₆ b₆ s₆ ⟨h₆, e₆⟩ => ?_
  refine closeCgroup_spec.bind fun t₇ b₇ s₇ ⟨h₇, e₇⟩ => ensures_pure ⟨?_, ?_⟩
  · have hall := h₁.trans (h₂.trans (h₃.trans (h₄.trans (h₅.trans (h₆.trans h₇)))))
    simp only [e₁, e₂, e₃, e₄, e₅, e₆, apply_ite Runtime.readyWriteFd, apply_ite Runtime.pidfd,
      apply_ite Runtime.eventsFd, apply_ite Runtime.killFd, apply_ite Runtime.procsFd,
      apply_ite Runtime.cgroupUsable, ite_self] at hall
    simpa [Runtime.held, Bool.and_assoc] using hall
  · constructor <;> simp only [e₁, e₂, e₃, e₄, e₅, e₆, e₇, apply_ite Runtime.childPid,
      apply_ite Runtime.sequence, apply_ite Runtime.achieved, apply_ite Runtime.controlUsable,
      apply_ite Runtime.peerOpen, apply_ite Runtime.childCreated, apply_ite Runtime.childReaped,
      ite_self]

/-! ## Emergency cleanup -/

theorem withLocalFailure_spec {α : Type} {m : LM α} {Q : Trace → α → LState → Prop}
    (h : Ensures m { s with failure := {} } fun t a s' => Q t a { s' with failure := s.failure }) :
    Ensures (withLocalFailure m) s Q := by
  refine (ensures_get (Q := fun t s₀ s' => t = [] ∧ s₀ = s ∧ s' = s) ⟨rfl, rfl, rfl⟩).bind ?_
  rintro _ _ _ ⟨rfl, rfl, rfl⟩
  refine bind_modify (h.bind fun t a s' hq => bind_modify (ensures_pure ?_))
  simpa using hq

/-- Nothing but `childReaped` and its bit changes. -/
def reapedRt (rt : Runtime) (reaped : Bool) : Runtime :=
  { rt with
    childReaped := reaped, achieved := rt.achieved ||| if reaped then childReapedBit else 0 }

theorem reapedRt_false {rt : Runtime} (h : rt.childReaped = false) : reapedRt rt false = rt := by
  cases rt
  cases h
  simp [reapedRt]

/-- A kill of the child or of its cgroup was attempted. -/
def KillAttempt (pidfd killFd : Int) (e : Event Reply) : Prop :=
  (∃ r, e = ⟨.pidfdSendSignal pidfd sigkill, r⟩) ∨ ∃ r, e = ⟨.write killFd [49], r⟩

/-- After a kill was attempted, `cgroup.events` was read and showed
`populated 0`. -/
def EmptyAfterKill (pidfd killFd eventsFd : Int) (t : Trace) : Prop :=
  ∃ t₁ t₂, t = t₁ ++ t₂ ∧ (∃ e ∈ t₁, KillAttempt pidfd killFd e) ∧ ShowsEmpty eventsFd t₂

theorem EmptyAfterKill.append_right {pidfd killFd eventsFd : Int}
    (h : EmptyAfterKill pidfd killFd eventsFd t) (t' : Trace) :
    EmptyAfterKill pidfd killFd eventsFd (t ++ t') := by
  obtain ⟨t₁, t₂, rfl, hkill, hempty⟩ := h
  exact ⟨t₁, t₂ ++ t', by simp, hkill, hempty.append_right t'⟩

theorem EmptyAfterKill.append_left {pidfd killFd eventsFd : Int}
    (h : EmptyAfterKill pidfd killFd eventsFd t') :
    EmptyAfterKill pidfd killFd eventsFd (t ++ t') := by
  obtain ⟨t₁, t₂, rfl, ⟨e, he, hk⟩, hempty⟩ := h
  exact ⟨t ++ t₁, t₂, by simp, ⟨e, mem_append_right _ he, hk⟩, hempty⟩

theorem pidfdKillAttempt_spec (hreaped : s.rt.childReaped = false) (hpid : 0 ≤ s.rt.pidfd) :
    Ensures pidfdKillAttempt s fun t _ s' =>
      Calm Call.plain s t s' ∧ ∃ e ∈ t, KillAttempt s.rt.pidfd s.rt.killFd e := by
  refine bind_getRt (ensures_ite (fun _ => ?_) fun hn => ?_)
  · have hcalm : ∀ r, Calm Call.plain s [⟨.pidfdSendSignal s.rt.pidfd sigkill, r⟩]
        (match r with | .ok _ => s | .error e => { s with errno := e }) := by
      intro r
      cases r with
      | ok _ => exact ⟨by simp [Call.plain], rfl, rfl, .inl rfl⟩
      | error e => exact ⟨by simp [Call.plain], rfl, rfl, .inr e.2⟩
    exact ensures_sys_bind (fun r => ensures_pure ⟨hcalm (.ok r), _, mem_singleton_self _,
        .inl ⟨_, rfl⟩⟩)
      fun e => ensures_pure ⟨hcalm (.error e), _, mem_singleton_self _, .inl ⟨_, rfl⟩⟩
  · exact absurd ⟨by simp [hreaped], hpid⟩ hn

theorem calm_cgroupKillAttempt : Within (Calm Call.plain) cgroupKillAttempt := by
  refine calm_bind calm_getRt fun rt => within_ite ?_ (calm_pure _)
  exact calm_bind (fun _ => (writeCgroupKill_spec _).mono fun _ _ _ h => h.1) fun _ => calm_pure _

theorem observeAndReap_spec (fuel deadline : Nat) (hreaped : s.rt.childReaped = false) :
    Ensures (observeAndReap fuel deadline) s fun t b s' =>
      ∃ reaped, Advances (reapedRt s.rt reaped) [] s t s' ∧ (reaped → b) ∧
        (reaped → ∃ u e, t = u ++ [e] ∧ ReapEvent s.rt.pidfd s.rt.childPid e) := by
  have hsame := reapedRt_false hreaped
  refine bind_getRt (ensures_ite (fun _ => ?_) fun _ => ensures_pure ⟨false, ?_, by simp, by simp⟩)
  · refine (withLocalFailure_spec ((observeKilledAndEmpty_spec fuel deadline false rfl).mono
      (Q := fun t _ s' => Advances s.rt [] s t { s' with failure := s.failure })
      fun t r s' h => ?_)).bind fun t₁ r s₁ h₁ => ?_
    · rcases r with _ | information
      · exact ⟨h.1.calls, h.1.delivered, h.2 rfl, rfl⟩
      · exact ⟨h.1.steady, h.1.delivered, h.1.rt, rfl⟩
    rcases r with _ | information
    · refine ensures_pure ⟨false, ?_, by simp, by simp⟩
      rw [hsame]; simpa using h₁
    refine withLocalFailure_spec ((reapChild_spec rfl).mono fun t₂ b s₂ ⟨h₂, hreap, hsame₂⟩ => ?_)
    simp only [h₁.rt] at h₂ hreap hsame₂
    cases b with
    | false =>
      simp only [advancesOrRaises_false] at h₂
      refine ⟨false, ?_, by simp, by simp⟩
      rw [hsame]
      simpa using h₁.trans (⟨h₂.calls, h₂.delivered, hsame₂ rfl, rfl⟩ :
        Advances s.rt [] s₁ t₂ { s₂ with failure := s₁.failure })
    | true =>
      simp only [advancesOrRaises_true] at h₂
      obtain ⟨e, rfl, he⟩ := hreap rfl
      refine ⟨true, ?_, by simp, fun _ => ⟨t₁, e, rfl, he⟩⟩
      simpa [reapedRt] using h₁.trans (⟨h₂.calls, h₂.delivered, h₂.rt, rfl⟩ :
        Advances _ [] s₁ _ { s₂ with failure := s₁.failure })
  · rw [hsame]
    exact ((Calm.composes _).refl s).advances

/-- The closing read sets `CGROUP_EMPTY` exactly when it shows `populated 0`. -/
theorem recordEmpty_spec (fuel : Nat) (hfd : 0 ≤ s.rt.eventsFd) :
    Ensures (recordEmpty fuel) s fun t empty s' =>
      Advances { s.rt with achieved := s.rt.achieved ||| if empty then cgroupEmptyBit else 0 } [] s
        t s' ∧ (∃ r, ⟨.lseek s.rt.eventsFd, r⟩ ∈ t) ∧ (empty ↔ ShowsEmpty s.rt.eventsFd t) := by
  refine bind_getRt (ensures_ite (fun hn => absurd hn (by omega)) fun _ => ?_)
  refine (readEvents_spec _ _).bind fun t r s₁ ⟨h, hseek, hshow⟩ => ?_
  rcases r with _ | events
  · refine ensures_pure ⟨by simpa using h.advances, by simpa using hseek, ?_⟩
    simp only [false_eq_true, false_iff, append_nil]
    rintro ⟨events, hev, -⟩
    cases (hshow events).2 hev
  refine ensures_ite (fun hne => ensures_pure ⟨by simpa using h.advances, by simpa using hseek, ?_⟩)
    fun he => bind_modifyRt (ensures_pure ⟨?_, by simpa using hseek, ?_⟩)
  · simp only [false_eq_true, false_iff, append_nil]
    rintro ⟨events', hev, h0⟩
    cases (hshow events').2 hev
    exact hne h0
  · simpa [h.rt] using h.advances.setRt _
  · simp only [true_iff, append_nil]
    exact ⟨events, (hshow events).1 rfl, by simpa using he⟩

/-- The runtime after an emergency cleanup that did or did not reap the child
and did or did not see the cgroup empty. -/
def cleanedRt (rt : Runtime) (reaped empty : Bool) : Runtime :=
  { reapedRt rt reaped with
    achieved := (reapedRt rt reaped).achieved ||| if empty then cgroupEmptyBit else 0 }

/-- What `bpe_emergency_cleanup` did to a live child. -/
structure Emergency (s : LState) (t : Trace) (b : Bool) (s' : LState) (reaped empty : Bool) :
    Prop where
  advances : Advances (cleanedRt s.rt reaped empty) [] s t s'
  result : b = (reaped && empty)
  complete : b → (∃ e ∈ t, ReapEvent s.rt.pidfd s.rt.childPid e) ∧
    EmptyAfterKill s.rt.pidfd s.rt.killFd s.rt.eventsFd t
  /-- A reaped child whose cgroup was not seen empty: the read after the reap
  did not show `populated 0`. -/
  late : reaped → empty = false → ∃ u e v, t = u ++ e :: v ∧
    ReapEvent s.rt.pidfd s.rt.childPid e ∧ (∃ r, ⟨.lseek s.rt.eventsFd, r⟩ ∈ v) ∧
      ¬ ShowsEmpty s.rt.eventsFd v

theorem emergencyCleanup_spec (fuel : Nat) (hcreated : s.rt.childCreated = true)
    (hreaped : s.rt.childReaped = false) (hpid : 0 ≤ s.rt.pidfd) (hev : 0 ≤ s.rt.eventsFd) :
    Ensures (bpeEmergencyCleanup fuel) s fun t b s' =>
      ∃ reaped empty, Emergency s t b s' reaped empty := by
  have hsame := reapedRt_false hreaped
  have hidle : cleanedRt s.rt false false = s.rt := by simp [cleanedRt, hsame]
  refine bind_getRt (ensures_ite (fun hn => by simp [hcreated] at hn) fun _ => ?_)
  refine (calm_deadlineAfterMs _ s).bind fun t₁ r s₁ h₁ => ?_
  rcases r with _ | deadline
  · refine ensures_pure ⟨false, false, ?_, rfl, by simp, by simp⟩
    rw [hidle]
    simpa using h₁.advances
  refine (pidfdKillAttempt_spec (by rw [h₁.rt, hreaped]) (by rwa [h₁.rt])).bind
    fun t₂ _ s₂ ⟨h₂, hkill⟩ => ?_
  refine (calm_cgroupKillAttempt s₂).bind fun t₃ _ s₃ h₃ => ?_
  have h₄ := h₁.trans (h₂.trans h₃)
  refine (observeAndReap_spec fuel deadline (by rw [h₄.rt, hreaped])).bind
    fun t₄ b s₄ ⟨reaped, h₅, hb, hreap⟩ => ?_
  rw [h₄.rt] at h₅ hreap
  have h₆ := h₄.advances.trans h₅
  cases b with
  | false =>
    obtain rfl : reaped = false := by simpa using hb
    refine ensures_pure ⟨false, false, ?_, rfl, by simp, by simp⟩
    rw [hidle, ← hsame]
    simpa using h₆
  | true =>
    refine (recordEmpty_spec fuel (by rw [h₅.rt]; exact hev)).bind
      fun t₅ empty s₅ ⟨h₇, hseek, hshow⟩ => ?_
    have hfd : s₄.rt.eventsFd = s.rt.eventsFd := by rw [h₅.rt]; rfl
    rw [hfd] at hseek hshow
    simp only [h₅.rt] at h₇
    refine bind_getRt (ensures_pure ⟨reaped, empty, ?_, ?_, ?_, ?_⟩)
    · simpa [cleanedRt] using h₆.trans h₇
    · rw [h₇.rt]; rfl
    · rw [h₇.rt]
      intro hboth
      simp only [reapedRt, and_eq_true] at hboth
      obtain ⟨u, e, rfl, he⟩ := hreap hboth.1
      refine ⟨⟨e, by simp, he⟩, t₁ ++ t₂, _, by simp only [append_assoc]; rfl, ?_, ?_⟩
      · obtain ⟨e, he, hk⟩ := hkill
        rw [h₁.rt] at hk
        exact ⟨e, mem_append_right _ he, hk⟩
      · have hempty := hshow.1 hboth.2
        simpa using hempty.append_left (t := t₃ ++ (u ++ [e]))
    · rintro hr rfl
      obtain ⟨u, e, rfl, he⟩ := hreap hr
      exact ⟨t₁ ++ (t₂ ++ (t₃ ++ u)), e, t₅, by simp, he, hseek, by simpa using hshow⟩

end Bpe.Launcher
