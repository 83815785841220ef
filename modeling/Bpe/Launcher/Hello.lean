import Bpe.Launcher.Steps

/-!
# Startup, up to the HELLO frame

Before the child exists the runtime record goes through few values: `startRt`
after the clock was read, `setupRt` once the descriptors are validated and
the cgroup files are open. A failure on the way leaves no child and no
achieved bit (`EarlyFails`).
-/

namespace Bpe.Launcher

open Bpe.Native Proc List Bool

variable {s s₁ s' : LState} {t t' : Trace} {sites sites' : List Site}

/-- The descriptors the runtime record was given, in order. -/
def opened (t : Trace) : List Int :=
  t.flatMap fun
    | ⟨.openat _, .ok fd⟩ => [(fd : Int)]
    | ⟨.pipe2, .ok (readFd, writeFd)⟩ => [(readFd : Int), (writeFd : Int)]
    | ⟨.clone3 _, .ok (_, pidfd)⟩ => [(pidfd : Int)]
    | _ => []

@[simp] theorem opened_append (t t' : Trace) : opened (t ++ t') = opened t ++ opened t' := by
  simp [opened]

theorem opened_eq_nil {t : Trace} (h : ∀ e ∈ t, Call.scanning e.1 ∨ Call.steady e.1) :
    opened t = [] := by
  rw [opened, flatMap_eq_nil_iff]
  rintro ⟨c, r⟩ he
  have := h _ he
  cases c <;> first | rfl | simp [Call.scanning, Call.steady] at this

theorem opened_steady {t : Trace} (h : ∀ e ∈ t, Call.steady e.1) : opened t = [] :=
  opened_eq_nil fun e he => .inr (h e he)

/-- Calls that do not create the child or its pipe. -/
def Call.early : Call → Bool
  | .pipe2 | .clone3 _ => false
  | _ => true

theorem Call.early_of_scanning {c : Call} (h : c.scanning) : c.early := by
  revert h
  cases c <;> simp [Call.scanning, Call.early]

theorem Call.early_of_steady {c : Call} (h : c.steady) : c.early := by
  revert h
  cases c <;> simp [Call.steady, Call.early]

/-- No child yet, and nothing achieved. -/
structure Early (sequence : Nat) (rt : Runtime) : Prop where
  childCreated : rt.childCreated = false
  childReaped : rt.childReaped = false
  achieved : rt.achieved = 0
  sequence : rt.sequence = sequence

theorem Early.peerOnly {k : Nat} {rt rt' : Runtime} (h : Early k rt) (hp : PeerOnly rt rt') :
    Early k rt' := by
  rw [hp]
  exact ⟨h.childCreated, h.childReaped, h.achieved, h.sequence⟩

/-- A failure before the child exists. -/
structure EarlyFails (sites : List Site) (k : Nat) (t : Trace) (s' : LState) : Prop where
  calls : ∀ e ∈ t, Call.early e.1
  delivered : delivered t = []
  early : Early k s'.rt
  reports : Reports sites t s'

theorem EarlyFails.mono {k : Nat} (h : EarlyFails sites k t s') (hs : sites ⊆ sites') :
    EarlyFails sites' k t s' :=
  ⟨h.calls, h.delivered, h.early, h.reports.mono hs⟩

/-- A stretch before the child exists, with the descriptors it opened and the frames it
delivered. -/
structure EarlyRun (fds : List Int) (frames : List (List UInt8)) (t : Trace) : Prop where
  calls : ∀ e ∈ t, Call.early e.1
  delivered : delivered t = frames
  opened : opened t = fds

theorem EarlyRun.append {fds fds' : List Int} {frames frames' : List (List UInt8)}
    (h : EarlyRun fds frames t) (h' : EarlyRun fds' frames' t') :
    EarlyRun (fds ++ fds') (frames ++ frames') (t ++ t') :=
  ⟨forall_mem_append.2 ⟨h.calls, h'.calls⟩, by rw [delivered_append, h.delivered, h'.delivered],
    by rw [opened_append, h.opened, h'.opened]⟩

theorem earlyRun_of_scanning (h : ∀ e ∈ t, Call.scanning e.1) : EarlyRun [] [] t :=
  ⟨fun e he => Call.early_of_scanning (h e he), delivered_eq_nil h,
    opened_eq_nil fun e he => .inl (h e he)⟩

theorem earlyRun_of_plain (h : ∀ e ∈ t, Call.plain e.1) : EarlyRun [] [] t :=
  earlyRun_of_scanning fun e he => Call.scanning_of_plain (h e he)

theorem EarlyFails.prepend {k : Nat} {fds : List Int} (h : EarlyFails sites k t' s')
    (hrun : EarlyRun fds [] t) : EarlyFails sites k (t ++ t') s' :=
  ⟨forall_mem_append.2 ⟨hrun.calls, h.calls⟩,
    by rw [delivered_append, hrun.delivered, h.delivered]; rfl, h.early, h.reports.prepend t⟩

/-- Recording a failure after such a stretch, and returning. -/
theorem ensures_earlyFails (r : Site) {k e : Nat} {fds : List Int} (h : EarlyRun fds [] t)
    (hs : Clear s) (hearly : Early k s.rt) (he : r.errnos.Mem (bpeWireErrno e))
    {α : Type} {a : α} {Q : Trace → α → LState → Prop}
    (hQ : ∀ s', EarlyFails sites k (t ++ []) s' → Q [] a s')
    (hr : r ∈ sites ∧ r.reason ≠ .none) :
    Ensures (bpeSetFailure r.stage r.reason e >>= fun _ => pure a) s Q := by
  refine bind_setFailure hs (ensures_pure (hQ _ ?_))
  rw [append_nil]
  exact ⟨h.calls, h.delivered, hearly, hr.2, fun _ => .inr ⟨r, hr.1, rfl, rfl, he⟩⟩

/-- A failure that cannot be reported: the control socket is not usable yet. -/
theorem Calm.earlySilent {k : Nat} {stage : NativeStage} {reason : NativeReason} {e : Nat}
    (h : Calm Call.scanning s t s₁) (hearly : Early k s.rt) (hsilent : Silent s.rt)
    (hr : reason ≠ .none) :
    EarlyFails sites k t { s₁ with failure := ⟨some stage, reason, e⟩ } := by
  refine ⟨fun e he => Call.early_of_scanning (h.calls e he), delivered_eq_nil h.calls, ?_, hr,
    fun _ => .inl ?_⟩
  · rw [h.rt]; exact hearly
  · rw [h.rt]; exact hsilent

/-- Calm but for the runtime record. -/
structure CalmBut (s : LState) (t : Trace) (s' : LState) : Prop where
  calls : ∀ e ∈ t, Call.plain e.1
  failure : s'.failure = s.failure
  errno : s'.errno = s.errno ∨ Fresh s'.errno

/-- The state at a return, after a calm run and an update of the runtime. -/
theorem Calm.but {rt : Runtime} (h : Calm Call.plain s t s₁) (ht : t' = t) :
    CalmBut s t' { s₁ with rt } :=
  ⟨by rw [ht]; exact h.calls, h.failure, h.errno⟩

/-! ## Inherited descriptors -/

theorem validateControlFd_spec : Ensures bpeValidateControlFd s fun t b s' =>
    CalmBut s t s' ∧
      if b then s'.rt = { s.rt with controlUsable := true } ∧ Fresh s'.errno
      else s'.rt = s.rt ∨ s'.rt = { s.rt with peerOpen := false } := by
  refine (calm_sys (P := Call.plain) rfl s).bind fun t₁ df s₁ h₁ => ?_
  refine (calm_sys (P := Call.plain) rfl s₁).bind fun t₂ sf s₂ h₂ => ?_
  have h₃ := h₁.trans h₂
  rcases df with _ | df
  · exact ensures_pure ⟨h₃.but (by simp), .inl h₃.rt⟩
  rcases sf with _ | sf
  · exact ensures_pure ⟨h₃.but (by simp), .inl h₃.rt⟩
  refine ensures_ite (fun _ => ensures_pure ⟨h₃.but (by simp), .inl h₃.rt⟩)
    fun _ => ?_
  refine (calm_controlSocketShape s₂).bind fun t₃ shape s₃ h₄ => ?_
  have h₅ := h₃.trans h₄
  refine ensures_ite (fun _ => ensures_pure ⟨h₅.but (by simp), .inl h₅.rt⟩)
    fun _ => ?_
  refine (sys_spec (P := Call.plain) rfl).bind fun t₄ r s₄ ⟨h₆, hfresh, _⟩ => ?_
  have h₇ := h₅.trans h₆
  rcases r with _ | received
  · refine bind_getErrno (ensures_ite (fun _ => ensures_pure ⟨h₇.but (by simp),
      .inl h₇.rt⟩) fun _ => ?_)
    refine (calm_sys (P := Call.plain) rfl s₄).bind fun t₅ r s₅ h₈ => ?_
    have h₉ := h₇.trans h₈
    rcases r with _ | _
    · exact ensures_pure ⟨h₉.but (by simp), .inl h₉.rt⟩
    refine (calm_sys (P := Call.plain) rfl s₅).bind fun t₆ r s₆ h₁₀ => ?_
    have h₁₁ := h₉.trans h₁₀
    rcases r with _ | _
    · exact ensures_pure ⟨h₁₁.but (by simp), .inl h₁₁.rt⟩
    refine bind_modifyRt (ensures_pure ⟨h₁₁.but (by simp), by simp [h₁₁.rt], ?_⟩)
    -- the `recv` found nothing to read, and that `errno` is never cleared
    rcases (h₈.trans h₁₀).errno with e | e
    · rw [e]; exact hfresh rfl
    · exact e
  · refine ensures_ite (fun _ => bind_modifyRt (ensures_pure ⟨h₇.but (by simp),
      .inr (by simp [h₇.rt])⟩)) fun _ => ensures_pure ⟨h₇.but (by simp),
        .inl h₇.rt⟩

theorem validateCgroupFd_spec : Ensures bpeValidateCgroupFd s fun t b s' =>
    CalmBut s t s' ∧
      s'.rt = if b then { s.rt with cgroupUsable := true } else s.rt := by
  refine (calm_sys (P := Call.plain) rfl s).bind fun t₁ df s₁ h₁ => ?_
  refine (calm_sys (P := Call.plain) rfl s₁).bind fun t₂ sf s₂ h₂ => ?_
  have h₃ := h₁.trans h₂
  rcases df with _ | df
  · exact ensures_pure ⟨h₃.but (by simp), h₃.rt⟩
  rcases sf with _ | sf
  · exact ensures_pure ⟨h₃.but (by simp), h₃.rt⟩
  refine ensures_ite (fun _ => ensures_pure ⟨h₃.but (by simp), h₃.rt⟩)
    fun _ => ?_
  refine (calm_sys (P := Call.plain) rfl s₂).bind fun t₃ r s₃ h₄ => ?_
  have h₅ := h₃.trans h₄
  rcases r with _ | metadata
  · exact ensures_pure ⟨h₅.but (by simp), h₅.rt⟩
  refine ensures_ite (fun _ => ensures_pure ⟨h₅.but (by simp), h₅.rt⟩)
    fun _ => ?_
  refine (calm_sys (P := Call.plain) rfl s₃).bind fun t₄ r s₄ h₆ => ?_
  have h₇ := h₅.trans h₆
  rcases r with _ | filesystem
  · exact ensures_pure ⟨h₇.but (by simp), h₇.rt⟩
  refine ensures_ite (fun _ => ensures_pure ⟨h₇.but (by simp), h₇.rt⟩)
    fun _ => ?_
  refine (calm_sys (P := Call.plain) rfl s₄).bind fun t₅ r s₅ h₈ => ?_
  have h₉ := h₇.trans h₈
  rcases r with _ | _
  · exact ensures_pure ⟨h₉.but (by simp), h₉.rt⟩
  · exact bind_modifyRt (ensures_pure ⟨h₉.but (by simp), by simp [h₉.rt]⟩)

/-! ## The descriptor scan -/

def badLayoutSite : Site := ⟨.badDescriptorLayout, .descriptorValidation, .any⟩

/-- A startup step that leaves the runtime as it is, or fails early. -/
def CalmOrFails (sites : List Site) (s : LState) (t : Trace) (b : Bool) (s' : LState) : Prop :=
  if b then Calm Call.scanning s t s' else EarlyFails sites 0 t s'

theorem calm_closeIfOpen (fd : Int) : Within (Calm Call.scanning) (closeIfOpen fd) :=
  within_ite (calm_pure _) (calm_bind (calm_sys rfl) fun _ => calm_pure _)

theorem finishNoExtraFds_spec {fd : Int} {valid : Bool} {e : Nat}
    (hcalm : Calm Call.scanning s t s₁) (hs : Clear s) (hearly : Early 0 s.rt) :
    Ensures (finishNoExtraFds fd valid e) s₁ fun t' => CalmOrFails [badLayoutSite] s (t ++ t') := by
  refine (calm_closeIfOpen fd s₁).bind fun t₁ closed s₂ h₁ => ?_
  have h₂ := hcalm.trans h₁
  have hnone : Clear s₂ := hs.of_eq h₂.failure
  have hearly₂ : Early 0 s₂.rt := by rw [h₂.rt]; exact hearly
  have hrun := earlyRun_of_scanning h₂.calls
  refine ensures_ite (fun _ => bind_getErrno ?_) fun _ => ensures_ite (fun _ => ?_) fun _ =>
    ensures_pure ?_
  · exact ensures_earlyFails badLayoutSite hrun hnone hearly₂ (mem_any _) (fun _ h => by
      simpa [CalmOrFails] using h) (by decide)
  · exact ensures_earlyFails badLayoutSite hrun hnone hearly₂ (mem_any _) (fun _ h => by
      simpa [CalmOrFails] using h) (by decide)
  · simpa [CalmOrFails] using h₂

theorem validateNoExtraFds_spec (fuel : Nat) (hs : Clear s)
    (hearly : Early 0 s.rt) :
    Ensures (bpeValidateNoExtraFds fuel) s (CalmOrFails [badLayoutSite] s) := by
  refine (calm_deadlineAfterMs _ s).bind fun t₁ r s₁ h₁ => ?_
  rcases r with _ | deadline
  · exact bind_getErrno (finishNoExtraFds_spec h₁.scanning hs hearly)
  refine (calm_sys (P := Call.scanning) rfl s₁).bind fun t₂ r s₂ h₂ => ?_
  have h₃ := h₁.scanning.trans h₂
  refine (calm_procFdDirectory _ s₂).bind fun t₃ b s₃ h₄ => ?_
  have h₅ := h₃.trans h₄.scanning
  refine ensures_ite (fun _ => bind_getErrno ?_) fun _ => ?_
  · simpa using finishNoExtraFds_spec h₅ hs hearly
  refine (calm_scanProcFd _ _ _ s₃).bind fun t₄ r s₄ h₆ => ?_
  simpa using finishNoExtraFds_spec (h₅.trans h₆.scanning) hs hearly

/-! ## The startup steps of `main` -/

def startRt (startedNs : Nat) : Runtime := { startedNs }

def checkedRt (startedNs : Nat) : Runtime :=
  { startedNs, controlUsable := true, cgroupUsable := true }

def setupRt (startedNs sequence : Nat) : Runtime :=
  { checkedRt startedNs with eventsFd := 5, killFd := 6, procsFd := 7, sequence }

def startupFdSites : List Site :=
  [badLayoutSite, ⟨.badCgroupDescriptor, .descriptorValidation, .fresh⟩]

theorem checkArguments_spec (args : LaunchArgs) {n : Nat} (hs : Clear s)
    (hrt : s.rt = startRt n) :
    Ensures (checkArguments args) s fun t b s' =>
      if b then t = [] ∧ s' = s else EarlyFails [] 0 t s' := by
  have failed : ∀ reason, reason ≠ .none →
      EarlyFails [] 0 [] { s with failure := ⟨some .startup, reason, 0⟩ } := fun reason hr =>
    ((Calm.composes _).refl s).earlySilent (by rw [hrt]; exact ⟨rfl, rfl, rfl, rfl⟩)
      (by rw [hrt]; exact .inl rfl) hr
  refine ensures_ite (fun _ => bind_setFailure hs (ensures_pure (failed _ (by decide)))) fun _ =>
    ensures_ite (fun _ => bind_setFailure hs (ensures_pure (failed _ (by decide)))) fun _ =>
    ensures_ite (fun _ => bind_setFailure hs (ensures_pure (failed _ (by decide)))) fun _ =>
    ensures_pure ⟨rfl, rfl⟩

theorem validateStartupFds_spec (fuel : Nat) {n : Nat} (hs : Clear s)
    (hrt : s.rt = startRt n) :
    Ensures (bpeValidateStartupFds fuel) s fun t b s' =>
      if b then (∀ e ∈ t, Call.scanning e.1) ∧ s'.rt = checkedRt n ∧ s'.failure = s.failure ∧
        Fresh s'.errno
      else EarlyFails startupFdSites 0 t s' := by
  have hstdio : Within (Calm Call.plain) (bpeValidateStdioFd 0 oRdonly <&&>
      bpeValidateStdioFd 1 oWronly <&&> bpeValidateStdioFd 2 oWronly) :=
    (calm_validateStdioFd _ _).andM (Calm.composes _)
      ((calm_validateStdioFd _ _).andM (Calm.composes _) (calm_validateStdioFd _ _))
  have hearly : Early 0 s.rt := by rw [hrt]; exact ⟨rfl, rfl, rfl, rfl⟩
  refine (hstdio s).bind fun t₁ b s₁ h₁ => ?_
  have hs₁ : Clear s₁ := hs.of_eq h₁.failure
  refine ensures_ite (fun _ => bind_getErrno (bind_setFailure hs₁ (ensures_pure ?_))) fun _ => ?_
  · simp only [false_eq_true, if_false, append_nil]
    exact h₁.scanning.earlySilent hearly (by rw [hrt]; exact .inl rfl) (by decide)
  refine validateControlFd_spec.bind fun t₂ b s₂ ⟨h₂, hb⟩ => ?_
  have hplain : ∀ e ∈ t₁ ++ t₂, Call.plain e.1 := fun e he =>
    (mem_append.1 he).elim (h₁.calls e) (h₂.calls e)
  have hs₂ : Clear s₂ := hs₁.of_eq h₂.failure
  cases b with
  | false =>
    refine bind_getRt (bind_getErrno (bind_setFailure hs₂ (ensures_pure ?_)))
    have hpeer : s₂.rt = startRt n ∨ s₂.rt = { startRt n with peerOpen := false } := by
      simpa [h₁.rt, hrt] using hb
    have hrun := earlyRun_of_plain hplain
    refine ⟨by simpa using hrun.calls, by simpa using hrun.delivered, ?_, ?_, ?_⟩
    · rcases hpeer with e | e <;> exact ⟨by simp [e, startRt], by simp [e, startRt],
        by simp [e, startRt], by simp [e, startRt]⟩
    · dsimp only; split <;> simp
    · rcases hpeer with e | e <;> exact fun _ => .inl (.inl (by simp [e, startRt]))
  | true =>
    obtain ⟨hrt₂, hfresh⟩ : s₂.rt = { startRt n with controlUsable := true } ∧ Fresh s₂.errno := by
      simpa [h₁.rt, hrt] using hb
    refine ensures_ite (fun h => by simp at h) fun _ => ?_
    refine validateCgroupFd_spec.bind fun t₃ b s₃ ⟨h₃, hrt₃⟩ => ?_
    have hs₃ : Clear s₃ := hs₂.of_eq h₃.failure
    have hfresh₃ : Fresh s₃.errno := h₃.errno.elim (fun e => by rwa [e]) id
    have hscan : ∀ e ∈ t₁ ++ (t₂ ++ t₃), Call.scanning e.1 := fun e he => by
      rw [← append_assoc] at he
      exact Call.scanning_of_plain ((mem_append.1 he).elim (hplain e) (h₃.calls e))
    cases b with
    | false =>
      refine ensures_ite (fun _ => ?_) fun h => by simp at h
      refine bind_getErrno (ensures_earlyFails ⟨.badCgroupDescriptor, .descriptorValidation, .fresh⟩
        (earlyRun_of_scanning hscan) hs₃ ?_ (mem_fresh hfresh₃) (fun _ h => by simpa using h)
          (by decide))
      rw [hrt₃, hrt₂]; exact ⟨rfl, rfl, rfl, rfl⟩
    | true =>
      have hrt₃ : s₃.rt = checkedRt n := hrt₃.trans (by rw [hrt₂]; rfl)
      refine ensures_ite (fun h => by simp at h) fun _ => ?_
      refine (validateNoExtraFds_spec fuel hs₃ (by rw [hrt₃]; exact ⟨rfl, rfl, rfl, rfl⟩)).mono
        fun t₄ b s₄ h₄ => ?_
      cases b with
      | false =>
        have h₄ : EarlyFails [badLayoutSite] 0 t₄ s₄ := h₄
        simpa using (h₄.mono (by simp [startupFdSites])).prepend (earlyRun_of_scanning hscan)
      | true =>
        have h₄ : Calm Call.scanning s₃ t₄ s₄ := h₄
        refine ⟨fun e he => ?_, by rw [h₄.rt, hrt₃], ?_, h₄.errno.elim (fun e => by rwa [e]) id⟩
        · rw [← append_assoc, ← append_assoc, append_assoc t₁] at he
          exact (mem_append.1 he).elim (hscan e) (h₄.calls e)
        · rw [h₄.failure, h₃.failure, h₂.failure, h₁.failure]

/-! ## Cgroup files -/

def badCgroupSite : Site := ⟨.badCgroupDescriptor, .cgroupValidation, .fresh⟩

theorem requireCgroupFile_spec {fd expected : Int} (hs : Clear s)
    (hfresh : Fresh s.errno) (hearly : Early 0 s.rt) :
    Ensures (requireCgroupFile fd expected) s fun t b s' =>
      if b then fd = expected ∧ Calm Call.plain s t s' ∧ Fresh s'.errno
      else EarlyFails [badCgroupSite] 0 t s' := by
  have hcond : Ensures (pure (decide (fd = expected)) <&&> regularFile fd) s fun t b s' =>
      Calm Call.plain s t s' ∧ (b → fd = expected) := by
    by_cases h : fd = expected
    · rw [decide_eq_true h]
      exact (calm_regularFile fd s).mono fun _ _ _ hc => ⟨hc, fun _ => h⟩
    · rw [decide_eq_false h]
      exact ensures_pure ⟨(Calm.composes _).refl s, by simp⟩
  refine hcond.bind fun t b s₁ ⟨hcalm, hb⟩ => ?_
  have hfresh₁ : Fresh s₁.errno := hcalm.errno.elim (fun e => by rwa [e]) id
  cases b with
  | false =>
    exact bind_getErrno (ensures_earlyFails badCgroupSite (earlyRun_of_plain hcalm.calls)
      (hs.of_eq hcalm.failure) (by rw [hcalm.rt]; exact hearly) (mem_fresh hfresh₁)
      (fun _ h => h) (by decide))
  | true => exact ensures_pure ⟨hb rfl, by simpa using hcalm, hfresh₁⟩

/-- One `openat`: the descriptor is recorded even when it is refused. -/
theorem openCgroupFile_spec (file : CgroupFile) {expected : Int} (hexp : 0 ≤ expected)
    (record : Int → Runtime → Runtime) (hs : Clear s) (hfresh : Fresh s.errno)
    (hearly : ∀ fd, Early 0 (record fd s.rt)) :
    Ensures (openCgroupFile file expected record) s fun t b s' =>
      if b then EarlyRun [expected] [] t ∧ s'.rt = record expected s.rt ∧
        s'.failure = s.failure ∧ Fresh s'.errno
      else EarlyFails [badCgroupSite] 0 t s' := by
  have hopen : ∀ fd : Nat, EarlyRun [(fd : Int)] [] [⟨.openat file, .ok fd⟩] := fun _ =>
    ⟨by simp [Call.early], rfl, rfl⟩
  refine ensures_sys_bind (fun fd => bind_modifyRt ?_) fun e => bind_modifyRt ?_
  · refine Ensures.mono (requireCgroupFile_spec (by exact hs) (by exact hfresh)
      (by exact hearly _)) fun t b s' h => ?_
    cases b with
    | false => exact EarlyFails.prepend h (hopen fd)
    | true =>
      obtain ⟨hfd, h, hfresh'⟩ := h
      refine ⟨?_, by rw [h.rt, ← hfd], h.failure, hfresh'⟩
      rw [← hfd]
      exact (hopen fd).append (earlyRun_of_plain h.calls)
  · refine Ensures.mono (requireCgroupFile_spec (by exact hs) (by exact e.2)
      (by exact hearly _)) fun t b s' h => ?_
    cases b with
    | false => exact EarlyFails.prepend (t := [_]) h ⟨by simp [Call.early], rfl, rfl⟩
    | true =>
      have : (-1 : Int) = expected := h.1
      omega

theorem openCgroupFiles_spec {n : Nat} (hs : Clear s) (hfresh : Fresh s.errno)
    (hrt : s.rt = checkedRt n) : Ensures bpeOpenCgroupFiles s fun t b s' =>
      if b then EarlyRun [5, 6, 7] [] t ∧ s'.rt = setupRt n 0 ∧ s'.failure = s.failure ∧
        Fresh s'.errno
      else EarlyFails [badCgroupSite] 0 t s' := by
  refine Ensures.andM (openCgroupFile_spec .events (by decide) _ hs hfresh ?_)
    (fun t₁ s₁ ⟨h₁, hr₁, hf₁, hfresh₁⟩ => ?_) fun t₁ s₁ h => h
  · exact fun fd => by rw [hrt]; exact ⟨rfl, rfl, rfl, rfl⟩
  rw [hrt] at hr₁
  refine Ensures.andM (openCgroupFile_spec .kill (by decide) _ (hs.of_eq hf₁) hfresh₁ ?_)
    (fun t₂ s₂ ⟨h₂, hr₂, hf₂, hfresh₂⟩ => ?_) fun t₂ s₂ h => h.prepend h₁
  · exact fun fd => by rw [hr₁]; exact ⟨rfl, rfl, rfl, rfl⟩
  rw [hr₁] at hr₂
  refine (openCgroupFile_spec .procs (by decide) _ (hs.of_eq (hf₂.trans hf₁)) hfresh₂ ?_).mono
    fun t₃ b s₃ h => ?_
  · exact fun fd => by rw [hr₂]; exact ⟨rfl, rfl, rfl, rfl⟩
  cases b with
  | false => exact (EarlyFails.prepend h h₂).prepend h₁
  | true =>
    obtain ⟨h₃, hr₃, hf₃, hfresh₃⟩ := h
    refine ⟨h₁.append (h₂.append h₃), ?_, by rw [hf₃, hf₂, hf₁], hfresh₃⟩
    rw [hr₃, hr₂]; rfl

/-! ## The empty cgroup, confinement and HELLO -/

def cgroupEmptySites : List Site := [badCgroupSite, ⟨.cgroupNotEmpty, .cgroupValidation, .zero⟩]

/-- A later startup step: it leaves the runtime as it is, or fails early. -/
def SetupOrFails (rt : Runtime) (sites : List Site) (s : LState) (t : Trace) (b : Bool)
    (s' : LState) : Prop :=
  if b then (∀ e ∈ t, Call.plain e.1) ∧ s'.rt = rt ∧ s'.failure = s.failure
  else EarlyFails sites 0 t s'

theorem checkCgroupEmpty_spec (fuel : Nat) {n : Nat} (hs : Clear s)
    (hfresh : Fresh s.errno) (hrt : s.rt = setupRt n 0) :
    Ensures (checkCgroupEmpty fuel) s fun t b s' =>
      SetupOrFails (setupRt n 0) cgroupEmptySites s t b s' ∧ (b → s'.errno = 0) := by
  have hearly : Early 0 s.rt := by rw [hrt]; exact ⟨rfl, rfl, rfl, rfl⟩
  refine bind_getRt ((calm_readEvents _ _ _).bind fun t₁ r s₁ h₁ => ?_)
  have hfresh₁ : Fresh s₁.errno := h₁.errno.elim (fun e => by rwa [e]) id
  rcases r with _ | events
  · exact bind_getErrno (ensures_earlyFails badCgroupSite (earlyRun_of_plain h₁.calls)
      (hs.of_eq h₁.failure) (by rw [h₁.rt]; exact hearly) (mem_fresh hfresh₁)
      (fun _ h => ⟨h, by simp⟩) (by decide))
  refine bind_getRt ((readProcsExact_spec _ _ _).bind fun t₂ r s₂ ⟨hcalls, hrt₂, hfail, herr⟩ => ?_)
  have hs₂ : Clear s₂ := hs.of_eq (hfail.trans h₁.failure)
  have hplain : ∀ e ∈ t₁ ++ t₂, Call.plain e.1 := fun e he =>
    (mem_append.1 he).elim (h₁.calls e) (hcalls e)
  have hrt₂' : s₂.rt = setupRt n 0 := by rw [hrt₂, h₁.rt, hrt]
  have hearly₂ : Early 0 s₂.rt := by rw [hrt₂']; exact ⟨rfl, rfl, rfl, rfl⟩
  have hrun := earlyRun_of_plain hplain
  refine ensures_ite (fun he => ?_) fun hne => ensures_ite (fun _ => ?_) fun _ => ?_
  · rw [if_pos he] at herr
    have hfresh₂ : Fresh s₂.errno := herr.elim (fun e => by rwa [e]) id
    exact bind_getErrno (ensures_earlyFails badCgroupSite hrun hs₂ hearly₂ (mem_fresh hfresh₂)
      (fun _ h => ⟨by simpa [SetupOrFails] using h, by simp⟩) (by decide))
  · exact ensures_earlyFails ⟨.cgroupNotEmpty, .cgroupValidation, .zero⟩ hrun hs₂ hearly₂ mem_zero
      (fun _ h => ⟨by simpa [SetupOrFails] using h, by simp⟩) (by decide)
  · rw [if_neg hne] at herr
    refine ensures_pure ⟨?_, fun _ => herr⟩
    simp only [SetupOrFails, if_true]
    exact ⟨by simpa using hplain, hrt₂', by rw [hfail, h₁.failure]⟩

theorem Calm.cons_ok {c : Call} {r : c.Ok} (hc : c.plain) (h : Calm Call.plain s t s') :
    Calm Call.plain s (⟨c, .ok r⟩ :: t) s' := by
  refine ⟨fun e he => ?_, h.rt, h.failure, h.errno⟩
  rcases mem_cons.1 he with rfl | he
  · exact hc
  · exact h.calls e he

theorem need_sys {c : Call} {f : Option c.Ok → LM Bool} (hc : c.plain)
    (hnone : f none = pure false) (hsome : ∀ r, Ensures (f (some r)) s fun t b s' =>
      Calm Call.plain s t s' ∧ (b → s' = s)) :
    Ensures (sys c >>= f) s fun t b s' => Calm Call.plain s t s' ∧ (b → s' = s) := by
  refine ensures_sys_bind (fun r => (hsome r).mono fun t b s' h => ?_) fun e => ?_
  · exact ⟨h.1.cons_ok hc, h.2⟩
  · rw [hnone]
    exact ensures_pure ⟨⟨by simpa using hc, rfl, rfl, .inr e.2⟩, by simp⟩

theorem confined_spec : Ensures (bpeResetSignalState <&&> bpeInstallSeccomp) s fun t b s' =>
    Calm Call.plain s t s' ∧ (b → s' = s) := by
  have h₀ : Calm Call.plain s [] s := (Calm.composes _).refl s
  have hreset : Ensures bpeResetSignalState s fun t b s' =>
      Calm Call.plain s t s' ∧ (b → s' = s) := by
    refine need_sys rfl rfl fun _ => need_sys rfl rfl fun _ => ?_
    exact need_sys rfl rfl fun _ => need_sys rfl rfl fun _ => ensures_pure ⟨h₀, fun _ => rfl⟩
  have hseccomp : Ensures bpeInstallSeccomp s fun t b s' =>
      Calm Call.plain s t s' ∧ (b → s' = s) := by
    refine need_sys rfl rfl fun _ => need_sys rfl rfl fun _ => need_sys rfl rfl fun _ => ?_
    refine ensures_ite (fun _ => ensures_pure ⟨h₀, by simp⟩) fun _ => ?_
    exact need_sys rfl rfl fun _ => ensures_pure ⟨h₀, fun _ => rfl⟩
  refine hreset.andM (fun t s₁ ⟨h, hsame⟩ => ?_) fun t s₁ ⟨h, _⟩ => ⟨h, by simp⟩
  obtain rfl := hsame rfl
  exact hseccomp.mono fun t' b s' ⟨h', hb⟩ => ⟨h.trans h', hb⟩

theorem confine_spec {n : Nat} (hs : Clear s) (hrt : s.rt = setupRt n 0)
    (hzero : s.errno = 0) : Ensures confine s fun t b s' =>
      SetupOrFails (setupRt n 0) [⟨.internal, .startup, .any⟩] s t b s' ∧ (b → s'.errno = 0) := by
  refine confined_spec.bind fun t b s₁ ⟨h, hb⟩ => ?_
  cases b with
  | false =>
    exact bind_getErrno (ensures_earlyFails ⟨.internal, .startup, .any⟩ (earlyRun_of_plain h.calls)
      (hs.of_eq h.failure) (by rw [h.rt, hrt]; exact ⟨rfl, rfl, rfl, rfl⟩) (mem_any _)
      (fun _ h => ⟨h, by simp⟩) (by decide))
  | true =>
    obtain rfl := hb rfl
    refine ensures_pure ⟨?_, fun _ => hzero⟩
    simp only [SetupOrFails, if_true, append_nil]
    exact ⟨h.calls, hrt, trivial⟩

def helloSites : List Site :=
  startupFdSites ++ cgroupEmptySites ++
    [⟨.internal, .startup, .any⟩, ⟨.ioFailure, .protocol, .fresh⟩]

def helloFrame (args : LaunchArgs) : InertNativeFrame :=
  ⟨.hello, 0, .ok, .startup, .none, 0, args.launcherPid.val, 0⟩

theorem mainHello_spec (fuel : Nat) (args : LaunchArgs) {n : Nat} (hs : Clear s)
    (hrt : s.rt = startRt n) : Ensures (mainHello fuel args) s fun t b s' =>
      if b then EarlyRun [5, 6, 7] [(helloFrame args).encode] t ∧ s'.rt = setupRt n 1 ∧
        Clear s' ∧ (s'.errno = 0 ∨ s'.errno = eintr)
      else EarlyFails helloSites 0 t s' := by
  refine Ensures.andM (checkArguments_spec args hs hrt) (fun t s₀ h => ?_)
    fun t s₁ h => h.mono (by simp)
  obtain ⟨rfl, rfl⟩ : t = [] ∧ s₀ = s := h
  refine Ensures.andM (validateStartupFds_spec fuel hs hrt)
    (fun t₁ s₁ ⟨hc₁, hr₁, hf₁, hfresh₁⟩ => ?_) fun t₁ s₁ h => h.mono (by simp [helloSites])
  have h₁ := earlyRun_of_scanning hc₁
  have hs₁ : Clear s₁ := hs.of_eq hf₁
  refine Ensures.andM (openCgroupFiles_spec hs₁ hfresh₁ hr₁)
    (fun t₂ s₂ ⟨h₂, hr₂, hf₂, hfresh₂⟩ => ?_)
    fun t₂ s₂ h => (h.mono (by simp [helloSites, cgroupEmptySites])).prepend h₁
  have hs₂ : Clear s₂ := hs₁.of_eq hf₂
  refine Ensures.andM (checkCgroupEmpty_spec fuel hs₂ hfresh₂ hr₂)
    (fun t₃ s₃ ⟨⟨hc₃, hr₃, hf₃⟩, hz₃⟩ => ?_)
    fun t₃ s₃ ⟨h, _⟩ => ((EarlyFails.mono h (by simp [helloSites])).prepend h₂).prepend h₁
  have h₃ := earlyRun_of_plain hc₃
  have hs₃ : Clear s₃ := hs₂.of_eq hf₃
  refine Ensures.andM (confine_spec hs₃ hr₃ (hz₃ rfl))
    (fun t₄ s₄ ⟨⟨hc₄, hr₄, hf₄⟩, hz₄⟩ => ?_) fun t₄ s₄ ⟨h, _⟩ =>
      (((EarlyFails.mono h (by simp [helloSites])).prepend h₃).prepend h₂).prepend h₁
  have h₄ := earlyRun_of_plain hc₄
  have hs₄ : Clear s₄ := hs₃.of_eq hf₄
  refine (emitSuccess_spec (by rw [hr₄]; rfl) (by rw [hr₄]; rfl) (by rw [hr₄]; show 0 < 8; decide)
    hs₄ _ _ _ _).mono fun t₅ b s₅ ⟨h₅, herr⟩ => ?_
  rw [hr₄] at h₅
  cases b with
  | false =>
    simp only [advancesOrRaises_false] at h₅
    have hfails : EarlyFails helloSites 0 t₅ s₅ := by
      refine ⟨fun e he => Call.early_of_steady (h₅.calls e he), h₅.delivered, ?_,
        h₅.reports.mono (by simp [helloSites])⟩
      exact Early.peerOnly ⟨rfl, rfl, rfl, rfl⟩ (hr₄ ▸ h₅.rt)
    exact (((hfails.prepend h₄).prepend h₃).prepend h₂).prepend h₁
  | true =>
    simp only [advancesOrRaises_true] at h₅
    have hemit : EarlyRun [] [(helloFrame args).encode] t₅ :=
      ⟨fun e he => Call.early_of_steady (h₅.calls e he), h₅.delivered,
        opened_steady h₅.calls⟩
    refine ⟨h₁.append (h₂.append (h₃.append (h₄.append hemit))), h₅.rt, ?_, ?_⟩
    · exact hs₄.of_eq h₅.failure
    · rw [hz₄ rfl] at herr
      exact herr rfl

end Bpe.Launcher
