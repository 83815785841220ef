import Bpe.Launcher.Calm

/-!
# What each step of the launcher can raise

A `Site` is a failure a step records: reason, stage, and the values `errno`
can have there. `Raises sites rt t s'` says a step whose runtime record was `rt`
ended at one of `sites`, or lost the control socket and can report nothing.
There is one specification for each step of `main`: what holds when it
succeeds, and where it can fail.
-/

namespace Bpe.Launcher

open Bpe.Native Proc

/-- The `errno` values that can stand in a failure record. -/
inductive ErrnoSet where
  | zero | fresh | any | freshNotEintr | cloneResource | cloneUnavailable | cloneRejected
  deriving DecidableEq

def ErrnoSet.Mem : ErrnoSet → Nat → Prop
  | zero, e => e = 0
  | fresh, e => Fresh e
  | any, e => e ≤ protocolMaxErrno
  | freshNotEintr, e => Fresh e ∧ e ≠ eintr
  | cloneResource, e => e = eagain ∨ e = enomem ∨ e = emfile ∨ e = enfile
  | cloneUnavailable, e => e = enosys
  | cloneRejected, e =>
    Fresh e ∧ e ≠ eagain ∧ e ≠ enomem ∧ e ≠ emfile ∧ e ≠ enfile ∧ e ≠ enosys

structure Site where
  reason : NativeReason
  stage : NativeStage
  errnos : ErrnoSet
  deriving DecidableEq

/-- No ERROR record can be sent. -/
def Silent (rt : Runtime) : Prop := rt.controlUsable = false ∨ rt.peerOpen = false

/-- The recorded failure is one of `sites`. -/
def Records (sites : List Site) (failure : Failure) : Prop :=
  ∃ site ∈ sites, failure.stage = some site.stage ∧ failure.reason = site.reason ∧
    site.errnos.Mem (bpeWireErrno failure.errorNumber)

/-- A failure was recorded. It is one of `sites` if every record was sent
whole: a cut one leaves no `errno`. -/
structure Reports (sites : List Site) (t : Trace) (s : LState) : Prop where
  reason : s.failure.reason ≠ .none
  record : WholeSends t → Silent s.rt ∨ Records sites s.failure

/-- The runtime records differ at most in the control socket's flags. -/
def PeerOnly (rt rt' : Runtime) : Prop :=
  rt' = { rt with controlUsable := rt'.controlUsable, peerOpen := rt'.peerOpen }

theorem PeerOnly.refl (rt : Runtime) : PeerOnly rt rt := rfl

structure Raises (sites : List Site) (rt : Runtime) (t : Trace) (s' : LState) : Prop where
  calls : ∀ e ∈ t, Call.steady e.1
  delivered : delivered t = []
  rt : PeerOnly rt s'.rt
  reports : Reports sites t s'

/-- A Boolean step that changes nothing when it succeeds. -/
def CalmOrRaises (sites : List Site) (s : LState) (t : Trace) (b : Bool) (s' : LState) : Prop :=
  if b then Calm Call.plain s t s' else Raises sites s.rt t s'

variable {s s₁ s' : LState} {t t' : Trace} {sites sites' : List Site}

@[simp] theorem calmOrRaises_true :
    CalmOrRaises sites s t true s' ↔ Calm Call.plain s t s' := by simp [CalmOrRaises]

@[simp] theorem calmOrRaises_false :
    CalmOrRaises sites s t false s' ↔ Raises sites s.rt t s' := by simp [CalmOrRaises]

theorem Records.mono {failure : Failure} (h : Records sites failure) (hs : sites ⊆ sites') :
    Records sites' failure := by
  obtain ⟨site, hmem, h⟩ := h
  exact ⟨site, hs hmem, h⟩

theorem Reports.mono (h : Reports sites t s) (hs : sites ⊆ sites') : Reports sites' t s :=
  ⟨h.reason, fun hw => (h.record hw).imp_right fun hr => hr.mono hs⟩

theorem Reports.prepend (h : Reports sites t' s) (t : Trace) : Reports sites (t ++ t') s :=
  ⟨h.reason, fun hw => h.record ((wholeSends_append _ _).1 hw).2⟩

variable {rt : Runtime}

theorem Raises.mono (h : Raises sites rt t s') (hs : sites ⊆ sites') :
    Raises sites' rt t s' :=
  ⟨h.calls, h.delivered, h.rt, h.reports.mono hs⟩

theorem Calm.steady (h : Calm Call.plain s t s') : ∀ e ∈ t, Call.steady e.1 :=
  fun e he => Call.steady_of_plain (h.calls e he)

/-- A steady stretch that delivered nothing, before a step that failed. -/
theorem Raises.prepend (h : Raises sites rt t' s') (hcalls : ∀ e ∈ t, Call.steady e.1)
    (hdel : Launcher.delivered t = []) :
    Raises sites rt (t ++ t') s' := by
  refine ⟨fun e he => ?_, by simp [hdel, h.delivered], h.rt, h.reports.prepend t⟩
  rcases List.mem_append.1 he with he | he
  · exact hcalls e he
  · exact h.calls e he

theorem Calm.raises (h : Calm Call.plain s t s₁) (h' : Raises sites s₁.rt t' s') :
    Raises sites s.rt (t ++ t') s' := by
  have := h'.prepend h.steady h.delivered
  rwa [h.rt] at this

theorem Calm.trans {P : Call → Bool} (h : Calm P s t s₁) (h' : Calm P s₁ t' s') :
    Calm P s (t ++ t') s' := (Calm.composes P).trans h h'

/-- A step that succeeded: the runtime record is `rt` afterwards and `frames`
were delivered. -/
structure Advances (rt : Runtime) (frames : List (List UInt8)) (s : LState) (t : Trace)
    (s' : LState) : Prop where
  calls : ∀ e ∈ t, Call.steady e.1
  delivered : delivered t = frames
  rt : s'.rt = rt
  failure : s'.failure = s.failure

theorem Calm.advances (h : Calm Call.plain s t s') : Advances s.rt [] s t s' :=
  ⟨h.steady, h.delivered, h.rt, h.failure⟩

theorem Advances.trans {rt rt' : Runtime} {f f' : List (List UInt8)} (h : Advances rt f s t s₁)
    (h' : Advances rt' f' s₁ t' s') : Advances rt' (f ++ f') s (t ++ t') s' := by
  refine ⟨fun e he => ?_, by simp [h.delivered, h'.delivered], h'.rt, h'.failure.trans h.failure⟩
  rcases List.mem_append.1 he with he | he
  · exact h.calls e he
  · exact h'.calls e he

theorem Advances.setRt {f : List (List UInt8)} (h : Advances rt f s t s') (rt' : Runtime) :
    Advances rt' f s t { s' with rt := rt' } :=
  ⟨h.calls, h.delivered, rfl, h.failure⟩

theorem mem_any (e : Nat) : ErrnoSet.any.Mem (bpeWireErrno e) := bpeWireErrno_le e

theorem mem_zero : ErrnoSet.zero.Mem (bpeWireErrno 0) := rfl

theorem mem_fresh {e : Nat} (h : Fresh e) : ErrnoSet.fresh.Mem (bpeWireErrno e) := by
  rw [h.wire]; exact h

/-- Recording a failure after a stretch that delivered nothing. -/
theorem Advances.raise (h : Advances s.rt [] s t s₁) (r : Site) {e : Nat}
    (he : WholeSends t → r.errnos.Mem (bpeWireErrno e)) (hr : r ∈ sites ∧ r.reason ≠ .none) :
    Raises sites s.rt t { s₁ with failure := ⟨some r.stage, r.reason, e⟩ } :=
  ⟨h.calls, h.delivered, by rw [h.rt]; exact PeerOnly.refl _, hr.2,
    fun hw => .inr ⟨r, hr.1, rfl, rfl, he hw⟩⟩

/-- Recording a failure after a calm start, and returning. -/
theorem ensures_raise (r : Site) {e : Nat} (hcalm : Calm Call.plain s t s₁)
    (hs : Clear s) (he : r.errnos.Mem (bpeWireErrno e)) {α : Type} {a : α}
    {Q : Trace → α → LState → Prop} (hQ : ∀ s',
      s' = { s₁ with failure := ⟨some r.stage, r.reason, e⟩ } →
      Raises sites s.rt (t ++ []) s' → Q [] a s')
    (hr : r ∈ sites ∧ r.reason ≠ .none) :
    Ensures (bpeSetFailure r.stage r.reason e >>= fun _ => pure a) s₁ Q := by
  refine bind_setFailure (hs.of_eq hcalm.failure) (ensures_pure (hQ _ rfl ?_))
  simpa using hcalm.advances.raise r (fun _ => he) hr

theorem ensures_raise_errno (r : Site) (hcalm : Calm Call.plain s t s₁)
    (hs : Clear s) (he : r.errnos.Mem (bpeWireErrno s₁.errno)) {α : Type} {a : α}
    {Q : Trace → α → LState → Prop} (hQ : ∀ s',
      s' = { s₁ with failure := ⟨some r.stage, r.reason, s₁.errno⟩ } →
      Raises sites s.rt (t ++ []) s' → Q [] a s')
    (hr : r ∈ sites ∧ r.reason ≠ .none) :
    Ensures (getErrno >>= fun e => bpeSetFailure r.stage r.reason e >>= fun _ => pure a) s₁ Q :=
  bind_getErrno (ensures_raise r hcalm hs he hQ hr)

/-! ## The control socket -/

def protocolInputSite : Site := ⟨.protocolInput, .protocol, .zero⟩

variable {stage : NativeStage}

theorem controlFailed_spec {revents : BitVec 16} (hs : Clear s) :
    Ensures (bpeControlFailed revents stage) s fun t b s' =>
      t = [] ∧ s'.errno = s.errno ∧
        if b then Raises [protocolInputSite] s.rt [] s' else s' = s := by
  refine ensures_ite (fun _ => ?_) fun _ => ensures_ite (fun _ => ?_) fun _ =>
    ensures_ite (fun _ => ?_) fun _ => ?_
  · exact ensures_raise protocolInputSite ((Calm.composes _).refl s) hs mem_zero
      (fun s' he h => ⟨rfl, by rw [he], h⟩) (by decide)
  · refine bind_modifyRt (bind_setFailure hs (ensures_pure ⟨rfl, rfl, ?_⟩))
    exact ⟨by simp, rfl, rfl, by simp, fun _ => .inl (.inr rfl)⟩
  · refine bind_modifyRt (bind_setFailure hs (ensures_pure ⟨rfl, rfl, ?_⟩))
    exact ⟨by simp, rfl, rfl, by simp, fun _ => .inl (.inr rfl)⟩
  · exact ensures_pure ⟨rfl, rfl, rfl⟩

theorem bind_controlFailed {revents : BitVec 16} {α : Type} {f : Bool → LM α}
    {Q : Trace → α → LState → Prop} (hcalm : Calm Call.plain s t s₁) (hs : Clear s)
    (htrue : ∀ s', Raises sites s.rt (t ++ []) s' → Ensures (f true) s' Q)
    (hfalse : Ensures (f false) s₁ Q) (hmem : protocolInputSite ∈ sites) :
    Ensures (bpeControlFailed revents stage >>= f) s₁ Q := by
  refine (controlFailed_spec (hs.of_eq hcalm.failure)).bind ?_
  rintro _ b s₂ ⟨rfl, -, h⟩
  cases b with
  | true => exact htrue s₂ ((hcalm.raises h).mono (by simpa using hmem))
  | false =>
    simp only [Bool.false_eq_true, if_false] at h
    subst h; exact hfalse

theorem ite_controlFailed {revents : BitVec 16} {α : Type} {m₁ m₂ : LM α}
    {Q : Trace → α → LState → Prop} (hcalm : Calm Call.plain s t s₁) (hs : Clear s)
    (htrue : ∀ s', Raises sites s.rt (t ++ []) s' → Ensures m₁ s' Q) (hfalse : Ensures m₂ s₁ Q)
    (hmem : protocolInputSite ∈ sites) :
    Ensures (bpeControlFailed revents stage >>= fun b => if b = true then m₁ else m₂) s₁ Q :=
  bind_controlFailed hcalm hs htrue hfalse hmem

theorem controlQuiet_spec (hs : Clear s) :
    Ensures (bpeControlQuiet stage) s fun t b s' =>
      CalmOrRaises [⟨.ioFailure, stage, .fresh⟩, protocolInputSite] s t b s' ∧
        (b → s'.errno = s.errno ∨ s'.errno = eintr) := by
  refine (sysInterruptible_spec (P := Call.plain) rfl).bind
    fun t r s₁ ⟨hcalm, hfresh, hsome, _⟩ => ?_
  cases r with
  | none =>
    exact ensures_raise_errno ⟨.ioFailure, stage, .fresh⟩ hcalm hs (mem_fresh (hfresh rfl))
      (fun _ _ h => ⟨h, by simp⟩) (by simp)
  | some revents =>
    refine ensures_ite (fun _ => ensures_pure ⟨by simpa using hcalm, fun _ => hsome rfl⟩)
      fun _ => ?_
    exact bind_controlFailed hcalm hs (fun s' h => ensures_pure ⟨h, by simp⟩)
      (ensures_pure ⟨by simpa using hcalm, fun _ => hsome rfl⟩) (by simp)

/-! ## Waiting for the child -/

def childReadySites : List Site :=
  [⟨.timeout, .childReady, .zero⟩, ⟨.ioFailure, .childReady, .any⟩, protocolInputSite,
    ⟨.childSetupFailed, .childReady, .any⟩]

theorem readChildRecord_spec {fd : Int} {seen : Bool} (hcalm : Calm Call.plain s t s₁)
    (hs : Clear s) : Ensures (readChildRecord fd seen) s₁ fun t' r s' =>
      match r with
      | .inl _ => Calm Call.plain s (t ++ t') s'
      | .inr b => CalmOrRaises childReadySites s (t ++ t') b s' := by
  refine ensures_ite (fun _ => ?_) fun _ => ?_
  · refine (sys_spec (P := Call.plain) rfl).bind fun t₁ r s₂ ⟨h₁, _⟩ => ?_
    have h₂ := hcalm.trans h₁
    cases r with
    | some buffer =>
      refine ensures_ite (fun _ => ensures_pure (by simpa using h₂)) fun _ => ?_
      exact ensures_raise ⟨.childSetupFailed, .childReady, .any⟩ h₂ hs (mem_any 0)
        (fun _ _ h => by simpa using h) (by decide)
    | none =>
      refine bind_getErrno (ensures_ite (fun _ => ensures_pure (by simpa using h₂)) fun _ => ?_)
      exact ensures_raise ⟨.childSetupFailed, .childReady, .any⟩ h₂ hs (mem_any _)
        (fun _ _ h => by simpa using h) (by decide)
  · refine (sys_spec (P := Call.plain) rfl).bind fun t₁ r s₂ ⟨h₁, _⟩ => ?_
    have h₂ := hcalm.trans h₁
    cases r with
    | some record =>
      rcases hrec : childRecordError record.val with _ | childErrno
      · simp only [hrec]
        exact ensures_pure (by simpa using h₂)
      · simp only [hrec]
        exact ensures_raise ⟨.childSetupFailed, .childReady, .any⟩ h₂ hs (mem_any _)
          (fun _ _ h => by simpa using h) (by decide)
    | none =>
      exact ensures_raise_errno ⟨.childSetupFailed, .childReady, .any⟩ h₂ hs (mem_any _)
        (fun _ _ h => by simpa using h) (by decide)

theorem waitChildReady_spec (fuel deadline : Nat) (hs : Clear s) :
    Ensures (bpeWaitChildReady fuel deadline) s (CalmOrRaises childReadySites s) := by
  refine ensures_iterate (fun _ t s₁ => Calm Call.plain s t s₁) (fun seen t s₁ ht => ?_) fuel
    ((Calm.composes _).refl s)
  refine bind_getRt ((pollUntil_spec _ _ _ _).bind fun t₁ r s₂ ⟨h₁, _⟩ => ?_)
  have h₂ := ht.trans h₁
  rcases r with _ | ⟨pollResult, revents⟩
  · exact ensures_raise_errno ⟨.ioFailure, .childReady, .any⟩ h₂ hs (mem_any _)
      (fun _ _ h => by simpa using h) (by decide)
  refine ensures_ite (fun _ => ?_) fun _ =>
    ite_controlFailed h₂ hs (fun s' h => ensures_pure (by simpa using h)) ?_ (by decide)
  · exact ensures_raise ⟨.timeout, .childReady, .zero⟩ h₂ hs mem_zero
      (fun _ _ h => by simpa using h) (by decide)
  refine ensures_ite (fun _ => ?_) fun _ => ensures_ite (fun _ => ?_) fun _ => ?_
  · refine (readChildRecord_spec h₂ hs).mono fun t' r s' h => ?_
    cases r <;> simpa using h
  · exact ensures_raise ⟨.childSetupFailed, .childReady, .any⟩ h₂ hs (mem_any 0)
      (fun _ _ h => by simpa using h) (by decide)
  · exact ensures_pure (by simpa using h₂)

theorem waitPopulatedOne_spec (fuel deadline : Nat) (hs : Clear s) :
    Ensures (bpeWaitPopulatedOne fuel deadline) s (CalmOrRaises childReadySites s) := by
  refine ensures_iterate (fun _ t s₁ => Calm Call.plain s t s₁) (fun _ t s₁ ht => ?_) fuel
    ((Calm.composes _).refl s)
  refine bind_getRt ((calm_readEvents _ _ _).bind fun t₀ r s₂ h₀ => ?_)
  have h₁ := ht.trans h₀
  rcases r with _ | events
  · exact ensures_raise_errno ⟨.ioFailure, .childReady, .any⟩ h₁ hs (mem_any _)
      (fun _ _ h => by simpa using h) (by decide)
  refine ensures_ite (fun _ => ensures_pure (by simpa using h₁)) fun _ => ?_
  refine (pollUntil_spec _ _ _ _).bind fun t₁ r s₃ ⟨h₂, _⟩ => ?_
  have h₃ := h₁.trans h₂
  rcases r with _ | ⟨pollResult, revents⟩
  · exact ensures_raise_errno ⟨.ioFailure, .childReady, .any⟩ h₃ hs (mem_any _)
      (fun _ _ h => by simpa using h) (by decide)
  refine ensures_ite (fun _ => ?_) fun _ =>
    ite_controlFailed h₃ hs (fun s' h => ensures_pure (by simpa using h)) ?_ (by decide)
  · exact ensures_raise ⟨.timeout, .childReady, .zero⟩ h₃ hs mem_zero
      (fun _ _ h => by simpa using h) (by decide)
  refine ensures_ite (fun _ => ?_) fun _ => ensures_pure (by simpa using h₃)
  exact ensures_raise ⟨.childSetupFailed, .childReady, .any⟩ h₃ hs (mem_any 0)
    (fun _ _ h => by simpa using h) (by decide)

theorem procsText_ne_error (buffer : List UInt8) (expected : Int) :
    procsText buffer expected ≠ .error := by
  unfold procsText
  split
  · simp
  · split
    · simp
    · split <;> simp

/-- `bpe_read_procs_exact` clears `errno` unless it fails. -/
theorem readProcsExact_spec (fuel : Nat) (fd expected : Int) :
    Ensures (bpeReadProcsExact fuel fd expected) s fun t r s' =>
      (∀ e ∈ t, Call.plain e.1) ∧ s'.rt = s.rt ∧ s'.failure = s.failure ∧
        if r = .error then s'.errno = s.errno ∨ Fresh s'.errno else s'.errno = 0 := by
  refine ensures_ite (fun _ => ensures_pure ⟨by simp, rfl, rfl, .inl rfl⟩) fun _ => ?_
  refine (calm_sys (P := Call.plain) rfl s).bind fun t₁ r s₁ h₁ => ?_
  cases r with
  | none => exact ensures_pure ⟨by simpa using h₁.calls, h₁.rt, h₁.failure, h₁.errno⟩
  | some offset =>
  refine ensures_ite (fun _ => ensures_pure ⟨by simpa using h₁.calls, h₁.rt, h₁.failure, h₁.errno⟩)
    fun _ => ?_
  refine (calm_sysInterruptible (P := Call.plain) rfl s₁).bind fun t₂ r s₂ h₂ => ?_
  have h₃ := h₁.trans h₂
  cases r with
  | none => exact ensures_pure ⟨by simpa using h₃.calls, h₃.rt, h₃.failure, h₃.errno⟩
  | some buffer =>
  refine ensures_ite (fun _ => bind_setErrno (ensures_pure ?_)) fun _ => ensures_ite
    (fun _ => bind_setErrno (ensures_pure ?_)) fun _ => ?_
  · exact ⟨by simpa using h₃.calls, h₃.rt, h₃.failure, by simp⟩
  · refine ⟨by simpa using h₃.calls, h₃.rt, h₃.failure, ?_⟩
    rw [if_neg (by split <;> simp)]
  refine (calm_sysUninterrupted (P := Call.plain) rfl fuel s₂).bind fun t₄ r s₃ h₄ => ?_
  have h₅ := h₃.trans h₄
  cases r with
  | none => exact ensures_pure ⟨by simpa using h₅.calls, h₅.rt, h₅.failure, h₅.errno⟩
  | some extra =>
  refine bind_setErrno (ensures_ite (fun _ => ensures_pure ?_) fun _ => ensures_pure ?_)
  · exact ⟨by simpa using h₅.calls, h₅.rt, h₅.failure, by simp⟩
  · refine ⟨by simpa using h₅.calls, h₅.rt, h₅.failure, ?_⟩
    rw [if_neg (procsText_ne_error _ _)]

/-! ## Steps that change the runtime record -/

def AdvancesOrRaises (rt : Runtime) (frames : List (List UInt8)) (sites : List Site) (s : LState)
    (t : Trace) (b : Bool) (s' : LState) : Prop :=
  if b then Advances rt frames s t s' else Raises sites s.rt t s'

@[simp] theorem advancesOrRaises_true {f : List (List UInt8)} :
    AdvancesOrRaises rt f sites s t true s' ↔ Advances rt f s t s' := by simp [AdvancesOrRaises]

@[simp] theorem advancesOrRaises_false {f : List (List UInt8)} :
    AdvancesOrRaises rt f sites s t false s' ↔ Raises sites s.rt t s' := by
  simp [AdvancesOrRaises]

def childAloneSites : List Site :=
  [⟨.ioFailure, .childReady, .any⟩, ⟨.childObservationFailed, .childReady, .zero⟩]

theorem checkChildAlone_spec (fuel : Nat) (hs : Clear s) :
    Ensures (checkChildAlone fuel) s
      (AdvancesOrRaises { s.rt with achieved := s.rt.achieved ||| builtinNoexecBit } []
        childAloneSites s) := by
  refine bind_getRt ((readProcsExact_spec _ _ _).bind fun t r s₁ ⟨hcalls, hrt, hfail, _⟩ => ?_)
  have hadv : Advances s.rt [] s t s₁ := ⟨fun e he => Call.steady_of_plain (hcalls e he),
    delivered_eq_nil fun e he => Call.scanning_of_plain (hcalls e he), hrt, hfail⟩
  refine bind_getErrno (ensures_ite (fun hne => ?_) fun _ => ?_)
  · refine bind_setFailure (hs.of_eq hfail) (ensures_pure ?_)
    simp only [List.append_nil, advancesOrRaises_false]
    cases r with
    | error => exact hadv.raise ⟨.ioFailure, .childReady, .any⟩ (fun _ => mem_any _) (by decide)
    | mismatch =>
      exact hadv.raise ⟨.childObservationFailed, .childReady, .zero⟩ (fun _ => mem_zero) (by decide)
    | matched => exact absurd rfl hne
  · refine bind_modifyRt (ensures_pure ?_)
    simpa [hrt] using hadv.setRt _

/-! ## Frames -/

theorem sendRecord_spec (frame : List UInt8) : Ensures (sendRecord frame) s fun t b s' =>
    Calm Call.steady s t s' ∧ delivered t = (if b then [frame] else []) ∧
      (if b then s'.errno = s.errno ∨ s'.errno = eintr else WholeSends t → Fresh s'.errno) ∧
      ∀ e ∈ t, e.1 = .send frame := by
  refine (sysInterruptible_spec (P := Call.steady) rfl).bind fun t r s₁ ⟨h, hfresh, hsome, ha⟩ => ?_
  rcases r with _ | sent
  · exact ensures_pure ⟨by simpa using h, by simpa using Failed.delivered ha,
      by simpa using fun _ => hfresh rfl, by simpa using fun e => ha.call_eq⟩
  refine ensures_pure ⟨by simpa using h, by simpa using ha.delivered, ?_,
    by simpa using fun e => ha.call_eq⟩
  by_cases hwhole : sent.val = frame.length
  · simpa [hwhole] using hsome rfl
  · simpa [hwhole] using fun hw => absurd (WholeSends.count hw ha.mem) hwhole

theorem emitFrame_spec (hctl : s.rt.controlUsable = true) (hpeer : s.rt.peerOpen = true)
    (hseq : s.rt.sequence < protocolMaxFrames) (type : NativeFrameType) (status : NativeStatus)
    (stage : Option NativeStage) (reason : NativeReason) (e v₀ v₁ : Nat) :
    Ensures (bpeEmitFrame type status stage reason e v₀ v₁) s fun t b s' =>
      if b then
        Advances { s.rt with sequence := s.rt.sequence + 1 }
          [bpeInertEncodeFrame type.code s.rt.sequence status.code (stage.elim 0 (·.code))
            reason.code e v₀ v₁] s t s' ∧
          (s'.errno = s.errno ∨ s'.errno = eintr)
      else Advances s.rt [] s t s' ∧ (WholeSends t → Fresh s'.errno) := by
  refine bind_getRt (ensures_ite (fun h => ?_) fun _ => ?_)
  · simp [hctl, hpeer] at h
    omega
  refine (sendRecord_spec _).bind fun t b s₁ ⟨h, hdel, herr, _⟩ => ?_
  cases b with
  | false =>
    exact ensures_pure ⟨⟨by simpa using h.calls, by simpa using hdel, h.rt, h.failure⟩,
      by simpa using herr⟩
  | true =>
    refine bind_modifyRt (ensures_pure ?_)
    exact ⟨⟨by simpa using h.calls, by simpa using hdel, by simp [h.rt], h.failure⟩, herr⟩

/-- `bpe_emit_frame` issues no other call than `send`. -/
theorem emitFrame_calls (type : NativeFrameType) (status : NativeStatus)
    (stage : Option NativeStage) (reason : NativeReason) (e v₀ v₁ : Nat) :
    Ensures (bpeEmitFrame type status stage reason e v₀ v₁) s fun t _ _ =>
      ∀ e ∈ t, ∃ bytes, e.1 = .send bytes := by
  refine bind_getRt (ensures_ite (fun _ => ensures_pure (by simp)) fun _ => ?_)
  refine (sendRecord_spec _).bind fun t b s₁ ⟨_, _, _, hsend⟩ => ?_
  have hcalls : ∀ e ∈ t, ∃ bytes, e.1 = .send bytes := fun e he => ⟨_, hsend e he⟩
  cases b with
  | false => exact ensures_pure (by simpa using hcalls)
  | true => exact bind_modifyRt (ensures_pure (by simpa using hcalls))

theorem emitSuccess_spec (hctl : s.rt.controlUsable = true) (hpeer : s.rt.peerOpen = true)
    (hseq : s.rt.sequence < protocolMaxFrames) (hs : Clear s)
    (type : NativeFrameType) (stage : NativeStage) (v₀ v₁ : Nat) :
    Ensures (emitSuccess type stage v₀ v₁) s fun t b s' =>
      AdvancesOrRaises { s.rt with sequence := s.rt.sequence + 1 }
        [InertNativeFrame.encode ⟨type, s.rt.sequence, .ok, stage, .none, 0, v₀, v₁⟩]
        [⟨.ioFailure, .protocol, .fresh⟩] s t b s' ∧
        (b → s'.errno = s.errno ∨ s'.errno = eintr) := by
  refine (emitFrame_spec hctl hpeer hseq type .ok (some stage) .none 0 v₀ v₁).bind
    fun t b s₁ h => ?_
  cases b with
  | true =>
    refine ensures_pure ⟨?_, fun _ => h.2⟩
    simpa [InertNativeFrame.encode] using h.1
  | false =>
    obtain ⟨hadv, hfresh⟩ : Advances s.rt [] s t s₁ ∧ (WholeSends t → Fresh s₁.errno) := by
      simpa using h
    refine bind_getErrno (bind_setFailure (hs.of_eq hadv.failure) (ensures_pure ⟨?_, by simp⟩))
    simpa using hadv.raise ⟨.ioFailure, .protocol, .fresh⟩ (fun hw => mem_fresh (hfresh hw))
      (by decide)

end Bpe.Launcher
