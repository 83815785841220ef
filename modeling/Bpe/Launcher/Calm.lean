import Bpe.Launcher.Main

/-!
# What the launcher's helpers leave alone

Most of `launcher.c` only asks the kernel questions. `Calm P s t s'` says the
calls of `t` are all in `P`, the runtime and failure records are the same in
`s'` as in `s`, and `errno` is either untouched or left by a failing call.
Each helper that issues calls and decides on their replies is calm; the
specifications of the state-changing steps are built on that.
-/

namespace Bpe.Launcher

open Bpe.Native Proc List

/-- `errno` as a failing call leaves it. -/
def Fresh (e : Nat) : Prop := 1 ≤ e ∧ e ≤ protocolMaxErrno

theorem Fresh.wire {e : Nat} (h : Fresh e) : bpeWireErrno e = e := by
  unfold Fresh protocolMaxErrno at h
  rw [bpeWireErrno, if_neg (by unfold protocolMaxErrno; omega)]

theorem bpeWireErrno_le (e : Nat) : bpeWireErrno e ≤ protocolMaxErrno := by
  unfold bpeWireErrno
  split <;> omega

/-- No failure is recorded. -/
abbrev Clear (s : LState) : Prop := s.failure.reason = .none

theorem Clear.of_eq {s s' : LState} (hs : Clear s) (h : s'.failure = s.failure) : Clear s' :=
  (congrArg Failure.reason h).trans hs

/-- Calls that neither send, nor open or close a descriptor. -/
def Call.plain : Call → Bool
  | .send _ | .openProcFd | .openat _ | .close _ | .pipe2 | .clone3 _ => false
  | _ => true

/-- Calls that neither open nor close a descriptor. -/
def Call.steady : Call → Bool
  | .openProcFd | .openat _ | .close _ | .pipe2 | .clone3 _ => false
  | _ => true

/-- Calls that neither send nor create a descriptor the runtime holds. -/
def Call.scanning : Call → Bool
  | .send _ | .openat _ | .pipe2 | .clone3 _ => false
  | _ => true

structure Calm (P : Call → Bool) (s : LState) (t : Trace) (s' : LState) : Prop where
  calls : ∀ e ∈ t, P e.1
  rt : s'.rt = s.rt
  failure : s'.failure = s.failure
  errno : s'.errno = s.errno ∨ Fresh s'.errno

theorem Calm.composes (P : Call → Bool) : Composes (Calm P) where
  refl _ := ⟨by simp, rfl, rfl, .inl rfl⟩
  trans {s t s₁ t' s₂} h h' := by
    refine ⟨?_, h'.rt.trans h.rt, h'.failure.trans h.failure, ?_⟩
    · intro e he
      rcases mem_append.1 he with he | he
      · exact h.calls e he
      · exact h'.calls e he
    · rcases h'.errno with e | e
      · rw [e]; exact h.errno
      · exact .inr e

variable {c : Call}

theorem Call.scanning_of_plain (h : c.plain) : c.scanning := by
  revert h
  cases c <;> simp [Call.plain, Call.scanning]

variable {t : Trace}

theorem Calm.scanning {s s' : LState} (h : Calm Call.plain s t s') :
    Calm Call.scanning s t s' :=
  ⟨fun e he => Call.scanning_of_plain (h.calls e he), h.rt, h.failure, h.errno⟩

theorem Call.steady_of_plain (h : c.plain) : c.steady := by
  revert h
  cases c <;> simp [Call.plain, Call.steady]

theorem delivered_eq_nil (h : ∀ e ∈ t, Call.scanning e.1) : delivered t = [] := by
  rw [delivered, filterMap_eq_nil_iff]
  rintro ⟨c, r⟩ he
  have := h _ he
  cases c <;> first | rfl | simp [Call.scanning] at this

theorem Calm.delivered {s s' : LState} (h : Calm Call.plain s t s') :
    delivered t = [] :=
  delivered_eq_nil h.scanning.calls

/-! ## Calls -/

theorem ensures_sys {s : LState} {Q : Trace → Option c.Ok → LState → Prop}
    (hok : ∀ r, Q [⟨c, .ok r⟩] (some r) s)
    (herr : ∀ e : Errno, Q [⟨c, .error e⟩] none { s with errno := e }) :
    Ensures (sys c) s Q := by
  intro t a s' hr
  obtain ⟨r, t', rfl, h⟩ := Prog.runs_call.1 hr
  cases r with
  | ok r =>
    obtain ⟨rfl, h⟩ := Prog.runs_ret.1 h
    cases h; exact hok r
  | error e =>
    obtain ⟨rfl, h⟩ := Prog.runs_ret.1 h
    cases h; exact herr e

theorem ensures_sys_bind {s : LState} {α : Type} {f : Option c.Ok → LM α}
    {Q : Trace → α → LState → Prop}
    (hok : ∀ r, Ensures (f (some r)) s fun t' => Q (⟨c, .ok r⟩ :: t'))
    (herr : ∀ e : Errno, Ensures (f none) { s with errno := e } fun t' => Q (⟨c, .error e⟩ :: t')) :
    Ensures (sys c >>= f) s Q :=
  (ensures_sys hok herr : Ensures (sys c) s fun t r s' =>
    Ensures (f r) s' fun t' => Q (t ++ t')).bind fun _ _ _ h => h

theorem runs_sys_ok (r : c.Ok) (s : LState) :
    Runs (sys c) s [⟨c, .ok r⟩] (some r) s := .call _ (.ret _)

theorem runs_sys_error (e : Errno) (s : LState) :
    Runs (sys c) s [⟨c, .error e⟩] none { s with errno := e } := .call _ (.ret _)

variable {P : Call → Bool} {c : Call} {s : LState}

/-- A call that fails leaves a fresh `errno`; one that succeeds leaves it be. -/
theorem sys_spec (hc : P c) : Ensures (sys c) s fun t r s' =>
    Calm P s t s' ∧ (r = none → Fresh s'.errno) ∧ (r.isSome → s' = s) := by
  refine ensures_sys (fun r => ⟨⟨?_, rfl, rfl, .inl rfl⟩, ?_, ?_⟩)
    (fun e => ⟨⟨?_, rfl, rfl, .inr e.2⟩, ?_, ?_⟩)
  · simpa using hc
  · simp
  · simp
  · simpa using hc
  · exact fun _ => e.2
  · simp

theorem calm_sys (hc : P c) : Within (Calm P) (sys c) :=
  fun _ => (sys_spec hc).mono fun _ _ _ h => h.1

theorem calm_getErrno : Within (Calm P) getErrno :=
  fun _ => ensures_pure ((Calm.composes P).refl _)

theorem calm_getRt : Within (Calm P) getRt :=
  fun _ => ensures_pure ((Calm.composes P).refl _)

theorem calm_pure {α : Type} (a : α) : Within (Calm P) (pure a : LM α) :=
  within_pure (Calm.composes P) a

theorem calm_bind {α β : Type} {m : LM α} {f : α → LM β} (hm : Within (Calm P) m)
    (hf : ∀ a, Within (Calm P) (f a)) : Within (Calm P) (m >>= f) :=
  hm.bind (Calm.composes P) hf

/-! The steps that issue no call act on the state at once. -/

section Local

variable {α : Type} {Q : Trace → α → LState → Prop}

theorem bind_getErrno {f : Nat → LM α} (h : Ensures (f s.errno) s Q) :
    Ensures (getErrno >>= f) s Q :=
  (ensures_pure (a := s.errno) (Q := fun t e s' => t = [] ∧ e = s.errno ∧ s' = s)
    ⟨rfl, rfl, rfl⟩).bind (by rintro _ _ _ ⟨rfl, rfl, rfl⟩; exact h)

theorem bind_getRt {f : Runtime → LM α} (h : Ensures (f s.rt) s Q) :
    Ensures (getRt >>= f) s Q :=
  (ensures_pure (a := s.rt) (Q := fun t rt s' => t = [] ∧ rt = s.rt ∧ s' = s)
    ⟨rfl, rfl, rfl⟩).bind (by rintro _ _ _ ⟨rfl, rfl, rfl⟩; exact h)

variable {f : Unit → LM α}

theorem bind_modify {g : LState → LState} (h : Ensures (f ()) (g s) Q) :
    Ensures ((modify g : LM Unit) >>= f) s Q :=
  (ensures_modify (Q := fun t _ s' => t = [] ∧ s' = g s) ⟨rfl, rfl⟩).bind
    (by rintro _ _ _ ⟨rfl, rfl⟩; exact h)

theorem bind_modifyRt {g : Runtime → Runtime} (h : Ensures (f ()) { s with rt := g s.rt } Q) :
    Ensures (modifyRt g >>= f) s Q :=
  bind_modify h

theorem bind_setErrno {e : Nat} (h : Ensures (f ()) { s with errno := e } Q) :
    Ensures (setErrno e >>= f) s Q :=
  bind_modify h

/-- `bpe_set_failure` when no failure is recorded yet. -/
theorem bind_setFailure {stage : NativeStage} {reason : NativeReason} {e : Nat}
    (hs : Clear s)
    (h : Ensures (f ()) { s with failure := { stage := some stage, reason, errorNumber := e } } Q) :
    Ensures (bpeSetFailure stage reason e >>= f) s Q :=
  bind_modify (by simpa [hs] using h)

end Local

/-! ## Interrupted calls -/

/-- Every event is a failed attempt at `c`. -/
def Failed (c : Call) (t : Trace) : Prop := ∀ e ∈ t, ∃ err, e = ⟨c, .error err⟩

/-- Failed attempts at `c`, then a successful one if `r` is its result. -/
def Attempts (c : Call) (t : Trace) : Option c.Ok → Prop
  | none => Failed c t
  | some r => ∃ fails, t = fails ++ [⟨c, .ok r⟩] ∧ Failed c fails

theorem Attempts.mem {r : c.Ok} (h : Attempts c t (some r)) :
    ⟨c, .ok r⟩ ∈ t := by
  obtain ⟨fails, rfl, -⟩ := h
  simp

theorem Failed.ok_not_mem (h : Failed c t) (r : c.Ok) :
    ⟨c, .ok r⟩ ∉ t := by
  intro hmem
  obtain ⟨err, he⟩ := h _ hmem
  cases he

theorem Attempts.ok_mem_iff {r : Option c.Ok} (h : Attempts c t r) (a : c.Ok) :
    ⟨c, .ok a⟩ ∈ t ↔ r = some a := by
  cases r with
  | none => simpa using h.ok_not_mem a
  | some r =>
    obtain ⟨fails, rfl, hf⟩ := h
    constructor
    · intro hmem
      rcases mem_append.1 hmem with hmem | hmem
      · exact absurd hmem (hf.ok_not_mem a)
      · cases mem_singleton.1 hmem
        rfl
    · intro e
      cases e
      exact mem_append_right _ (mem_singleton_self _)

theorem Attempts.call_eq {r : Option c.Ok} (h : Attempts c t r) {e : Event Reply} (he : e ∈ t) :
    e.1 = c := by
  cases r with
  | none =>
    obtain ⟨err, rfl⟩ := h e he
    rfl
  | some r =>
    obtain ⟨fails, rfl, hf⟩ := h
    rcases mem_append.1 he with he | he
    · obtain ⟨err, rfl⟩ := hf e he
      rfl
    · rw [mem_singleton.1 he]

theorem Failed.append {t t' : Trace} (h : Failed c t) {r : Option c.Ok} (h' : Attempts c t' r) :
    Attempts c (t ++ t') r := by
  have hall : ∀ {u : Trace}, Failed c u → Failed c (t ++ u) := fun hu x hx =>
    (mem_append.1 hx).elim (h x) (hu x)
  cases r with
  | none => exact hall h'
  | some r =>
    obtain ⟨fails, rfl, hf⟩ := h'
    exact ⟨t ++ fails, by simp, hall hf⟩

theorem Attempts.cons {r : Option c.Ok} (h : Attempts c t r) (e : Errno) :
    Attempts c (⟨c, .error e⟩ :: t) r := by
  cases r with
  | none =>
    intro x hx
    rcases mem_cons.1 hx with rfl | hx
    · exact ⟨e, rfl⟩
    · exact h x hx
  | some r =>
    obtain ⟨fails, rfl, hf⟩ := h
    refine ⟨⟨c, .error e⟩ :: fails, rfl, fun x hx => ?_⟩
    rcases mem_cons.1 hx with rfl | hx
    · exact ⟨e, rfl⟩
    · exact hf x hx

theorem attempts_error (c : Call) (e : Errno) : Attempts c [⟨c, .error e⟩] none := by
  intro x hx
  exact ⟨e, by simpa using hx⟩

theorem Failed.delivered (h : Failed c t) : delivered t = [] := by
  rw [Launcher.delivered, filterMap_eq_nil_iff]
  intro x hx
  obtain ⟨err, rfl⟩ := h x hx
  cases c <;> rfl

/-- Attempts to send a record deliver it if one of them sent it whole. -/
theorem Attempts.delivered {bytes : List UInt8} {r : { n : Nat // n ≤ bytes.length }}
    (h : Attempts (.send bytes) t (some r)) :
    delivered t = if r.val = bytes.length then [bytes] else [] := by
  obtain ⟨fails, rfl, hf⟩ := h
  rw [delivered_append, Failed.delivered hf]
  by_cases hr : r.val = bytes.length <;> simp [Launcher.delivered, hr]

theorem sys_attempts : Ensures (sys c) s fun t r _ => Attempts c t r :=
  ensures_sys (fun _ => ⟨[], rfl, by simp [Failed]⟩) fun e => attempts_error c e

/-- What a retried call can do, with `n` further attempts. -/
theorem retryInterrupted_spec (hc : P c) (n : Nat) : ∀ s, Ensures (retryInterrupted c n) s
    fun t r s' => Calm P s t s' ∧ (r = none → Fresh s'.errno) ∧
      (r.isSome → s'.errno = s.errno ∨ s'.errno = eintr) ∧ Attempts c t r := by
  induction n with
  | zero =>
    intro s
    exact ((sys_spec hc).and sys_attempts).mono fun t r s' ⟨h, ha⟩ =>
      ⟨h.1, h.2.1, fun hr => .inl (by rw [h.2.2 hr]), ha⟩
  | succ n ih =>
    intro s
    refine ensures_sys_bind (fun r => ?_) fun e => ?_
    · refine ensures_pure ⟨⟨?_, rfl, rfl, .inl rfl⟩, by simp, fun _ => .inl rfl, [], rfl, ?_⟩
      · simpa using hc
      · simp [Failed]
    · have hcalm : Calm P s [⟨c, .error e⟩] { s with errno := e } :=
        ⟨by simpa using hc, rfl, rfl, .inr e.2⟩
      refine bind_getErrno (ensures_ite (fun he => ?_) fun _ => ensures_pure ⟨hcalm, ?_, ?_, ?_⟩)
      · refine (ih _).mono fun t' r s₂ ⟨hcalm', hfresh, hsome, ha⟩ => ⟨?_, hfresh, fun hr => ?_, ?_⟩
        · exact (Calm.composes P).trans hcalm hcalm'
        · rcases hsome hr with e' | e'
          · exact .inr (e'.trans he)
          · exact .inr e'
        · exact ha.cons e
      · exact fun _ => e.2
      · simp
      · exact attempts_error c e

theorem sysInterruptible_spec (hc : P c) : Ensures (sysInterruptible c) s fun t r s' =>
    Calm P s t s' ∧ (r = none → Fresh s'.errno) ∧
      (r.isSome → s'.errno = s.errno ∨ s'.errno = eintr) ∧ Attempts c t r :=
  retryInterrupted_spec hc 7 s

theorem calm_sysInterruptible (hc : P c) : Within (Calm P) (sysInterruptible c) :=
  fun _ => (sysInterruptible_spec hc).mono fun _ _ _ h => h.1

theorem sysUninterrupted_spec (hc : P c) (fuel : Nat) :
    Ensures (sysUninterrupted fuel c) s fun t r s' => Calm P s t s' ∧ Attempts c t r := by
  refine ensures_iterate (fun _ t s₁ => Calm P s t s₁ ∧ Failed c t) (fun _ t s₁ ⟨ht, hf⟩ => ?_) fuel
    ⟨(Calm.composes _).refl s, by simp [Failed]⟩
  refine ((calm_sys hc s₁).and sys_attempts).bind fun t₁ r s₂ ⟨h₁, ha⟩ => ?_
  have h₂ := (Calm.composes _).trans ht h₁
  have ha₂ := hf.append ha
  cases r with
  | some r => exact ensures_pure ⟨by simpa using h₂, by simpa using ha₂⟩
  | none =>
    have hfail : Failed c (t ++ (t₁ ++ [])) := by simpa using (show Failed c (t ++ t₁) from ha₂)
    exact bind_getErrno (ensures_ite (fun _ => ensures_pure ⟨by simpa using h₂, hfail⟩)
      fun _ => ensures_pure ⟨by simpa using h₂, hfail⟩)

theorem calm_sysUninterrupted (hc : P c) (fuel : Nat) :
    Within (Calm P) (sysUninterrupted fuel c) :=
  fun _ => (sysUninterrupted_spec hc fuel).mono fun _ _ _ h => h.1

/-! ## The clock -/

theorem calm_monotonicNs : Within (Calm Call.plain) bpeMonotonicNs := by
  refine calm_bind (calm_sys rfl) fun r => ?_
  cases r with
  | none => exact calm_pure _
  | some now => exact within_ite (calm_pure _) (calm_pure _)

theorem calm_deadlineAfterMs (ms : Nat) : Within (Calm Call.plain) (bpeDeadlineAfterMs ms) := by
  refine calm_bind calm_monotonicNs fun r => ?_
  cases r with
  | none => exact calm_pure _
  | some now => exact within_ite (calm_pure _) (within_ite (calm_pure _) (calm_pure _))

theorem calm_deadlinePollMs (deadline ms : Nat) :
    Within (Calm Call.plain) (bpeDeadlinePollMs deadline ms) := by
  refine calm_bind calm_monotonicNs fun r => ?_
  cases r with
  | none => exact calm_pure _
  | some now => exact within_ite (calm_pure _) (calm_pure _)

theorem calm_elapsedNs : Within (Calm Call.plain) bpeElapsedNs := by
  refine calm_bind calm_monotonicNs fun r => ?_
  cases r with
  | none => exact calm_pure _
  | some now => exact calm_bind calm_getRt fun _ => within_ite (calm_pure _) (calm_pure _)

/-! ## Startup checks -/

theorem calm_validateStdioFd (fd : Int) (access : Nat) :
    Within (Calm Call.plain) (bpeValidateStdioFd fd access) := by
  refine calm_bind (calm_sys rfl) fun r => ?_
  cases r with
  | none => exact calm_pure _
  | some metadata =>
    refine within_ite (calm_pure _) (calm_bind (calm_sys rfl) fun df => ?_)
    refine calm_bind (calm_sys rfl) fun sf => ?_
    cases df <;> cases sf <;> exact calm_pure _

theorem calm_controlSocketShape : Within (Calm Call.plain) controlSocketShape := by
  refine calm_bind (calm_sys rfl) fun r => ?_
  rcases r with _ | ⟨socketType, typeLength⟩
  · exact calm_pure _
  refine within_ite (calm_pure _) (calm_bind (calm_sys rfl) fun r => ?_)
  rcases r with _ | ⟨acceptConnections, acceptLength⟩
  · exact calm_pure _
  refine within_ite (calm_pure _) (calm_bind (calm_sys rfl) fun r => ?_)
  rcases r with _ | ⟨localFamily, localLength⟩
  · exact calm_pure _
  refine calm_bind (calm_sys rfl) fun r => ?_
  rcases r with _ | ⟨peerFamily, peerLength⟩ <;> exact calm_pure _

theorem calm_procFdDirectory (fd : Int) : Within (Calm Call.plain) (procFdDirectory fd) := by
  refine within_ite (calm_pure _) (calm_bind (calm_sys rfl) fun r => ?_)
  cases r with
  | none => exact calm_pure _
  | some metadata =>
    refine within_ite (calm_pure _) (calm_bind (calm_sys rfl) fun r => ?_)
    cases r <;> exact calm_pure _

theorem calm_scanProcFd (fuel : Nat) (fd : Int) (deadline : Nat) :
    Within (Calm Call.plain) (scanProcFd fuel fd deadline) := by
  refine within_iterate (Calm.composes _) (fun seen => ?_) fuel 0
  refine calm_bind (calm_sysInterruptible rfl) fun r => ?_
  cases r with
  | none => exact calm_bind calm_getErrno fun _ => calm_pure _
  | some buffer =>
    refine within_ite (calm_pure _) ?_
    generalize scanDirents _ _ _ = seen'
    cases seen' with
    | none => exact calm_pure _
    | some seen' =>
      exact calm_bind (calm_deadlinePollMs _ _) fun _ => within_ite (calm_pure _) (calm_pure _)

/-! ## Cgroup files and `poll` -/

theorem calm_regularFile (fd : Int) : Within (Calm Call.plain) (regularFile fd) := by
  refine calm_bind (calm_sys rfl) fun r => ?_
  cases r <;> exact calm_pure _

/-- One complete read of the descriptor, from its start to its end: a seek,
attempts at the text and attempts at the byte after it. -/
def ReadWhole (fd : Int) (buffer : { bs : List UInt8 // bs.length ≤ 128 }) (t : Trace) : Prop :=
  ∃ text last, t = ⟨.lseek fd, .ok 0⟩ :: (text ++ last) ∧
    Attempts (.read fd 128) text (some buffer) ∧ Attempts (.read fd 1) last (some ⟨[], by simp⟩)

/-- A complete read of the descriptor, with no other call in between, gave a
text that parses as `events`. -/
def EventsShown (fd : Int) (events : Events) (t : Trace) : Prop :=
  ∃ buffer u, ReadWhole fd buffer u ∧ u <:+: t ∧ bpeParseEvents buffer.val = some events

theorem EventsShown.mem {fd : Int} {events : Events} (h : EventsShown fd events t) :
    ∃ buffer : { bs : List UInt8 // bs.length ≤ 128 }, ⟨.lseek fd, .ok 0⟩ ∈ t ∧
      ⟨.read fd 128, .ok buffer⟩ ∈ t ∧ ⟨.read fd 1, .ok ⟨[], by simp⟩⟩ ∈ t ∧
      bpeParseEvents buffer.val = some events := by
  obtain ⟨buffer, u, ⟨text, last, rfl, htext, hlast⟩, hsub, hparse⟩ := h
  exact ⟨buffer, hsub.subset (by simp), hsub.subset (by simp [htext.mem]),
    hsub.subset (by simp [hlast.mem]), hparse⟩

/-- `bpe_read_events` returns what a complete read shows, and nothing else. -/
theorem readEvents_spec (fuel : Nat) (fd : Int) : Ensures (bpeReadEvents fuel fd) s fun t r s' =>
    Calm Call.plain s t s' ∧ (∃ r, ⟨.lseek fd, r⟩ ∈ t) ∧
      ∀ events, r = some events ↔ EventsShown fd events t := by
  -- `show_iff` settles the branches that return before all three reads are done
  have show_iff : ∀ {t : Trace}, (∀ events, ¬ EventsShown fd events t) →
      ∀ events, (none : Option Events) = some events ↔ EventsShown fd events t :=
    fun h events => ⟨nofun, fun hs => absurd hs (h events)⟩
  refine ensures_sys_bind (fun offset => ?_) fun e => ensures_pure ⟨?_, by simp, show_iff ?_⟩
  · have h₁ : Calm Call.plain s [⟨.lseek fd, .ok offset⟩] s :=
      ⟨by simp [Call.plain], rfl, rfl, .inl rfl⟩
    refine ensures_ite (fun hoff => ensures_pure ⟨h₁, by simp, show_iff ?_⟩) fun hoff => ?_
    · rintro events h
      obtain ⟨buffer, hseek, -⟩ := h.mem
      cases mem_singleton.1 hseek
      exact hoff rfl
    obtain rfl : offset = 0 := by simpa using hoff
    refine (sysInterruptible_spec (P := Call.plain) rfl).bind fun t₂ r s₂ ⟨h₂, _, _, ha₂⟩ => ?_
    have h₃ := (Calm.composes _).trans h₁ h₂
    -- a read of 128 bytes is the only call so far besides the seek
    have no_extra : ∀ events, ¬ EventsShown fd events (⟨.lseek fd, .ok 0⟩ :: t₂) := by
      intro events h
      obtain ⟨buffer, -, -, hextra, -⟩ := h.mem
      rcases mem_cons.1 hextra with he | he
      · cases he
      · cases ha₂.call_eq he
    rcases r with _ | buffer
    · exact ensures_pure ⟨by simpa using h₃, by simp, show_iff (by simpa using no_extra)⟩
    refine ensures_ite (fun _ => ensures_pure ⟨by simpa using h₃, by simp,
      show_iff (by simpa using no_extra)⟩) fun _ => ?_
    refine (sysUninterrupted_spec (P := Call.plain) rfl fuel).bind fun t₃ r s₃ ⟨h₄, ha₃⟩ => ?_
    have h₅ := (Calm.composes _).trans h₃ h₄
    have extra_mem : ∀ a, (⟨.read fd 1, .ok a⟩ : Event Reply) ∈ ⟨.lseek fd, .ok 0⟩ :: (t₂ ++ t₃) →
        r = some a := by
      intro a h
      rcases mem_cons.1 h with he | he
      · cases he
      · rcases mem_append.1 he with he | he
        · cases ha₂.call_eq he
        · exact (ha₃.ok_mem_iff a).1 he
    rcases r with _ | extra
    · refine ensures_pure ⟨by simpa using h₅, by simp, show_iff fun events h => ?_⟩
      obtain ⟨_, -, -, hextra, -⟩ := h.mem
      cases extra_mem _ (by simpa using hextra)
    refine ensures_ite (fun hlen => ensures_pure ⟨by simpa using h₅, by simp,
      show_iff fun events h => ?_⟩) fun hlen => ensures_pure ⟨by simpa using h₅, by simp, ?_⟩
    · obtain ⟨_, -, -, hextra, -⟩ := h.mem
      cases extra_mem _ (by simpa using hextra)
      exact hlen rfl
    obtain rfl : extra = ⟨[], by simp⟩ :=
      Subtype.ext (length_eq_zero_iff.1 (by simpa using hlen))
    intro events
    constructor
    · intro he
      exact ⟨buffer, _, ⟨t₂, t₃, rfl, ha₂, ha₃⟩, by simp, he⟩
    · intro h
      obtain ⟨buffer', -, hread, -, hparse⟩ := h.mem
      simp only [append_nil] at hread
      rcases mem_cons.1 hread with he | he
      · cases he
      rcases mem_append.1 he with he | he
      · cases (ha₂.ok_mem_iff buffer').1 he
        exact hparse
      · cases ha₃.call_eq he
  · exact ⟨by simp [Call.plain], rfl, rfl, .inr e.2⟩
  · intro events h
    obtain ⟨buffer, hseek, -⟩ := h.mem
    cases mem_singleton.1 hseek

theorem calm_readEvents (fuel : Nat) (fd : Int) :
    Within (Calm Call.plain) (bpeReadEvents fuel fd) :=
  fun _ => (readEvents_spec fuel fd).mono fun _ _ _ h => h.1

theorem writeCgroupKill_spec (fd : Int) : Ensures (bpeWriteCgroupKill fd) s fun t b s' =>
    Calm Call.plain s t s' ∧
      (b = false → Fresh s'.errno ∨ ∃ n, ⟨.write fd [49], .ok n⟩ ∈ t ∧ n.val ≠ 1) ∧
      (b → ∃ r, ⟨.write fd [49], r⟩ ∈ t) := by
  refine (sysInterruptible_spec (P := Call.plain) rfl).bind fun t r s₁ ⟨hcalm, hfresh, _, ha⟩ => ?_
  cases r with
  | none => exact ensures_pure ⟨by simpa using hcalm, fun _ => .inl (hfresh rfl), by simp⟩
  | some written =>
    have hmem : ⟨.write fd [49], .ok written⟩ ∈ t ++ [] := by simpa using ha.mem
    -- a write that took no byte fails without an `errno` of its own
    exact ensures_pure ⟨by simpa using hcalm, fun hb => .inr ⟨written, hmem, by simpa using hb⟩,
      fun _ => ⟨_, hmem⟩⟩

/-- `bpe_poll_until` never reports an interruption. -/
theorem pollUntil_spec (fuel : Nat) (fds : List PollFd) (deadline ms : Nat) :
    Ensures (bpePollUntil fuel fds deadline ms) s fun t r s' =>
      Calm Call.plain s t s' ∧ (r = none → Fresh s'.errno ∧ s'.errno ≠ eintr) := by
  refine ensures_iterate (fun _ t s₁ => Calm Call.plain s t s₁) (fun _ t s₁ ht => ?_) fuel
    ((Calm.composes _).refl s)
  refine (calm_deadlinePollMs _ _ s₁).bind fun t₁ timeout s₂ h₁ => ?_
  have h₂ := (Calm.composes _).trans ht h₁
  refine ensures_ite (fun _ => ensures_pure ⟨by simpa using h₂, by simp⟩) fun _ => ?_
  refine (sys_spec (P := Call.plain) rfl).bind fun t₂ r s₃ ⟨hcalm, hfresh, _⟩ => ?_
  have h₃ := (Calm.composes _).trans h₂ hcalm
  cases r with
  | some revents => exact ensures_pure ⟨by simpa using h₃, by simp⟩
  | none =>
    refine bind_getErrno (ensures_ite (fun _ => ensures_pure (by simpa using h₃)) fun hne => ?_)
    exact ensures_pure ⟨by simpa using h₃, fun _ => ⟨hfresh rfl, hne⟩⟩

end Bpe.Launcher
