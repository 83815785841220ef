import Bpe.Launcher.Grammar

/-!
# Runs that exist

The specifications so far say what every run of the launcher does. Here
replies are chosen instead: `Yields m s frames a s'` says that some replies
take `m` from `s` to the result `a` in `s'`, with `frames` delivered. A
stretch whose tests are on fixed values is a recorded trace that is replayed;
the others are built from their parts.
-/

namespace Bpe.Launcher

open Bpe.Native Proc

/-- Some replies make `m` deliver `frames` and return `a` in state `s'`, every
record being sent whole. -/
def Yields {α : Type} (m : LM α) (s : LState) (frames : List (List UInt8)) (a : α) (s' : LState) :
    Prop :=
  ∃ t, Runs m s t a s' ∧ delivered t = frames ∧ WholeSends t

section Rules

variable {α β ι : Type} {m : LM α} {f : α → LM β} {s s₁ s₂ : LState} {a : α} {b : β}
  {fr fr' : List (List UInt8)}

theorem yields_replay (t : Trace) (h : (m s).replay t = some (a, s₁))
    (hw : t.all wholeSend = true) : Yields m s (delivered t) a s₁ :=
  ⟨t, Prog.runs_of_replay h, rfl, hw⟩

theorem yields_pure (a : α) (s : LState) : Yields (pure a) s [] a s :=
  ⟨[], runs_pure a s, rfl, rfl⟩

theorem Yields.bind (h : Yields m s fr a s₁) (h' : Yields (f a) s₁ fr' b s₂) :
    Yields (m >>= f) s (fr ++ fr') b s₂ := by
  obtain ⟨t, hr, rfl, hw⟩ := h
  obtain ⟨t', hr', rfl, hw'⟩ := h'
  exact ⟨t ++ t', hr.bind hr', delivered_append t t', (wholeSends_append _ _).2 ⟨hw, hw'⟩⟩

/-- A part that delivers nothing, then the rest. -/
theorem Yields.then (h : Yields m s [] a s₁) (h' : Yields (f a) s₁ fr b s₂) :
    Yields (m >>= f) s fr b s₂ := h.bind h'

/-- A part that delivers, then a rest that does not. -/
theorem Yields.last (h : Yields m s fr a s₁) (h' : Yields (f a) s₁ [] b s₂) :
    Yields (m >>= f) s fr b s₂ := by
  simpa using h.bind h'

theorem yields_getErrno {f : Nat → LM β} (h : Yields (f s.errno) s fr b s₁) :
    Yields (getErrno >>= f) s fr b s₁ :=
  Yields.then ⟨[], .ret _, rfl, rfl⟩ h

theorem yields_getRt {f : Runtime → LM β} (h : Yields (f s.rt) s fr b s₁) :
    Yields (getRt >>= f) s fr b s₁ :=
  Yields.then ⟨[], .ret _, rfl, rfl⟩ h

theorem yields_modify {g : LState → LState} {f : PUnit → LM β} (h : Yields (f ⟨⟩) (g s) fr b s₁) :
    Yields (modify g >>= f) s fr b s₁ :=
  Yields.then ⟨[], .ret _, rfl, rfl⟩ h

theorem yields_modifyRt {g : Runtime → Runtime} {f : Unit → LM β}
    (h : Yields (f ()) { s with rt := g s.rt } fr b s₁) : Yields (modifyRt g >>= f) s fr b s₁ :=
  yields_modify h

theorem yields_setErrno {e : Nat} {f : Unit → LM β}
    (h : Yields (f ()) { s with errno := e } fr b s₁) : Yields (setErrno e >>= f) s fr b s₁ :=
  yields_modify h

theorem yields_fail {stage : NativeStage} {reason : NativeReason} {e err : Nat} {rt : Runtime} :
    Yields (bpeSetFailure stage reason e >>= fun _ => pure a) ⟨err, rt, {}⟩ [] a
      ⟨err, rt, ⟨some stage, reason, e⟩⟩ :=
  ⟨[], .ret _, rfl, rfl⟩

/-- The failure is recorded with the current `errno`. -/
theorem yields_fail_errno {stage : NativeStage} {reason : NativeReason} {err : Nat} {rt : Runtime} :
    Yields (getErrno >>= fun e => bpeSetFailure stage reason e >>= fun _ => pure a) ⟨err, rt, {}⟩ []
      a ⟨err, rt, ⟨some stage, reason, err⟩⟩ :=
  yields_getErrno yields_fail

theorem zero_or_errno {e : Nat} (he : e ≤ protocolMaxErrno) : e = 0 ∨ ∃ e' : Errno, e'.val = e := by
  by_cases h0 : e = 0
  · exact .inl h0
  · exact .inr ⟨⟨e, by omega, he⟩, rfl⟩

theorem Yields.andM {x y : LM Bool} {b : Bool} (h : Yields x s fr true s₁)
    (h' : Yields y s₁ fr' b s₂) : Yields (x <&&> y) s (fr ++ fr') b s₂ := h.bind h'

theorem Yields.andM_false {x y : LM Bool} (h : Yields x s fr false s₁) :
    Yields (x <&&> y) s fr false s₁ := by
  obtain ⟨t, hr, rfl, hw⟩ := h
  exact ⟨t, runs_andM_false hr, rfl, hw⟩

theorem yields_ite_pos {c : Prop} [Decidable c] {m₁ m₂ : LM α} (hc : c) (h : Yields m₁ s fr a s₁) :
    Yields (if c then m₁ else m₂) s fr a s₁ := by rwa [if_pos hc]

theorem yields_ite_neg {c : Prop} [Decidable c] {m₁ m₂ : LM α} (hc : ¬ c)
    (h : Yields m₂ s fr a s₁) : Yields (if c then m₁ else m₂) s fr a s₁ := by rwa [if_neg hc]

theorem yields_done {body : ι → LM (ι ⊕ β)} {i : ι} (n : Nat)
    (h : Yields (body i) s fr (.inr b) s₁) : Yields (iterate (n + 1) body i) s fr b s₁ := by
  obtain ⟨t, hr, rfl, hw⟩ := h
  exact ⟨t, runs_iterate_done n hr, rfl, hw⟩

theorem yields_next {body : ι → LM (ι ⊕ β)} {i : ι} {n : Nat} (j : ι) (s₁ : LState)
    (h : Yields (body i) s [] (.inl j) s₁) (h' : Yields (iterate n body j) s₁ fr b s₂) :
    Yields (iterate (n + 1) body i) s fr b s₂ := by
  obtain ⟨t, hr, hd, hw⟩ := h
  obtain ⟨t', hr', rfl, hw'⟩ := h'
  exact ⟨t ++ t', runs_iterate_next hr hr', by rw [delivered_append, hd]; rfl,
    (wholeSends_append _ _).2 ⟨hw, hw'⟩⟩

end Rules

/-! ## Calls -/

def Call.sends : Call → Bool
  | .send _ => true
  | _ => false

section Calls

variable {c : Call} {s : LState}

theorem yields_sys (r : c.Ok) (hc : c.sends = false) : Yields (sys c) s [] (some r) s := by
  refine ⟨_, runs_sys_ok r s, ?_, ?_⟩ <;> cases c <;> first | rfl | cases hc

theorem yields_sys_error (e : Errno) : Yields (sys c) s [] none { s with errno := e } := by
  refine ⟨_, runs_sys_error e s, ?_, ?_⟩ <;> cases c <;> rfl

theorem yields_retry {fr : List (List UInt8)} {r : c.Ok} (n : Nat)
    (h : Yields (sys c) s fr (some r) s) : Yields (retryInterrupted c n) s fr (some r) s := by
  cases n with
  | zero => exact h
  | succ n => exact h.last (yields_pure (some r) s)

/-- Every attempt fails with the same `errno`. -/
theorem yields_retry_error (e : Errno) (n : Nat) :
    Yields (retryInterrupted c n) s [] none { s with errno := e } := by
  induction n generalizing s with
  | zero => exact yields_sys_error e
  | succ n ih =>
    refine (yields_sys_error e).then (yields_getErrno ?_)
    by_cases h : e.val = eintr
    · exact yields_ite_pos h ih
    · exact yields_ite_neg h (yields_pure none _)

theorem yields_interruptible {fr : List (List UInt8)} {r : c.Ok}
    (h : Yields (sys c) s fr (some r) s) : Yields (sysInterruptible c) s fr (some r) s :=
  yields_retry 7 h

theorem yields_interruptible_error (e : Errno) :
    Yields (sysInterruptible c) s [] none { s with errno := e } :=
  yields_retry_error e 7

theorem yields_uninterrupted (fuel : Nat) {r : c.Ok} (h : Yields (sys c) s [] (some r) s) :
    Yields (sysUninterrupted (fuel + 1) c) s [] (some r) s :=
  yields_done fuel (h.last (yields_pure _ s))

end Calls

/-! ## The clock -/

section Clock

variable (s : LState)

theorem yields_monotonicNs (now : Nat) (h : now < 2 ^ 64) :
    Yields bpeMonotonicNs s [] (some now) s := by
  refine (yields_sys (c := .clockGettime) ⟨(now / nsPerSec : Nat), (now % nsPerSec : Nat)⟩
    rfl).then ?_
  have hsec : now / nsPerSec ≤ uint64Max / nsPerSec :=
    Nat.div_le_div_right (by unfold uint64Max; omega)
  have hnsec : now % nsPerSec < nsPerSec := Nat.mod_lt _ (by decide)
  have hnonneg : (0 : Int) ≤ (now / nsPerSec : Nat) := Int.natCast_nonneg _
  refine yields_ite_neg ?_ ?_
  · simp only [not_or, not_lt, not_le, ge_iff_le, gt_iff_lt]
    exact ⟨hnonneg, Int.natCast_nonneg _, by exact_mod_cast hnsec, by exact_mod_cast hsec⟩
  have hback : (now / nsPerSec * nsPerSec + now % nsPerSec) % 2 ^ 64 = now := by
    rw [Nat.div_add_mod', Nat.mod_eq_of_lt h]
  dsimp only
  rw [Int.toNat_natCast, Int.toNat_natCast, hback]
  exact yields_pure _ _

theorem yields_monotonicNs_none : Yields bpeMonotonicNs s [] none s :=
  yields_replay [⟨.clockGettime, .ok ⟨-1, 0⟩⟩] rfl rfl

theorem yields_deadlineAfterMs {milliseconds : Nat} (h : milliseconds ≤ 30000) :
    Yields (bpeDeadlineAfterMs milliseconds) s [] (some (milliseconds * nsPerMs)) s := by
  refine (yields_monotonicNs s 0 (by decide)).then (yields_ite_neg ?_ (yields_ite_neg ?_ ?_))
  · rw [show uint64Max / nsPerMs = 18446744073709 by decide]; omega
  · omega
  · rw [Nat.zero_add]; exact yields_pure _ _

/-- Time is left: the clock reads zero. -/
theorem yields_deadlinePollMs (deadline : Nat) {maximumMs : Nat} (hd : 0 < deadline)
    (hlt : deadline < 2 ^ 63) (hm : 0 < maximumMs) : ∃ timeout, 0 < timeout ∧
      Yields (bpeDeadlinePollMs deadline maximumMs) s [] timeout s := by
  have hms : 0 < (deadline - 0 + 999999) % 2 ^ 64 / nsPerMs := by
    rw [Nat.mod_eq_of_lt (by omega)]
    exact Nat.div_pos (by unfold nsPerMs; omega) (by decide)
  refine ⟨_, ?_, (yields_monotonicNs s 0 (by decide)).then (yields_ite_neg (by omega)
    (yields_pure _ _))⟩
  split <;> assumption

theorem yields_deadlinePollMs_zero (deadline maximumMs : Nat) :
    Yields (bpeDeadlinePollMs deadline maximumMs) s [] 0 s :=
  (yields_monotonicNs_none s).then (yields_pure 0 s)

end Clock

/-! ## Startup -/

/-- A `getdents64` entry for a one-digit descriptor. -/
def fdDirent (digit : UInt8) : List UInt8 :=
  List.replicate 16 0 ++ [24, 0, 0, digit, 0, 0, 0, 0]

/-- `/proc/self/fd` with the descriptors 0 to 5. -/
def fdDirents : List UInt8 := [48, 49, 50, 51, 52, 53].flatMap fdDirent

/-- The text `populated 0` or `populated 1` and a newline. -/
def populatedText (digit : UInt8) : List UInt8 := populatedKey ++ [digit, 10]

section Startup

variable (s : LState) (err : Nat) (rt : Runtime)

theorem yields_stdio : Yields (bpeValidateStdioFd 0 oRdonly <&&> bpeValidateStdioFd 1 oWronly <&&>
    bpeValidateStdioFd 2 oWronly) s [] true s :=
  yields_replay [⟨.fstat 0, .ok ⟨.chr, 1, 3⟩⟩, ⟨.getfd 0, .ok (0 : Nat)⟩, ⟨.getfl 0, .ok (0 : Nat)⟩,
    ⟨.fstat 1, .ok ⟨.chr, 1, 3⟩⟩, ⟨.getfd 1, .ok (0 : Nat)⟩, ⟨.getfl 1, .ok (1 : Nat)⟩,
    ⟨.fstat 2, .ok ⟨.chr, 1, 3⟩⟩, ⟨.getfd 2, .ok (0 : Nat)⟩, ⟨.getfl 2, .ok (1 : Nat)⟩] rfl rfl

theorem yields_control : Yields bpeValidateControlFd s [] true
    { s with errno := eagain, rt := { s.rt with controlUsable := true } } :=
  yields_replay [⟨.getfd 3, .ok (0 : Nat)⟩, ⟨.getfl 3, .ok (2 : Nat)⟩,
    ⟨.getSoType 3, .ok ((5 : Int), (4 : Nat))⟩, ⟨.getSoAcceptconn 3, .ok ((0 : Int), (4 : Nat))⟩,
    ⟨.getsockname 3, .ok ((1 : Nat), (2 : Nat))⟩, ⟨.getpeername 3, .ok ((1 : Nat), (2 : Nat))⟩,
    ⟨.recv 3 1, .error ⟨eagain, by decide⟩⟩, ⟨.setfd 3 1, .ok ()⟩, ⟨.setfl 3 0x802, .ok ()⟩] rfl rfl

theorem yields_cgroup : Yields bpeValidateCgroupFd s [] true
    { s with rt := { s.rt with cgroupUsable := true } } :=
  yields_replay [⟨.getfd 4, .ok (0 : Nat)⟩, ⟨.getfl 4, .ok (0 : Nat)⟩, ⟨.fstat 4, .ok ⟨.dir, 0, 0⟩⟩,
    ⟨.fstatfs 4, .ok cgroup2SuperMagic⟩, ⟨.setfd 4 1, .ok ()⟩] rfl rfl

theorem yields_cgroup_error (e : Errno) :
    Yields bpeValidateCgroupFd s [] false { s with errno := e } :=
  yields_replay [⟨.getfd 4, .error e⟩, ⟨.getfl 4, .ok (0 : Nat)⟩] rfl rfl

theorem scanDirents_fdDirents : scanDirents (fdDirents.length + 1) fdDirents 0 = some 0x3f := by
  decide +kernel

theorem yields_scanProcFd (fuel deadline : Nat) (hd : 0 < deadline) (hlt : deadline < 2 ^ 63) :
    Yields (scanProcFd (fuel + 2) 5 deadline) s [] (true, 0) s := by
  obtain ⟨timeout, hpos, hpoll⟩ := yields_deadlinePollMs s deadline hd hlt (show 0 < 1 by decide)
  have hread : ∀ (bs : List UInt8) (h : bs.length ≤ 4096),
      Yields (sysInterruptible (.getdents64 5 procFdBufferSize)) s [] (some ⟨bs, h⟩) s :=
    fun bs h => yields_interruptible (yields_sys (c := .getdents64 5 4096) ⟨bs, h⟩ rfl)
  refine yields_next 0x3f s ((hread fdDirents (by decide +kernel)).then
    (yields_ite_neg (by decide +kernel) ?_)) (yields_done fuel ?_)
  · dsimp only
    rw [scanDirents_fdDirents]
    exact hpoll.then (yields_ite_neg (by omega) (yields_pure _ _))
  · exact (hread [] (by decide)).then (yields_pure _ _)

theorem yields_noExtraFds (fuel : Nat) : Yields (bpeValidateNoExtraFds (fuel + 2)) s [] true s := by
  have hdir : Yields (procFdDirectory 5) s [] true s :=
    yields_replay [⟨.fstat 5, .ok ⟨.dir, 0, 0⟩⟩, ⟨.fstatfs 5, .ok procSuperMagic⟩] rfl rfl
  refine (yields_deadlineAfterMs s (by decide)).then ?_
  refine (yields_sys (c := .openProcFd) (5 : Nat) rfl).then ?_
  refine hdir.then ((yields_scanProcFd s fuel _ (by decide) (by decide)).then ?_)
  exact yields_replay [⟨.close 5, .ok ()⟩] rfl rfl

/-- `/proc/self/fd` is opened as another descriptor. -/
theorem yields_noExtraFds_layout (fuel : Nat) : Yields (bpeValidateNoExtraFds fuel) ⟨err, rt, {}⟩ []
    false ⟨err, rt, ⟨some .descriptorValidation, .badDescriptorLayout, 0⟩⟩ :=
  yields_replay [⟨.clockGettime, .ok ⟨0, 0⟩⟩, ⟨.openProcFd, .ok (6 : Nat)⟩, ⟨.close 6, .ok ()⟩]
    rfl rfl

theorem yields_noExtraFds_error (fuel : Nat) (e : Errno) :
    Yields (bpeValidateNoExtraFds fuel) ⟨err, rt, {}⟩ [] false
      ⟨e, rt, ⟨some .descriptorValidation, .badDescriptorLayout, e⟩⟩ :=
  yields_replay [⟨.clockGettime, .error e⟩] rfl rfl

theorem yields_startupFds (fuel : Nat) : Yields (bpeValidateStartupFds (fuel + 2)) s [] true
    { s with
      errno := eagain
      rt := { s.rt with controlUsable := true, cgroupUsable := true } } := by
  refine (yields_stdio s).then (yields_ite_neg (by decide) ?_)
  refine (yields_control _).then (yields_ite_neg (by decide) ?_)
  refine (yields_cgroup _).then (yields_ite_neg (by decide) ?_)
  exact yields_noExtraFds _ fuel

theorem yields_startupFds_cgroup (fuel : Nat) (e : Errno) :
    Yields (bpeValidateStartupFds fuel) ⟨err, rt, {}⟩ [] false
      ⟨e, { rt with controlUsable := true },
        ⟨some .descriptorValidation, .badCgroupDescriptor, e⟩⟩ := by
  refine (yields_stdio _).then (yields_ite_neg (by decide) ?_)
  refine (yields_control _).then (yields_ite_neg (by decide) ?_)
  refine (yields_cgroup_error _ e).then (yields_ite_pos (by decide) (yields_getErrno ?_))
  exact yields_fail

/-- The descriptor layout is rejected, with any `errno`. -/
theorem yields_startupFds_layout (fuel : Nat) {e : Nat} (he : e ≤ protocolMaxErrno) : ∃ err',
    Yields (bpeValidateStartupFds fuel) ⟨err, rt, {}⟩ [] false
      ⟨err', { rt with controlUsable := true, cgroupUsable := true },
        ⟨some .descriptorValidation, .badDescriptorLayout, e⟩⟩ := by
  have hscan : ∃ err', Yields (bpeValidateNoExtraFds fuel)
      ⟨eagain, { rt with controlUsable := true, cgroupUsable := true }, {}⟩ [] false
      ⟨err', { rt with controlUsable := true, cgroupUsable := true },
        ⟨some .descriptorValidation, .badDescriptorLayout, e⟩⟩ := by
    obtain rfl | ⟨e, rfl⟩ := zero_or_errno he
    · exact ⟨_, yields_noExtraFds_layout _ _ fuel⟩
    · exact ⟨_, yields_noExtraFds_error _ _ fuel e⟩
  obtain ⟨err', hscan⟩ := hscan
  refine ⟨err', (yields_stdio _).then (yields_ite_neg (by decide) ?_)⟩
  refine (yields_control _).then (yields_ite_neg (by decide) ?_)
  exact (yields_cgroup _).then (yields_ite_neg (by decide) hscan)

/-! ### Cgroup files -/

theorem yields_openCgroupFiles : Yields bpeOpenCgroupFiles s [] true
    { s with rt := { s.rt with eventsFd := 5, killFd := 6, procsFd := 7 } } :=
  yields_replay [⟨.openat .events, .ok (5 : Nat)⟩, ⟨.fstat 5, .ok ⟨.reg, 0, 0⟩⟩,
    ⟨.openat .kill, .ok (6 : Nat)⟩, ⟨.fstat 6, .ok ⟨.reg, 0, 0⟩⟩,
    ⟨.openat .procs, .ok (7 : Nat)⟩, ⟨.fstat 7, .ok ⟨.reg, 0, 0⟩⟩] rfl rfl

theorem yields_openCgroupFiles_error (e : Errno) : Yields bpeOpenCgroupFiles ⟨err, rt, {}⟩ [] false
    ⟨e, { rt with eventsFd := -1 }, ⟨some .cgroupValidation, .badCgroupDescriptor, e⟩⟩ :=
  yields_replay [⟨.openat .events, .error e⟩] rfl rfl

theorem parseEvents_populatedText : ∀ populated : Bool,
    bpeParseEvents (populatedText (if populated then 49 else 48)) =
      some { populated := if populated then 1 else 0 } := by
  decide

theorem yields_readEvents (fuel : Nat) (fd : Int) (populated : Bool) :
    Yields (bpeReadEvents (fuel + 1) fd) s []
      (some { populated := if populated then 1 else 0 }) s := by
  have hlen : (populatedText (if populated then 49 else 48)).length = 12 := by
    cases populated <;> rfl
  refine (yields_sys (c := .lseek fd) (0 : Nat) rfl).then (yields_ite_neg (fun h => h rfl) ?_)
  refine (yields_interruptible (yields_sys (c := .read fd 128)
    ⟨populatedText (if populated then 49 else 48), by omega⟩ rfl)).then (yields_ite_neg ?_ ?_)
  · dsimp only; omega
  refine (yields_uninterrupted fuel (yields_sys (c := .read fd 1) ⟨[], by decide⟩ rfl)).then
    (yields_ite_neg (by decide) ?_)
  dsimp only
  rw [parseEvents_populatedText]
  exact yields_pure _ _

/-- The file is read whole at once and is empty: not a failed call. -/
theorem yields_readEvents_empty (fuel : Nat) (fd : Int) :
    Yields (bpeReadEvents fuel fd) s [] none s := by
  refine (yields_sys (c := .lseek fd) (0 : Nat) rfl).then (yields_ite_neg (fun h => h rfl) ?_)
  exact (yields_interruptible (yields_sys (c := .read fd 128) ⟨[], by decide⟩ rfl)).then
    (yields_pure _ _)

theorem yields_readEvents_error (fuel : Nat) (fd : Int) (e : Errno) :
    Yields (bpeReadEvents fuel fd) s [] none { s with errno := e } :=
  (yields_sys_error (c := .lseek fd) e).then (yields_pure _ _)

theorem yields_readProcs_empty (fuel : Nat) (fd expectedPid : Int) (hpid : 0 ≤ expectedPid) :
    Yields (bpeReadProcsExact fuel fd expectedPid) s []
      (if expectedPid = 0 then .matched else .mismatch) { s with errno := 0 } := by
  refine yields_ite_neg (by omega) ((yields_sys (c := .lseek fd) (0 : Nat) rfl).then
    (yields_ite_neg (fun h => h rfl) ?_))
  refine (yields_interruptible (yields_sys (c := .read fd 64) ⟨[], by decide⟩ rfl)).then ?_
  exact yields_setErrno (yields_pure _ _)

theorem yields_cgroupEmpty (fuel : Nat) : Yields (checkCgroupEmpty (fuel + 1)) s [] true
    { s with errno := 0 } := by
  refine yields_getRt ((yields_readEvents s fuel _ false).then (yields_getRt ?_))
  refine (yields_readProcs_empty s _ _ 0 (by decide)).then (yields_ite_neg (by decide) ?_)
  exact yields_ite_neg (by decide) (yields_pure _ _)

theorem yields_cgroupEmpty_populated (fuel : Nat) : Yields (checkCgroupEmpty (fuel + 1))
    ⟨err, rt, {}⟩ [] false ⟨0, rt, ⟨some .cgroupValidation, .cgroupNotEmpty, 0⟩⟩ := by
  refine yields_getRt ((yields_readEvents _ fuel _ true).then (yields_getRt ?_))
  refine (yields_readProcs_empty _ _ _ 0 (by decide)).then (yields_ite_neg (by decide) ?_)
  exact yields_ite_pos (by decide) yields_fail

/-! ### Confinement and HELLO -/

theorem yields_confine : Yields confine s [] true s :=
  yields_replay [⟨.sigemptyset, .ok ()⟩, ⟨.sigactionSigchld, .ok ()⟩, ⟨.sigemptyset, .ok ()⟩,
    ⟨.sigprocmask, .ok ()⟩, ⟨.setNoNewPrivs, .ok ()⟩, ⟨.setSeccomp, .ok ()⟩,
    ⟨.getNoNewPrivs, .ok (1 : Nat)⟩, ⟨.getSeccomp, .ok (2 : Nat)⟩] rfl rfl

theorem yields_confine_fails {e : Nat} (he : e ≤ protocolMaxErrno) : ∃ err',
    Yields confine ⟨0, rt, {}⟩ [] false ⟨err', rt, ⟨some .startup, .internal, e⟩⟩ := by
  obtain rfl | ⟨e, rfl⟩ := zero_or_errno he
  · exact ⟨0, yields_replay [⟨.sigemptyset, .ok ()⟩, ⟨.sigactionSigchld, .ok ()⟩,
      ⟨.sigemptyset, .ok ()⟩, ⟨.sigprocmask, .ok ()⟩, ⟨.setNoNewPrivs, .ok ()⟩,
      ⟨.setSeccomp, .ok ()⟩, ⟨.getNoNewPrivs, .ok (0 : Nat)⟩] rfl rfl⟩
  · exact ⟨e, yields_replay [⟨.sigemptyset, .error e⟩] rfl rfl⟩

end Startup

section Emit

variable {s : LState}

theorem yields_sendRecord (frame : List UInt8) : Yields (sendRecord frame) s [frame] true s := by
  have hsend : Yields (sysInterruptible (.send frame)) s [frame] (some ⟨frame.length, le_rfl⟩) s :=
    yields_interruptible ⟨_, runs_sys_ok _ s, by simp [delivered], by simp [WholeSends, wholeSend]⟩
  refine hsend.last ?_
  dsimp only
  rw [decide_eq_true rfl]
  exact yields_pure _ _

theorem yields_emitFrame (hctl : s.rt.controlUsable = true) (hpeer : s.rt.peerOpen = true)
    (hseq : s.rt.sequence < protocolMaxFrames) (type : NativeFrameType) (status : NativeStatus)
    (stage : NativeStage) (reason : NativeReason) (e v₀ v₁ : Nat) :
    Yields (bpeEmitFrame type status (some stage) reason e v₀ v₁) s
      [InertNativeFrame.encode ⟨type, s.rt.sequence, status, stage, reason, e, v₀, v₁⟩] true
      { s with rt := { s.rt with sequence := s.rt.sequence + 1 } } := by
  refine yields_getRt (yields_ite_neg ?_ ?_)
  · simp [hctl, hpeer]; omega
  exact (yields_sendRecord _).last (yields_modifyRt (yields_pure _ _))

theorem yields_emitSuccess (hctl : s.rt.controlUsable = true) (hpeer : s.rt.peerOpen = true)
    (hseq : s.rt.sequence < protocolMaxFrames) (type : NativeFrameType) (stage : NativeStage)
    (v₀ v₁ : Nat) :
    Yields (emitSuccess type stage v₀ v₁) s
      [InertNativeFrame.encode ⟨type, s.rt.sequence, .ok, stage, .none, 0, v₀, v₁⟩] true
      { s with rt := { s.rt with sequence := s.rt.sequence + 1 } } :=
  Yields.last (yields_emitFrame hctl hpeer hseq type .ok stage .none 0 v₀ v₁) (yields_pure _ _)

theorem yields_emitSuccess_error {err : Nat} {rt : Runtime} (hctl : rt.controlUsable = true)
    (hpeer : rt.peerOpen = true) (hseq : rt.sequence < protocolMaxFrames) (type : NativeFrameType)
    (stage : NativeStage) (v₀ v₁ : Nat) (e : Errno) :
    Yields (emitSuccess type stage v₀ v₁) ⟨err, rt, {}⟩ [] false
      ⟨e, rt, ⟨some .protocol, .ioFailure, e⟩⟩ := by
  have hsend : Yields (bpeEmitFrame type .ok (some stage) .none 0 v₀ v₁) ⟨err, rt, {}⟩ [] false
      ⟨e, rt, {}⟩ := by
    refine yields_getRt (yields_ite_neg ?_ ?_)
    · simp [hctl, hpeer]; omega
    have hsend : Yields (sendRecord (bpeInertEncodeFrame type.code rt.sequence NativeStatus.ok.code
        stage.code NativeReason.none.code 0 v₀ v₁)) ⟨err, rt, {}⟩ [] false ⟨e, rt, {}⟩ :=
      (yields_interruptible_error e).then (yields_pure _ _)
    exact hsend.then (yields_pure _ _)
  exact hsend.then yields_fail_errno

end Emit

/-! ## Up to HELLO -/

def soleArgs (launcherPid : Pid) : LaunchArgs := ⟨1, some [launcherArgv0], some [], launcherPid⟩

section Hello

variable (pid : Pid)

theorem yields_checkArguments (s : LState) :
    Yields (checkArguments (soleArgs pid)) s [] true s := by
  have : checkArguments (soleArgs pid) = pure true := by
    simp [checkArguments, soleArgs]
  rw [this]
  exact yields_pure _ _

theorem yields_mainHello (fuel : Nat) : Yields (mainHello (fuel + 2) (soleArgs pid))
    ⟨0, startRt 0, {}⟩ (successRecords pid.val 0 1) true ⟨0, setupRt 0 1, {}⟩ := by
  refine (yields_checkArguments pid _).andM ((yields_startupFds _ fuel).andM
    ((yields_openCgroupFiles _).andM ((yields_cgroupEmpty _ (fuel + 1)).andM
    ((yields_confine _).andM ?_))))
  exact yields_emitSuccess rfl rfl (by decide) _ _ _ _

end Hello

end Bpe.Launcher
