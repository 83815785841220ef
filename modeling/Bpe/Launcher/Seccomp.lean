import Bpe.Lib.Bpf
import Bpe.Launcher.Contract

/-!
# The seccomp filter and the launcher under it

`seccomp_policy.h` as a classic BPF program with its verdict on every system
call, and the launcher's own calls against it. `Issues` is an effect system
for launcher code: what a function may call is read off its syntax.
-/

namespace Bpe.Launcher

open Native Proc List

/-! ## The filter -/

def auditArchX8664 : BitVec 32 := 0xC000003E
def retKillProcess : BitVec 32 := 0x80000000
def retAllow : BitVec 32 := 0x7FFF0000
def retErrno : BitVec 32 := 0x00050000
def eperm : BitVec 32 := 1

/-- The numbers of `read`, `write`, `close`, `lseek`, `poll`, `ppoll`,
`sendto`, `fcntl`, `clock_gettime`, `pipe2`, `clone3`, `pidfd_send_signal`,
`waitid`, `close_range`, `pause`, `prctl`, `restart_syscall`, `rt_sigreturn`,
`exit` and `exit_group`, in the filter's order. -/
def allowedSyscalls : List (BitVec 32) :=
  [0, 1, 3, 8, 7, 271, 44, 72, 228, 293, 435, 424, 247, 436, 34, 157, 219, 15, 60, 231]

/-- `BPE_INERT_SECCOMP_FILTER`. -/
def seccompFilter : List Bpf.Insn :=
  .ldAbs 4 :: .jeq 1 0 auditArchX8664 :: .ret retKillProcess :: .ldAbs 0 ::
  (allowedSyscalls.flatMap (Bpf.returnOn retAllow) ++ [.ret (retErrno ||| eperm)])

/-- The verdict on a `struct seccomp_data`, given by its word at each offset:
`nr` at 0, `arch` at 4, the instruction pointer and the arguments above. -/
theorem seccompFilter_verdict (data : BitVec 32 → BitVec 32) :
    Bpf.run data seccompFilter 0 = some
      (if data 4 ≠ auditArchX8664 then retKillProcess
       else if data 0 ∈ allowedSyscalls then retAllow else retErrno ||| eperm) := by
  rw [seccompFilter, Bpf.run, Bpf.run]
  by_cases h : data 4 = auditArchX8664
  · rw [if_pos h, if_neg (not_not.2 h), drop_succ_cons, drop_zero, Bpf.run, Bpf.run_returnOn,
      Bpf.run]
    split <;> rfl
  · rw [if_neg h, if_pos h, drop_zero, Bpf.run]

/-! ## The launcher's calls -/

/-- The number of the system call behind a library call. -/
def Call.number : Call → Option (BitVec 32)
  | .read _ _ => some 0
  | .write _ _ => some 1
  | .close _ => some 3
  | .fstat _ => some 5
  | .poll _ _ => some 7
  | .lseek _ => some 8
  | .sigactionSigchld => some 13
  | .sigprocmask => some 14
  | .send _ => some 44
  | .recv _ _ => some 45
  | .getsockname _ => some 51
  | .getpeername _ => some 52
  | .getSoType _ | .getSoAcceptconn _ => some 55
  | .getfd _ | .getfl _ | .setfd _ _ | .setfl _ _ => some 72
  | .fstatfs _ => some 138
  | .setNoNewPrivs | .setSeccomp | .getNoNewPrivs | .getSeccomp => some 157
  | .getdents64 _ _ => some 217
  | .clockGettime => some 228
  | .waitid _ _ => some 247
  | .openProcFd | .openat _ => some 257
  | .pipe2 => some 293
  | .pidfdSendSignal _ _ => some 424
  | .clone3 _ => some 435
  | .sigemptyset => none

/-- What may be called with the filter in force, or without it: nothing that
the filter denies, and no `clone3`. -/
def Call.fits (installed : Bool) (c : Call) : Bool :=
  if installed then c.number.all (allowedSyscalls.contains ·) else c.number != some 435

/-- Whether the filter is in force after `e`; `none` when `e` does not fit. -/
def watch (installed : Bool) (e : Event Reply) : Option Bool :=
  if e.1.fits installed then some (installed || (e.1 == .setSeccomp && e.2.isOk)) else none

def Call.keeps (installed : Bool) (c : Call) : Bool := c.fits installed && c != .setSeccomp

theorem watch_of_keeps {b : Bool} {t : Trace} (h : ∀ e ∈ t, e.1.keeps b) :
    t.foldlM watch b = some b := by
  induction t with
  | nil => rfl
  | cons e t ih =>
    obtain ⟨hfits, hne⟩ : e.1.fits b ∧ e.1 ≠ .setSeccomp := by
      simpa [Call.keeps] using h e mem_cons_self
    have he : watch b e = some b := by simp [watch, hfits, hne]
    rw [foldlM_cons, he]
    exact ih fun e' he' => h e' (mem_cons_of_mem e he')

/-! ## Effects -/

/-- Code that issues only calls in `P`. -/
inductive Issues (P : Call → Bool) : {α : Type} → LM α → Prop where
  | sys {c : Call} : P c → Issues P (sys c)
  | pure {α : Type} {a : α} : Issues P (pure a)
  | get : Issues P get
  | modify {g : LState → LState} : Issues P (modify g)
  | ite {α : Type} {c : Prop} [Decidable c] {m m' : LM α} :
      Issues P m → Issues P m' → Issues P (if c then m else m')
  | iterate {ι β : Type} {body : ι → LM (ι ⊕ β)} {n : Nat} {i : ι} :
      (∀ i, Issues P (body i)) → Issues P (Proc.iterate n body i)
  | option {α β : Type} {m : LM (Option α)} {f : Option α → LM β} :
      Issues P m → Issues P (f none) → (∀ a, Issues P (f (some a))) → Issues P (m >>= f)
  | bind {α β : Type} {m : LM α} {f : α → LM β} :
      Issues P m → (∀ a, Issues P (f a)) → Issues P (m >>= f)

theorem Issues.sound {P : Call → Bool} {α : Type} {m : LM α} (h : Issues P m) :
    Within (fun _ t _ => ∀ e ∈ t, P e.1) m := by
  have hP : Composes fun (_ : LState) (t : Trace) (_ : LState) => ∀ e ∈ t, P e.1 :=
    ⟨by simp, fun h h' e he => (mem_append.1 he).elim (h e) (h' e)⟩
  induction h with
  | sys hc => exact fun s => (calm_sys hc s).mono fun _ _ _ h => h.calls
  | pure => exact within_pure hP _
  | get => exact fun s => ensures_get (by simp)
  | modify => exact fun s => ensures_modify (by simp)
  | ite _ _ h h' => exact within_ite h h'
  | iterate _ h => exact within_iterate hP h _ _
  | option _ _ _ h h₀ h₁ => exact h.bind hP fun a => by cases a <;> simp only [h₀, h₁]
  | bind _ _ h h' => exact h.bind hP h'

/-- The filter's state goes from `b` to one in `Q`, and every call fits. -/
def Safe {α : Type} (b : Bool) (m : LM α) (Q : α → Bool → Prop) : Prop :=
  ∀ s, Ensures m s fun t r _ => ∃ b', t.foldlM watch b = some b' ∧ Q r b'

section

variable {b : Bool} {α β : Type} {m : LM α} {f : α → LM β} {P : α → Bool → Prop}
  {Q : β → Bool → Prop}

theorem Issues.safe (h : Issues (Call.keeps b) m) (hP : ∀ r, P r b) : Safe b m P :=
  fun s => (h.sound s).mono fun _ r _ ht => ⟨b, watch_of_keeps ht, hP r⟩

theorem safe_pure {a : α} (h : P a b) : Safe b (pure a) P :=
  fun _ => ensures_pure ⟨b, rfl, h⟩

theorem Safe.bind (hm : Safe b m P) (hf : ∀ r b', P r b' → Safe b' (f r) Q) :
    Safe b (m >>= f) Q := by
  refine fun s => (hm s).bind fun t r s₁ ⟨b₁, h, hr⟩ => ?_
  refine (hf r b₁ hr s₁).mono fun t' _ _ ⟨b', h', hq⟩ => ⟨b', ?_, hq⟩
  rw [foldlM_append, h]
  exact h'

theorem Issues.bind_safe (hm : Issues (Call.keeps b) m) (hf : ∀ r, Safe b (f r) Q) :
    Safe b (m >>= f) Q :=
  (hm.safe (P := fun _ b' => b' = b) fun _ => rfl).bind fun r _ hb => hb ▸ hf r

end

/-- A `true` answer means that the filter is in force. -/
def Armed (r b : Bool) : Prop := r = true → b = true

theorem armed_false {b : Bool} : Armed false b := by simp [Armed]

theorem Issues.armed {x y : LM Bool} (hx : Issues (Call.keeps false) x)
    (hy : Safe false y Armed) : Safe false (x <&&> y) Armed := by
  refine hx.bind_safe fun r => ?_
  cases r with
  | true => exact hy
  | false => exact safe_pure armed_false

theorem safe_installSeccomp : Safe false bpeInstallSeccomp Armed := by
  refine Issues.bind_safe (.sys rfl) fun r => ?_
  cases r with
  | none => exact safe_pure armed_false
  | some _ =>
    refine fun s => ensures_sys_bind (fun u => ?_) fun e => ?_
    · refine (Issues.sound (P := Call.keeps true) ?_ s).mono fun t r _ ht =>
        ⟨true, watch_of_keeps ht, fun _ => rfl⟩
      repeat' first | rfl | with_reducible constructor | intro _
    · exact ensures_pure ⟨false, rfl, armed_false⟩

theorem safe_confine : Safe false confine Armed := by
  refine (Issues.armed ?_ safe_installSeccomp).bind fun r b h => ?_
  -- The walk over the code: a rule for each construct, and `rfl` at each call.
  · repeat' first | rfl | with_reducible constructor | intro _ | constructor
  cases r with
  | true => exact safe_pure h
  | false => exact fun s => bind_getErrno (bind_modify (ensures_pure ⟨b, rfl, armed_false⟩))

variable {fuel : Nat} {args : LaunchArgs}

theorem safe_mainHello : Safe false (mainHello fuel args) Armed := by
  refine Issues.armed ?_ (Issues.armed ?_ (Issues.armed ?_ (Issues.armed ?_
    (safe_confine.bind fun r b h => ?_))))
  case refine_5 =>
    cases r with
    | false => exact safe_pure armed_false
    | true =>
      rw [h rfl]
      refine Issues.safe ?_ fun _ _ => rfl
      repeat' first | rfl | with_reducible constructor | intro _ | constructor
  all_goals repeat' first | rfl | with_reducible constructor | intro _ | split | constructor

theorem safe_mainBody : Safe false (mainBody fuel args) fun _ _ => True := by
  refine safe_mainHello.bind fun r b h => ?_
  cases r with
  | false => exact safe_pure trivial
  | true =>
    rw [h rfl]
    refine Issues.safe ?_ fun _ => trivial
    repeat' first | rfl | with_reducible constructor | intro _ | split | constructor

theorem safe_main : Safe false (main fuel args) fun _ _ => True := by
  refine Issues.bind_safe ?_ fun r => ?_
  · repeat' first | rfl | with_reducible constructor | intro _ | constructor
  cases r with
  | none => exact safe_pure trivial
  | some startedNs =>
    refine Issues.bind_safe .modify fun _ => safe_mainBody.bind fun r b _ => ?_
    refine Issues.safe ?_ fun _ => trivial
    cases b
    all_goals repeat' first | rfl | with_reducible constructor | intro _ | split | constructor

/-- In every run the filter allows every call after its installation, and no
child is created before it. -/
theorem launcher_confined {t : Trace} {code : NativeExitCode} {s : LState}
    (h : LauncherRuns args t code s) : ∃ b, t.foldlM watch false = some b := by
  obtain ⟨fuel, h⟩ := h
  obtain ⟨b, hb, -⟩ := safe_main {} t code s h
  exact ⟨b, hb⟩

theorem launcher_confined_success : ∃ b, successTrace.foldlM watch false = some b := by
  obtain ⟨s, h⟩ := successTrace_runs
  exact launcher_confined h

end Bpe.Launcher
