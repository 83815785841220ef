import Bpe.Orchestration.Collect

/-!
# Whom a wait signals

`_wait_launcher_resilient` signals the launcher's PID only while the launcher
holds it. What it does is read off the calls it has issued: the replies to its
`waitpid` calls, and how often it has called `kill`.

A pass whose wait found the launcher gone reads the clock before it returns. An
exception there hides what the wait found from `_wait_launcher_resilient`, which
then makes a second pass over a PID that may be another's. `ClockKept` excludes
it: the clock does not fail once the last wait found the launcher gone.
-/

namespace Bpe.Orchestration

open Models Native List Routine

def waited? : Event Reply → Option (Except InertError (Int × Int))
  | ⟨.waitpid _, r⟩ => some r
  | _ => none

def waits (h : List (Event Reply)) : List (Except InertError (Int × Int)) :=
  h.filterMap waited?

def isKill : Event Reply → Bool
  | ⟨.kill _, _⟩ => true
  | _ => false

def kills (h : List (Event Reply)) : Nat := h.countP isKill

/-- The reply says that the child is gone: its status, or `ECHILD`. -/
def Gone (pid : Int) (r : Except InertError (Int × Int)) : Prop :=
  (∃ code, r = .ok (pid, code)) ∨ ∃ errno, r = .error (.component (.os .childProcess errno))

/-- `waitpid` returns no zero after it returned the child's PID. -/
def ReapIsFinal (pid : Int) (replies : List (Except InertError (Int × Int))) : Prop :=
  replies.Pairwise fun r r' => ∀ code code', r = .ok (pid, code) → r' ≠ .ok (0, code')

/-- The clock does not fail once the last wait found the launcher gone. -/
def ClockKept (pid : Int) (t : List (Event Reply)) : Prop :=
  ∀ t₁ e t₂, t = t₁ ++ ⟨.monotonicNs, .error e⟩ :: t₂ →
    ∀ r, (waits t₁).getLast? = some r → ¬ Gone pid r

/-- No wait found the launcher gone, unless a failing clock hid it. -/
def Clean (w : WaitArgs) (h : List (Event Reply)) : Prop :=
  ClockKept w.pid h → ∀ r ∈ waits h, ¬ Gone w.pid r

variable {h h' t : List (Event Reply)} {w : WaitArgs} {l l' : WaitLocals} {n : Nat}

theorem ClockKept.of_append {pid : Int} (hclock : ClockKept pid (h ++ t)) : ClockKept pid h :=
  fun t₁ e t₂ hsplit => hclock t₁ e (t₂ ++ t) (by simp [hsplit])

theorem waits_append : waits (h ++ t) = waits h ++ waits t := filterMap_append

theorem kills_append : kills (h ++ t) = kills h + kills t := countP_append

theorem waits_snoc (pid : Int) (r : Except InertError (Int × Int)) :
    waits (h ++ [⟨.waitpid pid, r⟩]) = waits h ++ [r] := waits_append

theorem getLast?_waits_snoc (pid : Int) (r : Except InertError (Int × Int)) :
    (waits (h ++ [⟨.waitpid pid, r⟩])).getLast? = some r := by
  rw [waits_snoc, getLast?_concat]

theorem kills_waitpid (pid : Int) (r : Except InertError (Int × Int)) :
    kills (h ++ [⟨.waitpid pid, r⟩]) = kills h := kills_append

theorem kills_kill (pid : Int) (r : Reply (.kill pid)) :
    kills (h ++ [⟨.kill pid, r⟩]) = kills h + 1 := kills_append

theorem waits_kill (pid : Int) (r : Reply (.kill pid)) :
    waits (h ++ [⟨.kill pid, r⟩]) = waits h := waits_append.trans (append_nil _)

theorem Clean.append (hclean : Clean w h) (hwaits : waits (h ++ t) = waits h) :
    Clean w (h ++ t) := by
  intro hclock
  rw [hwaits]
  exact hclean hclock.of_append

theorem Clean.snoc (hclean : Clean w h) {r : Except InertError (Int × Int)} (hr : ¬ Gone w.pid r) :
    Clean w (h ++ [⟨.waitpid w.pid, r⟩]) := by
  intro hclock r' hr'
  rw [waits_snoc] at hr'
  rcases mem_append.1 hr' with hr' | hr'
  · exact hclean hclock.of_append r' hr'
  · rw [mem_singleton.1 hr']
    exact hr

/-! ## Calls that neither wait nor signal -/

def Call.Still : Call → Prop
  | .waitpid _ | .kill _ => False
  | .monotonicNs | .sleep => True

/-- The history grew by calls that neither wait nor signal. -/
def Grew (h h' : List (Event Reply)) : Prop := ∃ t, h' = h ++ t ∧ ∀ v ∈ t, v.1.Still

theorem Grew.waits_eq (hg : Grew h h') : waits h' = waits h := by
  obtain ⟨t, rfl, ht⟩ := hg
  have hnil : waits t = [] := by
    refine filterMap_eq_nil_iff.2 fun v hv => ?_
    obtain ⟨c, r⟩ := v
    have hc := ht _ hv
    cases c <;> first | rfl | exact hc.elim
  rw [waits_append, hnil, append_nil]

theorem Grew.kills_eq (hg : Grew h h') : kills h' = kills h := by
  obtain ⟨t, rfl, ht⟩ := hg
  have hzero : kills t = 0 := by
    refine countP_eq_zero.2 fun v hv => ?_
    obtain ⟨c, r⟩ := v
    have hc := ht _ hv
    cases c <;> first | exact Bool.false_ne_true | exact hc.elim
  rw [kills_append, hzero, Nat.add_zero]

theorem Grew.clean (hg : Grew h h') (hclean : Clean w h) : Clean w h' := by
  have hwaits := hg.waits_eq
  obtain ⟨t, rfl, -⟩ := hg
  exact hclean.append hwaits

theorem Grew.clockKept {pid : Int} (hg : Grew h h') (hclock : ClockKept pid h') :
    ClockKept pid h := by
  obtain ⟨t, rfl, -⟩ := hg
  exact hclock.of_append

theorem grew_clock (r : Reply .monotonicNs) : Grew h (h ++ [⟨.monotonicNs, r⟩]) :=
  ⟨_, rfl, fun v hv => by rw [mem_singleton.1 hv]; trivial⟩

/-- The last call read the clock and raised. -/
def ClockFailed (h : List (Event Reply)) : Prop := ∃ h₀ e, h = h₀ ++ [⟨.monotonicNs, .error e⟩]

/-- A clock that fails after a wait found the launcher gone hides it. -/
theorem ClockFailed.clean (hfailed : ClockFailed h') (hg : Grew h h')
    {r : Except InertError (Int × Int)} (hlast : (waits h).getLast? = some r)
    (hgone : Gone w.pid r) : Clean w h' := by
  intro hclock
  have hwaits := hg.waits_eq
  obtain ⟨h₀, e, rfl⟩ := hfailed
  rw [(grew_clock _).waits_eq] at hwaits
  exact absurd hgone (hclock h₀ e [] rfl r (hwaits ▸ hlast))

theorem ensureCleanupDeadline_still :
    Routine.Guards (fun _ c => c.Still)
      (fun _ _ l' => l'.terminationAttempted = l.terminationAttempted)
      (fun h' _ _ => ClockFailed h') h l (ensureCleanupDeadline w) := by
  unfold ensureCleanupDeadline
  refine guards_bind.2 (guards_get.2 ?_)
  split
  · exact guards_pure.2 rfl
  · refine guards_bind.2 ((guards_perform (c := Call.monotonicNs)).2
      ⟨trivial, fun (now : Int) => ?_, fun e => ⟨_, e, rfl⟩⟩)
    exact guards_bind.2 (guards_assign.2 (guards_pure.2 rfl))

theorem unreaped_still (waitErrno : Option Int) :
    Routine.Guards (fun _ c => c.Still)
      (fun _ o _ => o.launcherReaped = false ∧ o.waitErrno = waitErrno)
      (fun h' _ _ => ClockFailed h') h l (unreaped w waitErrno) := by
  unfold unreaped
  refine guards_bind.2 (ensureCleanupDeadline_still.mono (fun _ d l₁ _ => ?_)
    fun _ _ _ he => he)
  refine guards_bind.2 ((guards_perform (c := Call.monotonicNs)).2
    ⟨trivial, fun (now : Int) => ?_, fun e => ⟨_, e, rfl⟩⟩)
  exact guards_bind.2 (guards_get.2 ⟨rfl, rfl⟩)

theorem reaped_still (returncode : Int) :
    Routine.Guards (fun _ c => c.Still)
      (fun _ o _ => o.launcherReaped ∧ o.returncode = some returncode)
      (fun h' _ _ => ClockFailed h') h l (reaped w returncode) := by
  unfold reaped
  refine guards_bind.2 ((guards_perform (c := Call.monotonicNs)).2
    ⟨trivial, fun (now : Int) => ?_, fun e => ⟨_, e, rfl⟩⟩)
  refine guards_bind.2 (ensureCleanupDeadline_still.mono (fun _ d l₁ _ => ?_)
    fun _ _ _ he => he)
  exact guards_bind.2 (guards_get.2 ⟨rfl, rfl⟩)

theorem awaitLauncher_still (now : Int) :
    Routine.Guards (fun _ c => c.Still)
      (fun _ x l' => l'.terminationAttempted = l.terminationAttempted ∧
        ∀ o, x = .inr o → o.launcherReaped = false)
      (fun _ _ _ => True) h l (awaitLauncher w now) := by
  unfold awaitLauncher
  refine guards_bind.2 (guards_get.2 (guards_ite.2
    ⟨fun _ => ?_, fun _ => ?_⟩))
  · refine guards_bind.2 (ensureCleanupDeadline_still.mono (fun _ d l₁ hl₁ => ?_)
      fun _ _ _ _ => trivial)
    refine guards_bind.2 (guards_get.2 (guards_pure.2 ⟨hl₁, fun o ho => ?_⟩))
    cases ho
    rfl
  · refine guards_bind.2 (guards_perform.2 ⟨trivial, fun _ => ?_, fun _ => trivial⟩)
    exact guards_pure.2 ⟨rfl, fun o ho => by cases ho⟩

/-! ## A pass -/

/-- A call of the wait signals the launcher only where the last wait found it
running and no wait found it gone. -/
def Signals (w : WaitArgs) (h : List (Event Reply)) (c : Call) : Prop :=
  ∀ pid, c = .kill pid → pid = w.pid ∧ w.pid ≠ 0 ∧ kills h < 2 ∧ Clean w h ∧
    ∃ code, (waits h).getLast? = some (.ok (0, code))

theorem signals_of_still {c : Call} (hc : c.Still) : Signals w h c :=
  fun pid hpid => (hpid ▸ hc : (Call.kill pid).Still).elim

/-- A stretch of calls that neither wait nor signal, as part of a wait. -/
theorem guards_still {σ α : Type} {m : Body σ α} {s : σ} {Q : List (Event Reply) → α → σ → Prop}
    {E : List (Event Reply) → InertError → σ → Prop}
    (hm : Routine.Guards (fun _ c => c.Still) Q E h s m) :
    Routine.Guards (Signals w) (fun h' a s' => Q h' a s' ∧ Grew h h')
      (fun h' e s' => E h' e s' ∧ Grew h h') h s m :=
  hm.frame.imp (fun _ _ hc => signals_of_still hc) (fun _ _ _ hq => hq) fun _ _ _ he => he

/-- A pass that ends by an exception, begun after `n` signals. -/
def Raised (w : WaitArgs) (n : Nat) (h : List (Event Reply)) : Prop :=
  kills h ≤ n + 1 ∧ Clean w h

/-- A pass that goes on: one signal at most, and none before it is recorded. -/
structure Polling (w : WaitArgs) (n : Nat) (h : List (Event Reply)) (l : WaitLocals) : Prop where
  bound : kills h ≤ n + 1
  unsent : l.terminationAttempted = false → kills h ≤ n
  clean : Clean w h

theorem Polling.raised (hl : Polling w n h l) : Raised w n h := ⟨hl.bound, hl.clean⟩

theorem Raised.grew (hr : Raised w n h) (hg : Grew h h') : Raised w n h' :=
  ⟨hg.kills_eq ▸ hr.1, hg.clean hr.2⟩

theorem Polling.grew (hl : Polling w n h l) (hg : Grew h h')
    (hflag : l'.terminationAttempted = l.terminationAttempted) : Polling w n h' l' :=
  ⟨hg.kills_eq ▸ hl.bound, fun hf => hg.kills_eq ▸ hl.unsent (hflag ▸ hf), hg.clean hl.clean⟩

theorem terminate_signals (hn : n < 2) (hpid : w.pid ≠ 0) (hkills : kills h ≤ n)
    (hclean : Clean w h) {code : Int} (hlast : (waits h).getLast? = some (.ok (0, code))) :
    Routine.Guards (Signals w) (fun h' _ l' => Polling w n h' l') (fun h' _ _ => Raised w n h')
      h l (terminate w) := by
  unfold terminate
  refine guards_bind.2 ((guards_still ensureCleanupDeadline_still).mono
    (fun h₁ d l₁ hl₁ => ?_) fun h₁ _ _ he => ?_)
  · have hg := hl₁.2
    have hsame := hg.kills_eq
    refine guards_bind.2 (guards_assign.2 ?_)
    have hafter : ∀ r, Raised w n (h₁ ++ [⟨.kill w.pid, r⟩]) := fun r =>
      ⟨by rw [kills_kill, hsame]; omega, (hg.clean hclean).append (waits_kill _ _)⟩
    have hsent : ∀ r {l' : WaitLocals}, l'.terminationAttempted = true →
        Polling w n (h₁ ++ [⟨.kill w.pid, r⟩]) l' := fun r l' hflag =>
      ⟨(hafter r).1, fun hf => (by rw [hflag] at hf; cases hf), (hafter r).2⟩
    refine guards_bind.2 (guards_bind.2 (guards_attempt.2
      (guards_perform.2 ⟨fun pid hc => ?_, fun _ => ?_, fun e => ?_⟩)))
    · cases hc
      exact ⟨rfl, hpid, by omega, hg.clean hclean, code, hg.waits_eq ▸ hlast⟩
    · exact guards_pure.2 (guards_assign.2 (hsent _ rfl))
    · split
      · next heq => cases heq
      · exact guards_pure.2 (guards_assign.2 (hsent _ rfl))
      · exact guards_pure.2 (guards_assign.2 (hsent _ rfl))
      · exact guards_raise.2 (hafter _)
  · exact Raised.grew ⟨by omega, hclean⟩ he.2

theorem awaitLauncher_signals (hl : Polling w n h l) (now : Int) :
    Routine.Guards (Signals w)
      (fun h' x l' => Polling w n h' l' ∧ ∀ o, x = .inr o → o.launcherReaped = false)
      (fun h' _ _ => Raised w n h') h l (awaitLauncher w now) :=
  (guards_still (awaitLauncher_still now)).mono
    (fun _ _ _ hx => ⟨hl.grew hx.2 hx.1.1, hx.1.2⟩) fun _ _ _ he => hl.raised.grew he.2

theorem pollLauncher_signals (hn : n < 2) (hpid : w.pid ≠ 0) (hl : Polling w n h l) {code : Int}
    (hlast : (waits h).getLast? = some (.ok (0, code))) (terminateFirst : Bool) :
    Routine.Guards (Signals w)
      (fun h' x l' => Polling w n h' l' ∧ ∀ o, x = .inr o → o.launcherReaped = false)
      (fun h' _ _ => Raised w n h') h l (pollLauncher w terminateFirst) := by
  unfold pollLauncher
  refine guards_bind.2 ((guards_perform (c := Call.monotonicNs)).2
    ⟨signals_of_still trivial, fun (now : Int) => ?_, fun e => hl.raised.grew (grew_clock _)⟩)
  have hl₁ := hl.grew (grew_clock (.ok now)) rfl
  refine guards_bind.2 (guards_get.2 (guards_bind.2 (guards_when.2
    ⟨fun hterm => ?_, fun _ => awaitLauncher_signals hl₁ now⟩)))
  have hnone : l.terminationAttempted = false := by simpa using hterm.1
  exact (terminate_signals hn hpid (hl₁.unsent hnone) hl₁.clean
    ((grew_clock _).waits_eq ▸ hlast)).mono
    (fun _ _ _ hl₂ => awaitLauncher_signals hl₂ now) fun _ _ _ he => he

/-- The status that a reaped launcher left is the reply to the last wait. -/
def Reports (w : WaitArgs) (h : List (Event Reply)) (o : WaitObservation) : Prop :=
  o.launcherReaped → ∃ front code, waits h = front ++ [.ok (w.pid, code)] ∧
    o.returncode = some code ∧ (ClockKept w.pid h → ∀ r ∈ front, ¬ Gone w.pid r)

/-- A pass that returns: a launcher that it found gone is in its observation. -/
structure Passed (w : WaitArgs) (n : Nat) (h : List (Event Reply)) (o : WaitObservation) :
    Prop where
  bound : kills h ≤ n + 1
  reports : Reports w h o
  gone : Clean w h ∨ o.launcherReaped ∨ o.waitErrno = some echild

theorem passed_of_unreaped {o : WaitObservation} (hbound : kills h ≤ n + 1)
    (hgone : Clean w h ∨ o.waitErrno = some echild) (ho : o.launcherReaped = false) :
    Passed w n h o :=
  ⟨hbound, fun hreaped => (by rw [ho] at hreaped; cases hreaped), hgone.imp_right .inr⟩

/-- What a turn of the loop leaves. -/
def TurnSignals (w : WaitArgs) (n : Nat) (h : List (Event Reply)) (l : WaitLocals) :
    Unit ⊕ WaitObservation → Prop
  | .inl _ => Polling w n h l
  | .inr o => Passed w n h o

/-- A routine that sends only what it may, and ends as a turn does. -/
abbrev GuardsTurn (w : WaitArgs) (n : Nat) (h : List (Event Reply)) (l : WaitLocals)
    (m : Body WaitLocals (Unit ⊕ WaitObservation)) : Prop :=
  Routine.Guards (Signals w) (fun h' x l' => TurnSignals w n h' l' x) (fun h' _ _ => Raised w n h')
    h l m

theorem unreaped_signals (hraised : Raised w n h) (errno : Option Int) :
    GuardsTurn w n h l (Sum.inr <$> unreaped w errno) :=
  guards_map.2 ((guards_still (unreaped_still errno)).mono
    (fun _ _ _ ho => passed_of_unreaped (hraised.grew ho.2).1 (.inl (hraised.grew ho.2).2) ho.1.1)
    fun _ _ _ he => hraised.grew he.2)

/-- The launcher is gone: the observation says so, or the clock failed. -/
theorem lost_signals (hbound : kills h ≤ n + 1) {r : Except InertError (Int × Int)}
    (hlast : (waits h).getLast? = some r) (hgone : Gone w.pid r) :
    GuardsTurn w n h l (Sum.inr <$> unreaped w (some echild)) :=
  guards_map.2 ((guards_still (unreaped_still _)).mono
    (fun _ _ _ ho => passed_of_unreaped (ho.2.kills_eq ▸ hbound) (.inr ho.1.2) ho.1.1)
    fun _ _ _ he => ⟨he.2.kills_eq ▸ hbound, he.1.clean he.2 hlast hgone⟩)

theorem reaped_signals (hl : Polling w n h l) (code : Int) :
    GuardsTurn w n (h ++ [⟨.waitpid w.pid, .ok (w.pid, code)⟩]) l
      (Sum.inr <$> reaped w code) := by
  have hbound : kills (h ++ [⟨.waitpid w.pid, .ok (w.pid, code)⟩]) ≤ n + 1 :=
    (kills_waitpid _ _).trans_le hl.bound
  refine guards_map.2 ((guards_still (reaped_still code)).mono (fun h' o _ ho => ?_)
    fun _ _ _ he => ⟨he.2.kills_eq ▸ hbound,
      he.1.clean he.2 (getLast?_waits_snoc _ _) (.inl ⟨code, rfl⟩)⟩)
  obtain ⟨⟨hreaped, hcode⟩, hg⟩ := ho
  refine ⟨hg.kills_eq ▸ hbound, fun _ => ⟨waits h, code, ?_, hcode, fun hclock => ?_⟩,
    .inr (.inl hreaped)⟩
  · exact hg.waits_eq.trans (waits_snoc _ _)
  · exact hl.clean (hg.clockKept hclock).of_append

theorem waitOnce_signals (hn : n < 2) (hl : Polling w n h l) (terminateFirst : Bool) :
    GuardsTurn w n h l (waitOnce w terminateFirst) := by
  -- A wait that did not find the launcher gone leaves the pass as it was.
  have hl₁ : ∀ r : Except InertError (Int × Int), ¬ Gone w.pid r →
      Polling w n (h ++ [⟨.waitpid w.pid, r⟩]) l := fun r hr =>
    ⟨(kills_waitpid _ _).trans_le hl.bound, fun hf => (kills_waitpid _ _).trans_le (hl.unsent hf),
      hl.clean.snoc hr⟩
  have hother : ∀ {waited code : Int}, waited ≠ w.pid → ¬ Gone w.pid (.ok (waited, code)) := by
    rintro waited code hne (⟨_, heq⟩ | ⟨_, heq⟩)
    · cases heq
      exact hne rfl
    · cases heq
  unfold waitOnce
  refine guards_bind.2 (guards_attempt.2 ((guards_perform (c := Call.waitpid w.pid)).2
    ⟨fun pid hc => (by cases hc), fun (x : Int × Int) => ?_, fun e => ?_⟩))
  · obtain ⟨waited, returncode⟩ := x
    refine guards_ite.2 ⟨fun hpid => ?_, fun hne => ?_⟩
    · subst hpid
      exact reaped_signals hl returncode
    · have hl₂ := hl₁ (.ok (waited, returncode)) (hother hne)
      refine guards_ite.2 ⟨fun _ => unreaped_signals hl₂.raised _, fun hzero => ?_⟩
      have hzero : waited = 0 := by simpa using hzero
      have hpid : w.pid ≠ 0 := fun h => hne (hzero.trans h.symm)
      subst hzero
      refine (pollLauncher_signals hn hpid hl₂ (getLast?_waits_snoc _ _) terminateFirst).mono
        (fun _ x l' hx => ?_) fun _ _ _ he => he
      cases x with
      | inl _ => exact hx.1
      | inr o => exact passed_of_unreaped hx.1.bound (.inl hx.1.clean) (hx.2 o rfl)
  · split
    · next heq =>
      cases heq
      exact lost_signals ((kills_waitpid _ _).trans_le hl.bound) (getLast?_waits_snoc _ _)
        (.inr ⟨_, rfl⟩)
    · next kind errno hnot heq =>
      cases heq
      have hl₂ := hl₁ (.error (.component (.os kind errno))) (by
        rintro (⟨_, heq⟩ | ⟨_, heq⟩)
        · cases heq
        · cases heq
          exact hnot rfl)
      exact guards_ite.2 ⟨fun _ => guards_pure.2 hl₂, fun _ => unreaped_signals hl₂.raised _⟩
    · next hnot _ heq =>
      cases heq
      refine guards_raise.2 (hl₁ (.error e) ?_).raised
      rintro (⟨_, heq⟩ | ⟨_, heq⟩)
      · cases heq
      · cases heq
        exact hnot _ rfl
    · next heq => cases heq

theorem waitPass_signals (fuel : Nat) {window : Option Int} (hn : n < 2) (hkills : kills h ≤ n)
    (hclean : Clean w h) (terminateFirst : Bool) :
    Routine.Guards (Signals w) (fun h' x _ => match x with
        | .ok o => Passed w n h' o
        | .error _ => Raised w n h') (fun _ _ _ => False)
      h window (waitPass fuel w terminateFirst) := by
  have hloop : Routine.Guards (Signals w) (fun h' o _ => Passed w n h' o)
      (fun h' _ _ => Raised w n h') h { windowNs := window }
      (waitLauncher fuel w terminateFirst) := by
    refine guards_loop (fun h _ l => Polling w n h l) (fun h _ l hl => ?_) fuel
      ⟨by omega, fun _ => hkills, hclean⟩
    refine (waitOnce_signals hn hl terminateFirst).mono (fun _ x l' hx => ?_) fun _ _ _ he => he
    cases x with
    | inl _ => exact hx
    | inr o => exact hx
  unfold waitPass
  refine guards_bind.2 (guards_get.2 (guards_bind.2 (guards_nested.2
    (hloop.mono (fun _ o _ ho => ?_) fun _ e _ he => ?_))))
  · exact guards_bind.2 (guards_assign.2 (guards_pure.2 ho))
  · exact guards_bind.2 (guards_assign.2 (guards_pure.2 he))

/-! ## Both passes -/

theorem openCleanupWindow_still {window : Option Int} (errno : Option Int) :
    Routine.Guards (fun _ c => c.Still) (fun _ _ _ => True) (fun _ _ _ => False) h window
      (openCleanupWindow w errno) := by
  unfold openCleanupWindow
  refine guards_bind.2 (guards_get.2 ?_)
  split
  · exact guards_pure.2 trivial
  · refine guards_bind.2 (guards_attempt.2 ((guards_perform
      (c := Call.monotonicNs)).2 ⟨trivial, fun (now : Int) => ?_, fun e => ?_⟩))
    · exact guards_bind.2 (guards_assign.2 (guards_pure.2 trivial))
    · exact guards_bind.2 (guards_assign.2 (guards_pure.2 trivial))

theorem waitAgain_signals (fuel : Nat) {window : Option Int} (hraised : Raised w 0 h)
    {first : Option WaitObservation} (hfirst : ∀ o ∈ first, o.launcherReaped = false)
    (errno : Option Int) :
    Routine.Guards (Signals w) (fun h' x _ => ∀ o ∈ x.1, Reports w h' o)
      (fun _ _ _ => False) h window (waitAgain fuel w first errno) := by
  unfold waitAgain
  refine guards_bind.2 ((guards_still (openCleanupWindow_still errno)).mono
    (fun h₁ _ _ h₁' => ?_) fun _ _ _ he => he.1)
  have hraised₁ := hraised.grew h₁'.2
  refine guards_bind.2 ((waitPass_signals fuel (by decide : 1 < 2) hraised₁.1 hraised₁.2
    true).mono (fun _ x _ hx => ?_) fun _ _ _ he => he)
  cases x with
  | error e =>
    refine guards_pure.2 fun o ho hreaped => ?_
    rw [hfirst o ho] at hreaped
    cases hreaped
  | ok second =>
    cases first with
    | none => exact guards_pure.2 fun o ho => by cases ho; exact hx.reports
    | some first => exact guards_pure.2 fun o ho => by cases ho; exact hx.reports

/-- What `_wait_launcher_resilient` does, whatever it is replied. -/
theorem waitLauncherResilient_signals (fuel : Nat) (window : Option Int) (terminateFirst : Bool) :
    Routine.Guards (Signals w) (fun h' x _ => ∀ o ∈ x.1, Reports w h' o)
      (fun _ _ _ => False) [] window (waitLauncherResilient fuel w terminateFirst) := by
  have hclean : Clean w [] := fun _ _ hr => by cases hr
  unfold waitLauncherResilient
  refine guards_bind.2 ((waitPass_signals fuel (by decide : 0 < 2) (le_refl _) hclean
    terminateFirst).mono (fun _ x _ hx => ?_) fun _ _ _ he => he)
  cases x with
  | error e => exact waitAgain_signals fuel hx (by simp) _
  | ok first =>
    refine guards_ite.2 ⟨fun _ => ?_, fun hnot => ?_⟩
    · exact guards_pure.2 fun o ho => by cases ho; exact hx.reports
    · -- A second pass follows only an observation of a launcher that is not gone.
      simp only [Bool.or_eq_true, beq_iff_eq, not_or] at hnot
      have hclean₁ := hx.gone.resolve_right (not_or.2 hnot)
      refine waitAgain_signals fuel ⟨hx.bound, hclean₁⟩ (fun o ho => ?_) _
      cases ho
      simpa using hnot.1

/-! ## Every interruption point -/

/-- Calls of which each signal is issued after fewer than two others hold at most
two signals. -/
theorem kills_le_two (ht : ∀ t₁ pid r t₂, t = t₁ ++ ⟨.kill pid, r⟩ :: t₂ → kills t₁ < 2) :
    kills t ≤ 2 := by
  induction t using reverseRecOn with
  | nil => exact Nat.zero_le _
  | append_singleton t v ih =>
    by_cases hv : isKill v
    · obtain ⟨c, r⟩ := v
      cases c <;> cases hv
      rw [kills_kill]
      exact ht t _ r [] rfl
    · rw [kills_append, show kills [v] = 0 from countP_eq_zero.2 (by simpa using hv)]
      exact ih fun t₁ pid r t₂ hsplit => ht t₁ pid r (t₂ ++ [v]) (by simp [hsplit])

/-- Where the last wait found the launcher running, no earlier one reaped it. -/
theorem ReapIsFinal.running {pid code : Int} {replies : List (Except InertError (Int × Int))}
    (hk : ReapIsFinal pid replies) (hpid : pid ≠ 0)
    (hlast : replies.getLast? = some (.ok (0, code))) : ∀ code', .ok (pid, code') ∉ replies := by
  obtain ⟨front, rfl⟩ := getLast?_eq_some_iff.1 hlast
  intro code' hmem
  rcases mem_append.1 hmem with hfront | hmem
  · exact (pairwise_append.1 hk).2.2 _ hfront _ (mem_singleton_self _) code' code rfl rfl
  · cases mem_singleton.1 hmem
    exact hpid rfl

/-- `_wait_launcher_resilient` signals the launcher only where its last `waitpid`
returned zero and at most twice; where the clock does not fail once a wait found
the launcher gone, it signals no launcher that was reaped or lost, and a reaped
launcher was reaped by one `waitpid`, which gave its status. A kernel that returns
no zero after a reap suffices for no signal after a reap. -/
theorem waitLauncherResilient_pidSafe (fuel : Nat) (w : WaitArgs) (terminateFirst : Bool)
    (window : Option Int) {t : List (Event Reply)}
    {q : Prog Call Reply (Except InertError WaitOutcome × Option Int)}
    (hr : Prog.Reaches (waitLauncherResilient fuel w terminateFirst window) t q) :
    (∀ t₁ pid r t₂, t = t₁ ++ ⟨.kill pid, r⟩ :: t₂ →
      pid = w.pid ∧ (∃ code, (waits t₁).getLast? = some (.ok (0, code))) ∧
        (ClockKept w.pid t₁ → ∀ reply ∈ waits t₁, ¬ Gone w.pid reply) ∧
        (ReapIsFinal w.pid (waits t₁) → ∀ code, .ok (w.pid, code) ∉ waits t₁)) ∧
    kills t ≤ 2 ∧
    ∀ x window', q = .ret (.ok x, window') → ∀ o ∈ x.1, o.launcherReaped →
      ∃ front code, waits t = front ++ [.ok (w.pid, code)] ∧ o.returncode = some code ∧
        (ClockKept w.pid t → ∀ code', .ok (w.pid, code') ∉ front) := by
  have hguards := waitLauncherResilient_signals (w := w) fuel window terminateFirst
  have hissued : ∀ t₁ pid r t₂, t = t₁ ++ ⟨.kill pid, r⟩ :: t₂ → Signals w t₁ (.kill pid) := by
    rintro t₁ pid r t₂ rfl
    exact Prog.Guards.issued hr hguards
  refine ⟨fun t₁ pid r t₂ hsplit => ?_, ?_, fun x window' hret o ho hreaped => ?_⟩
  · obtain ⟨rfl, hpid, -, hclean, code, hlast⟩ := hissued t₁ pid r t₂ hsplit pid rfl
    exact ⟨rfl, ⟨code, hlast⟩, hclean, fun hk => hk.running hpid hlast⟩
  · exact kills_le_two fun t₁ pid r t₂ hsplit => (hissued t₁ pid r t₂ hsplit pid rfl).2.2.1
  · have hend := Prog.Guards.reaches hr hguards
    rw [hret] at hend
    obtain ⟨front, code, hwaits, hcode, hfront⟩ := hend o ho hreaped
    exact ⟨front, code, hwaits, hcode, fun hclock code' hmem =>
      hfront hclock _ hmem (.inl ⟨code', rfl⟩)⟩

def sampleWait : WaitArgs :=
  { pid := 7, exitDeadlineNs := 10, overallDeadlineNs := 100, cleanupTimeoutMs := 5000 }

/-- An interrupt ends the first pass after its signal; the second pass signals
again and reaps. -/
def interruptedWait : List (Event Reply) :=
  [⟨.waitpid 7, .ok (0, 0)⟩, ⟨.monotonicNs, .ok (1 : Int)⟩, ⟨.monotonicNs, .ok (2 : Int)⟩,
    ⟨.kill 7, .ok ()⟩, ⟨.sleep, .error (.component (.other "KeyboardInterrupt" none))⟩,
    ⟨.waitpid 7, .ok (0, 0)⟩, ⟨.monotonicNs, .ok (3 : Int)⟩, ⟨.kill 7, .ok ()⟩,
    ⟨.sleep, .ok ()⟩, ⟨.waitpid 7, .ok (7, -9)⟩, ⟨.monotonicNs, .ok (4 : Int)⟩]

def interruptedOutcome : WaitOutcome :=
  (some { returncode := some (-9), launcherReaped := true, terminationAttempted := true
          terminationSignalSent := true, terminationErrno := none, waitErrno := none
          cleanupDeadlineNs := 100, exitDeadlineExceeded := false }, true, none)

theorem waitLauncherResilient_pidSafe_interrupted :
    Prog.Reaches (waitLauncherResilient 2 sampleWait true none) interruptedWait
      (.ret (.ok interruptedOutcome, some 100)) ∧
    ClockKept 7 interruptedWait ∧ kills interruptedWait = 2 ∧
    (∀ t₁ pid r t₂, interruptedWait = t₁ ++ ⟨.kill pid, r⟩ :: t₂ →
      ClockKept 7 t₁ → ∀ reply ∈ waits t₁, ¬ Gone 7 reply) ∧
    ∃ front code, waits interruptedWait = front ++ [.ok (7, code)] ∧ some (-9) = some code ∧
      ∀ code', .ok (7, code') ∉ front := by
  have hreaches : Prog.Reaches (waitLauncherResilient 2 sampleWait true none) interruptedWait
      (.ret (.ok interruptedOutcome, some 100)) :=
    .call _ (.call _ (.call _ (.call _ (.call _ (.call _ (.call _ (.call _ (.call _ (.call _
      (.call _ (.refl _)))))))))))
  have hclock : ClockKept 7 interruptedWait := by
    intro t₁ e t₂ hsplit
    have hmem : (⟨.monotonicNs, .error e⟩ : Event Reply) ∈ interruptedWait :=
      hsplit ▸ mem_append_right _ mem_cons_self
    simp [interruptedWait] at hmem
  obtain ⟨hkill, -, hreaped⟩ := waitLauncherResilient_pidSafe 2 sampleWait true none hreaches
  obtain ⟨front, code, hwaits, hcode, hfront⟩ := hreaped _ _ rfl _ rfl rfl
  exact ⟨hreaches, hclock, rfl, fun t₁ pid r t₂ hsplit => (hkill t₁ pid r t₂ hsplit).2.2.1,
    front, code, hwaits, hcode, hfront hclock⟩

/-- The launcher is lost, and an interrupt at the clock hides it; the second pass
finds another child under the PID. -/
def lostWait : List (Event Reply) :=
  [⟨.waitpid 7, .error (.component (.os .childProcess (some echild)))⟩,
    ⟨.monotonicNs, .error (.component (.other "KeyboardInterrupt" none))⟩,
    ⟨.monotonicNs, .ok (1 : Int)⟩, ⟨.waitpid 7, .ok (0, 0)⟩, ⟨.monotonicNs, .ok (2 : Int)⟩,
    ⟨.kill 7, .ok ()⟩, ⟨.sleep, .ok ()⟩, ⟨.waitpid 7, .ok (7, -9)⟩, ⟨.monotonicNs, .ok (3 : Int)⟩]

/-- `_wait_launcher_resilient` signals a PID after `ECHILD`. -/
theorem lostLauncher_signalled :
    Prog.Reaches (waitLauncherResilient 2 sampleWait false none) lostWait
      (.ret (.ok interruptedOutcome, some 100)) ∧
    ReapIsFinal 7 (waits lostWait) ∧
    ∃ t₁ r t₂, lostWait = t₁ ++ ⟨.kill 7, r⟩ :: t₂ ∧
      .error (.component (.os .childProcess (some echild))) ∈ waits t₁ := by
  refine ⟨.call _ (.call _ (.call _ (.call _ (.call _ (.call _ (.call _ (.call _ (.call _
    (.refl _))))))))), ?_, lostWait.take 5, .ok (), lostWait.drop 6, rfl, mem_cons_self⟩
  show ReapIsFinal 7 [.error (.component (.os .childProcess (some echild))), .ok (0, 0),
    .ok (7, -9)]
  simp [ReapIsFinal]

end Bpe.Orchestration
