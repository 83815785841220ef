import Bpe.Native.Transcript
import Bpe.Launcher.Cleanup

/-!
# Points of `main` and the failures raised at them

Once the child exists, a point of `main` is given by the number of success
frames emitted and the achieved mask: the runtime record is then `liveRt`.
`raiseTable` is the abstract launcher: the failures that can be recorded at
each point. `AtFail` is what holds at the label `fail`.
-/

namespace Bpe.Launcher

open Bpe.Native Proc

variable {s s₁ s' : LState} {t t' : Trace} {sites sites' : List Site}

/-! ## Traces -/

/-- The children `clone3` created, with their pidfds. -/
def created (t : Trace) : List (Nat × Nat) :=
  t.filterMap fun
    | ⟨.clone3 _, .ok (child, pidfd)⟩ => some (child.val.val, pidfd)
    | _ => none

@[simp] theorem created_append (t t' : Trace) : created (t ++ t') = created t ++ created t' := by
  simp [created]

theorem created_eq_nil (h : ∀ e ∈ t, Call.early e.1) : created t = [] := by
  rw [created, List.filterMap_eq_nil_iff]
  rintro ⟨c, r⟩ he
  have := h _ he
  cases c <;> first | rfl | simp [Call.early] at this

theorem created_steady (h : ∀ e ∈ t, Call.steady e.1) : created t = [] :=
  created_eq_nil fun e he => Call.early_of_steady (h e he)

/-- The results of the closes of one descriptor, in order. -/
def closeResults (fd : Int) (t : Trace) : List Bool :=
  t.filterMap fun
    | ⟨.close fd', r⟩ => if fd' = fd then some r.isOk else none
    | _ => none

@[simp] theorem closeResults_append (fd : Int) (t t' : Trace) :
    closeResults fd (t ++ t') = closeResults fd t ++ closeResults fd t' := by
  simp [closeResults]

theorem closeResults_eq_nil (fd : Int) (h : ∀ e ∈ t, Call.steady e.1) : closeResults fd t = [] := by
  rw [closeResults, List.filterMap_eq_nil_iff]
  rintro ⟨c, r⟩ he
  have := h _ he
  cases c <;> first | rfl | simp [Call.steady] at this

/-- The last close issued for the descriptor succeeded. -/
def LastCloseOk (fd : Int) (t : Trace) : Prop := (closeResults fd t).getLast? = some true

/-- Calls that neither open nor close leave the last close as it was. -/
theorem LastCloseOk.steady {fd : Int} (h : LastCloseOk fd t) (hs : ∀ e ∈ t', Call.steady e.1) :
    LastCloseOk fd (t ++ t') := by
  rw [LastCloseOk, closeResults_append, closeResults_eq_nil fd hs, List.append_nil]
  exact h

/-! ## Live points -/

/-- The runtime record of a live child, after `sequence` frames. -/
def liveRt (startedNs child sequence achieved : Nat) : Runtime :=
  { setupRt startedNs sequence with
    readyReadFd := 8, pidfd := 10, childPid := child, childCreated := true, achieved }

/-- `main` stands at a point with a live child. -/
structure Live (args : LaunchArgs) (n child k mask : Nat) (t : Trace) (s : LState) : Prop where
  rt : s.rt = liveRt n child k mask
  failure : Clear s
  delivered : delivered t = successRecords args.launcherPid.val child k
  created : created t = [(child, 10)]
  opened : opened t = [5, 6, 7, 8, 9, 10]
  readyWrite : LastCloseOk 9 t
  child_pid : ValidChild args.launcherPid.val child

/-! ## Failures -/

/-- A failure that can be recorded at a point: success frames emitted, mask,
site. -/
abbrev RaiseRow : Type := Nat × Nat × Site

/-- The abstract launcher's failure edges. -/
def raiseTable : List RaiseRow :=
  [(0, 0x000, ⟨.badDescriptorLayout, .descriptorValidation, .any⟩),
   (0, 0x000, ⟨.badCgroupDescriptor, .descriptorValidation, .fresh⟩),
   (0, 0x000, ⟨.badCgroupDescriptor, .cgroupValidation, .fresh⟩),
   (0, 0x000, ⟨.cgroupNotEmpty, .cgroupValidation, .zero⟩),
   (0, 0x000, ⟨.internal, .startup, .any⟩),
   (0, 0x000, ⟨.ioFailure, .protocol, .fresh⟩),
   (1, 0x000, ⟨.internal, .fixtureSetup, .any⟩),
   (1, 0x000, ⟨.ioFailure, .fixtureSetup, .fresh⟩),
   (1, 0x000, protocolInputSite),
   (1, 0x000, ⟨.resourceExhausted, .fixtureSetup, .fresh⟩),
   (1, 0x000, ⟨.resourceExhausted, .clone3, .cloneResource⟩),
   (1, 0x000, ⟨.clone3Unavailable, .clone3, .cloneUnavailable⟩),
   (1, 0x000, ⟨.clone3Rejected, .clone3, .cloneRejected⟩),
   (1, 0x001, ⟨.pidfdUnavailable, .clone3, .any⟩),
   (1, 0x003, ⟨.ioFailure, .fixtureSetup, .fresh⟩),
   (1, 0x003, ⟨.timeout, .childReady, .zero⟩),
   (1, 0x003, ⟨.ioFailure, .childReady, .any⟩),
   (1, 0x003, protocolInputSite),
   (1, 0x003, ⟨.childSetupFailed, .childReady, .any⟩),
   (1, 0x003, ⟨.childObservationFailed, .childReady, .zero⟩),
   (1, 0x103, ⟨.ioFailure, .childReady, .fresh⟩),
   (1, 0x103, protocolInputSite),
   (1, 0x103, ⟨.ioFailure, .protocol, .fresh⟩),
   (2, 0x103, ⟨.pidfdSignalFailed, .pidfdSignal, .fresh⟩),
   (2, 0x107, ⟨.childObservationFailed, .pidfdSignal, .any⟩),
   (2, 0x107, ⟨.ioFailure, .pidfdSignal, .freshNotEintr⟩),
   (2, 0x107, ⟨.timeout, .pidfdSignal, .zero⟩),
   (2, 0x107, protocolInputSite),
   (2, 0x10F, ⟨.ioFailure, .pidfdSignal, .any⟩),
   (2, 0x10F, ⟨.childObservationFailed, .pidfdSignal, .zero⟩),
   (2, 0x10F, ⟨.ioFailure, .pidfdSignal, .fresh⟩),
   (2, 0x10F, protocolInputSite),
   (2, 0x10F, ⟨.ioFailure, .protocol, .fresh⟩),
   (3, 0x10F, ⟨.ioFailure, .cgroupKill, .fresh⟩),
   (3, 0x10F, protocolInputSite),
   (3, 0x10F, ⟨.cgroupKillFailed, .cgroupKill, .fresh⟩),
   (3, 0x11F, ⟨.ioFailure, .childObservation, .any⟩),
   (3, 0x11F, ⟨.childObservationFailed, .childObservation, .any⟩),
   (3, 0x11F, ⟨.timeout, .childObservation, .zero⟩),
   (3, 0x11F, protocolInputSite),
   (3, 0x1BF, ⟨.ioFailure, .childObservation, .fresh⟩),
   (3, 0x1BF, protocolInputSite),
   (3, 0x1BF, ⟨.ioFailure, .protocol, .fresh⟩),
   (4, 0x1BF, ⟨.childReapFailed, .childReap, .any⟩),
   (4, 0x1FF, ⟨.internal, .cleanup, .zero⟩),
   (4, 0x1FF, ⟨.ioFailure, .cleanup, .fresh⟩),
   (4, 0x1FF, protocolInputSite),
   (4, 0x1FF, ⟨.cleanupIncomplete, .cleanup, .fresh⟩)]

def sitesAt (k mask : Nat) : List Site :=
  (raiseTable.filter fun row => row.1 == k && row.2.1 == mask).map (·.2.2)

/-- `pipe2` succeeded with descriptors other than 8 and 9. -/
def OddPipe (t : Trace) : Prop :=
  ∃ readFd writeFd : Nat, (⟨.pipe2, .ok (readFd, writeFd)⟩ : Event Reply) ∈ t ∧
    (readFd, writeFd) ≠ (8, 9)

/-- The record left by an unexpected `pipe2` success: its `errno` is whatever
an interrupted send or poll left. -/
def oddPipeSite : Site := ⟨.resourceExhausted, .fixtureSetup, .any⟩

/-- A write to `cgroup.kill` succeeded and took no byte. -/
def EmptyWrite (t : Trace) : Prop :=
  ∃ n, (⟨.write 6 [49], .ok n⟩ : Event Reply) ∈ t ∧ n.val ≠ 1

/-- The failures recorded without a failed call, and where: success frames
emitted, mask, site. -/
inductive Stale (t : Trace) : Nat → Nat → Site → Prop where
  | oddPipe (h : OddPipe t) : Stale t 1 0x000 oddPipeSite
  | emptyWrite (h : EmptyWrite t) : Stale t 3 0x10F emptyWriteSite

theorem Stale.mono {k mask : Nat} {site : Site} (h : Stale t k mask site) (ht : t ⊆ t') :
    Stale t' k mask site := by
  cases h with
  | oddPipe h =>
    obtain ⟨readFd, writeFd, hmem, hne⟩ := h
    exact .oddPipe ⟨readFd, writeFd, ht hmem, hne⟩
  | emptyWrite h =>
    obtain ⟨n, hmem, hne⟩ := h
    exact .emptyWrite ⟨n, ht hmem, hne⟩

/-- The failure recorded after `k` success frames with mask `mask`. -/
def Recorded (t : Trace) (k mask : Nat) (failure : Failure) : Prop :=
  Records (sitesAt k mask) failure ∨ ∃ site, Stale t k mask site ∧ Records [site] failure

/-- Every descriptor the runtime was given, and the cgroup directory, is still
held or was last closed successfully. -/
def HeldOrClosed (t : Trace) (rt : Runtime) : Prop :=
  ∀ fd : Int, fd ∈ opened t ∨ fd = cgroupFd → fd ∈ rt.held ∨ LastCloseOk fd t

def liveMasks : List Nat := [0x001, 0x003, 0x103, 0x107, 0x10F, 0x11F, 0x1BF]

/-- The child, if any, as the label `fail` finds it. -/
inductive ChildState (t : Trace) (s : LState) : Prop where
  | none (hc : created t = []) (hcreated : s.rt.childCreated = false) (hmask : s.rt.achieved = 0)
  | live (child pidfd : Nat) (hc : created t = [(child, pidfd)])
      (hcreated : s.rt.childCreated = true) (hreaped : s.rt.childReaped = false)
      (hpid : s.rt.childPid = child) (hpidfd : s.rt.pidfd = pidfd) (hev : s.rt.eventsFd = 5)
      (hkill : s.rt.killFd = 6) (hmask : s.rt.achieved ∈ liveMasks) (hheld : HeldOrClosed t s.rt)
  | reaped (child : Nat) (hc : created t = [(child, 10)]) (hreaped : s.rt.childReaped = true)
      (hmask : s.rt.achieved = achievedResultMask) (hreap : ∃ e ∈ t, ReapEvent 10 child e)
      (hempty : EmptyAfterKill 10 6 5 t)
      (hheld : s.failure.reason ≠ .cleanupIncomplete → HeldOrClosed t s.rt)

/-- What holds when `main` reaches the label `fail`. -/
structure AtFail (args : LaunchArgs) (t : Trace) (s : LState) : Prop where
  child : ChildState t s
  sequence : s.rt.sequence ≤ 4
  delivered : ∃ child, delivered t = successRecords args.launcherPid.val child s.rt.sequence ∧
    (2 ≤ s.rt.sequence → ValidChild args.launcherPid.val child)
  reason : s.failure.reason ≠ .none
  record : WholeSends t → Silent s.rt ∨ Recorded t s.rt.sequence s.rt.achieved s.failure

section Live

variable {args : LaunchArgs} {n child k k' mask mask' : Nat}

theorem HeldOrClosed.steady {rt : Runtime} (h : HeldOrClosed t rt)
    (hs : ∀ e ∈ t', Call.steady e.1) : HeldOrClosed (t ++ t') rt := by
  intro fd hfd
  have ho : opened t' = [] := opened_steady hs
  rw [opened_append, ho, List.append_nil] at hfd
  exact (h fd hfd).imp_right fun hl => hl.steady hs

theorem Live.heldOrClosed (h : Live args n child k mask t s) : HeldOrClosed t s.rt := by
  intro fd hfd
  rw [h.opened, h.rt] at *
  by_cases h9 : fd = 9
  · exact .inr (h9 ▸ h.readyWrite)
  · left
    simp only [cgroupFd, List.mem_cons, List.not_mem_nil, or_false] at hfd
    simp [Runtime.held, heldFd, liveRt, setupRt, checkedRt, cgroupFd]
    omega

theorem Live.advance (h : Live args n child k mask t s) {frames : List (List UInt8)}
    (ha : Advances (liveRt n child k' mask') frames s t' s')
    (hf : successRecords args.launcherPid.val child k ++ frames =
      successRecords args.launcherPid.val child k') :
    Live args n child k' mask' (t ++ t') s' where
  rt := ha.rt
  failure := h.failure.of_eq ha.failure
  delivered := by rw [delivered_append, h.delivered, ha.delivered, hf]
  created := by
    rw [created_append, h.created, created_steady ha.calls]
    rfl
  opened := by
    rw [opened_append, h.opened, opened_steady ha.calls]
    rfl
  readyWrite := h.readyWrite.steady ha.calls
  child_pid := h.child_pid

/-- A failed step leads to the label `fail`, at the point with mask `mask'`. -/
theorem Live.atFail (h : Live args n child k mask t s)
    (hr : Raises sites (liveRt n child k mask') t' s') (hk : k ≤ 4) (hm : mask' ∈ liveMasks)
    (hrec : Records sites s'.failure → Recorded (t ++ t') k mask' s'.failure) :
    AtFail args (t ++ t') s' := by
  have hrt := hr.rt
  have hseq : s'.rt.sequence = k := by rw [hrt]; rfl
  have hach : s'.rt.achieved = mask' := by rw [hrt]; rfl
  have hcr : Launcher.created t' = [] := created_steady hr.calls
  refine ⟨.live child 10 ?_ ?_ ?_ ?_ ?_ ?_ ?_ ?_ ?_, ?_, ⟨child, ?_, fun _ => h.child_pid⟩,
    hr.reports.reason, ?_⟩
  · rw [created_append, h.created, hcr]; rfl
  · rw [hrt]; rfl
  · rw [hrt]; rfl
  · rw [hrt]; rfl
  · rw [hrt]; rfl
  · rw [hrt]; rfl
  · rw [hrt]; rfl
  · rw [hach]; exact hm
  · have hheld : s'.rt.held = s.rt.held := by rw [hrt, h.rt]; rfl
    have := h.heldOrClosed.steady hr.calls
    intro fd hfd
    rw [hheld]
    exact this fd hfd
  · rw [hseq]; exact hk
  · rw [delivered_append, h.delivered, hr.delivered, List.append_nil, hseq]
  · rw [hseq, hach]
    exact fun hw => (hr.reports.record ((wholeSends_append _ _).1 hw).2).imp_right hrec

theorem Live.fail (h : Live args n child k mask t s)
    (hr : Raises sites (liveRt n child k mask') t' s') (hk : k ≤ 4) (hm : mask' ∈ liveMasks)
    (hsub : sites ⊆ sitesAt k mask') : AtFail args (t ++ t') s' :=
  h.atFail hr hk hm fun hrec => .inl (hrec.mono hsub)

end Live

end Bpe.Launcher
