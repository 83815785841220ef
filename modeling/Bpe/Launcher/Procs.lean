import Bpe.Launcher.Edges
import Bpe.Launcher.Scan
import Bpe.Lib.Decimal

/-!
# The sole process of the cgroup

`bpe_read_procs_exact` against the file it reads: it matches a `cgroup.procs` that is empty,
or that holds the one decimal it expects and a newline.
-/

namespace Bpe.Launcher

open Proc List

/-- The file names no process for `0`, and only `expectedPid` otherwise. -/
def SoleProcess (content : List UInt8) (expectedPid : Int) : Prop :=
  expectedPid = 0 ∧ content = [] ∨
    0 < expectedPid ∧ content = decimalText expectedPid.toNat ++ [10]

/-! ## The digit loop -/

/-- The digits read, before the overflow guard is looked at. -/
theorem parseDecimal_value {text : List UInt8} {parsed n : Nat}
    (h : parseDecimal parsed text = some n) :
    (∀ c ∈ text, 48 ≤ c ∧ c ≤ 57) ∧
      n = digitsValue parsed (text.map fun c => (c - 48).toNat) := by
  induction text generalizing parsed with
  | nil => exact ⟨by simp, (Option.some.inj h).symm⟩
  | cons c text ih =>
    obtain ⟨hlow, hhigh, hrest⟩ := parseDecimal_cons h
    obtain ⟨hdigits, hvalue⟩ := ih hrest
    exact ⟨forall_mem_cons.2 ⟨⟨hlow, hhigh⟩, hdigits⟩, hvalue⟩

theorem decimalText_eq {n : Nat} (h : 0 < n) :
    decimalText n = (decimalDigits n).map fun d => UInt8.ofNat (48 + d) := by
  rw [decimalText, decimalDigits, if_neg (by omega), map_reverse]

theorem ofNat_digit {c : UInt8} (hlow : 48 ≤ c) : UInt8.ofNat (48 + (c - 48).toNat) = c := by
  rw [UInt8.toNat_sub_of_le _ _ hlow]
  have hnat : 48 ≤ c.toNat := UInt8.le_iff_toNat_le.1 hlow
  have hsum : 48 + (c.toNat - (48 : UInt8).toNat) = c.toNat := by
    show 48 + (c.toNat - 48) = c.toNat
    omega
  rw [hsum, UInt8.ofNat_toNat]

/-- What the loop accepts without a leading zero is the decimal of its value. -/
theorem parseDecimal_eq_decimalText {text : List UInt8} {n : Nat} (hne : text ≠ [])
    (hhead : text.head? ≠ some 48) (h : parseDecimal 0 text = some n) :
    0 < n ∧ text = decimalText n := by
  obtain ⟨hdigits, hvalue⟩ := parseDecimal_value h
  have hzero : (text.map fun c => (c - 48).toNat).head? ≠ some 0 := by
    intro hfirst
    rw [head?_map, Option.map_eq_some_iff] at hfirst
    obtain ⟨c, hc, hsub⟩ := hfirst
    have hlow := (hdigits c (mem_of_mem_head? hc)).1
    have heq := ofNat_digit hlow
    rw [hsub] at heq
    exact hhead (hc.trans (congrArg some heq.symm))
  have hcanonical : CanonicalDigits (text.map fun c => (c - 48).toNat) := by
    refine ⟨by simpa using hne, forall_mem_map.2 fun c hc => ?_, fun _ => hzero⟩
    have hhigh := UInt8.le_iff_toNat_le.1 (hdigits c hc).2
    rw [UInt8.toNat_sub_of_le _ _ (hdigits c hc).1]
    show c.toNat - 48 < 10
    have : c.toNat ≤ 57 := hhigh
    omega
  have hpos : 0 < n := by
    by_contra hn
    have hn0 : digitsValue 0 (text.map fun c => (c - 48).toNat) = 0 := by omega
    have hone := decimalDigits_digitsValue hcanonical
    rw [hn0] at hone
    exact hzero (by rw [← hone]; rfl)
  refine ⟨hpos, ?_⟩
  rw [decimalText_eq hpos, hvalue]
  exact (map_decimalDigits hcanonical fun c hc => ofNat_digit (hdigits c hc).1).symm

theorem procsText_matched_iff {buffer : List UInt8} {expectedPid : Int} (h : 0 ≤ expectedPid)
    (hmax : expectedPid ≤ intMax) : procsText buffer expectedPid = .matched ↔
      0 < expectedPid ∧ buffer = decimalText expectedPid.toNat ++ [10] := by
  constructor
  · intro hmatch
    unfold procsText at hmatch
    split at hmatch
    · cases hmatch
    next hshape =>
    obtain ⟨hpid, hlen, hlast, hhead⟩ : expectedPid ≠ 0 ∧ 2 ≤ buffer.length ∧
        buffer.getLast? = some 10 ∧ buffer.head? ≠ some 48 := by
      simp only [not_or, not_lt, ne_eq, Decidable.not_not] at hshape
      exact hshape
    split at hmatch
    · cases hmatch
    next parsedPid hparsed =>
    split at hmatch
    · next heq =>
      have hbuffer : buffer = buffer.dropLast ++ [10] :=
        (dropLast_append_getLast? 10 hlast).symm
      have hne : buffer.dropLast ≠ [] := by
        apply ne_nil_of_length_pos
        rw [length_dropLast]
        omega
      have hfirst : buffer.dropLast.head? ≠ some 48 := by
        rw [hbuffer, head?_append_of_ne_nil _ hne] at hhead
        exact hhead
      obtain ⟨hpos, htext⟩ := parseDecimal_eq_decimalText hne hfirst hparsed
      refine ⟨by omega, ?_⟩
      rw [← heq, Int.toNat_natCast, ← htext]
      exact hbuffer
    · cases hmatch
  · rintro ⟨hpos, rfl⟩
    have hnat : ((expectedPid.toNat : Nat) : Int) = expectedPid := Int.toNat_of_nonneg h
    have hmatch := procsText_decimalText (n := expectedPid.toNat) (by omega) (by omega)
    rwa [hnat] at hmatch

/-! ## The reads -/

/-- A retried read gives up only on an error other than an interruption. -/
theorem sysUninterrupted_none (fuel : Nat) (c : Call) (s : LState) :
    Ensures (sysUninterrupted fuel c) s fun t r _ =>
      r = none → ∃ e : Errno, ⟨c, .error e⟩ ∈ t ∧ e.val ≠ eintr := by
  refine ensures_iterate (fun _ _ _ => True) (fun _ t s _ => ?_) fuel trivial
  refine ensures_sys_bind (fun r => ensures_pure (by simp)) fun e => ?_
  refine bind_getErrno (ensures_ite (fun _ => ensures_pure trivial) fun hne => ?_)
  exact ensures_pure fun _ => ⟨e, by simp, hne⟩

/-- The calls of `t` read a file of `content` to its end: the first read has the first bytes of
it, the second what follows, and only signals come between. -/
structure ReadsWhole (fd : Int) (content : List UInt8) (t : Trace) : Prop where
  offset : ∀ offset, ⟨.lseek fd, .ok offset⟩ ∈ t → offset = 0
  first : ∀ buffer, ⟨.read fd 64, .ok buffer⟩ ∈ t → buffer.val = content.take 64
  read : ∃ buffer, ⟨.read fd 64, .ok buffer⟩ ∈ t
  next : ∀ extra, ⟨.read fd 1, .ok extra⟩ ∈ t → extra.val = (content.drop 64).take 1
  interrupted : ∀ e : Errno, ⟨.read fd 1, .error e⟩ ∈ t → e.val = eintr

theorem not_soleProcess_of_long {content : List UInt8} {expectedPid : Int}
    (hmax : expectedPid ≤ intMax) (hlen : 64 ≤ content.length) :
    ¬ SoleProcess content expectedPid := by
  rintro (⟨-, rfl⟩ | ⟨-, rfl⟩)
  · simp at hlen
  · have hshort : (decimalText expectedPid.toNat).length ≤ 10 :=
      length_decimalText_le (by unfold intMax at hmax; omega)
    rw [length_append, length_singleton] at hlen
    omega

/-- Every run that reads the file to its end. -/
theorem readProcsExact_reads (fuel : Nat) (fd expectedPid : Int) (content : List UInt8)
    (s : LState) (h : 0 ≤ expectedPid) (hmax : expectedPid ≤ intMax) :
    Ensures (bpeReadProcsExact fuel fd expectedPid) s fun t r _ =>
      ReadsWhole fd content t → (r = .matched ↔ SoleProcess content expectedPid) := by
  have hunread : ∀ {t : Trace} {Q : Prop}, (∀ buffer, ⟨.read fd 64, .ok buffer⟩ ∉ t) →
      ReadsWhole fd content t → Q := fun ht hreads =>
    absurd hreads.read.choose_spec (ht _)
  refine ensures_ite (fun hneg => absurd h (by omega)) fun _ => ?_
  refine sys_attempts.bind fun t₁ r s₁ h₁ => ?_
  have hseek : ∀ buffer, ⟨.read fd 64, .ok buffer⟩ ∉ t₁ := fun buffer hmem => by
    cases h₁.call_eq hmem
  cases r with
  | none => exact ensures_pure (hunread (by simpa using hseek))
  | some offset =>
  refine ensures_ite (fun hoffset => ensures_pure fun hreads => ?_) fun _ => ?_
  · exact absurd (hreads.offset offset (by simpa using h₁.mem)) hoffset
  refine ((sysInterruptible_spec (P := Call.plain) rfl).mono
    fun _ _ _ h => h.2.2.2).bind fun t₂ r s₂ h₂ => ?_
  cases r with
  | none =>
    refine ensures_pure (hunread fun buffer hmem => ?_)
    rw [append_nil, mem_append] at hmem
    exact hmem.elim (hseek buffer) (h₂.ok_not_mem buffer)
  | some buffer =>
  have hbuffer : ∀ {t : Trace}, ReadsWhole fd content (t₁ ++ (t₂ ++ t)) →
      buffer.val = content.take 64 := fun hreads =>
    hreads.first buffer (mem_append_right _ (mem_append_left _ h₂.mem))
  refine ensures_ite (fun hfull => bind_setErrno (ensures_pure fun hreads => ?_)) fun hshort =>
    ensures_ite (fun hempty => bind_setErrno (ensures_pure fun hreads => ?_)) fun hnonempty => ?_
  · have hlong : 64 ≤ content.length := by
      have := congrArg length (hbuffer hreads)
      rw [length_take] at this
      omega
    exact iff_of_false (by simp) (not_soleProcess_of_long hmax hlong)
  · have hcontent : content = [] := by
      have := hbuffer hreads
      rw [eq_nil_of_length_eq_zero hempty] at this
      simpa using this.symm
    subst hcontent
    unfold SoleProcess
    by_cases hpid : expectedPid = 0
    · simp [hpid]
    · simp [hpid]
  have hcontent : ∀ {t : Trace}, ReadsWhole fd content (t₁ ++ (t₂ ++ t)) →
      content.length < 64 := fun hreads => by
    have hlength := congrArg length (hbuffer hreads)
    rw [length_take] at hlength
    have := buffer.property
    omega
  refine ((sysUninterrupted_spec (P := Call.plain) rfl fuel).mono fun _ _ _ h => h.2).and
    (sysUninterrupted_none fuel _ s₂) |>.bind fun t₃ r s₃ ⟨h₃, hnone⟩ => ?_
  cases r with
  | none =>
    refine ensures_pure fun hreads => ?_
    obtain ⟨e, hmem, hne⟩ := hnone rfl
    exact absurd (hreads.interrupted e (by simp [hmem])) hne
  | some extra =>
  refine bind_setErrno (ensures_ite (fun hextra => ensures_pure fun hreads => ?_)
    fun hextra => ensures_pure fun hreads => ?_)
  · have hend := hreads.next extra (by simp [h₃.mem])
    rw [drop_of_length_le (hcontent hreads).le, take_nil] at hend
    exact absurd (congrArg length hend) hextra
  · rw [hbuffer hreads, take_of_length_le (hcontent hreads).le, procsText_matched_iff h hmax]
    have hne : content ≠ [] := by
      rintro rfl
      exact hnonempty (congrArg length (hbuffer hreads))
    unfold SoleProcess
    simp [hne]

section Runs

variable {α : Type} {c : Prop} [Decidable c] {m₁ m₂ : LM α} {s s' : LState} {t : Trace} {a : α}

theorem runs_ite_pos (hc : c) (h : Runs m₁ s t a s') : Runs (if c then m₁ else m₂) s t a s' := by
  rwa [if_pos hc]

theorem runs_ite_neg (hc : ¬ c) (h : Runs m₂ s t a s') :
    Runs (if c then m₁ else m₂) s t a s' := by
  rwa [if_neg hc]

end Runs

theorem runs_interruptible_ok {c : Call} (r : c.Ok) (s : LState) :
    Runs (sysInterruptible c) s [⟨c, .ok r⟩] (some r) s :=
  (runs_sys_ok r s).bind (runs_pure (some r) s)

theorem runs_uninterrupted_ok {c : Call} (fuel : Nat) (r : c.Ok) (s : LState) :
    Runs (sysUninterrupted (fuel + 1) c) s [⟨c, .ok r⟩] (some r) s :=
  runs_iterate_done fuel ((runs_sys_ok r s).bind (runs_pure _ s))

/-- The file is read in one piece, without a signal. -/
theorem exists_readsWhole (fuel : Nat) (fd expectedPid : Int) (content : List UInt8) (s : LState)
    (h : 0 ≤ expectedPid) : ∃ t r s',
      Runs (bpeReadProcsExact (fuel + 1) fd expectedPid) s t r s' ∧ ReadsWhole fd content t := by
  have hlen : (content.take 64).length = min 64 content.length := length_take
  let first : Call.Ok (.read fd 64) := ⟨content.take 64, by omega⟩
  have hseek := runs_sys_ok (c := .lseek fd) (0 : Nat) s
  have hread := runs_interruptible_ok (c := .read fd 64) first s
  by_cases hstop : first.val.length = 64 ∨ first.val.length = 0
  · refine ⟨[⟨.lseek fd, .ok (0 : Nat)⟩, ⟨.read fd 64, .ok first⟩],
      if first.val.length = 64 then .mismatch
      else if expectedPid = 0 then .matched else .mismatch, { s with errno := 0 }, ?_, ?_⟩
    · refine runs_ite_neg (by omega) (hseek.bind (runs_ite_neg (fun h => h rfl) ?_))
      rw [← append_nil [(⟨.read fd 64, .ok first⟩ : Event Reply)]]
      refine hread.bind ?_
      by_cases hfull : first.val.length = 64
      · rw [if_pos hfull]
        exact runs_ite_pos hfull (.ret _)
      · rw [if_neg hfull]
        exact runs_ite_neg hfull (runs_ite_pos (hstop.resolve_left hfull) (.ret _))
    · constructor <;> simp [first]
  · refine ⟨[⟨.lseek fd, .ok (0 : Nat)⟩, ⟨.read fd 64, .ok first⟩,
      ⟨.read fd 1, .ok ⟨[], by decide⟩⟩], procsText first.val expectedPid,
      { s with errno := 0 }, ?_, ?_⟩
    · refine runs_ite_neg (by omega) (hseek.bind (runs_ite_neg (fun h => h rfl) ?_))
      rw [← singleton_append]
      refine hread.bind ?_
      refine runs_ite_neg (fun hfull => hstop (.inl hfull)) ?_
      refine runs_ite_neg (fun hempty => hstop (.inr hempty)) ?_
      exact (runs_uninterrupted_ok (c := .read fd 1) fuel ⟨[], by decide⟩ s).bind (.ret _)
    · have hshort : content.length ≤ 64 := by
        simp only [first] at hstop
        omega
      constructor <;> simp [first, hshort]

/-- **The sole process is recognised exactly**, whatever the file holds. -/
theorem readProcsExact_iff (fuel : Nat) (fd expectedPid : Int) (content : List UInt8) (s : LState)
    (h : 0 ≤ expectedPid) (hmax : expectedPid ≤ intMax) :
    (∀ t r s', Runs (bpeReadProcsExact fuel fd expectedPid) s t r s' →
      ReadsWhole fd content t →
      (content.length < 64 → (r = .matched ↔ SoleProcess content expectedPid)) ∧
      (64 ≤ content.length → r ≠ .matched)) ∧
    (0 < fuel → ∃ t r s', Runs (bpeReadProcsExact fuel fd expectedPid) s t r s' ∧
      ReadsWhole fd content t) := by
  constructor
  · intro t r s' hrun hreads
    have hiff := readProcsExact_reads fuel fd expectedPid content s h hmax t r s' hrun hreads
    exact ⟨fun _ => hiff, fun hlong hmatch => not_soleProcess_of_long hmax hlong (hiff.1 hmatch)⟩
  · intro hfuel
    obtain ⟨n, rfl⟩ : ∃ n, fuel = n + 1 := ⟨fuel - 1, by omega⟩
    exact exists_readsWhole n fd expectedPid content s h

/-- `12` and a newline are read for process 12. -/
theorem readProcsExact_iff_twelve : ∃ t s',
    Runs (bpeReadProcsExact 1 7 12) {} t .matched s' ∧ ReadsWhole 7 [49, 50, 10] t := by
  obtain ⟨hexact, hexists⟩ :=
    readProcsExact_iff 1 7 12 [49, 50, 10] {} (by decide) (by decide)
  obtain ⟨t, r, s', hrun, hreads⟩ := hexists (by decide)
  have hsole : SoleProcess [49, 50, 10] 12 := .inr ⟨by decide, by simp [decimalText]⟩
  have hmatch := ((hexact t r s' hrun hreads).1 (by decide)).2 hsole
  subst hmatch
  exact ⟨t, s', hrun, hreads⟩

end Bpe.Launcher
