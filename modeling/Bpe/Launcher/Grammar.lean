import Bpe.Launcher.Fail

/-!
# The abstract launcher against the parser's table

`ErrorRecord` (what the launcher can send) and `ErrorAccepted` (what the
parser lets through) are compared state by state. Both depend on `errno`
only through a few values, so the comparison is a finite one.
-/

namespace Bpe.Launcher

open Bpe.Native List

variable {k mask e : Nat} {reason : NativeReason} {stage : NativeStage}

/-! ## Classes of `errno` -/

/-- The `errno` values that some test names, and 1 for the rest. -/
def errnoClasses : List Nat := [0, eintr, eagain, enomem, enfile, emfile, enosys, 1]

/-- The representative of `e`. -/
def errnoClass (e : Nat) : Nat := if e ∈ errnoClasses then e else 1

theorem errnoClass_mem (e : Nat) : errnoClass e ∈ errnoClasses := by
  unfold errnoClass
  split
  · assumption
  · decide

theorem errnoClass_eq {c : Nat} (hc : c ∈ errnoClasses) (h1 : c ≠ 1) :
    errnoClass e = c ↔ e = c := by
  unfold errnoClass
  split
  · rfl
  · next hn =>
    constructor
    · intro h; exact absurd h.symm h1
    · rintro rfl; exact absurd hc hn

theorem fresh_errnoClass (he : e ≤ protocolMaxErrno) : Fresh (errnoClass e) ↔ Fresh e := by
  have h0 : errnoClass e = 0 ↔ e = 0 := errnoClass_eq (by decide) (by decide)
  have hle : ∀ c ∈ errnoClasses, c ≤ protocolMaxErrno := by decide
  have := hle _ (errnoClass_mem e)
  unfold Fresh
  omega

instance (set : ErrnoSet) (e : Nat) : Decidable (set.Mem e) := by
  cases set <;> unfold ErrnoSet.Mem Fresh <;> infer_instance

instance (e : Nat) : Decidable (Fresh e) := by unfold Fresh; infer_instance

theorem ErrnoSet.mem_errnoClass (set : ErrnoSet) (he : e ≤ protocolMaxErrno) :
    set.Mem (errnoClass e) ↔ set.Mem e := by
  have hle : ∀ c ∈ errnoClasses, c ≤ protocolMaxErrno := by decide
  cases set with
  | any => exact ⟨fun _ => he, fun _ => hle _ (errnoClass_mem e)⟩
  | _ => simp (disch := decide) only [Mem, fresh_errnoClass he, ne_eq, errnoClass_eq]

theorem errorAccepted_errnoClass :
    ErrorAccepted k reason stage mask (errnoClass e) ↔ ErrorAccepted k reason stage mask e := by
  simp (disch := decide) only [ErrorAccepted, linuxEnosys, linuxCloneResourceErrnos,
    linuxClassifiedCloneErrnos, mem_cons, mem_append, not_mem_nil, or_false, ne_eq, errnoClass_eq]

/-! ## What the launcher sends, the parser accepts -/

/-- Every failure edge, every effect of the cleanup, every class. -/
theorem raiseTable_accepted : ∀ row ∈ raiseTable, ∀ result ∈ cleanupResults row.2.1,
    ∀ e ∈ errnoClasses,
      (result.2 = true → row.2.2.errnos.Mem e →
        ErrorAccepted row.1 row.2.2.reason row.2.2.stage result.1 e) ∧
      (Fresh e → ErrorAccepted row.1 .cleanupIncomplete .cleanup result.1 e) ∧
      (result.2 = false → result.1 ≠ achievedResultMask →
        ErrorAccepted row.1 .cleanupIncomplete .cleanup result.1 0) := by
  decide +kernel

theorem exists_row (h : sitesAt k mask ≠ []) : ∃ site, (k, mask, site) ∈ raiseTable := by
  obtain ⟨site, hsite⟩ := exists_mem_of_ne_nil _ h
  exact ⟨site, mem_raiseTable.1 hsite⟩

theorem ErrorRecord.accepted (h : ErrorRecord k reason stage mask e) (he : e ≤ protocolMaxErrno)
    (hlate : ¬ (reason = .cleanupIncomplete ∧ e = 0 ∧ mask = achievedResultMask)) :
    ErrorAccepted k reason stage mask e := by
  rw [← errorAccepted_errnoClass]
  have hclass := errnoClass_mem e
  cases h with
  | raised hsite hclean hmem =>
    exact (raiseTable_accepted _ (mem_raiseTable.1 hsite) _ hclean _ hclass).1 rfl
      ((ErrnoSet.mem_errnoClass _ he).2 hmem)
  | closeFailed hpoint hclean hfresh =>
    obtain ⟨site, hrow⟩ := exists_row hpoint
    exact (raiseTable_accepted _ hrow _ hclean _ hclass).2.1 ((fresh_errnoClass he).2 hfresh)
  | incomplete hpoint hclean =>
    obtain ⟨site, hrow⟩ := exists_row hpoint
    exact (raiseTable_accepted _ hrow _ hclean _ hclass).2.2 rfl fun hfull =>
      hlate ⟨rfl, rfl, hfull⟩

/-! ## What the parser accepts, the launcher sends -/

/-- Two kinds of state that the parser accepts and no run of the launcher
ends in: a rejected cgroup descriptor always leaves an `errno`, and the poll
of `bpe_stop_and_observe` restarts on `EINTR`. -/
def Unreachable (k : Nat) (reason : NativeReason) (stage : NativeStage) (mask e : Nat) : Prop :=
  (k = 0 ∧ reason = .badCgroupDescriptor ∧ e = 0) ∨
    (k = 2 ∧ reason = .ioFailure ∧ stage = .pidfdSignal ∧ mask = 0x1C7 ∧ e = eintr)

instance : Decidable (Unreachable k reason stage mask e) := by unfold Unreachable; infer_instance

/-- `ErrorRecord` as a search of the table. -/
def errorRecordBool (k : Nat) (reason : NativeReason) (stage : NativeStage) (mask e : Nat) : Bool :=
  raiseTable.any fun row => row.1 = k &&
    ((row.2.2.reason = reason && row.2.2.stage = stage && row.2.2.errnos.Mem e &&
        (cleanupResults row.2.1).any fun result => result = (mask, true)) ||
      (reason = .cleanupIncomplete && stage = .cleanup &&
        (cleanupResults row.2.1).any fun result =>
          result.1 = mask && (Fresh e || (e = 0 && result.2 = false))))

theorem errorRecord_of_bool (h : errorRecordBool k reason stage mask e = true) :
    ErrorRecord k reason stage mask e := by
  simp only [errorRecordBool, any_eq_true, Bool.and_eq_true, Bool.or_eq_true,
    decide_eq_true_eq] at h
  obtain ⟨⟨k', mask₀, site⟩, hrow, rfl, h⟩ := h
  have hsite := mem_raiseTable.2 hrow
  rcases h with ⟨⟨⟨rfl, rfl⟩, hmem⟩, result, hclean, rfl⟩ |
    ⟨⟨rfl, rfl⟩, ⟨mask', ok⟩, hclean, rfl, h⟩
  · exact .raised hsite hclean hmem
  · rcases h with hfresh | ⟨rfl, rfl⟩
    · exact .closeFailed (ne_nil_of_mem hsite) hclean hfresh
    · exact .incomplete (ne_nil_of_mem hsite) hclean

theorem errorGrammar_sent : ∀ entry ∈ errorGrammar, ∀ mask ∈ entry.2, ∀ e ∈ errnoClasses,
    ErrorAccepted entry.1.1 entry.1.2.1 entry.1.2.2 mask e →
    ¬ Unreachable entry.1.1 entry.1.2.1 entry.1.2.2 mask e →
    errorRecordBool entry.1.1 entry.1.2.1 entry.1.2.2 mask e = true := by
  decide +kernel

theorem unreachable_errnoClass :
    Unreachable k reason stage mask (errnoClass e) ↔ Unreachable k reason stage mask e := by
  simp (disch := decide) only [Unreachable, errnoClass_eq]

theorem ErrorRecord.of_errnoClass {c : Nat} (h : ErrorRecord k reason stage mask c)
    (hc : c = errnoClass e) (he : e ≤ protocolMaxErrno) : ErrorRecord k reason stage mask e := by
  cases h with
  | raised hsite hclean hmem =>
    rw [hc] at hmem
    exact .raised hsite hclean ((ErrnoSet.mem_errnoClass _ he).1 hmem)
  | closeFailed hpoint hclean hfresh =>
    rw [hc] at hfresh
    exact .closeFailed hpoint hclean ((fresh_errnoClass he).1 hfresh)
  | incomplete hpoint hclean =>
    obtain rfl : e = 0 := (errnoClass_eq (by decide) (by decide)).1 hc.symm
    exact .incomplete hpoint hclean

theorem raiseTable_reachable : ∀ row ∈ raiseTable, ∀ result ∈ cleanupResults row.2.1,
    ∀ e ∈ errnoClasses, row.2.2.errnos.Mem e →
      ¬ Unreachable row.1 row.2.2.reason row.2.2.stage result.1 e := by
  decide +kernel

theorem ErrorRecord.reachable (h : ErrorRecord k reason stage mask e)
    (he : e ≤ protocolMaxErrno) : ¬ Unreachable k reason stage mask e := by
  cases h with
  | raised hsite hclean hmem =>
    rw [← unreachable_errnoClass]
    exact raiseTable_reachable _ (mem_raiseTable.1 hsite) _ hclean _ (errnoClass_mem e)
      ((ErrnoSet.mem_errnoClass _ he).2 hmem)
  | closeFailed => simp [Unreachable]
  | incomplete => simp [Unreachable]

theorem mem_of_lookup {α β : Type} [BEq α] [LawfulBEq α] {a : α} {b : β} {l : List (α × β)}
    (h : l.lookup a = some b) : (a, b) ∈ l := by
  induction l with
  | nil => cases h
  | cons p l ih =>
    obtain ⟨a', b'⟩ := p
    rw [lookup_cons] at h
    split at h
    · next heq =>
      cases h
      rw [eq_of_beq heq]
      exact mem_cons_self
    · exact mem_cons_of_mem _ (ih h)

/-- The parser's table, but for the two kinds, is the abstract launcher. -/
theorem errorRecord_iff (h : ErrorAccepted k reason stage mask e) (he : e ≤ protocolMaxErrno) :
    ErrorRecord k reason stage mask e ↔ ¬ Unreachable k reason stage mask e := by
  refine ⟨fun hr => hr.reachable he, fun hu => ?_⟩
  have hmask := h.2.2.1
  cases hlookup : errorGrammar.lookup (k, reason, stage) with
  | none => rw [hlookup] at hmask; cases hmask
  | some masks =>
    rw [hlookup] at hmask
    have hsent := errorGrammar_sent _ (mem_of_lookup hlookup) mask hmask _ (errnoClass_mem e)
      (errorAccepted_errnoClass.2 h) (fun hu' => hu (unreachable_errnoClass.1 hu'))
    exact (errorRecord_of_bool hsent).of_errnoClass rfl he

end Bpe.Launcher
