import Mathlib.Tactic

/-!
# Transactions

The body of a database transaction reads and writes a working copy of the
store. It ends normally, which commits, or raises: after a `COMMIT`, so that
what it wrote stays, or with a rollback. `Txn.outcome` is the transaction as
one atomic step on the store. `Txn.Ends` is the weakest precondition of a body
for its two ways out, with one rule per construct.
-/

namespace Bpe

def int64Max : Int := 2 ^ 63 - 1

/-- A raised `e`, with the writes before it kept or undone. -/
inductive Abort (ε : Type) where
  | commit (e : ε)
  | rollback (e : ε)

def Txn (σ ε α : Type) : Type := σ → Except (Abort ε) α × σ

namespace Txn

variable {σ ε α β : Type}

instance : Monad (Txn σ ε) where
  pure a s := (.ok a, s)
  bind m f s :=
    match m s with
    | (.ok a, s') => f a s'
    | (.error e, s') => (.error e, s')

def read : Txn σ ε σ := fun s => (.ok s, s)

def write (f : σ → σ) : Txn σ ε Unit := fun s => (.ok (), f s)

def abort (e : Abort ε) : Txn σ ε α := fun s => (.error e, s)

def when (c : Prop) [Decidable c] (m : Txn σ ε Unit) : Txn σ ε Unit :=
  if c then m else pure ()

def outcome (m : Txn σ ε α) (s : σ) : Except ε α × σ :=
  match m s with
  | (.ok a, s') => (.ok a, s')
  | (.error (.commit e), s') => (.error e, s')
  | (.error (.rollback e), _) => (.error e, s)

/-- Where a statement fails, the transaction is rolled back. -/
def fault (fails : Bool) (e : ε) : Txn σ ε Unit := when fails (abort (.rollback e))

/-- `COMMIT`, which may itself fail with `e'`, then raise `e`. -/
def commitRaise (fails : Bool) (e' e : ε) : Txn σ ε α := do
  fault fails e'
  abort (.commit e)

/-- Closing the connection after a transaction that returned may fail with `e`. -/
def closing (fails : Bool) (e : ε) : Except ε α × σ → Except ε α × σ
  | (.ok a, s) => (if fails then .error e else .ok a, s)
  | (.error e', s) => (.error e', s)

/-- The body `m` from `s` returns into `Q` or raises into `E`. -/
def Ends (m : Txn σ ε α) (s : σ) (Q : α → σ → Prop) (E : Abort ε → σ → Prop) : Prop :=
  match m s with
  | (.ok a, s') => Q a s'
  | (.error e, s') => E e s'

variable {s : σ} {Q : α → σ → Prop} {E : Abort ε → σ → Prop}

theorem ends_pure {a : α} : Ends (pure a : Txn σ ε α) s Q E ↔ Q a s := Iff.rfl

theorem ends_abort {e : Abort ε} : Ends (abort e : Txn σ ε α) s Q E ↔ E e s := Iff.rfl

theorem ends_read {Q : σ → σ → Prop} : Ends (read : Txn σ ε σ) s Q E ↔ Q s s := Iff.rfl

theorem ends_write {f : σ → σ} {Q : Unit → σ → Prop} :
    Ends (write f : Txn σ ε Unit) s Q E ↔ Q () (f s) := Iff.rfl

theorem ends_bind {m : Txn σ ε β} {f : β → Txn σ ε α} :
    Ends (m >>= f) s Q E ↔ Ends m s (fun b s' => Ends (f b) s' Q E) E := by
  unfold Ends
  simp only [bind]
  rcases m s with ⟨_ | _, _⟩ <;> rfl

theorem ends_ite {c : Prop} [Decidable c] {m m' : Txn σ ε α} :
    Ends (if c then m else m') s Q E ↔ (c → Ends m s Q E) ∧ (¬ c → Ends m' s Q E) := by
  by_cases hc : c <;> simp [hc]

theorem ends_when {c : Prop} [Decidable c] {m : Txn σ ε Unit} {Q : Unit → σ → Prop} :
    Ends (when c m) s Q E ↔ (c → Ends m s Q E) ∧ (¬ c → Q () s) :=
  ends_ite

/-! Where every rollback is as good as another, a statement that may fail needs
only what follows it. -/

theorem ends_fault {b : Bool} {e : ε} {Q : Unit → σ → Prop} (hE : ∀ e s, E (.rollback e) s)
    (hQ : Q () s) : Ends (fault b e) s Q E :=
  ends_when.2 ⟨fun _ => ends_abort.2 (hE _ _), fun _ => hQ⟩

theorem ends_commitRaise {b : Bool} {e' e : ε} (hE : ∀ e s, E (.rollback e) s)
    (h : E (.commit e) s) : Ends (commitRaise b e' e : Txn σ ε α) s Q E :=
  ends_bind.2 (ends_fault hE (ends_abort.2 h))

theorem ends_check {c : Prop} [Decidable c] {e : ε} {Q : Unit → σ → Prop}
    (hE : ∀ e s, E (.rollback e) s) (hQ : ¬ c → Q () s) :
    Ends (when c (abort (.rollback e))) s Q E :=
  ends_when.2 ⟨fun _ => ends_abort.2 (hE _ _), hQ⟩

theorem ends_fault_bind {b : Bool} {e : ε} {f : Unit → Txn σ ε α} (hE : ∀ e s, E (.rollback e) s)
    (hf : Ends (f ()) s Q E) : Ends (fault b e >>= f) s Q E :=
  ends_bind.2 (ends_fault hE hf)

theorem ends_check_bind {c : Prop} [Decidable c] {e : ε} {f : Unit → Txn σ ε α}
    (hE : ∀ e s, E (.rollback e) s) (hf : ¬ c → Ends (f ()) s Q E) :
    Ends (when c (abort (.rollback e)) >>= f) s Q E :=
  ends_bind.2 (ends_check hE hf)

/-- A check that commits where it fails. -/
theorem ends_commit_bind {c : Prop} [Decidable c] {b : Bool} {e' e : ε} {f : Unit → Txn σ ε α}
    (hE : ∀ e s, E (.rollback e) s) (h : E (.commit e) s) (hf : ¬ c → Ends (f ()) s Q E) :
    Ends (when c (commitRaise b e' e) >>= f) s Q E :=
  ends_bind.2 (ends_when.2 ⟨fun _ => ends_commitRaise hE h, hf⟩)

/-- A transaction returns or raises as its body does, and an undone one leaves
the store as it was. -/
theorem outcome_of_ends {m : Txn σ ε α} {r : Except ε α} {s' : σ} (h : Ends m s Q E)
    (hr : m.outcome s = (r, s')) :
    (∃ a, r = .ok a ∧ Q a s') ∨ (∃ e, r = .error e ∧ E (.commit e) s') ∨
      (∃ e s₁, r = .error e ∧ s' = s ∧ E (.rollback e) s₁) := by
  unfold Ends at h
  unfold outcome at hr
  split at h
  · next hm =>
    simp only [hm, Prod.mk.injEq] at hr
    obtain ⟨rfl, rfl⟩ := hr
    exact .inl ⟨_, rfl, h⟩
  · next e s₁ hm =>
    cases e with
    | commit e =>
      simp only [hm, Prod.mk.injEq] at hr
      obtain ⟨rfl, rfl⟩ := hr
      exact .inr (.inl ⟨e, rfl, h⟩)
    | rollback e =>
      simp only [hm, Prod.mk.injEq] at hr
      obtain ⟨rfl, rfl⟩ := hr
      exact .inr (.inr ⟨e, s₁, rfl, rfl, h⟩)

end Txn

end Bpe
