import Bpe.Lib.OneShot
import Bpe.Lib.Txn

/-!
# The transaction of a one-shot ledger

`Consumption` holds what one transaction looks for, inserts and raises.
`Consumption.run` moves the clock, refuses what is reserved, inserts its
reservation, and only then builds and inserts the record: from the reservation
on every exit commits it. `Consumption.effect` is the refinement: it is one
operation of the one-shot ledger.
-/

namespace Bpe.OneShot

open Txn

/-- The points of the transaction where the database may fail. -/
inductive Statement where
  | connect | begin | validateSchema | selectClock | updateClock | selectReservation
  | selectIdentity | insertReservation | selectRecordId | selectNonce | insertRecord | commit

/-- What the transaction takes from outside: which statement fails, the clock
it reads, the nonce it generates, whether building the receipt or closing the
connection fails. -/
structure Env (D : Type) where
  fault : Statement → Bool
  now : Int
  nonce : D
  receiptFault : Bool
  closeFault : Bool

variable {ε I Q R D α : Type}

/-- The checks, the rows and the errors, in the order of the statements. -/
structure Consumption (ε : Type) {I Q R : Type} (U : Rules I Q R) (D α : Type) where
  cannotOpen : ε
  /-- What every failing statement raises. -/
  cannotCommit : ε
  notTrusted : ε
  invalidTime : ε
  /-- The clock is behind what the inputs were verified at. -/
  behind : Int → Bool
  movedBehind : ε
  overflow : ε
  outside : Int → Bool
  outsideWindow : ε
  /-- The reservation has the key of the inputs. -/
  keyed : Q → Bool
  /-- Such a reservation is not that of the inputs. -/
  differs : Q → Bool
  notTheInputs : ε
  alreadyReserved : ε
  /-- The reservation shares another column with the inputs. -/
  shares : Q → Bool
  identityConsumed : ε
  reservation : Int → Q
  /-- The `CHECK` constraints of a reservation. -/
  reservable : Q → Bool
  integrity : ε
  /-- The requested ID, where it is well formed. -/
  recordId : Option D
  malformedId : ε
  idOf : R → D
  idCollision : ε
  receipt : D → Env D → α
  valid : α → Bool
  noReceipt : ε
  row : α → R
  /-- The records share a nonce or a receipt. -/
  collides : R → R → Bool
  receiptCollision : ε
  /-- The `CHECK` constraints of a record. -/
  recordable : R → Bool
  durableCollision : ε
  cannotClose : ε

namespace Consumption

variable {U : Rules I Q R} (C : Consumption ε U D α) (env : Env D)

def statement (st : Statement) : Txn (Ledger Q R) ε Unit := .fault (env.fault st) C.cannotCommit

/-- `COMMIT`, then raise. -/
def commitRaise {β : Type} (e : ε) : Txn (Ledger Q R) ε β :=
  .commitRaise (env.fault .commit) C.cannotCommit e

instance [DecidableEq I] (q : Q) (r : R) : Decidable (U.backs q r) :=
  inferInstanceAs (Decidable (_ ∧ _))

instance [DecidableEq I] (s : Ledger Q R) : Decidable (s.Trusted U) :=
  inferInstanceAs (Decidable (_ ∧ _))

/-- The transaction up to the high-water mark. -/
def advanceClock [DecidableEq I] : Txn (Ledger Q R) ε Unit := do
  .fault (env.fault .connect) C.cannotOpen
  C.statement env .begin
  .fault (env.fault .validateSchema) C.notTrusted
  let s ← .read
  .when (¬ s.Trusted U) (.abort (.rollback C.notTrusted))
  .when (env.now < 0) (.abort (.rollback C.invalidTime))
  C.statement env .selectClock
  .when (C.behind env.now ∨ env.now < s.clock) (.abort (.rollback C.movedBehind))
  C.statement env .updateClock
  .when (int64Max < env.now) (.abort (.rollback C.overflow))
  .write fun s => { s with clock := env.now }

/-- The transaction from the checks of earlier reservations to the insertion of
its own. -/
def reserve [DecidableRel U.conflicts] : Txn (Ledger Q R) ε Unit := do
  let s ← .read
  C.statement env .selectReservation
  match s.reservations.find? C.keyed with
  | some existing => do
    .when (C.differs existing) (.abort (.rollback C.notTheInputs))
    C.commitRaise env C.alreadyReserved
  | none => do
    C.statement env .selectIdentity
    .when (∃ q ∈ s.reservations, C.shares q) (C.commitRaise env C.identityConsumed)
    C.statement env .insertReservation
    let own := C.reservation env.now
    .when ((∃ q ∈ s.reservations, U.conflicts (U.reserved q) (U.reserved own)) ∨
        ¬ C.reservable own)
      (.abort (.rollback C.integrity))
    .write fun s => { s with reservations := s.reservations ++ [own] }

section Ends

variable {C env} {s : Ledger Q R} {E : Abort ε → Ledger Q R → Prop}
  (hE : ∀ e s, E (.rollback e) s)

include hE

theorem advanceClock_ends [DecidableEq I] {P : Unit → Ledger Q R → Prop}
    (hP : s.clock ≤ env.now → ¬ C.behind env.now → P () { s with clock := env.now }) :
    Ends (C.advanceClock env) s P E := by
  unfold advanceClock
  refine ends_fault_bind hE ?_
  refine ends_fault_bind hE ?_
  refine ends_fault_bind hE ?_
  apply ends_bind.2 (ends_read.2 _)
  refine ends_check_bind hE fun _ => ?_
  refine ends_check_bind hE fun _ => ?_
  refine ends_fault_bind hE ?_
  refine ends_check_bind hE fun hclock => ?_
  refine ends_fault_bind hE ?_
  refine ends_check_bind hE fun _ => ?_
  exact ends_write.2 (hP (not_lt.1 fun h => hclock (.inr h)) fun h => hclock (.inl h))

theorem reserve_ends [DecidableRel U.conflicts] {P : Unit → Ledger Q R → Prop}
    (hcommit : ∀ e, E (.commit e) s)
    (hP : (∀ q ∈ s.reservations,
        ¬ U.conflicts (U.reserved q) (U.reserved (C.reservation env.now))) →
      P () { s with reservations := s.reservations ++ [C.reservation env.now] }) :
    Ends (C.reserve env) s P E := by
  unfold reserve
  apply ends_bind.2 (ends_read.2 _)
  refine ends_fault_bind hE ?_
  split
  · refine ends_check_bind hE fun _ => ?_
    exact ends_commitRaise hE (hcommit _)
  · refine ends_fault_bind hE ?_
    refine ends_commit_bind hE (hcommit _) fun _ => ?_
    refine ends_fault_bind hE ?_
    refine ends_check_bind hE fun hfresh => ?_
    exact ends_write.2 (hP fun q hq hc => hfresh (.inl ⟨q, hq, hc⟩))

end Ends

variable [DecidableEq I] [DecidableRel U.conflicts] [DecidableEq D]

/-- The transaction after its reservation: every exit commits it. -/
def record : Txn (Ledger Q R) ε α :=
  match C.recordId with
  | none => C.commitRaise env C.malformedId
  | some id => do
    C.statement env .selectRecordId
    let s ← .read
    .when (∃ r ∈ s.records, C.idOf r = id) (C.commitRaise env C.idCollision)
    let receipt := C.receipt id env
    .when (env.receiptFault ∨ ¬ C.valid receipt) (C.commitRaise env C.noReceipt)
    let row := C.row receipt
    C.statement env .selectNonce
    .when (∃ r ∈ s.records, C.collides r row) (C.commitRaise env C.receiptCollision)
    C.statement env .insertRecord
    .when ((∃ r ∈ s.records, U.conflicts (U.recorded r) (U.recorded row) ∨
        C.idOf r = C.idOf row ∨ C.collides r row) ∨
        ¬ (C.recordable row ∧ ∃ q ∈ s.reservations, U.backs q row))
      (C.commitRaise env C.durableCollision)
    .write fun s => { s with records := s.records ++ [row] }
    C.statement env .commit
    pure receipt

def transaction : Txn (Ledger Q R) ε α := do
  C.advanceClock env
  .when (C.outside env.now) (C.commitRaise env C.outsideWindow)
  C.reserve env
  C.record env

/-- The transaction with the closing of its connection. -/
def run (s : Ledger Q R) : Except ε α × Ledger Q R :=
  closing env.closeFault C.cannotClose ((C.transaction env).outcome s)

/-- The transaction left the receipt `made`, or none. -/
def Left (A : Q → Prop) (s : Ledger Q R) (made : Option α) (s' : Ledger Q R) : Prop :=
  Effect U A s (made.map C.row) s' ∧
    ∀ r ∈ made, C.valid r ∧ ∃ id env, C.recordId = some id ∧ r = C.receipt id env

/-- Where the transaction raises after a `COMMIT`, it left no receipt. -/
def RaisesLeft (A : Q → Prop) (s : Ledger Q R) : Abort ε → Ledger Q R → Prop
  | .commit _, s' => C.Left A s none s'
  | .rollback _, _ => True

variable {C env} {A : Q → Prop} {s s' : Ledger Q R}

theorem record_ends {E : Abort ε → Ledger Q R → Prop} {P : α → Ledger Q R → Prop}
    (hE : ∀ e s, E (.rollback e) s) (hcommit : ∀ e, E (.commit e) s)
    (hP : ∀ id row, C.recordId = some id → C.valid (C.receipt id env) →
      row = C.row (C.receipt id env) →
      (∀ r ∈ s.records, ¬ U.conflicts (U.recorded r) (U.recorded row)) →
      (∃ q ∈ s.reservations, U.backs q row) →
      P (C.receipt id env) { s with records := s.records ++ [row] }) :
    Ends (C.record env) s P E := by
  unfold record
  split
  · exact ends_commitRaise hE (hcommit _)
  next id hid =>
  refine ends_fault_bind hE ?_
  apply ends_bind.2 (ends_read.2 _)
  refine ends_commit_bind hE (hcommit _) fun _ => ?_
  refine ends_commit_bind hE (hcommit _) fun hvalid => ?_
  refine ends_fault_bind hE ?_
  refine ends_commit_bind hE (hcommit _) fun _ => ?_
  refine ends_fault_bind hE ?_
  refine ends_commit_bind hE (hcommit _) fun hrow => ?_
  refine ends_bind.2 (ends_write.2 (ends_fault_bind hE (ends_pure.2 ?_)))
  obtain ⟨hfresh, hbacked⟩ := not_or.1 hrow
  refine hP id _ hid (Classical.not_not.1 fun h => hvalid (.inr h)) rfl ?_ ?_
  · exact fun r hr hc => hfresh ⟨r, hr, .inl hc⟩
  · exact (Classical.not_not.1 hbacked).2

omit [DecidableEq I] [DecidableRel U.conflicts] [DecidableEq D] in
theorem left_raised (h : Advances s s') : C.Left A s none s' := ⟨.raised h, by simp⟩

variable (hA : ∀ now, ¬ C.behind now → ¬ C.outside now →
  A (C.reservation now) ∧ U.reservedAt (C.reservation now) = now)

include hA

theorem transaction_ends :
    Ends (C.transaction env) s (fun r => C.Left A s (some r)) (C.RaisesLeft A s) := by
  have hE : ∀ e s', C.RaisesLeft A s (.rollback e) s' := fun _ _ => trivial
  unfold transaction
  refine ends_bind.2 (advanceClock_ends hE fun hclock hbehind => ?_)
  have hadvanced : C.Left A s none { s with clock := env.now } := left_raised ⟨rfl, rfl, hclock⟩
  refine ends_commit_bind hE hadvanced fun houtside => ?_
  refine ends_bind.2 (reserve_ends hE (fun _ => hadvanced) fun hfresh => ?_)
  obtain ⟨hreserves, hat⟩ := hA env.now hbehind houtside
  have hreserved {records : List R} : Reserved U (C.reservation env.now) s
      ⟨s.reservations ++ [C.reservation env.now], records, env.now⟩ :=
    ⟨hfresh, rfl, by rw [hat]; exact hclock, hat.symm⟩
  refine record_ends hE (fun _ => ?_) fun id row hid hvalid hrow hnew hbacked => ?_
  · exact ⟨.tombstone hreserves hreserved rfl, by simp⟩
  · subst hrow
    refine ⟨.recorded hreserves hreserved ⟨hnew, rfl, hbacked⟩, fun r hr => ?_⟩
    cases hr
    exact ⟨hvalid, id, env, hid, rfl⟩

/-- The transaction is one operation of the one-shot ledger. -/
theorem effect {reply : Except ε α} (h : C.run env s = (reply, s')) :
    ∃ made, C.Left A s made s' ∧ ∀ r, reply = .ok r → made = some r := by
  unfold run at h
  generalize ho : (C.transaction env).outcome s = o at h
  obtain ⟨x, s₁⟩ := o
  rcases outcome_of_ends (transaction_ends hA) ho with
    ⟨r, rfl, hr⟩ | ⟨e, rfl, hr⟩ | ⟨e, _, rfl, rfl, _⟩
  · simp only [closing, Prod.mk.injEq] at h
    obtain ⟨rfl, rfl⟩ := h
    refine ⟨some r, hr, fun r' hr' => ?_⟩
    split at hr'
    · cases hr'
    · cases hr'; rfl
  · cases h
    exact ⟨none, hr, by simp⟩
  · cases h
    exact ⟨none, left_raised (.refl _), by simp⟩

end Consumption

end Bpe.OneShot
