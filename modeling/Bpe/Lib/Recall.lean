import Bpe.Lib.Execute
import Bpe.Lib.OneShot

/-!
# Reading committed receipts back

`Recall.verify` accepts a receipt whose row is in the ledger, and
`Recall.recover` looks the row of an identity up. On a one-shot ledger whose
rows are those of receipts both are exact: what they accept is there, what they
refuse is not, and a recovery tells a tombstone from nothing.
-/

namespace Bpe.OneShot

open Act

variable {C : Type} {Reply : C → Type} {ε I Q R D α β : Type}

/-- Every call of the history was answered as `Answers` says. -/
def Answered (Answers : Event Reply → Prop) (h : List (Event Reply)) : Prop := ∀ v ∈ h, Answers v

theorem Answered.init {Answers : Event Reply → Prop} {h h' : List (Event Reply)}
    (ha : Answered Answers (h ++ h')) : Answered Answers h :=
  fun v hv => ha v (List.mem_append_left _ hv)

theorem Answered.last {Answers : Event Reply → Prop} {h : List (Event Reply)} {v : Event Reply}
    (ha : Answered Answers (h ++ [v])) : Answers v :=
  ha v (List.mem_append_right _ (List.mem_singleton.2 rfl))

/-- Where its calls are answered as `A` says, the program returns `b`. -/
def Yields (A : List (Event Reply) → Prop) (h : List (Event Reply)) (p : Act C Reply ε β)
    (b : β) : Prop :=
  Guards (fun _ _ => True) (fun h' b' => A h' → A h ∧ b' = b) (fun h' _ => ¬ A h') h p

theorem yields_perform {V : C → Type} {Answers : Event (Replies ε V) → Prop}
    {h : List (Event (Replies ε V))} {c : C} {b : V c} (hc : ∀ x, Answers ⟨c, x⟩ → x = .ok b) :
    Yields (Answered Answers) h (perform c) b := by
  refine guards_perform.2 ⟨trivial, fun b' hans => ⟨hans.init, ?_⟩, fun err hans => ?_⟩
  · exact Except.ok.inj (hc _ hans.last)
  · cases hc _ hans.last

/-- How a receipt is checked against its row. -/
structure Recall {C : Type} (Reply : C → Type) (ε R D α : Type) where
  valid : α → Bool
  invalid : ε
  /-- The receipt is bound to this ledger. -/
  bound : α → Bool
  boundElsewhere : ε
  select : α → Act C Reply ε (Option R)
  row : α → R
  notCommitted : ε
  digest : α → D
  /-- The receipt that a row stores. -/
  stored : R → α
  stored_row : ∀ r, stored (row r) = r

/-- What a recovery looks for, once its inputs are authenticated. -/
structure Search {C : Type} (Reply : C → Type) (ε I Q R : Type) where
  select : Act C Reply ε (Option (Q × Option R))
  notReserved : ε
  identity : I
  inWindow : Int → Bool
  differs : ε
  tombstone : ε
  invalidBytes : ε
  /-- The stored receipt is that of the inputs. -/
  recovers : R → Bool
  receiptDiffers : ε
  notVerified : ε

/-- The identity is reserved and has no record. -/
def Ledger.Tombstone (U : Rules I Q R) (s : Ledger Q R) (id : I) : Prop :=
  (∃ q ∈ s.reservations, U.reserved q = id) ∧ ∀ r ∈ s.records, U.recorded r ≠ id

/-- What a recovery reports: the receipt where one is committed, `consumed`
exactly where there is a tombstone, and `missing` where there is neither. -/
structure Recovery (consumed missing : String → ε) (committed : α → Prop) (tombstone : Prop)
    (x : Except ε α) : Prop where
  found : ∀ r, x = .ok r ↔ committed r
  consumed : (∃ m, x = .error (consumed m)) ↔ tombstone
  missing : (∀ r, ¬ committed r) → ¬ tombstone → ∃ m, x = .error (missing m)

/-- A recovery is refused where there is no record: with `consumed` at a
tombstone, and with `missing` at nothing. -/
def Refuses (consumed missing : String → ε) (U : Rules I Q R) (s : Ledger Q R) (id : I)
    (err : ε) : Prop :=
  (∀ r ∈ s.records, U.recorded r ≠ id) ∧
    ((∃ q ∈ s.reservations, U.reserved q = id) ∧ (∃ m, err = consumed m) ∨
      (∀ q ∈ s.reservations, U.reserved q ≠ id) ∧ ∃ m, err = missing m)

namespace Recall

variable (V : Recall Reply ε R D α)

def verify [DecidableEq R] (r : α) : Act C Reply ε D := do
  Act.when (¬ V.valid r) (Act.raise V.invalid)
  Act.when (¬ V.bound r) (Act.raise V.boundElsewhere)
  let row ← V.select r
  Act.when (row ≠ some (V.row r)) (Act.raise V.notCommitted)
  pure (V.digest r)

def recover [DecidableEq I] [DecidableEq R] [DecidableEq D] (U : Rules I Q R)
    (X : Search Reply ε I Q R) : Act C Reply ε α := do
  let row ← X.select
  match row with
  | none => Act.raise X.notReserved
  | some (q, r?) => do
    Act.when (U.reserved q ≠ X.identity ∨ ¬ X.inWindow (U.reservedAt q)) (Act.raise X.differs)
    match r? with
    | none => Act.raise X.tombstone
    | some r => do
      Act.when (¬ V.valid (V.stored r)) (Act.raise X.invalidBytes)
      Act.when (¬ X.recovers r) (Act.raise X.receiptDiffers)
      let digest ← V.verify (V.stored r)
      Act.when (digest ≠ V.digest (V.stored r)) (Act.raise X.notVerified)
      pure (V.stored r)

variable {V} {U : Rules I Q R} {s : Ledger Q R} {id : I} {consumed missing : String → ε}
  {P : C → Prop} {A : List (Event Reply) → Prop} {h : List (Event Reply)}

section Verify

variable [DecidableEq R]

theorem verify_completes {r : α} (hselect : (V.select r).Completes P) :
    (V.verify r).Completes P := by
  unfold verify
  refine completes_check_bind ?_
  refine completes_check_bind ?_
  exact completes_bind hselect fun _ => completes_check_bind trivial

theorem verify_exact {rows : List R} {r : α} {row : Option R}
    (hselect : Yields A h (V.select r) row) (hrow : row = some (V.row r) ↔ V.row r ∈ rows)
    (hvalid : V.row r ∈ rows → V.valid r ∧ V.bound r) :
    Guards (fun _ _ => True) (fun h' d => A h' → A h ∧ V.row r ∈ rows ∧ d = V.digest r)
      (fun h' _ => A h' → A h ∧ V.row r ∉ rows) h (V.verify r) := by
  unfold verify
  refine guards_check_bind (fun hn hans => ⟨hans, fun hr => hn (hvalid hr).1⟩) fun _ => ?_
  refine guards_check_bind (fun hn hans => ⟨hans, fun hr => hn (hvalid hr).2⟩) fun _ => ?_
  refine guards_bind.2 (hselect.mono (fun h' row' hrow' => ?_) fun h' _ hno hans => ?_)
  · refine guards_check_bind (fun hne hans => ?_) fun heq => guards_pure.2 fun hans => ?_
    · obtain ⟨hbefore, rfl⟩ := hrow' hans
      exact ⟨hbefore, fun hr => hne (hrow.2 hr)⟩
    · obtain ⟨hbefore, rfl⟩ := hrow' hans
      exact ⟨hbefore, hrow.1 (Classical.not_not.1 heq), rfl⟩
  · exact absurd hans hno

end Verify

section Recover

variable [DecidableEq I] [DecidableEq R] [DecidableEq D] {X : Search Reply ε I Q R}

theorem recover_completes (hselect : X.select.Completes P)
    (hverify : ∀ r, (V.verify r).Completes P) : (V.recover U X).Completes P := by
  unfold recover
  refine completes_bind hselect fun row => ?_
  rcases row with _ | ⟨q, _ | r⟩
  · trivial
  · exact completes_check_bind trivial
  · refine completes_check_bind ?_
    refine completes_check_bind ?_
    refine completes_check_bind ?_
    exact completes_bind (hverify _) fun _ => completes_check_bind trivial

/-- The search is for `id`, and the rows of `id` pass its checks. -/
structure Finds (V : Recall Reply ε R D α) (U : Rules I Q R) (X : Search Reply ε I Q R)
    (s : Ledger Q R) (id : I) (row : Option (Q × Option R)) : Prop where
  identity : X.identity = id
  row : Lookup U s id row
  inWindow : ∀ q ∈ s.reservations, U.reserved q = id → X.inWindow (U.reservedAt q)
  recovers : ∀ r ∈ s.records, U.recorded r = id →
    ∃ a, r = V.row a ∧ V.valid a ∧ X.recovers r

/-- It returns the receipt of the row that the identity has, and otherwise tells
a tombstone from nothing. -/
theorem recover_exact {row : Option (Q × Option R)} (hs : Inv U s)
    (hconsumed : ∃ m, X.tombstone = consumed m)
    (hmissing : (∃ m, X.notReserved = missing m) ∧ ∃ m, X.differs = missing m)
    (hselect : Yields A h X.select row) (hfinds : A h → Finds V U X s id row)
    (hverify : ∀ h r, Guards (fun _ _ => True)
      (fun h' d => A h' → A h ∧ V.row r ∈ s.records ∧ d = V.digest r)
      (fun h' _ => A h' → A h ∧ V.row r ∉ s.records) h (V.verify r)) :
    Guards (fun _ _ => True)
      (fun h' r => A h' → V.row r ∈ s.records ∧ U.recorded (V.row r) = id)
      (fun h' err => A h' → Refuses consumed missing U s id err) h (V.recover U X) := by
  unfold recover
  refine guards_bind.2 (hselect.mono (fun h₁ row' hrow => ?_) fun _ _ hno hans => absurd hans hno)
  have known (hans : A h₁) : Finds V U X s id row' := by
    obtain ⟨hbefore, rfl⟩ := hrow hans
    exact hfinds hbefore
  rcases row' with _ | ⟨q, r?⟩
  · refine guards_raise.2 fun hans => ?_
    cases (known hans).row with
    | absent hnone _ => exact ⟨hs.no_record hnone, .inr ⟨hnone, hmissing.1⟩⟩
  refine guards_check_bind (fun hdiffers hans => ?_) fun hsame => ?_
  · have hfound := known hans
    have hne (hq : q ∈ s.reservations) (hid : U.reserved q = id) : False := by
      rcases hdiffers with hne | hout
      · exact hne (hid.trans hfound.identity.symm)
      · exact hout (hfound.inWindow q hq hid)
    cases hfound.row with
    | absent hnone _ => exact ⟨hs.no_record hnone, .inr ⟨hnone, hmissing.2⟩⟩
    | tombstone hq hid _ => exact (hne hq hid).elim
    | recorded hq _ hid _ => exact (hne hq hid).elim
  have hidentity : U.reserved q = X.identity := Classical.not_not.1 (not_or.1 hsame).1
  cases r? with
  | none =>
    refine guards_raise.2 fun hans => ?_
    have hfound := known hans
    cases hfound.row with
    | absent _ hne => exact absurd (hidentity.trans hfound.identity) (hne _ rfl)
    | tombstone hq hid hnone => exact ⟨hnone, .inl ⟨⟨q, hq, hid⟩, hconsumed⟩⟩
  | some r =>
    have found (hans : A h₁) : r ∈ s.records ∧ U.recorded r = id ∧
        ∃ a, r = V.row a ∧ V.valid a ∧ X.recovers r := by
      have hfound := known hans
      cases hfound.row with
      | absent _ hne => exact absurd (hidentity.trans hfound.identity) (hne _ rfl)
      | recorded _ hr _ hid => exact ⟨hr, hid, hfound.recovers r hr hid⟩
    refine guards_check_bind (fun hinvalid hans => ?_) fun _ => ?_
    · obtain ⟨-, -, a, rfl, hvalid, -⟩ := found hans
      rw [V.stored_row] at hinvalid
      exact absurd hvalid hinvalid
    refine guards_check_bind (fun hdiffers hans => ?_) fun _ => ?_
    · obtain ⟨-, -, _, -, -, hrecovers⟩ := found hans
      exact absurd hrecovers hdiffers
    refine guards_bind.2 ((hverify h₁ _).mono (fun h' d hd => ?_) fun h' err herr hans => ?_)
    · refine guards_check_bind (fun hdigest hans => ?_) fun _ => guards_pure.2 fun hans => ?_
      · exact absurd (hd hans).2.2 hdigest
      · obtain ⟨hbefore, hrow, -⟩ := hd hans
        obtain ⟨-, hid, a, rfl, -⟩ := found hbefore
        rw [V.stored_row] at hrow ⊢
        exact ⟨hrow, hid⟩
    · obtain ⟨hbefore, hno⟩ := herr hans
      obtain ⟨hr, -, a, rfl, -⟩ := found hbefore
      rw [V.stored_row] at hno
      exact absurd hr hno

end Recover

/-! ## What is reported -/

/-- A receipt is verified where its row is there, and only there. -/
theorem verified_iff {rows : List R} {r : α} {m : Act C Reply ε D} {committed : Prop}
    (hcommitted : V.row r ∈ rows ↔ committed)
    (hm : Guards (fun _ _ => True) (fun h' d => A h' → A h ∧ V.row r ∈ rows ∧ d = V.digest r)
      (fun h' _ => A h' → A h ∧ V.row r ∉ rows) h m) :
    Guards (fun _ _ => True)
      (fun h' d => A h' → ∀ d', (.ok d : Except ε D) = .ok d' ↔ committed ∧ d' = V.digest r)
      (fun h' err => A h' → ∀ d', (.error err : Except ε D) = .ok d' ↔
        committed ∧ d' = V.digest r) h m := by
  refine hm.mono (fun h' d hd hans d' => ?_) fun h' err herr hans d' => ?_
  · obtain ⟨-, hrow, rfl⟩ := hd hans
    simp [hcommitted.1 hrow, eq_comm]
  · have hno := (herr hans).2
    simp [hcommitted.not.1 hno]

/-- The receipts that are committed for an identity are those with its rows. -/
theorem recovered_iff {committed : α → Prop} {m : Act C Reply ε α} (hs : Inv U s)
    (hself : U.conflicts id id) (hne : ∀ m m', missing m ≠ consumed m')
    (hcommitted : ∀ r, committed r ↔ V.row r ∈ s.records ∧ U.recorded (V.row r) = id)
    (hm : Guards (fun _ _ => True)
      (fun h' r => A h' → V.row r ∈ s.records ∧ U.recorded (V.row r) = id)
      (fun h' err => A h' → Refuses consumed missing U s id err) h m) :
    Guards (fun _ _ => True)
      (fun h' r => A h' → Recovery consumed missing committed (s.Tombstone U id) (.ok r))
      (fun h' err => A h' → Recovery consumed missing committed (s.Tombstone U id) (.error err))
      h m := by
  refine hm.mono (fun h' r hr hans => ?_) fun h' err herr hans => ?_
  · obtain ⟨hrow, hid⟩ := hr hans
    refine ⟨fun r' => ?_, ?_, fun hnone => absurd ((hcommitted r).2 ⟨hrow, hid⟩) (hnone r)⟩
    · rw [Except.ok.injEq, hcommitted]
      constructor
      · rintro rfl; exact ⟨hrow, hid⟩
      · rintro ⟨hrow', hid'⟩
        have hsame := hs.record_unique hrow hrow' (by rw [hid, hid']; exact hself)
        rw [← V.stored_row r, hsame, V.stored_row]
    · simp only [reduceCtorEq, exists_false, false_iff]
      exact fun htomb => htomb.2 _ hrow hid
  · obtain ⟨hnone, hrefuses⟩ := herr hans
    have hno (r : α) : ¬ committed r := fun hr => hnone _ ((hcommitted r).1 hr).1
      ((hcommitted r).1 hr).2
    rcases hrefuses with ⟨hq, m, rfl⟩ | ⟨habsent, m, rfl⟩
    · exact ⟨fun r => by simp [hno r], ⟨fun _ => ⟨hq, hnone⟩, fun _ => ⟨m, rfl⟩⟩,
        fun _ ht => absurd ⟨hq, hnone⟩ ht⟩
    · refine ⟨fun r => by simp [hno r], ?_, fun _ _ => ⟨m, rfl⟩⟩
      simp only [Except.error.injEq, hne, exists_false, false_iff]
      rintro ⟨⟨q, hq, hid⟩, -⟩
      exact habsent q hq hid

end Recall

end Bpe.OneShot
