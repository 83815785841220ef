import Bpe.Lib.Interleave
import Bpe.Lib.Table

/-!
# One-shot ledgers

A ledger that consumes an identity before it records anything about it: an
operation raises, or it inserts one reservation that conflicts with none, and
then at most one record that the reservation backs. A reservation without a
record is a tombstone. `Effect` is what one operation does; the tables only
grow, an identity that is reserved is never reserved again, and every record
keeps the reservation it stands on. `Conducts` carries this to the runs of a
concurrent system that has such a ledger in its store.
-/

namespace Bpe.OneShot

open List

/-- Reservations `Q`, records `R`, and a clock that no operation turns back. -/
structure Ledger (Q R : Type) where
  reservations : List Q
  records : List R
  clock : Int

/-- The identities that the rows are about, which of them exclude each other,
and when a row was made. -/
structure Rules (I Q R : Type) where
  reserved : Q → I
  recorded : R → I
  reservedAt : Q → Int
  recordedAt : R → Int
  conflicts : I → I → Prop
  symm : ∀ {i i'}, conflicts i i' → conflicts i' i

variable {I Q R : Type}

/-- The record of the reserved identity that was made with the reservation. -/
def Rules.backs (U : Rules I Q R) (q : Q) (r : R) : Prop :=
  U.reserved q = U.recorded r ∧ U.reservedAt q = U.recordedAt r

/-- Every record has its reservation, and no row is ahead of the clock. -/
def Ledger.Trusted (U : Rules I Q R) (s : Ledger Q R) : Prop :=
  0 ≤ s.clock ∧ (∀ r ∈ s.records, U.recordedAt r ≤ s.clock) ∧
  (∀ q ∈ s.reservations, U.reservedAt q ≤ s.clock) ∧
  ∀ r ∈ s.records, ∃ q ∈ s.reservations, U.backs q r

/-- The tables stay and the clock does not go back. -/
structure Advances (s s' : Ledger Q R) : Prop where
  reservations : s'.reservations = s.reservations
  records : s'.records = s.records
  clock : s.clock ≤ s'.clock

/-- The reservation `q` was inserted, where none conflicted. -/
structure Reserved (U : Rules I Q R) (q : Q) (s s' : Ledger Q R) : Prop where
  fresh : ∀ q' ∈ s.reservations, ¬ U.conflicts (U.reserved q') (U.reserved q)
  reservations : s'.reservations = s.reservations ++ [q]
  clock : s.clock ≤ U.reservedAt q
  clockAfter : s'.clock = U.reservedAt q

/-- The record `r` was inserted, where none conflicted, on a reservation. -/
structure Recorded (U : Rules I Q R) (r : R) (s s' : Ledger Q R) : Prop where
  fresh : ∀ r' ∈ s.records, ¬ U.conflicts (U.recorded r') (U.recorded r)
  records : s'.records = s.records ++ [r]
  backed : ∃ q ∈ s'.reservations, U.backs q r

/-- What an operation that may reserve what `A` allows does, with the record it
leaves. -/
inductive Effect (U : Rules I Q R) (A : Q → Prop) (s : Ledger Q R) :
    Option R → Ledger Q R → Prop where
  | raised {s' : Ledger Q R} : Advances s s' → Effect U A s none s'
  | tombstone {q : Q} {s' : Ledger Q R} : A q → Reserved U q s s' → s'.records = s.records →
      Effect U A s none s'
  | recorded {q : Q} {r : R} {s' : Ledger Q R} : A q → Reserved U q s s' → Recorded U r s s' →
      Effect U A s (some r) s'

/-- Both tables are extended at their end. -/
structure Extends (s s' : Ledger Q R) : Prop where
  reservations : s.reservations <+: s'.reservations
  records : s.records <+: s'.records
  clock : s.clock ≤ s'.clock

theorem Advances.refl (s : Ledger Q R) : Advances s s := ⟨rfl, rfl, le_refl _⟩

theorem Extends.refl (s : Ledger Q R) : Extends s s :=
  ⟨prefix_refl _, prefix_refl _, le_refl _⟩

theorem Extends.trans {s s' s'' : Ledger Q R} (h : Extends s s') (h' : Extends s' s'') :
    Extends s s'' :=
  ⟨h.reservations.trans h'.reservations, h.records.trans h'.records, le_trans h.clock h'.clock⟩

theorem Advances.extends {s s' : Ledger Q R} (h : Advances s s') : Extends s s' := by
  refine ⟨?_, ?_, h.clock⟩
  · rw [h.reservations]
  · rw [h.records]

variable {U : Rules I Q R} {A : Q → Prop} {s s' : Ledger Q R} {recorded : Option R}

theorem Reserved.mem {q : Q} (h : Reserved U q s s') : q ∈ s'.reservations := by
  rw [h.reservations]
  exact mem_append_right _ (mem_singleton.2 rfl)

section

variable (h : Effect U A s recorded s')

include h

theorem Effect.extends : Extends s s' := by
  have reserved {q : Q} (hr : Reserved U q s s') :
      s.reservations <+: s'.reservations ∧ s.clock ≤ s'.clock := by
    rw [hr.reservations, hr.clockAfter]
    exact ⟨prefix_append _ _, hr.clock⟩
  cases h with
  | raised ha => exact ha.extends
  | tombstone _ hr hc => exact ⟨(reserved hr).1, by rw [hc], (reserved hr).2⟩
  | recorded _ hr hc =>
    refine ⟨(reserved hr).1, ?_, (reserved hr).2⟩
    rw [hc.records]
    exact prefix_append _ _

/-- Where everything that the operation may reserve conflicts with a
reservation, it leaves the tables alone. -/
theorem Effect.of_conflict {q : Q} (hq : q ∈ s.reservations)
    (hc : ∀ q', A q' → U.conflicts (U.reserved q) (U.reserved q')) :
    recorded = none ∧ Advances s s' := by
  cases h with
  | raised ha => exact ⟨rfl, ha⟩
  | tombstone hA hr _ => exact absurd (hc _ hA) (hr.fresh q hq)
  | recorded hA hr _ => exact absurd (hc _ hA) (hr.fresh q hq)

theorem Effect.reservation {q : Q} (hq : q ∈ s'.reservations) :
    q ∈ s.reservations ∨ A q := by
  have reserved {q' : Q} (hA : A q') (hr : Reserved U q' s s') : q ∈ s.reservations ∨ A q := by
    rw [hr.reservations] at hq
    rcases mem_append.1 hq with hq | hq
    · exact .inl hq
    · rw [mem_singleton.1 hq]; exact .inr hA
  cases h with
  | raised ha =>
    rw [ha.reservations] at hq
    exact .inl hq
  | tombstone hA hr _ => exact reserved hA hr
  | recorded hA hr _ => exact reserved hA hr

theorem Effect.record {r : R} (hr : r ∈ s'.records) :
    r ∈ s.records ∨ recorded = some r := by
  cases h with
  | raised ha =>
    rw [ha.records] at hr
    exact .inl hr
  | tombstone _ _ hc =>
    rw [hc] at hr
    exact .inl hr
  | recorded _ _ hc =>
    rw [hc.records] at hr
    rcases mem_append.1 hr with hr | hr
    · exact .inl hr
    · rw [mem_singleton.1 hr]; exact .inr rfl

end

/-! ## The invariant -/

structure Inv (U : Rules I Q R) (s : Ledger Q R) : Prop where
  distinct : Distinct (fun q q' => U.conflicts (U.reserved q) (U.reserved q')) s.reservations
  records : Distinct (fun r r' => U.conflicts (U.recorded r) (U.recorded r')) s.records
  backed : ∀ r ∈ s.records, ∃ q ∈ s.reservations, U.backs q r
  clock : ∀ q ∈ s.reservations, U.reservedAt q ≤ s.clock

theorem Inv.empty {clock : Int} : Inv U (⟨[], [], clock⟩ : Ledger Q R) where
  distinct := distinct_nil
  records := distinct_nil
  backed := by simp
  clock := by simp

theorem Inv.effect (h : Inv U s) (he : Effect U A s recorded s') : Inv U s' where
  distinct := by
    cases he with
    | raised ha => rw [ha.reservations]; exact h.distinct
    | tombstone _ hr _ => rw [hr.reservations]; exact h.distinct.snoc hr.fresh
    | recorded _ hr _ => rw [hr.reservations]; exact h.distinct.snoc hr.fresh
  records := by
    cases he with
    | raised ha => rw [ha.records]; exact h.records
    | tombstone _ _ hc => rw [hc]; exact h.records
    | recorded _ _ hc => rw [hc.records]; exact h.records.snoc hc.fresh
  backed r hr := by
    rcases he.record hr with hr | hrec
    · obtain ⟨q, hq, hb⟩ := h.backed r hr
      exact ⟨q, he.extends.reservations.subset hq, hb⟩
    · subst hrec
      cases he with
      | recorded _ _ hc => exact hc.backed
  clock q hq := by
    have old (hq : q ∈ s.reservations) : U.reservedAt q ≤ s'.clock :=
      le_trans (h.clock q hq) he.extends.clock
    have reserved {q' : Q} (hr : Reserved U q' s s') : U.reservedAt q ≤ s'.clock := by
      rw [hr.reservations] at hq
      rcases mem_append.1 hq with hq | hq
      · exact old hq
      · rw [mem_singleton.1 hq]; exact le_of_eq hr.clockAfter.symm
    cases he with
    | raised ha =>
      rw [ha.reservations] at hq
      exact old hq
    | tombstone _ hr _ => exact reserved hr
    | recorded _ hr _ => exact reserved hr

theorem Inv.trusted (h : Inv U s) (hclock : 0 ≤ s.clock) : s.Trusted U := by
  refine ⟨hclock, fun r hr => ?_, h.clock, h.backed⟩
  obtain ⟨q, hq, -, hat⟩ := h.backed r hr
  rw [← hat]
  exact h.clock q hq

/-- Records of one identity are one record. -/
theorem Inv.record_unique (h : Inv U s) {r r' : R} (hr : r ∈ s.records) (hr' : r' ∈ s.records)
    (hc : U.conflicts (U.recorded r) (U.recorded r')) : r = r' :=
  h.records.eq (fun hc => U.symm hc) hr hr' hc

theorem Inv.no_record (h : Inv U s) {id : I} (ha : ∀ q ∈ s.reservations, U.reserved q ≠ id) :
    ∀ r ∈ s.records, U.recorded r ≠ id := by
  intro r hr hid
  obtain ⟨q, hq, hqr, -⟩ := h.backed r hr
  exact ha q hq (hqr.trans hid)

theorem Effect.records_eq {r : R} (h : Effect U A s (some r) s') :
    s'.records = s.records ++ [r] := by
  cases h with
  | recorded _ _ hc => exact hc.records

theorem Effect.records_of_none (h : Effect U A s none s') : s'.records = s.records := by
  cases h with
  | raised ha => exact ha.records
  | tombstone _ _ hc => exact hc

/-- An operation that records follows no other on a conflicting identity. -/
theorem Effect.fresh_of_recorded {r : R} (h : Effect U A s (some r) s') :
    ∃ q, A q ∧ q ∈ s'.reservations ∧
      ∀ q' ∈ s.reservations, ¬ U.conflicts (U.reserved q') (U.reserved q) := by
  cases h with
  | recorded hA hr _ => exact ⟨_, hA, hr.mem, hr.fresh⟩

/-! ## Looking an identity up

By a key of the identity that is unique in either table. -/

section Lookup

variable {κ : Type} [DecidableEq κ] (key : I → κ)

/-- The record with the key. -/
def Ledger.record? (U : Rules I Q R) (s : Ledger Q R) (k : κ) : Option R :=
  s.records.find? fun r => key (U.recorded r) == k

/-- The reservation with the key, and the record with it. -/
def Ledger.lookup (U : Rules I Q R) (s : Ledger Q R) (k : κ) : Option (Q × Option R) :=
  (s.reservations.find? fun q => key (U.reserved q) == k).map fun q => (q, s.record? key U k)

/-- What a lookup says of an identity. -/
inductive Lookup (U : Rules I Q R) (s : Ledger Q R) (id : I) : Option (Q × Option R) → Prop where
  | absent {row : Option (Q × Option R)} : (∀ q ∈ s.reservations, U.reserved q ≠ id) →
      (∀ p ∈ row, U.reserved p.1 ≠ id) → Lookup U s id row
  | tombstone {q : Q} : q ∈ s.reservations → U.reserved q = id →
      (∀ r ∈ s.records, U.recorded r ≠ id) → Lookup U s id (some (q, none))
  | recorded {q : Q} {r : R} : q ∈ s.reservations → r ∈ s.records → U.reserved q = id →
      U.recorded r = id → Lookup U s id (some (q, some r))

variable {key}

section

variable (h : Inv U s) (hkey : ∀ i i', key i = key i' → U.conflicts i i')

include h hkey

theorem Inv.record?_eq_some {k : κ} {r : R} :
    s.record? key U k = some r ↔ r ∈ s.records ∧ key (U.recorded r) = k := by
  unfold Ledger.record?
  rw [h.records.find?_eq_some fun hc => U.symm hc, beq_iff_eq]
  intro a b ha hb
  exact hkey _ _ ((beq_iff_eq.1 ha).trans (beq_iff_eq.1 hb).symm)

theorem Inv.lookup (id : I) : Lookup U s id (s.lookup key U (key id)) := by
  have same {q q' : Q} (hq : q ∈ s.reservations) (hq' : q' ∈ s.reservations)
      (hk : key (U.reserved q) = key (U.reserved q')) : q = q' :=
    h.distinct.eq (fun hc => U.symm hc) hq hq' (hkey _ _ hk)
  unfold Ledger.lookup
  cases hq : s.reservations.find? fun q => key (U.reserved q) == key id with
  | none =>
    refine .absent (fun q hmem hid => ?_) (by simp)
    have := find?_eq_none.1 hq q hmem
    simp [hid] at this
  | some q =>
    have hmem := mem_of_find?_eq_some hq
    have hk : key (U.reserved q) = key id := by simpa using find?_some hq
    by_cases hid : U.reserved q = id
    · cases hr : s.record? key U (key id) with
      | none =>
        refine .tombstone hmem hid fun r hrec hrid => ?_
        have := find?_eq_none.1 hr r hrec
        simp [hrid] at this
      | some r =>
        obtain ⟨hrec, hrkey⟩ := (h.record?_eq_some hkey).1 hr
        -- The record's own reservation has the key, so it is the one that was found.
        obtain ⟨q', hq', hqr, -⟩ := h.backed r hrec
        obtain rfl := same hq' hmem (by rw [hqr, hrkey, hk])
        exact .recorded hmem hrec hid (hqr.symm.trans hid)
    · refine .absent (fun q' hq' hid' => ?_) (by simpa using hid)
      obtain rfl := same hq' hmem (by rw [hid', hk])
      exact hid hid'

end

end Lookup

/-! ## Runs -/

section Runs

open Concurrent

variable {ι C α β σ : Type} {Reply : C → Type}

/-- The ledger is `view` of the store: a call may reserve what `reserves` says,
and a reply with a receipt left a record. -/
def Conducts (S : Concurrent ι C Reply α σ) (U : Rules I Q R) (view : σ → Ledger Q R)
    (reserves : C → Q → Prop) (receipt? : Event Reply → Option β) : Prop :=
  ∀ c s r s', S.exec c s r s' → ∃ recorded, Effect U (reserves c) (view s) recorded (view s') ∧
    (recorded = none → receipt? ⟨c, r⟩ = none)

variable {S : Concurrent ι C Reply α σ} {view : σ → Ledger Q R} {reserves : C → Q → Prop}
  {receipt? : Event Reply → Option β} {log : List (Step Reply σ)} {g₀ g : Config ι Reply α σ}

section

variable (h : Conducts S U view reserves receipt?)

include h

theorem Conducts.extends (c : C) (s : σ) (r : Reply c) (s' : σ) (hx : S.exec c s r s') :
    Extends (view s) (view s') := by
  obtain ⟨_, he, -⟩ := h c s r s' hx
  exact he.extends

variable (hr : Steps S g₀ log g)

include hr

theorem Conducts.grows : Extends (view g₀.store) (view g.store) :=
  hr.rel (T := fun s s' => Extends (view s) (view s')) (fun _ => .refl _) (fun h => h.trans)
    h.extends

theorem Conducts.inv (h₀ : Inv U (view g₀.store)) : Inv U (view g.store) := by
  refine hr.rel (T := fun s s' => Inv U (view s) → Inv U (view s')) (fun _ hi => hi)
    (fun h h' hi => h' (h hi)) (fun c s r s' hx hi => ?_) h₀
  obtain ⟨_, he, -⟩ := h c s r s' hx
  exact hi.effect he

/-- Every new reservation was made by a call that may make it. -/
theorem Conducts.reserver {q : Q} (hq : q ∈ (view g.store).reservations)
    (h₀ : q ∉ (view g₀.store).reservations) : ∃ e ∈ log, reserves e.call q := by
  obtain ⟨e, he, hbefore, hafter⟩ := hr.established
    (p := fun s => q ∈ (view s).reservations) h₀ hq
  obtain ⟨_, heff, -⟩ := h _ _ _ _ (hr.exec_of_mem he)
  exact ⟨e, he, (heff.reservation hafter).resolve_left hbefore⟩

variable {e : Step Reply σ} (he : e ∈ log)

include he

/-- A call that replied a receipt reserved what no other had. -/
theorem Conducts.fresh (hb : receipt? e.event ≠ none) :
    ∃ q, reserves e.call q ∧ q ∈ (view e.after).reservations ∧
      ∀ q' ∈ (view e.before).reservations, ¬ U.conflicts (U.reserved q') (U.reserved q) := by
  obtain ⟨recorded, heff, hnone⟩ := h _ _ _ _ (hr.exec_of_mem he)
  cases recorded with
  | none => exact absurd (hnone rfl) hb
  | some r => exact heff.fresh_of_recorded

/-- Calls on conflicting identities do not both reply a receipt: the later one
finds the earlier's reservation. -/
theorem Conducts.unique {e' : Step Reply σ} (he' : e' ∈ log) (hb : receipt? e.event ≠ none)
    (hb' : receipt? e'.event ≠ none)
    (hc : ∀ q q', reserves e.call q → reserves e'.call q' →
      U.conflicts (U.reserved q) (U.reserved q')) : e = e' := by
  obtain ⟨q, hq, hmem, hfresh⟩ := h.fresh hr he hb
  obtain ⟨q', hq', hmem', hfresh'⟩ := h.fresh hr he' hb'
  have hcon := hc q q' hq hq'
  rcases hr.rel_ordered (T := fun s s' => Extends (view s) (view s')) (fun _ => .refl _)
    (fun h => h.trans) h.extends he he' with heq | hafter | hbefore
  · exact heq
  · exact absurd hcon (hfresh' q (hafter.reservations.subset hmem))
  · exact absurd (U.symm hcon) (hfresh q' (hbefore.reservations.subset hmem'))

/-- Where a reservation of the start conflicts with all that a call may reserve,
the call replies no receipt and adds no row. -/
theorem Conducts.refused {q : Q} (hq : q ∈ (view g₀.store).reservations)
    (hc : ∀ q', reserves e.call q' → U.conflicts (U.reserved q) (U.reserved q')) :
    receipt? e.event = none ∧ Advances (view e.before) (view e.after) := by
  have hkept := (hr.rel_around (T := fun s s' => Extends (view s) (view s')) (fun _ => .refl _)
    (fun h => h.trans) h.extends he).1
  obtain ⟨recorded, heff, hnone⟩ := h _ _ _ _ (hr.exec_of_mem he)
  obtain ⟨hrec, hrows⟩ := heff.of_conflict (hkept.reservations.subset hq) hc
  exact ⟨hnone hrec, hrows⟩

end

end Runs

end Bpe.OneShot
