import Bpe.Dispatch.OneShot

/-!
# Verifying a committed dispatch receipt

`verify_committed_receipt` rebuilds the row of the receipt it is given and
compares it with the row of that authorization. In every run the rows are those
of the receipts that the claims returned, so it accepts exactly these.
-/

namespace Bpe.Dispatch

open Models Concurrent

variable {D : Type} {K : Crypto D}

theorem claimRow_inj (hinj : Function.Injective K.sha256Json) {r r' : DispatchAdmissionReceipt D}
    (h : claimRow K r = claimRow K r') : r = r' :=
  Document.receipt.inj (hinj (congrArg DispatchClaim.receiptSha256 h))

variable {r : DispatchAdmissionReceipt D}

theorem receipt?_eq_some {v : Event (Reply (D := D))} (h : receipt? v = some r) :
    ∃ w claimId, v = ⟨.claim w claimId, .ok r⟩ := by
  unfold receipt? at h
  split at h
  · cases h; exact ⟨_, _, rfl⟩
  · cases h

variable [DecidableEq D]

def Ledger.selectClaim (s : Ledger D) (authorizationId : String) : Option (DispatchClaim D) :=
  s.claims.find? (·.authorizationId == authorizationId)

/-- `verify_committed_receipt`, on the row that its snapshot reads or the error
that it raises. -/
def verifyCommittedReceipt (K : Crypto D) (r : DispatchAdmissionReceipt D)
    (snapshot : Except DispatchError (Option (DispatchClaim D))) : Except DispatchError D := do
  if ¬ r.valid K then throw (.ledger "dispatch admission receipt is invalid")
  let row ← snapshot
  if row ≠ some (claimRow K r) then
    throw (.ledger "dispatch admission receipt is not committed in this ledger")
  pure (K.sha256Json (.receipt r))

theorem verifyCommittedReceipt_eq_ok {row : Option (DispatchClaim D)} {d : D} :
    verifyCommittedReceipt K r (.ok row) = .ok d ↔
      r.valid K ∧ row = some (claimRow K r) ∧ d = K.sha256Json (.receipt r) := by
  unfold verifyCommittedReceipt
  by_cases hvalid : r.valid K
  · by_cases hrow : row = some (claimRow K r)
    · simp [hvalid, hrow, bind, Except.bind, pure, Except.pure, eq_comm]
    · simp [hvalid, hrow, bind, Except.bind, throw, throwThe, MonadExceptOf.throw]
  · simp [hvalid, bind, Except.bind, throw, throwThe, MonadExceptOf.throw]

theorem admissionReceipt_valid {v : VerifiedDispatchAuthorization D} {claimId : Sha256Text D}
    {env : Env D} (h : admissionReceipt K v claimId env = some r) :
    r.valid K := by
  unfold admissionReceipt at h
  split at h
  · cases h
  · simp only [Option.ite_none_right_eq_some, Option.some.injEq] at h
    obtain ⟨hvalid, rfl⟩ := h
    exact hvalid

variable {log : List (Step (Reply (D := D)) (Ledger D))}
  {g : Config (Request D) Reply (Except DispatchError (DispatchAdmissionReceipt D)) (Ledger D)}

theorem mem_claims_iff (hinj : Function.Injective K.sha256Json) (hr : Run (system K) .empty log g) :
    claimRow K r ∈ g.store.claims ↔
      ∃ e ∈ log, ∃ v claimId, e.event = ⟨.claim v claimId, .ok r⟩ := by
  rw [(run_inv hr).claims, List.mem_map]
  constructor
  · rintro ⟨⟨i, r'⟩, hmem, hrow⟩
    obtain rfl := claimRow_inj hinj hrow
    obtain ⟨e, he, -, hreceipt⟩ := mem_collect.1 hmem
    obtain ⟨v, claimId, hev⟩ := receipt?_eq_some hreceipt
    exact ⟨e, he, v, claimId, hev⟩
  · rintro ⟨e, he, v, claimId, hev⟩
    exact ⟨(e.thread, r), mem_collect.2 ⟨e, he, rfl, by rw [hev]; rfl⟩, rfl⟩

theorem valid_of_claimed (hr : Run (system K) .empty log g) {e : Step Reply (Ledger D)}
    (he : e ∈ log) {v : VerifiedDispatchAuthorization D} {claimId : Sha256Text D}
    (hev : e.event = ⟨.claim v claimId, .ok r⟩) : r.valid K := by
  obtain ⟨i, c, x, s, s'⟩ := e
  cases hev
  obtain ⟨env, henv⟩ := hr.exec_of_mem he
  rcases claim_exec henv with ⟨r', hok, hclaimed⟩ | ⟨err, herr, -⟩
  · cases hok
    obtain ⟨env', hreceipt⟩ := hclaimed.receipt
    exact admissionReceipt_valid hreceipt
  · cases herr

/-- A receipt is accepted exactly where a claim of the run returned it. -/
theorem verifyCommittedReceipt_iff (hinj : Function.Injective K.sha256Json)
    (hr : Run (system K) .empty log g) (r : DispatchAdmissionReceipt D) (d : D) :
    verifyCommittedReceipt K r (.ok (g.store.selectClaim r.authorizationId)) = .ok d ↔
      (∃ e ∈ log, ∃ v claimId, e.event = ⟨.claim v claimId, .ok r⟩) ∧
        d = K.sha256Json (.receipt r) := by
  have hfind : g.store.selectClaim r.authorizationId = some (claimRow K r) ↔
      claimRow K r ∈ g.store.claims := by
    unfold Ledger.selectClaim
    rw [(run_inv hr).distinct.find?_eq_some DispatchClaim.conflicts_symm]
    · simp [claimRow]
    · intro a b ha hb
      exact .inl ((beq_iff_eq.1 ha).trans (beq_iff_eq.1 hb).symm)
  rw [verifyCommittedReceipt_eq_ok, hfind, ← mem_claims_iff hinj hr]
  constructor
  · rintro ⟨-, hrow, hd⟩; exact ⟨hrow, hd⟩
  · rintro ⟨hrow, hd⟩
    obtain ⟨e, he, v, claimId, hev⟩ := (mem_claims_iff hinj hr).1 hrow
    exact ⟨valid_of_claimed hr he hev, hrow, hd⟩

end Bpe.Dispatch
