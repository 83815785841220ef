import Bpe.Dispatch.Symbolic
import Bpe.Lib.Table

/-!
# Claims are one-shot

What each transaction can do to the ledger is said once, in
`advanceClock_exec` and `claim_exec`. From them the invariant of every run:
the table holds exactly the rows of the receipts that the claims returned, in
order, no two of them conflict, and the high-water mark is ahead of them all.
-/

namespace Bpe.Dispatch

open Models Concurrent Txn List Act

variable {D : Type}

/-! ## What a transaction does -/

section Transactions

variable {env : Env D} {s : Ledger D} {E : Abort DispatchError → Ledger D → Prop}

variable {Q : Unit → Ledger D → Prop}

theorem run_ends {st : Statement} {message : String} (hE : ∀ e s', E (.rollback e) s')
    (hQ : Q () s) : Ends (env.run st message) s Q E :=
  ends_when.2 ⟨fun _ => ends_abort.2 (hE _ _), fun _ => hQ⟩

theorem commitRaise_ends {message : String} {e : DispatchError} (hE : ∀ e s', E (.rollback e) s')
    (h : E (.commit e) s) :
    Ends (env.commitRaise message e) s Q E :=
  ends_bind.2 (run_ends hE (ends_abort.2 h))

theorem advanceHighWater_ends {observed : Int} {message : String} (hE : ∀ e s', E (.rollback e) s')
    (hQ : s.clockHighWaterUnix ≤ observed → Q () { s with clockHighWaterUnix := observed }) :
    Ends (advanceHighWater env observed message) s Q E := by
  unfold advanceHighWater
  refine ends_bind.2 (run_ends hE (ends_bind.2 (ends_read.2 (ends_bind.2 (ends_when.2 ⟨?_, ?_⟩)))))
  · intro _; exact ends_abort.2 (hE _ _)
  · intro hle
    refine ends_bind.2 (run_ends hE (ends_bind.2 (ends_when.2 ⟨?_, ?_⟩)))
    · intro _; exact ends_abort.2 (hE _ _)
    · intro _; exact ends_write.2 (hQ (not_lt.1 hle))

/-- The claims stay and the clock does not go back. -/
def Advances (s s' : Ledger D) : Prop :=
  s'.claims = s.claims ∧ s.clockHighWaterUnix ≤ s'.clockHighWaterUnix

theorem Advances.refl (s : Ledger D) : Advances s s := ⟨rfl, le_refl _⟩

/-- Where a transaction raises after a `COMMIT`, only the clock has moved. -/
def RaisesClean (s : Ledger D) : Abort DispatchError → Ledger D → Prop
  | .commit _, s' => Advances s s'
  | .rollback _, _ => True

theorem advanceClock_exec {observed : Int} {r : Except DispatchError Unit} {s' : Ledger D}
    (h : (advanceClock env observed).outcome s = (r, s')) : Advances s s' := by
  have hends : Ends (advanceClock env observed) s (fun _ s' => Advances s s') (RaisesClean s) := by
    have hE : ∀ e s', RaisesClean s (.rollback e) s' := fun _ _ => trivial
    unfold advanceClock
    refine ends_bind.2 (ends_when.2 ⟨fun _ => ends_abort.2 trivial, fun _ => ?_⟩)
    refine ends_bind.2 (run_ends hE (ends_bind.2 (run_ends hE ?_)))
    refine ends_bind.2 (advanceHighWater_ends hE fun hle => run_ends hE ?_)
    exact ⟨rfl, hle⟩
  rcases outcome_of_ends hends h with ⟨_, _, h⟩ | ⟨_, _, h⟩ | ⟨_, _, _, h, _⟩
  · exact h
  · exact h
  · subst h; exact .refl _

variable [DecidableEq D] {K : Crypto D}

/-- A committed claim: what was checked, and the row it added. -/
structure Claimed (K : Crypto D) (v : VerifiedDispatchAuthorization D) (claimId : Sha256Text D)
    (s : Ledger D) (r : DispatchAdmissionReceipt D) (s' : Ledger D) : Prop where
  receipt : ∃ env : Env D, admissionReceipt K v claimId env = some r
  inWindow : v.authorization.payload.inWindow r.claimedAtUnix
  clock : s.clockHighWaterUnix ≤ r.claimedAtUnix
  fresh : ∀ q ∈ s.claims, ¬ (claimRow K r).conflicts q
  retry : retryAllowed K v.authorization.payload s.claims
  after : s' = ⟨s.claims ++ [claimRow K r], r.claimedAtUnix⟩

/-- The receipt repeats the authorization's fields. -/
structure ReceiptOf (v : VerifiedDispatchAuthorization D) (r : DispatchAdmissionReceipt D) :
    Prop where
  authorizationId : r.authorizationId = v.authorization.payload.authorizationId
  authorizationSha256 : r.authorizationSha256 = v.authorizationSha256
  payloadSha256 : r.authorizationPayloadSha256 = v.payloadSha256
  bindings : r.bindings = v.authorization.payload.bindings
  retryIndex : r.retryIndex = v.authorization.payload.retryIndex
  parentId : r.retryOfAuthorizationId = v.authorization.payload.retryOfAuthorizationId
  parentClaim : r.retryOfClaimSha256 = v.authorization.payload.retryOfClaimSha256

variable {v : VerifiedDispatchAuthorization D}

theorem admissionReceipt_eq {claimId : Sha256Text D} {r : DispatchAdmissionReceipt D}
    (h : admissionReceipt K v claimId env = some r) :
    ReceiptOf v r ∧ r.claimedAtUnix = env.now := by
  unfold admissionReceipt at h
  split at h
  · cases h
  · simp only [Option.ite_none_right_eq_some, Option.some.injEq] at h
    obtain ⟨-, rfl⟩ := h
    exact ⟨⟨rfl, rfl, rfl, rfl, rfl, rfl, rfl⟩, rfl⟩

theorem Claimed.receiptOf {claimId : Sha256Text D} {r : DispatchAdmissionReceipt D} {s' : Ledger D}
    (h : Claimed K v claimId s r s') :
    ReceiptOf v r := by
  obtain ⟨env, henv⟩ := h.receipt
  exact (admissionReceipt_eq henv).1

theorem claimTransaction_ends (v : VerifiedDispatchAuthorization D) (claimId : Sha256Text D) :
    Ends (claimTransaction K env v claimId) s (Claimed K v claimId s) (RaisesClean s) := by
  have hE : ∀ e s', RaisesClean s (.rollback e) s' := fun _ _ => trivial
  unfold claimTransaction
  refine ends_bind.2 (run_ends hE (ends_bind.2 (run_ends hE (ends_bind.2 (ends_when.2 ⟨?_, ?_⟩)))))
  · intro _; exact ends_abort.2 trivial
  intro _
  refine ends_bind.2 (advanceHighWater_ends hE fun hle => ?_)
  refine ends_bind.2 (ends_when.2 ⟨fun _ => commitRaise_ends hE ⟨rfl, hle⟩, fun hwindow => ?_⟩)
  cases hreceipt : admissionReceipt K v claimId env with
  | none => exact ends_bind.2 (run_ends hE (ends_abort.2 ⟨rfl, hle⟩))
  | some receipt =>
    have hnow := (admissionReceipt_eq hreceipt).2
    refine ends_bind.2 (run_ends hE (ends_bind.2 (ends_read.2 ?_)))
    refine ends_bind.2 (ends_when.2 ⟨fun _ => commitRaise_ends hE ⟨rfl, hle⟩, fun hfresh => ?_⟩)
    refine ends_bind.2 (ends_when.2 ⟨fun _ => run_ends hE ?_, fun _ => ?_⟩)
    -- Whether or not the parent is looked up, what follows is the same.
    all_goals
      refine ends_bind.2 (ends_when.2 ⟨fun _ => commitRaise_ends hE ⟨rfl, hle⟩, fun hretry => ?_⟩)
      refine ends_bind.2 (run_ends hE (ends_bind.2 (ends_when.2 ⟨?_, ?_⟩)))
      · intro _; exact ends_abort.2 trivial
      intro _
      refine ends_bind.2 (ends_write.2 (ends_bind.2 (run_ends hE (ends_pure.2 ?_))))
      exact {
        receipt := ⟨env, hreceipt⟩
        inWindow := by rw [hnow]; exact Classical.not_not.1 hwindow
        clock := by rw [hnow]; exact hle
        fresh := fun q hq hc => hfresh ⟨q, hq, hc⟩
        retry := Classical.not_not.1 hretry
        after := by rw [hnow] }

theorem claim_exec {claimId : Sha256Text D} {r : Except DispatchError (DispatchAdmissionReceipt D)}
    {s' : Ledger D} (h : (claimTransaction K env v claimId).outcome s = (r, s')) :
    (∃ receipt, r = .ok receipt ∧ Claimed K v claimId s receipt s') ∨
      ∃ e, r = .error e ∧ Advances s s' := by
  rcases outcome_of_ends (claimTransaction_ends v claimId) h with
    ⟨receipt, hr, hc⟩ | ⟨e, hr, hc⟩ | ⟨e, _, hr, hs, _⟩
  · exact .inl ⟨receipt, hr, hc⟩
  · exact .inr ⟨e, hr, hc⟩
  · subst hs; exact .inr ⟨e, hr, .refl _⟩

end Transactions

variable [DecidableEq D] {K : Crypto D}

/-! ## What a call guarantees -/

/-- The receipt that a claim transaction replied. -/
def receipt? : Event (Reply (D := D)) → Option (DispatchAdmissionReceipt D)
  | ⟨.claim _ _, .ok r⟩ => some r
  | _ => none

/-- A claim is issued for the call's own authorization, verified. -/
def ClaimsOwn (K : Crypto D) (q : Request D) : Call D → Prop
  | .claim v claimId => Verified K v ∧ v.authorization = q.authorization ∧ claimId = q.claimId
  | _ => True

theorem claimAuthorization_guards (q : Request D) (h : List (Event (Reply (D := D))))
    (hh : h.filterMap receipt? = []) :
    Act.Guards (fun _ => ClaimsOwn K q) (fun h r => h.filterMap receipt? = [r])
      (fun h _ => h.filterMap receipt? = []) h
      (claimAuthorization K q.authorization q.trustStore q.expectation q.claimId) := by
  unfold claimAuthorization
  refine guards_bind.2 (guards_perform.2 ⟨trivial, fun t => ?_, fun e => ?_⟩)
  · refine guards_bind.2 (guards_perform.2 ⟨trivial, fun _ => ?_, fun e => ?_⟩)
    · refine guards_bind.2 (guards_lift.2 ⟨fun v hv => ?_, fun e _ => ?_⟩)
      · obtain ⟨hverified, hown⟩ := verifyAuthorization_ok hv
        refine (guards_perform (c := Call.claim v q.claimId)).2
          ⟨⟨hverified, hown, rfl⟩, fun r => ?_, fun e => ?_⟩
        · simp only [filterMap_append, hh]
          rfl
        · simp [hh, receipt?]
      · simp [hh, receipt?]
    · simp [hh, receipt?]
  · simp [hh, receipt?]

theorem program_guards (q : Request D) :
    Act.Guards (fun _ => ClaimsOwn K q) (fun h r => h.filterMap receipt? = [r])
      (fun h _ => h.filterMap receipt? = []) [] (q.program K) := by
  unfold Request.program
  refine guards_ite.2 ⟨fun _ => ?_, fun _ => claimAuthorization_guards q [] rfl⟩
  unfold admitDispatch
  refine guards_bind.2 (guards_perform.2 ⟨trivial, fun t => ?_, fun e => rfl⟩)
  refine guards_bind.2 (guards_lift.2 ⟨fun v _ => ?_, fun e _ => rfl⟩)
  refine guards_bind.2 (guards_perform.2 ⟨trivial, fun _ => ?_, fun e => rfl⟩)
  refine guards_bind.2 (guards_perform.2 ⟨trivial, fun _ => ?_, fun e => rfl⟩)
  exact claimAuthorization_guards q _ rfl

/-! ## What a run preserves -/

theorem DispatchClaim.conflicts_symm {r r' : DispatchClaim D} (h : r.conflicts r') :
    r'.conflicts r := by
  unfold conflicts sqlEq at h ⊢
  rcases h with h | h | h | h | h | h | ⟨h, h'⟩ | ⟨h, h'⟩
  all_goals simp_all

/-- A row stands for a claim of a verified authorization. -/
def Backed (K : Crypto D) (v : VerifiedDispatchAuthorization D)
    (r : DispatchAdmissionReceipt D) : Prop :=
  Verified K v ∧ ReceiptOf v r ∧ v.authorization.payload.inWindow r.claimedAtUnix

structure Inv (K : Crypto D) (log : List (Step (Reply (D := D)) (Ledger D))) (s : Ledger D) :
    Prop where
  claims : s.claims = (collect receipt? log).map fun ir => claimRow K ir.2
  distinct : Distinct DispatchClaim.conflicts s.claims
  clock : ∀ r ∈ s.claims, r.claimedAtUnix ≤ s.clockHighWaterUnix
  backed : ∀ e ∈ log, ∀ r, receipt? e.event = some r →
    ∃ v claimId, e.call = .claim v claimId ∧ Backed K v r

variable {log : List (Step (Reply (D := D)) (Ledger D))} {s s' : Ledger D}

theorem Inv.advance (h : Inv K log s) (ha : Advances s s') {e : Step Reply (Ledger D)}
    (he : receipt? e.event = none) : Inv K (log ++ [e]) s' where
  claims := by rw [ha.1, h.claims, collect_snoc, he]; simp
  distinct := by rw [ha.1]; exact h.distinct
  clock r hr := by
    rw [ha.1] at hr
    exact le_trans (h.clock r hr) ha.2
  backed e' he' r hr := by
    rcases mem_append.1 he' with he' | he'
    · exact h.backed e' he' r hr
    · rw [mem_singleton.1 he', he] at hr
      cases hr

theorem Inv.claim (h : Inv K log s) {v : VerifiedDispatchAuthorization D}
    {claimId : Sha256Text D} {r : DispatchAdmissionReceipt D} (hv : Verified K v)
    (hc : Claimed K v claimId s r s') (i : Nat) :
    Inv K (log ++ [⟨i, .claim v claimId, .ok r, s, s'⟩]) s' where
  claims := by rw [hc.after, h.claims, collect_snoc]; simp [Step.event, receipt?]
  distinct := by
    rw [hc.after]
    exact h.distinct.snoc fun q hq hcon => hc.fresh q hq (DispatchClaim.conflicts_symm hcon)
  clock q hq := by
    rw [hc.after] at hq ⊢
    rcases mem_append.1 hq with hq | hq
    · exact le_trans (h.clock q hq) hc.clock
    · rw [mem_singleton.1 hq]; exact le_refl _
  backed e he r' hr' := by
    rcases mem_append.1 he with he | he
    · exact h.backed e he r' hr'
    · rw [mem_singleton.1 he] at hr' ⊢
      cases hr'
      exact ⟨v, claimId, rfl, hv, hc.receiptOf, hc.inWindow⟩

theorem exec_advances {c : Call D} {r : Reply c} (h : Exec K c s r s') :
    Advances s s' ∧ receipt? ⟨c, r⟩ = none ∨
      ∃ v claimId receipt, (⟨c, r⟩ : Event Reply) = ⟨.claim v claimId, .ok receipt⟩ ∧
        Claimed K v claimId s receipt s' := by
  cases c with
  | currentUnixTime => exact .inl ⟨h.1 ▸ .refl _, rfl⟩
  | openLedger => exact .inl ⟨h ▸ .refl _, rfl⟩
  | advanceClock observed =>
    obtain ⟨env, henv⟩ := h
    exact .inl ⟨advanceClock_exec henv, rfl⟩
  | claim v claimId =>
    obtain ⟨env, henv⟩ := h
    rcases claim_exec henv with ⟨receipt, rfl, hc⟩ | ⟨e, rfl, ha⟩
    · exact .inr ⟨v, claimId, receipt, rfl, hc⟩
    · exact .inl ⟨ha, rfl⟩

theorem run_inv {g : Config (Request D) Reply _ (Ledger D)} (hr : Run (system K) .empty log g) :
    Inv K log g.store := by
  refine Run.invariant (P := fun q _ => ClaimsOwn K q) program_guards (Inv K) ?_ ?_ hr
  · exact ⟨rfl, distinct_nil, by simp [Ledger.empty], by simp⟩
  · intro log i q c r s s' hinv hown hx
    rcases exec_advances hx with ⟨ha, hnone⟩ | ⟨v, claimId, receipt, he, hc⟩
    · exact hinv.advance ha hnone
    · cases he
      exact hinv.claim hown.1 hc i

section Results

variable {g : Config (Request D) Reply (Except DispatchError (DispatchAdmissionReceipt D))
  (Ledger D)} {i : Nat} {q : Request D}

section

variable (hr : Run (system K) .empty log g)

include hr

theorem row_of_returned {r : DispatchAdmissionReceipt D} (hi : g.Finished i q (.ok r)) :
    (i, r) ∈ collect receipt? log ∧ claimRow K r ∈ g.store.claims := by
  have hown : (own log i).filterMap receipt? = [r] :=
    Run.result (P := fun q _ => ClaimsOwn K q) program_guards hr hi
  have hmem : (i, r) ∈ collect receipt? log := mem_own_filterMap.1 (by rw [hown]; simp)
  refine ⟨hmem, ?_⟩
  rw [(run_inv hr).claims]
  exact mem_map_of_mem hmem

theorem claims_of_raised {err : DispatchError} (hi : g.Finished i q (.error err))
    {e : Step Reply (Ledger D)} (he : e ∈ log) (hthread : e.thread = i) :
    e.after.claims = e.before.claims := by
  have hown : (own log i).filterMap receipt? = [] :=
    Run.result (P := fun q _ => ClaimsOwn K q) program_guards hr hi
  rcases exec_advances (hr.exec_of_mem he) with ⟨ha, _⟩ | ⟨v, claimId, r, hev, _⟩
  · exact ha.1
  · have hmem : r ∈ (own log i).filterMap receipt? := by
      refine mem_own_filterMap.2 (mem_collect.2 ⟨e, he, hthread, ?_⟩)
      have : e.event = ⟨.claim v claimId, .ok r⟩ := hev
      rw [this]; rfl
    rw [hown] at hmem
    cases hmem

theorem clock_le {e : Step Reply (Ledger D)} (he : e ∈ log) :
    e.before.clockHighWaterUnix ≤ e.after.clockHighWaterUnix := by
  rcases exec_advances (hr.exec_of_mem he) with ⟨ha, _⟩ | ⟨v, claimId, r, _, hc⟩
  · exact ha.2
  · rw [hc.after]; exact hc.clock

/-- Every row was put there by a call, for the authorization it was given. -/
theorem claimant_of_row {r : DispatchClaim D} (hrow : r ∈ g.store.claims) :
    ∃ (i : Nat) (q : Request D), g.Started i q ∧
      r.authorizationId = q.authorization.payload.authorizationId ∧
      r.authorizationSha256 = K.sha256Json (.authorization q.authorization) ∧
      q.authorization.payload.inWindow r.claimedAtUnix := by
  rw [(run_inv hr).claims] at hrow
  obtain ⟨⟨i, receipt⟩, hmem, rfl⟩ := mem_map.1 hrow
  obtain ⟨e, he, rfl, hreceipt⟩ := mem_collect.1 hmem
  obtain ⟨_, _, q, _, hi, hown⟩ :=
    Run.issued (P := fun q _ => ClaimsOwn K q) program_guards hr e he
  obtain ⟨v, claimId, hcall, hverified, hof, hwindow⟩ := (run_inv hr).backed e he receipt hreceipt
  rw [hcall] at hown
  obtain ⟨-, hauth, -⟩ := hown
  refine ⟨e.thread, q, hi, ?_, ?_, ?_⟩
  · rw [← hauth]; exact hof.authorizationId
  · rw [← hauth, ← hverified.authorizationSha256]; exact hof.authorizationSha256
  · rw [← hauth]; exact hwindow

end

end Results

/-- **Dispatch claims are one-shot**, over any interleaving of any number of
`claim_authorization` and `admit_dispatch` calls on a provisioned ledger. -/
theorem dispatch_one_shot
    {g : Config (Request D) Reply (Except DispatchError (DispatchAdmissionReceipt D)) (Ledger D)}
    (hr : Run (system K) .empty log g) :
    g.store.claims.Pairwise (fun r r' => r.authorizationId ≠ r'.authorizationId ∧
      r.authorizationSha256 ≠ r'.authorizationSha256 ∧ r.dispatchNonce ≠ r'.dispatchNonce ∧
      r.claimId ≠ r'.claimId ∧ r.claimNonce ≠ r'.claimNonce) ∧
    (∀ i q err, g.Finished i q (.error err) →
      ∀ e ∈ log, e.thread = i → e.after.claims = e.before.claims) ∧
    (∀ e ∈ log, e.before.clockHighWaterUnix ≤ e.after.clockHighWaterUnix) ∧
    (∀ r ∈ g.store.claims, r.claimedAtUnix ≤ g.store.clockHighWaterUnix) ∧
    (∀ r ∈ g.store.claims, ∃ (i : Nat) (q : Request D), g.Started i q ∧
      r.authorizationId = q.authorization.payload.authorizationId ∧
      r.authorizationSha256 = K.sha256Json (.authorization q.authorization) ∧
      q.authorization.payload.inWindow r.claimedAtUnix) ∧
    (∀ i q receipt, g.Finished i q (.ok receipt) →
      ∃! r, r ∈ g.store.claims ∧ r.receiptSha256 = K.sha256Json (.receipt receipt)) ∧
    (∀ i j q q' receipt receipt', i ≠ j → g.Finished i q (.ok receipt) →
      g.Finished j q' (.ok receipt') →
      K.sha256Json (.receipt receipt) ≠ K.sha256Json (.receipt receipt')) := by
  have hinv := run_inv hr
  refine ⟨?_, fun i q err hi e he hth => claims_of_raised hr hi he hth, fun e he => clock_le hr he,
    hinv.clock, fun r hrow => claimant_of_row hr hrow, ?_, ?_⟩
  · refine List.Pairwise.imp (fun {r r'} hne => ?_) hinv.distinct
    unfold DispatchClaim.conflicts at hne
    tauto
  · intro i q receipt hi
    have hrow := (row_of_returned hr hi).2
    refine ⟨claimRow K receipt, ⟨hrow, rfl⟩, fun r hr' => ?_⟩
    refine hinv.distinct.eq DispatchClaim.conflicts_symm hr'.1 hrow ?_
    exact .inr (.inr (.inr (.inr (.inr (.inl hr'.2)))))
  · intro i j q q' receipt receipt' hij hi hj heq
    have hdistinct := hinv.distinct
    rw [hinv.claims, distinct_map] at hdistinct
    have hsame := hdistinct.eq DispatchClaim.conflicts_symm (row_of_returned hr hi).1
      (row_of_returned hr hj).1 (.inr (.inr (.inr (.inr (.inr (.inl heq))))))
    exact hij (congrArg Prod.fst hsame)

/-- Two calls that both return: a first attempt and its retry. -/
theorem sample_claims_distinct :
    sampleRun.2.store.claims.map (·.retryIndex) = [0, 1] ∧
      sampleRun.2.store.claims.Pairwise (fun r r' => r.authorizationId ≠ r'.authorizationId ∧
        r.authorizationSha256 ≠ r'.authorizationSha256 ∧ r.dispatchNonce ≠ r'.dispatchNonce ∧
        r.claimId ≠ r'.claimId ∧ r.claimNonce ≠ r'.claimNonce) :=
  ⟨by decide +kernel, (dispatch_one_shot run_sample).1⟩

end Bpe.Dispatch
