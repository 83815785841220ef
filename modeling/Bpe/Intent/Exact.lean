import Bpe.Intent.Recover

/-!
# What the intent ledger verifies and recovers

On a ledger whose rows all stand for claims of verified inputs,
`verify_committed_receipt` accepts exactly the receipts that have their row,
and `recover_committed_receipt` finds the row of its inputs, their tombstone,
or nothing.
-/

namespace Bpe.Intent

open Models Act

variable {D : Type} {K : Crypto D} {H : Handle}

/-- The identity that the signed inputs have on the ledger. -/
def inputIdentity (K : Crypto D) (H : Handle) (i : SignedInertFixtureIntent D)
    (t : InertFixtureIntentTrustStore) : ReservationIdentity D :=
  reservationIdentity K H {
    intent := i
    intentSha256 := K.sha256Json (.intent i)
    payloadSha256 := K.sha256Json (.payload i.payload)
    trustStoreId := t.trustStoreId
    trustStoreSha256 := K.sha256Json (.trustStore t)
    verifiedAtUnix := 0 }

theorem inputIdentity_inj (hinj : Function.Injective K.sha256Json)
    {i i' : SignedInertFixtureIntent D} {t t' : InertFixtureIntentTrustStore}
    (h : inputIdentity K H i t = inputIdentity K H i' t') : i = i' ∧ t = t' := by
  simp only [inputIdentity, reservationIdentity, ReservationIdentity.mk.injEq,
    hinj.eq_iff, Document.intent.injEq, Document.trustStore.injEq] at h
  exact ⟨h.1, h.2.2.2.2.2.1⟩

/-- A call answered from the ledger, on a host whose clock reads a Unix time
and where the paths are canonical. -/
def Answers [DecidableEq D] (s : Ledger D) : Event (Reply (D := D)) → Prop
  | ⟨.currentUnixTime, r⟩ => ∃ now : Int, 0 ≤ now ∧ r = .ok now
  | ⟨.canonicalPath _, r⟩ => r = .ok true
  | ⟨.claim _ _, _⟩ => True
  | ⟨.selectReservation d, r⟩ => r = .ok (s.selectReservation d)
  | ⟨.selectClaim id, r⟩ => r = .ok (s.selectClaim id)

abbrev Answered [DecidableEq D] (s : Ledger D) (h : List (Event (Reply (D := D)))) : Prop :=
  OneShot.Answered (Answers s) h

variable [DecidableEq D]

/-- The receipt that a claim of the inputs makes. -/
def MadeOf (K : Crypto D) (i : SignedInertFixtureIntent D) (t : InertFixtureIntentTrustStore)
    (r : InertFixtureIntentClaimReceipt D) : Prop :=
  ∃ v claimId, Verified K t v ∧ v.intent = i ∧ Makes K v claimId r

/-- Every row stands for a claim of verified inputs. -/
structure Ledger.Exact (K : Crypto D) (H : Handle) (s : Ledger D) : Prop where
  oneShot : OneShot.Inv rules s.view
  reserved : ∀ q ∈ s.reservations, ∃ i t, q.identity = inputIdentity K H i t ∧
    i.payload.inWindow q.reservedAtUnix
  made : ∀ c ∈ s.claims, ∃ i t r, c = claimRow K r ∧ MadeOf K i t r

variable {t : InertFixtureIntentTrustStore} {v : VerifiedInertFixtureIntent D}

theorem Verified.identity (h : Verified K t v) :
    reservationIdentity K H v = inputIdentity K H v.intent t := by
  unfold inputIdentity reservationIdentity
  rw [h.intentSha256, h.payloadSha256, h.trustStoreId, h.trustStoreSha256]

variable {e : InertFixtureIntentExpectation D} {i : SignedInertFixtureIntent D} {now : Int}

namespace Ledger.Exact

variable {s : Ledger D}

section

variable (hs : s.Exact K H)

include hs

theorem selectClaim_eq_some {id : String} {c : IntentClaim D} :
    s.selectClaim id = some c ↔ c ∈ s.claims ∧ c.identity.intentId = id :=
  hs.oneShot.record?_eq_some fun _ _ h => .inr (.inl h)

theorem selectReservation (id : ReservationIdentity D) :
    OneShot.Lookup rules s.view id (s.selectReservation id.intentSha256) :=
  hs.oneShot.lookup (fun _ _ h => .inl h) id

theorem valid_of_row {r : InertFixtureIntentClaimReceipt D} (hr : claimRow K r ∈ s.claims) :
    r.valid K := by
  obtain ⟨_, _, r', hrow, _, _, _, _, hvalid, _⟩ := hs.made _ hr
  have : r = r' := congrArg IntentClaim.receiptJson hrow
  rw [this]; exact hvalid

theorem bound_of_row {r : InertFixtureIntentClaimReceipt D} (hr : claimRow K r ∈ s.claims) :
    r.bindings.workerInstanceId = H.workerInstanceId ∧ r.bindings.claimLedgerId = H.ledgerId := by
  obtain ⟨q, hq, hid, -⟩ := hs.oneShot.backed _ hr
  obtain ⟨i, t, hidentity, _⟩ := hs.reserved q hq
  have hid := hidentity.symm.trans hid
  exact ⟨(congrArg ReservationIdentity.workerInstanceId hid).symm,
    (congrArg ReservationIdentity.claimLedgerId hid).symm⟩

/-- The claim with the identity of the inputs was made of them. -/
theorem madeOf_of_identity (hinj : Function.Injective K.sha256Json) {c : IntentClaim D}
    (hc : c ∈ s.claims) {i : SignedInertFixtureIntent D} {t : InertFixtureIntentTrustStore}
    (hid : c.identity = inputIdentity K H i t) :
    ∃ r, c = claimRow K r ∧ MadeOf K i t r := by
  obtain ⟨i', t', r, rfl, v, claimId, hv, rfl, hmakes⟩ := hs.made c hc
  obtain ⟨hvalid, id, env, hclaimId, rfl⟩ := hmakes
  have hintent : v.intent = i := by
    have := congrArg ReservationIdentity.intentSha256 hid
    rw [show (claimRow K (claimReceipt v id env)).identity.intentSha256 = v.intentSha256 from rfl,
      hv.intentSha256] at this
    exact Document.intent.inj (hinj this)
  have htrust : t' = t := by
    have := congrArg ReservationIdentity.trustStoreSha256 hid
    rw [show (claimRow K (claimReceipt v id env)).identity.trustStoreSha256 =
      v.trustStoreSha256 from rfl, hv.trustStoreSha256] at this
    exact Document.trustStore.inj (hinj this)
  subst htrust
  exact ⟨_, rfl, v, claimId, hv, hintent, hvalid, id, env, hclaimId, rfl⟩

end

end Ledger.Exact

theorem Ledger.exact_empty : (Ledger.empty : Ledger D).Exact K H where
  oneShot := .empty
  reserved := by simp [Ledger.empty]
  made := by simp [Ledger.empty]

variable {r : InertFixtureIntentClaimReceipt D}

theorem Ledger.Exact.left {s s' : Ledger D} (hs : s.Exact K H) (hv : Verified K t v)
    {claimId : Sha256Text D} {made : Option (InertFixtureIntentClaimReceipt D)}
    (h : Left K H v claimId s made s') :
    s'.Exact K H where
  oneShot := hs.oneShot.effect h.1
  reserved q hq := by
    rcases h.1.reservation hq with hq | hq
    · exact hs.reserved q hq
    · exact ⟨v.intent, t, hq.1.trans hv.identity, hq.2⟩
  made c hc := by
    rcases h.1.record hc with hc | hmade
    · exact hs.made c hc
    · obtain ⟨r, hr, rfl⟩ := Option.map_eq_some_iff.1 hmade
      exact ⟨v.intent, t, r, rfl, v, claimId, hv, rfl, h.2 r hr⟩

theorem recovers_of_madeOf (hv : Verified K t v) (hi : v.intent = i) (hr : MadeOf K i t r) :
    recovers K v (claimRow K r) := by
  obtain ⟨v', _, hv', rfl, _, id, env, _, rfl⟩ := hr
  refine ⟨rfl, ?_, ?_, ?_, ?_, ?_, ?_, ?_, ?_, ?_, ?_, ?_, ?_⟩
  · rw [hi]; rfl
  · rw [hv.intentSha256, hi]; exact hv'.intentSha256
  · rw [hv.payloadSha256, hi]; exact hv'.payloadSha256
  · rw [hi]; rfl
  · rw [hv.trustStoreId]; exact hv'.trustStoreId
  · rw [hv.trustStoreSha256]; exact hv'.trustStoreSha256
  · rw [hi]; rfl
  · rw [hi]; rfl
  · rw [hi]; rfl
  · rw [hi]; rfl
  · rw [hi]; rfl
  · rw [hi]; rfl

/-! ## Verification -/

theorem verifyCommittedReceipt_completes (r : InertFixtureIntentClaimReceipt D) :
    (verifyCommittedReceipt K H r).Completes Call.Reads :=
  OneShot.Recall.verify_completes (completes_perform (reads_selectClaim _))

variable {s : Ledger D} {h : List (Event (Reply (D := D)))}

theorem verifyCommittedReceipt_exact (hs : s.Exact K H) (r : InertFixtureIntentClaimReceipt D) :
    Act.Guards (fun _ _ => True)
      (fun h' d => Answered s h' →
        Answered s h ∧ claimRow K r ∈ s.claims ∧ d = K.sha256Json (.receipt r))
      (fun h' _ => Answered s h' → Answered s h ∧ claimRow K r ∉ s.claims) h
      (verifyCommittedReceipt K H r) := by
  refine OneShot.Recall.verify_exact (V := verification K H)
    (OneShot.yields_perform (c := Call.selectClaim _) fun _ hans => hans) ?_ fun hr => ?_
  · exact hs.selectClaim_eq_some.trans (and_iff_left rfl)
  · exact ⟨hs.valid_of_row hr, decide_eq_true (hs.bound_of_row hr)⟩

/-! ## Recovery -/

theorem verifyInertFixtureIntent_completes (i : SignedInertFixtureIntent D)
    (t : InertFixtureIntentTrustStore) (e : InertFixtureIntentExpectation D) (now : Int)
    (enforce : Bool) : (verifyInertFixtureIntent K i t e now enforce).Completes Call.Reads := by
  unfold verifyInertFixtureIntent
  refine completes_check_bind ?_
  exact completes_bind (completes_perform (reads_canonicalPath _)) fun _ => trivial

theorem recoverCommittedReceipt_completes (i : SignedInertFixtureIntent D)
    (t : InertFixtureIntentTrustStore) (e : InertFixtureIntentExpectation D) :
    (recoverCommittedReceipt K H i t e).Completes Call.Reads := by
  unfold recoverCommittedReceipt
  refine completes_bind (completes_perform reads_currentUnixTime) fun now => ?_
  refine completes_bind (verifyInertFixtureIntent_completes i t e now false) fun v => ?_
  exact completes_check_bind (OneShot.Recall.recover_completes
    (completes_perform (reads_selectReservation _)) verifyCommittedReceipt_completes)

theorem verifyInertFixtureIntent_exact (ha : Authentic K H i t e) (hnow : Answered s h → 0 ≤ now)
    {E : List (Event (Reply (D := D))) → InertError → Prop}
    (hE : ∀ h err, (Answered s h → False) → E h err) :
    Act.Guards (fun _ _ => True)
      (fun h' v => Answered s h' → Answered s h ∧ Verified K t v ∧
        v.intent = i ∧ H.owns v e) E h
      (verifyInertFixtureIntent K i t e now false) := by
  obtain ⟨v₀, hv₀, howns⟩ := ha
  unfold verifyInertFixtureIntent
  refine guards_check_bind (fun hneg => hE _ _ fun hans => ?_) fun _ => ?_
  · have := hnow hans
    omega
  refine guards_bind.2 (guards_perform.2 ⟨trivial, fun (b : Bool) => ?_, fun err => ?_⟩)
  · refine guards_lift.2 ⟨fun v hv hans => ?_, fun err herr => hE _ _ fun hans => ?_⟩
    · obtain ⟨hverified, hintent, -, -⟩ := authenticateIntent_ok hv
      have hpath : b = true := Except.ok.inj hans.last
      rw [hpath, authenticateIntent_time now hv₀] at hv
      cases hv
      exact ⟨hans.init, hverified, hintent, howns⟩
    · have hpath : b = true := Except.ok.inj hans.last
      rw [hpath, authenticateIntent_time now hv₀] at herr
      cases herr
  · refine hE _ _ fun hans => ?_
    cases hans.last

/-- On authentic inputs it returns the receipt of the row that the inputs have,
and otherwise tells a tombstone from nothing. -/
theorem recoverCommittedReceipt_exact (hinj : Function.Injective K.sha256Json) (hs : s.Exact K H)
    (ha : Authentic K H i t e) :
    Act.Guards (fun _ _ => True)
      (fun h r => Answered s h →
        claimRow K r ∈ s.claims ∧ (claimRow K r).identity = inputIdentity K H i t)
      (fun h err => Answered s h → OneShot.Refuses .alreadyClaimed .ledger rules s.view
        (inputIdentity K H i t) err) h
      (recoverCommittedReceipt K H i t e) := by
  unfold recoverCommittedReceipt
  refine guards_bind.2 (guards_perform.2 ⟨trivial, fun now => ?_, fun err hans => ?_⟩)
  swap
  · obtain ⟨_, _, hreply⟩ := hans.last
    cases hreply
  refine guards_bind.2 ((verifyInertFixtureIntent_exact (s := s) ha (fun hans => ?_)
    fun _ _ hfalse hans => (hfalse hans).elim).mono (fun h v hv => ?_) fun _ _ he => he)
  · obtain ⟨_, hnow, hreply⟩ := hans.last
    cases hreply
    exact hnow
  refine guards_check_bind (fun howns hans => ?_) fun _ => ?_
  · exact absurd (hv hans).2.2.2 howns
  refine OneShot.Recall.recover_exact (V := verification K H) hs.oneShot ⟨_, rfl⟩
    ⟨⟨_, rfl⟩, _, rfl⟩
    (OneShot.yields_perform (c := Call.selectReservation _) fun _ hans => hans) (fun hans => ?_)
    fun _ => verifyCommittedReceipt_exact hs
  obtain ⟨-, hverified, rfl, -⟩ := hv hans
  refine ⟨hverified.identity, ?_, fun q hq hid => ?_, fun c hc hid => ?_⟩
  · rw [hverified.intentSha256]
    exact hs.selectReservation (inputIdentity K H v.intent t)
  · obtain ⟨i', t', hid', hwindow⟩ := hs.reserved q hq
    obtain ⟨rfl, rfl⟩ := inputIdentity_inj hinj (hid'.symm.trans hid)
    exact decide_eq_true hwindow
  · obtain ⟨r, rfl, hmade⟩ := hs.madeOf_of_identity hinj hc hid
    exact ⟨r, rfl, hs.valid_of_row hc,
      decide_eq_true (recovers_of_madeOf hverified rfl hmade)⟩

def answer (s : Ledger D) : (c : Call D) → Reply c
  | .currentUnixTime => .ok (0 : Int)
  | .canonicalPath _ => .ok true
  | .claim _ _ => .error (.ledger "cannot commit fixture-intent claim")
  | .selectReservation d => .ok (s.selectReservation d)
  | .selectClaim id => .ok (s.selectClaim id)

theorem exec_answer (s : Ledger D) (c : Call D) (hc : c.Reads) :
    Exec K H c s (answer s c) s := by
  cases c with
  | currentUnixTime => exact ⟨rfl, 0, rfl⟩
  | canonicalPath p => exact ⟨rfl, true, rfl⟩
  | claim v claimId => exact absurd rfl (hc v claimId)
  | selectReservation d => exact ⟨rfl, .inl rfl⟩
  | selectClaim id => exact ⟨rfl, .inl rfl⟩

theorem answers_answer (s : Ledger D) (c : Call D) : Answers s ⟨c, answer s c⟩ := by
  cases c with
  | currentUnixTime => exact ⟨0, le_refl _, rfl⟩
  | canonicalPath p => rfl
  | claim v claimId => trivial
  | selectReservation d => rfl
  | selectClaim id => rfl

theorem answered_answer {s : Ledger D} {t : List (Event (Reply (D := D)))}
    (ht : ∀ v ∈ t, v.2 = answer s v.1) : Answered s t := by
  intro v hv
  have hans := answers_answer s v.1
  rw [← ht v hv] at hans
  exact hans

theorem exec_reads {c : Call D} {s s' : Ledger D} {r : Reply c} (hc : c.Reads)
    (hx : Exec K H c s r s') : s' = s := by
  rcases exec_effect hx with ⟨hsame, _⟩ | ⟨v, claimId, _, _, he, _⟩
  · exact hsame
  · exact absurd (congrArg Sigma.fst he) (hc v claimId)

/-! ## Authentic inputs -/

/-- An expectation under which inputs are authentic is determined by them. -/
theorem Authentic.expectation_unique (hinj : Function.Injective K.sha256Json)
    {t t' : InertFixtureIntentTrustStore} {e e' : InertFixtureIntentExpectation D}
    (h : Authentic K H i t e) (h' : Authentic K H i t' e') : e = e' := by
  obtain ⟨v, hv, howns⟩ := h
  obtain ⟨v', hv', howns'⟩ := h'
  have hbindings : e.bindings = e'.bindings :=
    (authenticateIntent_ok hv).2.2.2.symm.trans (authenticateIntent_ok hv').2.2.2
  have hpolicy : e.policy = e'.policy := by
    have hb := hbindings
    rw [(authenticateIntent_canonical hv).2, (authenticateIntent_canonical hv').2] at hb
    exact Document.policy.inj (hinj (congrArg InertFixtureBindings.policySha256 hb))
  have hpath : e.claimLedgerPath = e'.claimLedgerPath := howns.2.2.trans howns'.2.2.symm
  cases e
  cases e'
  simp_all

theorem MadeOf.identity (h : MadeOf K i t r) (ha : Authentic K H i t e) :
    (claimRow K r).identity = inputIdentity K H i t := by
  obtain ⟨v, _, hv, rfl, -, id, env, -, rfl⟩ := h
  obtain ⟨v₀, hv₀, howns⟩ := ha
  obtain ⟨-, hintent, -, -⟩ := authenticateIntent_ok hv₀
  rw [Handle.owns, hintent] at howns
  rw [← hv.identity]
  simp only [claimRow, claimReceipt, reservationIdentity, howns.1, howns.2.1]

end Bpe.Intent
