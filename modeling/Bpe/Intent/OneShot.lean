import Bpe.Intent.Effect
import Bpe.Intent.Symbolic

/-!
# Intents are consumed once

The invariant of every run of `claim_intent` and `admit_inert_fixture_intent`
calls is that of a one-shot ledger, with each reservation traced to the call
that made it.
-/

namespace Bpe.Intent

open Models Concurrent Act

variable {D : Type} {K : Crypto D} {H : Handle}

/-- The identity names the signed intent, by its digest, ID or nonce. -/
def ReservationIdentity.names (K : Crypto D) (r : ReservationIdentity D)
    (i : SignedInertFixtureIntent D) : Prop :=
  r.intentSha256 = K.sha256Json (.intent i) ∨ r.intentId = i.payload.intentId ∨
    r.intentNonce = i.payload.intentNonce

/-- The reservation is that of the signed intent, inside its window. -/
structure ReservesIntent (K : Crypto D) (i : SignedInertFixtureIntent D)
    (r : IntentReservation D) : Prop where
  intentSha256 : r.identity.intentSha256 = K.sha256Json (.intent i)
  intentId : r.identity.intentId = i.payload.intentId
  intentNonce : r.identity.intentNonce = i.payload.intentNonce
  inWindow : i.payload.inWindow r.reservedAtUnix

theorem ReservesIntent.conflicts {i : SignedInertFixtureIntent D} {r : IntentReservation D}
    (h : ReservesIntent K i r) {id : ReservationIdentity D} (hid : id.names K i) :
    id.conflicts r.identity := by
  rcases hid with hid | hid | hid
  · exact .inl (hid.trans h.intentSha256.symm)
  · exact .inr (.inl (hid.trans h.intentId.symm))
  · exact .inr (.inr (hid.trans h.intentNonce.symm))

variable [DecidableEq D]

/-! ## Authentic inputs -/

/-- The inputs verify, and are for this ledger. -/
def Authentic (K : Crypto D) (H : Handle) (i : SignedInertFixtureIntent D)
    (t : InertFixtureIntentTrustStore) (e : InertFixtureIntentExpectation D) : Prop :=
  ∃ v, authenticateIntent K i t e 0 false true = .ok v ∧ H.owns v e

section Authentication

variable {i : SignedInertFixtureIntent D} {t : InertFixtureIntentTrustStore}
  {e : InertFixtureIntentExpectation D} {now : Int} {v : VerifiedInertFixtureIntent D}

/-- Without the window the verification goes through at any time, and the time only
stamps the result. -/
theorem authenticateIntent_time {enforce b : Bool} (now' : Int)
    (h : authenticateIntent K i t e now enforce b = .ok v) :
    authenticateIntent K i t e now' false b = .ok { v with verifiedAtUnix := now' } := by
  unfold authenticateIntent at h ⊢
  split at h
  · cases h
  next hvalid =>
  rw [if_neg hvalid]
  split at h
  · cases h
  next hbindings =>
  rw [if_neg hbindings, if_neg (by simp)]
  split at h
  · cases h
  split at h
  · split at h
    · cases h
    next hrevoked =>
    rw [if_neg hrevoked]
    split at h
    · cases h
    next hwindow =>
    rw [if_neg hwindow]
    split at h
    · cases h
    next hverify =>
    rw [if_neg hverify]
    cases h
    rfl
  · cases h

theorem authenticateIntent_valid {enforce b : Bool}
    (h : authenticateIntent K i t e now enforce b = .ok v) :
    i.valid K ∧ t.valid K ∧ e.valid K b := by
  unfold authenticateIntent at h
  split at h
  · cases h
  next hvalid => exact Classical.not_not.1 hvalid

theorem InertFixtureIntentExpectation.valid_canonical {b : Bool} (h : e.valid K b) :
    b = true ∧ e.bindings = e.policy.bindings K := by
  simp only [valid, Bool.and_eq_true, decide_eq_true_eq] at h
  exact ⟨h.1.1.1, h.1.2⟩

theorem authenticateIntent_canonical {enforce b : Bool}
    (h : authenticateIntent K i t e now enforce b = .ok v) :
    b = true ∧ e.bindings = e.policy.bindings K :=
  InertFixtureIntentExpectation.valid_canonical (authenticateIntent_valid h).2.2

theorem authentic_of_verified {enforce b : Bool}
    (h : authenticateIntent K i t e now enforce b = .ok v) (howns : H.owns v e) :
    Authentic K H i t e := by
  obtain ⟨rfl, -⟩ := authenticateIntent_canonical h
  exact ⟨_, authenticateIntent_time 0 h, howns⟩

end Authentication

/-! ## What a call guarantees -/

/-- A claim is issued for the call's own intent, verified. -/
def ClaimsOwn (K : Crypto D) (q : Request D) : Call D → Prop
  | .claim v claimId => Verified K q.trustStore v ∧ v.intent = q.intent ∧ claimId = q.claimId
  | _ => True

/-- A claim is issued for authentic inputs of the call. -/
def ClaimsAuthentic (K : Crypto D) (H : Handle) (q : Request D) : Call D → Prop
  | .claim v _ => Verified K q.trustStore v ∧ v.intent = q.intent ∧
      Authentic K H q.intent q.trustStore q.expectation
  | _ => True

theorem verifyInertFixtureIntent_guards {P : List (Event (Reply (D := D))) → Call D → Prop}
    {i : SignedInertFixtureIntent D} {t : InertFixtureIntentTrustStore}
    {e : InertFixtureIntentExpectation D} {now : Int} {enforce : Bool}
    {Q : List (Event (Reply (D := D))) → VerifiedInertFixtureIntent D → Prop}
    {E : List (Event (Reply (D := D))) → InertError → Prop} {h : List (Event (Reply (D := D)))}
    (hP : P h (.canonicalPath e.claimLedgerPath)) (hraise : ∀ err, E h err)
    (hcall : ∀ b err, E (h ++ [⟨.canonicalPath e.claimLedgerPath, b⟩]) err)
    (hQ : ∀ b b' v, authenticateIntent K i t e now enforce b = .ok v →
      Q (h ++ [⟨.canonicalPath e.claimLedgerPath, b'⟩]) v) :
    Act.Guards P Q E h (verifyInertFixtureIntent K i t e now enforce) := by
  unfold verifyInertFixtureIntent
  refine guards_check_bind (fun _ => hraise _) fun _ => ?_
  refine guards_bind.2 (guards_perform.2 ⟨hP, fun b => ?_, fun err => hcall _ _⟩)
  exact guards_lift.2 ⟨fun v hv => hQ _ _ v hv, fun err _ => hcall _ _⟩

theorem claimIntent_guards (q : Request D) (h : List (Event (Reply (D := D))))
    (hh : h.filterMap receipt? = []) :
    Act.Guards (fun _ c => ClaimsOwn K q c ∧ ClaimsAuthentic K H q c)
      (fun h r => h.filterMap receipt? = [r]) (fun h _ => h.filterMap receipt? = []) h
      (claimIntent K H q.intent q.trustStore q.expectation q.claimId) := by
  unfold claimIntent
  refine guards_bind.2 (guards_perform.2 ⟨⟨trivial, trivial⟩, fun t => ?_, fun e => ?_⟩)
  · refine guards_bind.2 (verifyInertFixtureIntent_guards ⟨trivial, trivial⟩ ?_ ?_ ?_)
    · simp [hh, receipt?]
    · simp [hh, receipt?]
    · intro b b' v hv
      obtain ⟨hverified, hintent, -, -⟩ := authenticateIntent_ok hv
      refine guards_check_bind (fun _ => ?_) fun howns => ?_
      · simp [hh, receipt?]
      · have hauthentic := authentic_of_verified hv (Classical.not_not.1 howns)
        refine (guards_perform (c := Call.claim v q.claimId)).2 ⟨⟨⟨hverified, hintent, rfl⟩,
          hverified, hintent, hauthentic⟩, fun r => ?_, fun e => ?_⟩
        · simp only [List.filterMap_append, hh]
          rfl
        · simp [hh, receipt?]
  · simp [hh, receipt?]

theorem program_authentic (q : Request D) :
    Act.Guards (fun _ c => ClaimsOwn K q c ∧ ClaimsAuthentic K H q c)
      (fun h r => h.filterMap receipt? = [r]) (fun h _ => h.filterMap receipt? = []) []
      (q.program K H) := by
  unfold Request.program
  refine guards_ite.2 ⟨fun _ => ?_, fun _ => claimIntent_guards q [] rfl⟩
  unfold admitInertFixtureIntent
  refine guards_bind.2 (guards_perform.2 ⟨⟨trivial, trivial⟩, fun t => ?_, fun e => rfl⟩)
  refine guards_bind.2 (verifyInertFixtureIntent_guards ⟨trivial, trivial⟩ (fun _ => rfl)
    (fun _ _ => rfl) fun b b' v _ => ?_)
  refine guards_check_bind (fun _ => rfl) fun _ => ?_
  exact claimIntent_guards q _ rfl

theorem program_guards (q : Request D) :
    Act.Guards (fun _ => ClaimsOwn K q) (fun h r => h.filterMap receipt? = [r])
      (fun h _ => h.filterMap receipt? = []) [] (q.program K H) :=
  (program_authentic q).imp (fun _ _ hc => hc.1) (fun _ _ hr => hr) fun _ _ he => he

/-! ## What a run preserves -/

variable {log : List (Step (Reply (D := D)) (Ledger D))}
  {g : Config (Request D) Reply (Except InertError (InertFixtureIntentClaimReceipt D)) (Ledger D)}

section

variable (hr : Run (system K H) .empty log g)

include hr

theorem claimant {e : Step Reply (Ledger D)} (he : e ∈ log) {res : IntentReservation D}
    (hres : e.call.reserves K H res) :
    ∃ q, g.Started e.thread q ∧ ReservesIntent K q.intent res := by
  obtain ⟨_, _, q, _, hstarted, hown⟩ :=
    Run.issued (P := fun q _ => ClaimsOwn K q) program_guards hr e he
  obtain ⟨j, c, x, s, s'⟩ := e
  cases c with
  | claim v claimId =>
    obtain ⟨hverified, hintent, -⟩ := hown
    obtain ⟨hid, hwindow⟩ := hres
    rw [hintent] at hwindow
    refine ⟨q, hstarted, ?_, ?_, ?_, hwindow⟩ <;> rw [hid, ← hintent]
    · exact hverified.intentSha256
    · rfl
    · rfl
  | _ => exact hres.elim

/-- What a call may reserve is its own intent. -/
theorem reserves_own {e : Step Reply (Ledger D)} (he : e ∈ log) {q : Request D}
    (hq : g.Started e.thread q) {res : IntentReservation D} (hres : e.call.reserves K H res) :
    ReservesIntent K q.intent res := by
  obtain ⟨q', hstarted, hintent⟩ := claimant hr he hres
  rw [Config.Started.unique hq hstarted]
  exact hintent

theorem returned {i : Nat} {q : Request D} {r : InertFixtureIntentClaimReceipt D}
    (hi : g.Finished i q (.ok r)) :
    ∃ e ∈ log, e.thread = i ∧ receipt? e.event ≠ none := by
  have hown : (own log i).filterMap receipt? = [r] :=
    Run.result (P := fun q _ => ClaimsOwn K q) program_guards hr hi
  obtain ⟨e, he, hthread, hreceipt⟩ := exists_of_own hown
  exact ⟨e, he, hthread, by simp [hreceipt]⟩

end

/-- **Fixture intents are consumed once**, over any interleaving of any number
of `claim_intent` and `admit_inert_fixture_intent` calls on a provisioned
ledger. -/
theorem intent_terminal_consumption (hr : Run (system K H) .empty log g) :
    g.store.reservations.Pairwise (fun r r' =>
      r.identity.intentSha256 ≠ r'.identity.intentSha256 ∧
      r.identity.intentId ≠ r'.identity.intentId ∧
      r.identity.intentNonce ≠ r'.identity.intentNonce) ∧
    (∀ i j q q' r r', g.Finished i q (.ok r) → g.Finished j q' (.ok r') →
      (K.sha256Json (.intent q.intent) = K.sha256Json (.intent q'.intent) ∨
        q.intent.payload.intentId = q'.intent.payload.intentId ∨
        q.intent.payload.intentNonce = q'.intent.payload.intentNonce) → i = j) ∧
    (∀ log' g', Steps (system K H) g log' g' → ∀ res ∈ g.store.reservations,
      res ∈ g'.store.reservations ∧
      ∀ i q, g'.Started i q → res.identity.names K q.intent →
        (∀ e ∈ log', e.thread = i →
          e.after.reservations = e.before.reservations ∧ e.after.claims = e.before.claims) ∧
        ((∀ e ∈ log, e.thread = i → ∀ v claimId, e.call ≠ .claim v claimId) →
          ∀ x, g'.Finished i q x → ∃ err, x = .error err)) ∧
    (∀ c ∈ g.store.claims, ∃ r ∈ g.store.reservations,
      r.identity = c.identity ∧ r.reservedAtUnix = c.claimedAtUnix ∧
      ∃ i q, g.Started i q ∧ c.identity.intentSha256 = K.sha256Json (.intent q.intent) ∧
        q.intent.payload.inWindow c.claimedAtUnix) ∧
    (∀ e ∈ log, e.before.reservations <+: e.after.reservations) := by
  have hinv : OneShot.Inv rules g.store.view := conducts.inv hr .empty
  refine ⟨?_, fun i j q q' r r' hi hj hsame => ?_, fun log' g' hsteps res hres => ?_,
    fun c hc => ?_, fun e he => (exec_grows _ _ _ _ (hr.exec_of_mem he)).reservations⟩
  · refine List.Pairwise.imp (fun {r r'} hne => ?_) hinv.distinct
    change ¬ r.identity.conflicts r'.identity at hne
    unfold ReservationIdentity.conflicts at hne
    tauto
  · obtain ⟨e, he, rfl, hreceipt⟩ := returned hr hi
    obtain ⟨e', he', rfl, hreceipt'⟩ := returned hr hj
    rw [conducts.unique hr he he' hreceipt hreceipt' fun res res' hres hres' => ?_]
    refine (reserves_own hr he' ⟨_, hj⟩ hres').conflicts ?_
    have hown := reserves_own hr he ⟨_, hi⟩ hres
    change res.identity.names K q'.intent
    unfold ReservationIdentity.names
    rw [hown.intentSha256, hown.intentId, hown.intentNonce]
    exact hsame
  · have hr' : Run (system K H) .empty (log ++ log') g' := Steps.trans hr hsteps
    refine ⟨(conducts.grows hsteps).reservations.subset hres, fun i q hq hnames => ?_⟩
    -- The reservation is still there at every later step.
    have later : ∀ e ∈ log', e.thread = i → receipt? e.event = none ∧
        OneShot.Advances e.before.view e.after.view := by
      rintro e he rfl
      exact conducts.refused hsteps he hres fun res' hres' =>
        (reserves_own hr' (List.mem_append_right _ he) hq hres').conflicts hnames
    refine ⟨fun e he hthread => ?_, fun hnot x hx => ?_⟩
    · exact ⟨(later e he hthread).2.reservations, (later e he hthread).2.records⟩
    cases x with
    | error err => exact ⟨err, rfl⟩
    | ok r =>
      obtain ⟨e, he, hthread, hreceipt⟩ := returned hr' hx
      rcases List.mem_append.1 he with he | he
      · obtain ⟨j, c, x, s, s'⟩ := e
        cases c with
        | claim v claimId => exact absurd rfl (hnot _ he hthread v claimId)
        | _ => exact absurd rfl hreceipt
      · exact absurd (later e he hthread).1 hreceipt
  · obtain ⟨res, hres, hid, hat⟩ := hinv.backed c hc
    obtain ⟨e, he, hreserves⟩ := conducts.reserver hr hres (by simp [Ledger.view, Ledger.empty])
    obtain ⟨q, hstarted, hown⟩ := claimant hr he hreserves
    refine ⟨res, hres, hid, hat, e.thread, q, hstarted, ?_, ?_⟩
    · rw [← hown.intentSha256]; exact congrArg _ hid.symm
    · rw [← show res.reservedAtUnix = c.claimedAtUnix from hat]; exact hown.inWindow

/-- A claimed intent and one consumed by a tombstone. -/
theorem sample_reservations_distinct :
    sampleRun.2.store.reservations.map (·.identity.intentId) = ["intent-1", "intent-2"] ∧
      sampleRun.2.store.claims.map (·.identity.intentId) = ["intent-1"] ∧
      sampleRun.2.store.reservations.Pairwise (fun r r' =>
        r.identity.intentSha256 ≠ r'.identity.intentSha256 ∧
        r.identity.intentId ≠ r'.identity.intentId ∧
        r.identity.intentNonce ≠ r'.identity.intentNonce) :=
  ⟨by decide +kernel, by decide +kernel, (intent_terminal_consumption run_sample).1⟩

end Bpe.Intent
