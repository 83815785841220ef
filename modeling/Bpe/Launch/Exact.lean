import Bpe.Intent.Exact
import Bpe.Launch.OneShot

/-!
# What the launch ledger verifies and recovers

On ledgers whose rows all stand for authenticated inputs,
`verify_committed_receipt` accepts exactly the attempts that have their row,
and `recover_committed_receipt` finds the row of its inputs, their tombstone,
or nothing.
-/

namespace Bpe.Launch

open Models Act Intent

variable {D : Type} {K : Crypto D} {H : Intent.Handle} {L : Handle}

/-- The identity that the authenticated inputs have on the ledger. -/
def inputIdentity (K : Crypto D) (L : Handle) (i : SignedInertFixtureIntent D)
    (t : InertFixtureIntentTrustStore) (claim : InertFixtureIntentClaimReceipt D) :
    LaunchIdentity D :=
  launchIdentity K L {
    intent := i
    claimReceipt := claim
    intentSha256 := K.sha256Json (.intent i)
    payloadSha256 := K.sha256Json (.payload i.payload)
    trustStoreId := t.trustStoreId
    trustStoreSha256 := K.sha256Json (.trustStore t)
    claimReceiptSha256 := K.sha256Json (.receipt claim)
    verifiedAtUnix := 0 }

theorem inputIdentity_inj (hinj : Function.Injective K.sha256Json)
    {i i' : SignedInertFixtureIntent D} {t t' : InertFixtureIntentTrustStore}
    {c c' : InertFixtureIntentClaimReceipt D}
    (h : inputIdentity K L i t c = inputIdentity K L i' t' c') : i = i' ∧ t = t' ∧ c = c' := by
  refine ⟨?_, ?_, ?_⟩
  · exact Document.intent.inj (hinj (congrArg LaunchIdentity.intentSha256 h))
  · exact Document.trustStore.inj (hinj (congrArg LaunchIdentity.trustStoreSha256 h))
  · exact Document.receipt.inj (hinj (congrArg LaunchIdentity.claimReceiptSha256 h))

variable {claim : InertFixtureIntentClaimReceipt D} {t : InertFixtureIntentTrustStore}
  {i : SignedInertFixtureIntent D} {v : VerifiedInertFixtureLaunchAttempt D}

theorem InputsOf.identity (h : InputsOf K i t claim v) :
    launchIdentity K L v = inputIdentity K L i t claim := by
  unfold inputIdentity launchIdentity
  rw [h.claimReceipt, h.intentSha256, h.payloadSha256, h.trustStoreSha256, h.claimReceiptSha256]

theorem InputsOf.expectedRow (h : InputsOf K i t claim v) (id : D) (env : Env D) :
    attemptRow K L v (attemptReceipt L v id env) = expectedRow K (attemptReceipt L v id env) := by
  unfold attemptRow Launch.expectedRow launchIdentity attemptReceipt
  simp only [h.claimReceipt, h.intentSha256, h.payloadSha256, h.trustStoreSha256, h.ofIntent,
    h.ofPayload, h.ofTrustStore]

theorem fromIntent_completes {α : Type} {p : Intent.Program D α}
    (hp : p.Completes Intent.Call.Reads) : (fromIntent p).Completes Call.Reads :=
  Prog.completes_embed hp

variable [DecidableEq D]

/-- A call answered from the ledgers, on a host whose clock reads a Unix time
and where the paths are canonical. -/
def Answers (s : Store D) : Event (Reply (D := D)) → Prop
  | ⟨.intent c, r⟩ => Intent.Answers s.claims ⟨c, r⟩
  | ⟨.consume _ _, _⟩ => True
  | ⟨.selectReservation d, r⟩ => r = .ok (s.launches.selectReservation d)
  | ⟨.selectAttempt id, r⟩ => r = .ok (s.launches.selectAttempt id)

abbrev Answered (s : Store D) (h : List (Event (Reply (D := D)))) : Prop :=
  OneShot.Answered (Answers s) h

/-- Every row stands for a consumption of authenticated inputs. -/
structure LaunchLedger.Exact (K : Crypto D) (L : Handle) (s : LaunchLedger D) : Prop where
  oneShot : OneShot.Inv rules s.view
  reserved : ∀ q ∈ s.reservations, ∃ i t claim, q.identity = inputIdentity K L i t claim ∧
    inClaimInterval claim q.reservedAtUnix
  made : ∀ a ∈ s.attempts, ∃ i t r, a = expectedRow K r ∧ r.valid K ∧
    a.identity = inputIdentity K L i t r.claimReceipt

namespace LaunchLedger.Exact

variable {s : LaunchLedger D}

section

variable (hs : s.Exact K L)

include hs

theorem selectAttempt_eq_some {id : String} {a : LaunchAttempt D} :
    s.selectAttempt id = some a ↔ a ∈ s.attempts ∧ a.identity.intentId = id :=
  hs.oneShot.record?_eq_some fun _ _ h => .inr (.inl h)

theorem selectReservation (id : LaunchIdentity D) :
    OneShot.Lookup rules s.view id (s.selectReservation id.claimReceiptSha256) :=
  hs.oneShot.lookup (fun _ _ h => .inl h) id

theorem valid_of_row {r : InertFixtureLaunchAttemptReceipt D} (hr : expectedRow K r ∈ s.attempts) :
    r.valid K := by
  obtain ⟨_, _, r', hrow, hvalid, -⟩ := hs.made _ hr
  have : r = r' := congrArg LaunchAttempt.receiptJson hrow
  rw [this]; exact hvalid

theorem bound_of_row {r : InertFixtureLaunchAttemptReceipt D} (hr : expectedRow K r ∈ s.attempts) :
    r.workerInstanceId = L.workerInstanceId ∧
      r.claimLedgerId = L.claimLedgerId ∧ r.launchLedgerId = L.ledgerId := by
  obtain ⟨_, _, _, -, -, hid⟩ := hs.made _ hr
  exact ⟨congrArg LaunchIdentity.workerInstanceId hid, congrArg LaunchIdentity.claimLedgerId hid,
    congrArg LaunchIdentity.launchLedgerId hid⟩

theorem left {s' : LaunchLedger D} {i : SignedInertFixtureIntent D}
    {t : InertFixtureIntentTrustStore} {claim : InertFixtureIntentClaimReceipt D}
    {v : VerifiedInertFixtureLaunchAttempt D} (hv : InputsOf K i t claim v)
    {attemptId : Sha256Text D} {made : Option (InertFixtureLaunchAttemptReceipt D)}
    (h : Left K L v attemptId s made s') : s'.Exact K L where
  oneShot := hs.oneShot.effect h.1
  reserved q hq := by
    rcases h.1.reservation hq with hq | hq
    · exact hs.reserved q hq
    · refine ⟨i, t, claim, hq.1.trans hv.identity, ?_⟩
      rw [← hv.claimReceipt]
      exact hq.2
  made a ha := by
    rcases h.1.record ha with ha | hmade
    · exact hs.made a ha
    · obtain ⟨r, hr, rfl⟩ := Option.map_eq_some_iff.1 hmade
      obtain ⟨hvalid, id, env, -, rfl⟩ := h.2 r hr
      refine ⟨i, t, _, hv.expectedRow id env, hvalid, ?_⟩
      rw [show (attemptReceipt L v id env).claimReceipt = claim from hv.claimReceipt]
      exact hv.identity

end

end LaunchLedger.Exact

theorem LaunchLedger.exact_empty : (LaunchLedger.empty : LaunchLedger D).Exact K L where
  oneShot := .empty
  reserved := by simp [LaunchLedger.empty]
  made := by simp [LaunchLedger.empty]

/-! ## Verification -/

theorem verifyCommittedReceipt_completes (r : InertFixtureLaunchAttemptReceipt D) :
    (verifyCommittedReceipt K L r).Completes Call.Reads :=
  OneShot.Recall.verify_completes (completes_perform (c := Call.selectAttempt _) trivial)

variable {s : Store D} {h : List (Event (Reply (D := D)))}

theorem verifyCommittedReceipt_exact (hs : s.launches.Exact K L)
    (r : InertFixtureLaunchAttemptReceipt D) :
    Act.Guards (fun _ _ => True)
      (fun h' d => Answered s h' → Answered s h ∧ expectedRow K r ∈ s.launches.attempts ∧
        d = K.launchSha256Json (.attempt r))
      (fun h' _ => Answered s h' → Answered s h ∧ expectedRow K r ∉ s.launches.attempts) h
      (verifyCommittedReceipt K L r) := by
  refine OneShot.Recall.verify_exact (V := verification K L)
    (OneShot.yields_perform (c := Call.selectAttempt _) fun _ hans => hans) ?_ fun hr => ?_
  · exact hs.selectAttempt_eq_some.trans (and_iff_left rfl)
  · exact ⟨hs.valid_of_row hr, decide_eq_true (hs.bound_of_row hr)⟩

/-! ## Authentication -/

/-- `_validate_launch_expectation` accepts it, where the paths are canonical. -/
structure InertFixtureLaunchExpectation.Valid (K : Crypto D)
    (e : InertFixtureLaunchExpectation D) : Prop where
  normalized : normalizedIntentExpectation K e.intentExpectation true = .ok ()
  paths : e.launchLedgerPath ≠ e.intentExpectation.claimLedgerPath
  stable : isStableId e.workerInstanceId ∧ isStableId e.claimLedgerId ∧ isStableId e.launchLedgerId
  identities : e.workerInstanceId = e.intentExpectation.bindings.workerInstanceId ∧
    e.claimLedgerId = e.intentExpectation.bindings.claimLedgerId ∧
    e.launchLedgerId = e.intentExpectation.bindings.launchLedgerId
  distinct : e.claimLedgerId ≠ e.launchLedgerId

theorem validateLaunchExpectation_completes (e : InertFixtureLaunchExpectation D) :
    (validateLaunchExpectation K e).Completes Intent.Call.Reads := by
  unfold validateLaunchExpectation
  refine completes_bind (completes_perform (reads_canonicalPath _)) fun _ => ?_
  refine completes_bind trivial fun _ => ?_
  refine completes_bind (completes_perform (reads_canonicalPath _)) fun _ => ?_
  refine completes_check_bind ?_
  refine completes_check_bind ?_
  refine completes_check_bind ?_
  refine completes_check_bind ?_
  exact completes_when

/-- The inputs authenticate: the expectation is that of both ledgers, and the
receipt is the one that is committed for the intent. -/
structure Authentic (K : Crypto D) (H : Intent.Handle) (L : Handle) (s : Ledger D)
    (i : SignedInertFixtureIntent D) (t : InertFixtureIntentTrustStore)
    (e : InertFixtureLaunchExpectation D) (claim : InertFixtureIntentClaimReceipt D) :
    Prop where
  expectation : e.Valid K
  configured : L.expected e
  intent : Intent.Authentic K.toCrypto H i t e.intentExpectation
  committed : claimRow K.toCrypto claim ∈ s.claims
  claimed : (claimRow K.toCrypto claim).identity = Intent.inputIdentity K.toCrypto H i t

section Authentication

variable {c : Ledger D} {h : List (Event (Intent.Reply (D := D)))}

variable {e : InertFixtureLaunchExpectation D}

theorem validateLaunchExpectation_exact (he : e.Valid K) :
    Act.Guards (fun _ _ => True) (fun h' _ => Intent.Answered c h' → Intent.Answered c h)
      (fun h' _ => Intent.Answered c h' → False) h (validateLaunchExpectation K e) := by
  unfold validateLaunchExpectation
  refine guards_bind.2 (guards_perform.2 ⟨trivial, fun (b : Bool) => ?_, fun _ hans => ?_⟩)
  swap
  · cases hans.last
  refine guards_bind.2 (guards_lift.2 ⟨fun _ _ => ?_, fun _ herr hans => ?_⟩)
  swap
  · have hpath : b = true := Except.ok.inj hans.last
    rw [hpath, he.normalized] at herr
    cases herr
  refine guards_bind.2 ((guards_perform (c := Intent.Call.canonicalPath _)).2
    ⟨trivial, fun (b : Bool) => ?_, fun _ hans => ?_⟩)
  swap
  · cases hans.last
  refine guards_check_bind (fun hpath hans => ?_) fun _ => ?_
  · exact hpath (Except.ok.inj hans.last)
  refine guards_check_bind (fun hp _ => he.paths hp) fun _ => ?_
  refine guards_check_bind (fun hn _ => hn he.stable) fun _ => ?_
  refine guards_check_bind (fun hn _ => hn he.identities) fun _ => ?_
  exact guards_check (fun hn _ => he.distinct hn) fun _ hans => hans.init.init

variable {claim : InertFixtureIntentClaimReceipt D} {t : InertFixtureIntentTrustStore}
  {i : SignedInertFixtureIntent D}

theorem authenticateClaim_exact (hinj : Function.Injective K.sha256Json) (hc : c.Exact K.toCrypto H)
    (ha : Authentic K H L c i t e claim) (now : Int) :
    Act.Guards (fun _ _ => True) (fun h' r => Intent.Answered c h' → r = (none, claim))
      (fun h' _ => Intent.Answered c h' → False) h
      (authenticateClaim K H i t e.intentExpectation now false) := by
  unfold authenticateClaim verifiedIntent
  refine guards_bind.2 (guards_pure.2 ?_)
  refine guards_bind.2 ((Intent.recoverCommittedReceipt_exact hinj hc ha.intent).mono
    (fun h' r hr => guards_pure.2 fun hans => ?_) fun h' err herr hans => ?_)
  · obtain ⟨hrow, hid⟩ := hr hans
    have hsame := hc.oneShot.record_unique hrow ha.committed
      (.inl (congrArg _ (hid.trans ha.claimed.symm)))
    rw [show r = claim from congrArg IntentClaim.receiptJson hsame]
  · exact (herr hans).1 _ ha.committed ha.claimed

theorem Authentic.digests (hinj : Function.Injective K.sha256Json) (hc : c.Exact K.toCrypto H)
    (ha : Authentic K H L c i t e claim) :
    claim.intentSha256 = K.sha256Json (.intent i) ∧
      claim.intentPayloadSha256 = K.sha256Json (.payload i.payload) ∧
      claim.trustStoreSha256 = K.sha256Json (.trustStore t) := by
  obtain ⟨r, hrow, v, claimId, hv, rfl, -, id, env, -, rfl⟩ :=
    hc.madeOf_of_identity hinj ha.committed ha.claimed
  obtain rfl : claim = _ := congrArg IntentClaim.receiptJson hrow
  exact ⟨hv.intentSha256, hv.payloadSha256, hv.trustStoreSha256⟩

theorem authenticateLaunchInputs_exact (hinj : Function.Injective K.sha256Json)
    (hc : c.Exact K.toCrypto H) (ha : Authentic K H L c i t e claim) (now : Int) :
    Act.Guards (fun _ _ => True) (fun h' v => Intent.Answered c h' → InputsOf K i t claim v)
      (fun h' _ => Intent.Answered c h' → now < 0) h
      (authenticateLaunchInputs K H i t e claim now false) := by
  obtain ⟨v₀, hv₀, howns⟩ := ha.intent
  obtain ⟨-, rfl, -, hbindings⟩ := authenticateIntent_ok hv₀
  have hidentities := ha.expectation.identities
  rw [← hbindings] at hidentities
  unfold authenticateLaunchInputs
  refine guards_check_bind (fun hneg _ => hneg) fun _ => ?_
  refine guards_bind.2 (guards_mapError.2 ((validateLaunchExpectation_exact
    ha.expectation).mono (fun h₁ _ _ => ?_) fun _ _ he hans => (he hans).elim))
  refine guards_check_bind (fun hn _ => ?_) fun _ => ?_
  · exact absurd (hc.valid_of_row ha.committed) hn
  refine guards_check_bind (fun hn _ => ?_) fun _ => ?_
  · have hvalid := authenticateIntent_valid hv₀
    exact absurd ⟨hvalid.1, hvalid.2.1⟩ hn
  refine guards_check_bind (fun hn _ => ?_) fun _ => ?_
  · refine (hn ⟨howns.2.2.symm, ?_, ?_⟩).elim
    · rw [hidentities.2.1]; exact howns.2.1.symm
    · rw [hidentities.1]; exact howns.1.symm
  refine guards_bind.2 (guards_mapError.2 ((authenticateClaim_exact hinj hc ha now).mono
    (fun h₂ r hr => ?_) fun _ _ he hans => (he hans).elim))
  obtain ⟨verified?, recovered⟩ := r
  refine guards_check_bind (fun hn hans => ?_) fun hrec => ?_
  · exact absurd (congrArg Prod.snd (hr hans)) hn
  refine guards_check_bind (fun hn _ => ?_) fun _ => ?_
  · exact absurd ⟨hidentities.1.symm, hidentities.2.1.symm, hidentities.2.2.symm⟩ hn
  refine guards_check_bind (fun hn _ => ?_) fun _ => ?_
  · exact absurd hn.1 Bool.false_ne_true
  refine guards_check_bind (fun hn hans => ?_) fun _ => ?_
  · have hnone : verified? = none := congrArg Prod.fst (hr hans)
    obtain ⟨v, hv, -⟩ := hn
    rw [hnone] at hv
    cases hv
  refine guards_pure.2 fun _ => ?_
  obtain ⟨hsha, hpayload, htrust⟩ := ha.digests hinj hc
  exact ⟨rfl, rfl, rfl, rfl, rfl, hsha, hpayload, htrust⟩

theorem authenticateLaunchInputs_completes (i : SignedInertFixtureIntent D)
    (t : InertFixtureIntentTrustStore) (e : InertFixtureLaunchExpectation D)
    (claim : InertFixtureIntentClaimReceipt D) (now : Int) :
    (authenticateLaunchInputs K H i t e claim now false).Completes Intent.Call.Reads := by
  unfold authenticateLaunchInputs
  refine completes_check_bind ?_
  refine completes_bind (completes_mapError (validateLaunchExpectation_completes e))
    fun _ => ?_
  refine completes_check_bind ?_
  refine completes_check_bind ?_
  refine completes_check_bind ?_
  have hclaim : (authenticateClaim K H i t e.intentExpectation now false).Completes
      Intent.Call.Reads := by
    unfold authenticateClaim
    refine completes_bind trivial fun _ => ?_
    exact completes_bind (Intent.recoverCommittedReceipt_completes i t _) fun _ => trivial
  refine completes_bind (completes_mapError hclaim) fun r => ?_
  refine completes_check_bind ?_
  refine completes_check_bind ?_
  refine completes_check_bind ?_
  exact completes_check_bind trivial

end Authentication

/-! ## Recovery -/

theorem fromIntent_exact {α : Type} {p : Intent.Program D α} {Q : α → Prop} {E : Prop}
    (hp : Act.Guards (fun _ _ => True) (fun h a => Intent.Answered s.claims h → Q a)
      (fun h _ => Intent.Answered s.claims h → E) [] p) :
    Act.Guards (fun _ _ => True) (fun h' a => Answered s h' → Answered s h ∧ Q a)
      (fun h' _ => Answered s h' → Answered s h ∧ E) h (fromIntent p) := by
  have answered {t : List (Event (Intent.Reply (D := D)))}
      (hans : Answered s (h ++ t.map intentCalls.event)) : Intent.Answered s.claims t :=
    fun v hv => hans _ (List.mem_append_right _ (List.mem_map_of_mem hv))
  refine guards_embed.2 (hp.imp (fun _ _ _ => trivial) (fun t a ha hans => ?_)
    fun t err he hans => ?_)
  · exact ⟨hans.init, ha (answered hans)⟩
  · exact ⟨hans.init, he (answered hans)⟩

theorem recoverCommittedReceipt_completes (i : SignedInertFixtureIntent D)
    (t : InertFixtureIntentTrustStore) (e : InertFixtureLaunchExpectation D)
    (claim : InertFixtureIntentClaimReceipt D) :
    (recoverCommittedReceipt K H L i t e claim).Completes Call.Reads := by
  unfold recoverCommittedReceipt
  refine completes_bind (completes_perform (c := Call.intent .currentUnixTime)
    reads_currentUnixTime) fun now => ?_
  refine completes_bind
    (fromIntent_completes (authenticateLaunchInputs_completes i t e claim now)) fun v => ?_
  refine completes_bind (fromIntent_completes (validateLaunchExpectation_completes e))
    fun _ => ?_
  exact completes_check_bind (OneShot.Recall.recover_completes
    (completes_perform (c := Call.selectReservation _) trivial) verifyCommittedReceipt_completes)

/-- The attempt with the identity of the inputs is recovered for them. -/
theorem recovers_of_identity (hinj : Function.Injective K.sha256Json) (hs : s.launches.Exact K L)
    {e : InertFixtureLaunchExpectation D} (hv : InputsOf K i t claim v) (he : L.expected e)
    {a : LaunchAttempt D} (ha : a ∈ s.launches.attempts)
    (hid : a.identity = inputIdentity K L i t claim) :
    ∃ r, a = expectedRow K r ∧ recovers K v e a := by
  obtain ⟨i', t', r, rfl, -, hid'⟩ := hs.made a ha
  obtain ⟨-, -, hclaim⟩ := inputIdentity_inj hinj (hid'.symm.trans hid)
  obtain ⟨hworker, hclaims, hledger⟩ := hs.bound_of_row ha
  refine ⟨r, rfl, rfl, hclaim.trans hv.claimReceipt.symm, ?_, ?_, ?_, ?_⟩
  · rw [hv.claimReceiptSha256]
    exact congrArg LaunchIdentity.claimReceiptSha256 hid
  · exact hworker.trans he.2.2.1
  · exact hclaims.trans he.2.2.2
  · exact hledger.trans he.2.1

/-- On authentic inputs it returns the receipt of the row that the inputs have,
and otherwise tells a tombstone from nothing. -/
theorem recoverCommittedReceipt_exact (hinj : Function.Injective K.sha256Json)
    (hc : s.claims.Exact K.toCrypto H) (hs : s.launches.Exact K L)
    {e : InertFixtureLaunchExpectation D} (ha : Authentic K H L s.claims i t e claim) :
    Act.Guards (fun _ _ => True)
      (fun h r => Answered s h → expectedRow K r ∈ s.launches.attempts ∧
        (expectedRow K r).identity = inputIdentity K L i t claim)
      (fun h err => Answered s h → OneShot.Refuses .attemptAlreadyConsumed .launchLedger rules
        s.launches.view (inputIdentity K L i t claim) err) h
      (recoverCommittedReceipt K H L i t e claim) := by
  unfold recoverCommittedReceipt
  refine guards_bind.2 ((guards_perform (c := Call.intent .currentUnixTime)).2
    ⟨trivial, fun (now : Int) => ?_, fun err hans => ?_⟩)
  swap
  · obtain ⟨_, _, hreply⟩ := hans.last
    cases hreply
  refine guards_bind.2 ((fromIntent_exact (authenticateLaunchInputs_exact hinj hc ha now)).mono
    (fun h₁ v hv => ?_) fun h₁ err herr hans => ?_)
  swap
  · obtain ⟨hbefore, hneg⟩ := herr hans
    obtain ⟨_, hnow, hreply⟩ := hbefore.last
    cases hreply
    omega
  refine guards_bind.2 ((fromIntent_exact (Q := fun _ => True)
    ((validateLaunchExpectation_exact ha.expectation).mono (fun _ _ _ _ => trivial)
      fun _ _ he => he)).mono (fun h₂ _ hv₂ => ?_) fun _ _ he hans => (he hans).2.elim)
  refine guards_check_bind (fun hn _ => absurd ha.configured hn) fun _ => ?_
  refine OneShot.Recall.recover_exact (V := verification K L) hs.oneShot ⟨_, rfl⟩
    ⟨⟨_, rfl⟩, _, rfl⟩
    (OneShot.yields_perform (c := Call.selectReservation _) fun _ hans => hans) (fun hans => ?_)
    fun _ => verifyCommittedReceipt_exact hs
  have hinputs := (hv (hv₂ hans).1).2
  refine ⟨hinputs.identity, ?_, fun q hq hid => ?_, fun a hmem hid => ?_⟩
  · rw [hinputs.claimReceiptSha256]
    exact hs.selectReservation (inputIdentity K L i t claim)
  · obtain ⟨i', t', claim', hid', hinterval⟩ := hs.reserved q hq
    obtain ⟨rfl, rfl, rfl⟩ := inputIdentity_inj hinj (hid'.symm.trans hid)
    rw [← hinputs.claimReceipt] at hinterval
    exact decide_eq_true hinterval
  · obtain ⟨r, rfl, hrecovers⟩ := recovers_of_identity hinj hs hinputs ha.configured hmem hid
    exact ⟨r, rfl, hs.valid_of_row hmem, decide_eq_true hrecovers⟩

def answer (s : Store D) : (c : Call D) → Reply c
  | .intent c => Intent.answer s.claims c
  | .consume _ _ => .error (.launchLedger "cannot commit launch-attempt consumption")
  | .selectReservation d => .ok (s.launches.selectReservation d)
  | .selectAttempt id => .ok (s.launches.selectAttempt id)

theorem exec_answer (s : Store D) (c : Call D) (hc : c.Reads) :
    Exec K H L c s (answer s c) s := by
  cases c with
  | intent c => exact ⟨Intent.exec_answer s.claims c hc, rfl⟩
  | consume v attemptId => exact hc.elim
  | selectReservation d => exact ⟨rfl, .inl rfl⟩
  | selectAttempt id => exact ⟨rfl, .inl rfl⟩

theorem answered_answer {t : List (Event (Reply (D := D)))} (ht : ∀ v ∈ t, v.2 = answer s v.1) :
    Answered s t := by
  rintro ⟨c, r⟩ hv
  obtain rfl : r = answer s c := ht _ hv
  cases c with
  | intent c => exact answers_answer s.claims c
  | consume v attemptId => trivial
  | selectReservation d => rfl
  | selectAttempt id => rfl

theorem exec_reads {c : Call D} {s s' : Store D} {r : Reply c} (hc : c.Reads)
    (hx : Exec K H L c s r s') : s' = s := by
  cases c with
  | intent c =>
    have hclaims := Intent.exec_reads hc hx.1
    cases s
    cases s'
    cases hclaims
    cases hx.2
    rfl
  | consume v attemptId => exact hc.elim
  | selectReservation d => exact hx.1
  | selectAttempt id => exact hx.1

end Bpe.Launch
