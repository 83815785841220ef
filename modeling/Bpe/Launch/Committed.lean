import Bpe.Dispatch.Committed
import Bpe.Launch.Exact

/-!
# Verification and recovery are exact

In every run over the two inert ledgers all rows stand for authentic inputs,
so what the two ledgers verify and recover is what the calls of the run
committed: no more, and no less.
-/

namespace Bpe.Launch

open Models Concurrent List Act Intent

variable {D : Type} {K : Crypto D} {H : Intent.Handle} {L : Handle}

abbrev State (D : Type) :=
  Config (Request D) (Reply (D := D)) (Except InertError (Receipt D)) (Store D)

/-- A call on these inputs committed the receipt's row in the claim ledger. -/
def CommittedClaim (K : Crypto D) (log : Log D) (g : State D)
    (i : SignedInertFixtureIntent D) (t : InertFixtureIntentTrustStore)
    (e : InertFixtureIntentExpectation D) (r : InertFixtureIntentClaimReceipt D) :
    Prop :=
  ∃ st ∈ log, ∃ v claimId q, st.call = .intent (.claim v claimId) ∧
    g.Started st.thread (.intent q) ∧ q.intent = i ∧ q.trustStore = t ∧ q.expectation = e ∧
    st.after.claims.claims = st.before.claims.claims ++ [claimRow K.toCrypto r]

/-- A call on these inputs committed the attempt's row in the launch ledger. -/
def CommittedAttempt (K : Crypto D) (log : Log D) (g : State D)
    (i : SignedInertFixtureIntent D) (t : InertFixtureIntentTrustStore)
    (e : InertFixtureLaunchExpectation D) (claim : InertFixtureIntentClaimReceipt D)
    (r : InertFixtureLaunchAttemptReceipt D) : Prop :=
  ∃ st ∈ log, ∃ v attemptId q l, st.call = .consume v attemptId ∧ g.Started st.thread q ∧
    q.launch? = some l ∧ l.intent = i ∧ l.trustStore = t ∧ l.expectation = e ∧
    l.claimReceipt = claim ∧
    st.after.launches.attempts = st.before.launches.attempts ++ [expectedRow K r]

/-- The intent is consumed and has no claim. -/
def ClaimTombstone (s : Ledger D) (id : ReservationIdentity D) : Prop :=
  s.view.Tombstone Intent.rules id

/-- The claim is consumed and has no attempt. -/
def AttemptTombstone (s : LaunchLedger D) (id : LaunchIdentity D) : Prop :=
  s.view.Tombstone rules id

variable [DecidableEq D]

/-! ## What a call guarantees -/

def Binds (K : Crypto D) (H : Intent.Handle) (L : Handle) : Request D → Call D → Prop
  | .intent q, .intent c => ClaimsAuthentic K.toCrypto H q c
  | .intent _, _ => False
  | .consume l, c => BindsLaunch K H L l c
  | .admitting l, c => BindsLaunch K H L l c

theorem program_binds (q : Request D) :
    Act.Guards (fun _ => Binds K H L q) (fun _ _ => True) (fun _ _ => True) []
      (q.program K H L) := by
  cases q with
  | intent q =>
    exact guards_map.2 (guards_embed.2 ((program_authentic q).imp
      (fun _ _ hc => hc.2) (fun _ _ _ => trivial) fun _ _ _ => trivial))
  | consume l =>
    exact guards_map.2 ((consumeLaunchAttempt_guards l (fun _ => bindsLaunch_of_reads l)
      fun _ _ _ hb => hb).mono (fun _ _ _ => trivial) fun _ _ _ => trivial)
  | admitting l =>
    exact guards_map.2 ((admitInertFixtureLaunchAttempt_guards l (fun _ => bindsLaunch_of_reads l)
      fun _ _ _ hb => hb).mono (fun _ _ _ => trivial) fun _ _ _ => trivial)

/-! ## What a run preserves -/

variable {log : Log D} {g : State D}

theorem binds_consume {q : Request D} {v : VerifiedInertFixtureLaunchAttempt D}
    {attemptId : Sha256Text D} (h : Binds K H L q (.consume v attemptId)) :
    ∃ l, q.launch? = some l ∧ InputsOf K l.intent l.trustStore l.claimReceipt v ∧
      Intent.Authentic K.toCrypto H l.intent l.trustStore l.expectation.intentExpectation ∧
      L.expected l.expectation := by
  cases q with
  | intent q => exact h.elim
  | consume l => exact ⟨l, rfl, h⟩
  | admitting l => exact ⟨l, rfl, h⟩

theorem binds_claim {q : Request D} {v : VerifiedInertFixtureIntent D}
    {claimId : Sha256Text D} (h : Binds K H L q (.intent (.claim v claimId))) :
    ∃ q', q = .intent q' ∧ Verified K.toCrypto q'.trustStore v ∧ v.intent = q'.intent ∧
      Intent.Authentic K.toCrypto H q'.intent q'.trustStore q'.expectation := by
  cases q with
  | intent q => exact ⟨q, rfl, h⟩
  | consume l => exact absurd rfl (h v claimId)
  | admitting l => exact absurd rfl (h v claimId)

theorem Authentic.expectation_unique (hinj : Function.Injective K.sha256Json)
    {e e' : InertFixtureLaunchExpectation D} {t : InertFixtureIntentTrustStore}
    {i : SignedInertFixtureIntent D}
    (h : Intent.Authentic K.toCrypto H i t e.intentExpectation)
    (h' : Intent.Authentic K.toCrypto H i t e'.intentExpectation) (he : L.expected e)
    (he' : L.expected e') : e = e' := by
  have hintent := h.expectation_unique hinj h'
  obtain ⟨hpath, hledger, hworker, hclaims⟩ := he
  obtain ⟨hpath', hledger', hworker', hclaims'⟩ := he'
  cases e
  cases e'
  simp_all

section Committed

variable (hr : Run (system K H L) .empty log g)
include hr

theorem run_exact :
    g.store.claims.Exact K.toCrypto H ∧ g.store.launches.Exact K L := by
  refine Run.invariant (P := fun q _ => Binds K H L q) program_binds
    (fun _ s => s.claims.Exact K.toCrypto H ∧ s.launches.Exact K L) ?_ ?_ hr
  · exact ⟨Ledger.exact_empty, LaunchLedger.exact_empty⟩
  · intro log i q c r s s' hinv hbinds hx
    cases c with
    | intent c =>
      obtain ⟨hx, hlaunches⟩ := hx
      rw [hlaunches]
      refine ⟨?_, hinv.2⟩
      rcases Intent.exec_effect hx with ⟨hsame, _⟩ | ⟨v, claimId, reply, made, he, hleft, _⟩
      · rw [hsame]; exact hinv.1
      · cases he
        obtain ⟨q', -, hverified, -, -⟩ := binds_claim hbinds
        exact hinv.1.left hverified hleft
    | consume v attemptId =>
      obtain ⟨hclaims, env, henv⟩ := hx
      obtain ⟨made, hleft, -⟩ := consume_effect henv
      obtain ⟨l, -, hinputs, -⟩ := binds_consume hbinds
      rw [hclaims]
      exact ⟨hinv.1, hinv.2.left hinputs hleft⟩
    | selectReservation d => rw [hx.1]; exact hinv
    | selectAttempt id => rw [hx.1]; exact hinv

/-- The rows of both ledgers pass the checks of `_validate_schema`. -/
theorem run_trusted :
    g.store.claims.trusted ∧ g.store.launches.trusted := by
  have hgrows : Store.empty.Grows g.store :=
    Steps.rel Store.Grows.refl (fun h => h.trans) exec_grows hr
  obtain ⟨hclaims, hlaunches⟩ := run_exact hr
  exact ⟨hclaims.oneShot.trusted hgrows.claims.clock,
    hlaunches.oneShot.trusted hgrows.launches.clock⟩

variable {st : Step Reply (Store D)}

theorem issuer (hst : st ∈ log) :
    ∃ q, g.Started st.thread q ∧ Binds K H L q st.call := by
  obtain ⟨_, _, q, _, hstarted, hbinds⟩ :=
    Run.issued (P := fun q _ => Binds K H L q) program_binds hr st hst
  exact ⟨q, hstarted, hbinds⟩

/-! ## Rows and the calls that committed them -/

/-- A step leaves the claims alone or adds the receipt of authentic inputs. -/
theorem claim_step (hst : st ∈ log) :
    st.after.claims.claims = st.before.claims.claims ∨
      ∃ v claimId q r, st.call = .intent (.claim v claimId) ∧ g.Started st.thread (.intent q) ∧
        MadeOf K.toCrypto q.intent q.trustStore r ∧
        Intent.Authentic K.toCrypto H q.intent q.trustStore q.expectation ∧
        st.after.claims.claims = st.before.claims.claims ++ [claimRow K.toCrypto r] := by
  obtain ⟨q, hstarted, hbinds⟩ := issuer hr hst
  have hx := hr.exec_of_mem hst
  obtain ⟨j, c, x, s, s'⟩ := st
  cases c with
  | intent c =>
    rcases Intent.exec_effect hx.1 with ⟨hsame, _⟩ | ⟨v, claimId, reply, made, he, hleft, _⟩
    · exact .inl (congrArg Ledger.claims hsame)
    · cases he
      obtain ⟨q', rfl, hverified, hintent, hauthentic⟩ := binds_claim hbinds
      cases made with
      | none => exact .inl hleft.1.records_of_none
      | some r =>
        exact .inr ⟨v, claimId, q', r, rfl, hstarted, ⟨v, claimId, hverified, hintent,
          hleft.2 r rfl⟩, hauthentic, hleft.1.records_eq⟩
  | consume v attemptId => exact .inl (congrArg Ledger.claims hx.1)
  | selectReservation d => exact .inl (congrArg (fun s => s.claims.claims) hx.1)
  | selectAttempt id => exact .inl (congrArg (fun s => s.claims.claims) hx.1)

/-- A step leaves the attempts alone or adds the receipt of authentic inputs. -/
theorem attempt_step (hst : st ∈ log) :
    st.after.launches.attempts = st.before.launches.attempts ∨
      ∃ v attemptId q l r, st.call = .consume v attemptId ∧ g.Started st.thread q ∧
        q.launch? = some l ∧
        Intent.Authentic K.toCrypto H l.intent l.trustStore l.expectation.intentExpectation ∧
        L.expected l.expectation ∧
        (expectedRow K r).identity = inputIdentity K L l.intent l.trustStore l.claimReceipt ∧
        st.after.launches.attempts = st.before.launches.attempts ++ [expectedRow K r] := by
  obtain ⟨q, hstarted, hbinds⟩ := issuer hr hst
  have hx := hr.exec_of_mem hst
  obtain ⟨j, c, x, s, s'⟩ := st
  cases c with
  | intent c => exact .inl (congrArg LaunchLedger.attempts hx.2)
  | consume v attemptId =>
    obtain ⟨-, env, henv⟩ := hx
    obtain ⟨made, hleft, -⟩ := consume_effect henv
    obtain ⟨l, hl, hinputs, hauthentic, hexpected⟩ := binds_consume hbinds
    cases made with
    | none => exact .inl hleft.1.records_of_none
    | some r =>
      have hattempts := hleft.1.records_eq
      obtain ⟨-, id, env', -, rfl⟩ := hleft.2 r rfl
      rw [hinputs.expectedRow] at hattempts
      refine .inr ⟨v, attemptId, q, l, _, rfl, hstarted, hl, hauthentic, hexpected, ?_, hattempts⟩
      rw [← hinputs.expectedRow]
      exact hinputs.identity
  | selectReservation d => exact .inl (congrArg (fun s => s.launches.attempts) hx.1)
  | selectAttempt id => exact .inl (congrArg (fun s => s.launches.attempts) hx.1)

/-- The rows of the claim ledger are those that calls on authentic inputs
committed. -/
theorem claim_of_row {r : InertFixtureIntentClaimReceipt D}
    (hrow : claimRow K.toCrypto r ∈ g.store.claims.claims) :
    ∃ i t e, CommittedClaim K log g i t e r ∧ Intent.Authentic K.toCrypto H i t e ∧
      (claimRow K.toCrypto r).identity = Intent.inputIdentity K.toCrypto H i t := by
  obtain ⟨st, hst, hbefore, hafter⟩ := Steps.established
    (p := fun s : Store D => claimRow K.toCrypto r ∈ s.claims.claims) hr
    (by simp [Store.empty, Ledger.empty]) hrow
  rcases claim_step hr hst with hsame | ⟨v, claimId, q, r', hcall, hstarted, hmade, ha, happended⟩
  · rw [hsame] at hafter
    exact absurd hafter hbefore
  · have hr' : r = r' := by
      rw [happended] at hafter
      rcases mem_append.1 hafter with hmem | hmem
      · exact absurd hmem hbefore
      · exact congrArg IntentClaim.receiptJson (mem_singleton.1 hmem)
    subst hr'
    exact ⟨_, _, _, ⟨st, hst, v, claimId, q, hcall, hstarted, rfl, rfl, rfl, happended⟩, ha,
      hmade.identity ha⟩

variable {t : InertFixtureIntentTrustStore} {i : SignedInertFixtureIntent D}

theorem row_of_claim {e : InertFixtureIntentExpectation D} {r : InertFixtureIntentClaimReceipt D}
    (h : CommittedClaim K log g i t e r) :
    claimRow K.toCrypto r ∈ g.store.claims.claims ∧
      (claimRow K.toCrypto r).identity = Intent.inputIdentity K.toCrypto H i t := by
  obtain ⟨st, hst, v, claimId, q, hcall, hstarted, rfl, rfl, rfl, happended⟩ := h
  have hgrows := (hr.rel_around Store.Grows.refl (fun h => h.trans) exec_grows hst).2
  refine ⟨hgrows.claims.records.subset ?_, ?_⟩
  · change _ ∈ st.after.claims.claims
    rw [happended]
    exact mem_append_right _ (mem_singleton.2 rfl)
  · rcases claim_step hr hst with hsame | ⟨_, _, q', r', _, hstarted', hmade, ha, happended'⟩
    · rw [hsame] at happended
      simp at happended
    · cases Config.Started.unique hstarted hstarted'
      have hr' : r = r' := congrArg IntentClaim.receiptJson
        (singleton_inj.1 (append_cancel_left (happended.symm.trans happended')))
      subst hr'
      exact hmade.identity ha

theorem attempt_of_row {r : InertFixtureLaunchAttemptReceipt D}
    (hrow : expectedRow K r ∈ g.store.launches.attempts) :
    ∃ i t e claim, CommittedAttempt K log g i t e claim r ∧
      Intent.Authentic K.toCrypto H i t e.intentExpectation ∧ L.expected e ∧
      (expectedRow K r).identity = inputIdentity K L i t claim := by
  obtain ⟨st, hst, hbefore, hafter⟩ := Steps.established
    (p := fun s : Store D => expectedRow K r ∈ s.launches.attempts) hr
    (by simp [Store.empty, LaunchLedger.empty]) hrow
  rcases attempt_step hr hst with
    hsame | ⟨v, attemptId, q, l, r', hcall, hstarted, hl, ha, hexpected, hid, happended⟩
  · rw [hsame] at hafter
    exact absurd hafter hbefore
  · have hr' : r = r' := by
      rw [happended] at hafter
      rcases mem_append.1 hafter with hmem | hmem
      · exact absurd hmem hbefore
      · exact congrArg LaunchAttempt.receiptJson (mem_singleton.1 hmem)
    subst hr'
    exact ⟨_, _, _, _, ⟨st, hst, v, attemptId, q, l, hcall, hstarted, hl, rfl, rfl, rfl, rfl,
      happended⟩, ha, hexpected, hid⟩

theorem row_of_attempt {e : InertFixtureLaunchExpectation D}
    {claim : InertFixtureIntentClaimReceipt D} {r : InertFixtureLaunchAttemptReceipt D}
    (h : CommittedAttempt K log g i t e claim r) :
    expectedRow K r ∈ g.store.launches.attempts ∧
      (expectedRow K r).identity = inputIdentity K L i t claim := by
  obtain ⟨st, hst, v, attemptId, q, l, hcall, hstarted, hl, rfl, rfl, rfl, rfl, happended⟩ := h
  have hgrows := (hr.rel_around Store.Grows.refl (fun h => h.trans) exec_grows hst).2
  refine ⟨hgrows.launches.records.subset ?_, ?_⟩
  · change _ ∈ st.after.launches.attempts
    rw [happended]
    exact mem_append_right _ (mem_singleton.2 rfl)
  · rcases attempt_step hr hst with
      hsame | ⟨_, _, q', l', r', _, hstarted', hl', _, _, hid, happended'⟩
    · rw [hsame] at happended
      simp at happended
    · cases Config.Started.unique hstarted hstarted'
      cases hl.symm.trans hl'
      have hr' : r = r' := congrArg LaunchAttempt.receiptJson
        (singleton_inj.1 (append_cancel_left (happended.symm.trans happended')))
      subst hr'
      exact hid

/-! ## The three ledgers -/

/-- What the claim ledger verifies and recovers after a run. -/
structure ClaimsExact (K : Crypto D) (H : Intent.Handle)
    (log : Log D) (g : State D) : Prop where
  trusted : g.store.claims.trusted
  /-- A receipt is verified exactly where a call committed it, on the inputs it names. -/
  verify : ∀ r, Reports (Intent.Exec K.toCrypto H) (Intent.Answered g.store.claims)
    (Intent.verifyCommittedReceipt K.toCrypto H r) g.store.claims fun x => ∀ d, x = .ok d ↔
      (∃ i t e, CommittedClaim K log g i t e r ∧
        (claimRow K.toCrypto r).identity = Intent.inputIdentity K.toCrypto H i t) ∧
      d = K.sha256Json (.receipt r)
  recover : ∀ i t e, Intent.Authentic K.toCrypto H i t e →
    Reports (Intent.Exec K.toCrypto H) (Intent.Answered g.store.claims)
      (Intent.recoverCommittedReceipt K.toCrypto H i t e) g.store.claims
      (OneShot.Recovery .alreadyClaimed .ledger (CommittedClaim K log g i t e)
        (ClaimTombstone g.store.claims (Intent.inputIdentity K.toCrypto H i t)))

/-- What the launch ledger verifies and recovers after a run. -/
structure AttemptsExact (K : Crypto D) (H : Intent.Handle) (L : Handle)
    (log : Log D) (g : State D) : Prop where
  trusted : g.store.launches.trusted
  verify : ∀ r, Reports (Exec K H L) (Answered g.store) (verifyCommittedReceipt K L r) g.store
    fun x => ∀ d, x = .ok d ↔
      (∃ i t e claim, CommittedAttempt K log g i t e claim r ∧
        (expectedRow K r).identity = inputIdentity K L i t claim) ∧
      d = K.launchSha256Json (.attempt r)
  recover : ∀ i t e claim, Authentic K H L g.store.claims i t e claim →
    Reports (Exec K H L) (Answered g.store) (recoverCommittedReceipt K H L i t e claim) g.store
      (OneShot.Recovery .attemptAlreadyConsumed .launchLedger (CommittedAttempt K log g i t e claim)
        (AttemptTombstone g.store.launches (inputIdentity K L i t claim)))

variable (hinj : Function.Injective K.sha256Json)
include hinj

/-- On authentic inputs the receipts that calls committed are those whose row is
in the claim ledger with the identity of the inputs. -/
theorem committedClaim_iff {e : InertFixtureIntentExpectation D}
    (ha : Intent.Authentic K.toCrypto H i t e) {r : InertFixtureIntentClaimReceipt D} :
    CommittedClaim K log g i t e r ↔ claimRow K.toCrypto r ∈ g.store.claims.claims ∧
      (claimRow K.toCrypto r).identity = Intent.inputIdentity K.toCrypto H i t := by
  refine ⟨row_of_claim hr, ?_⟩
  rintro ⟨hrow, hid⟩
  obtain ⟨i', t', e', hclaim, ha', hid'⟩ := claim_of_row hr hrow
  obtain ⟨rfl, rfl⟩ := Intent.inputIdentity_inj hinj (hid.symm.trans hid')
  obtain rfl := ha.expectation_unique hinj ha'
  exact hclaim

theorem claims_exact : ClaimsExact K H log g where
  trusted := (run_trusted hr).1
  verify r := by
    refine Act.Guards.reports (OneShot.Recall.verified_iff (V := Intent.verification K.toCrypto H)
      ⟨fun hrow => ?_, fun ⟨_, _, _, hclaim, _⟩ => (row_of_claim hr hclaim).1⟩
      (Intent.verifyCommittedReceipt_exact (run_exact hr).1 r))
      (Intent.verifyCommittedReceipt_completes r) (fun _ _ _ _ => Intent.exec_reads)
      (Intent.answer g.store.claims) (Intent.exec_answer g.store.claims)
      fun _ => Intent.answered_answer
    obtain ⟨i, t, e, hclaim, -, hid⟩ := claim_of_row hr hrow
    exact ⟨i, t, e, hclaim, hid⟩
  recover i t e ha := by
    have hs := (run_exact hr).1
    exact Act.Guards.reports (OneShot.Recall.recovered_iff
      (V := Intent.verification K.toCrypto H) hs.oneShot (.inl rfl) (by simp)
      (fun _ => committedClaim_iff hr hinj ha)
      (Intent.recoverCommittedReceipt_exact hinj hs ha))
      (Intent.recoverCommittedReceipt_completes i t e) (fun _ _ _ _ => Intent.exec_reads)
      (Intent.answer g.store.claims) (Intent.exec_answer g.store.claims)
      fun _ => Intent.answered_answer

theorem committedAttempt_iff {e : InertFixtureLaunchExpectation D}
    {claim : InertFixtureIntentClaimReceipt D} (ha : Authentic K H L g.store.claims i t e claim)
    {r : InertFixtureLaunchAttemptReceipt D} :
    CommittedAttempt K log g i t e claim r ↔ expectedRow K r ∈ g.store.launches.attempts ∧
      (expectedRow K r).identity = inputIdentity K L i t claim := by
  refine ⟨row_of_attempt hr, ?_⟩
  rintro ⟨hrow, hid⟩
  obtain ⟨i', t', e', claim', hattempt, ha', hexpected, hid'⟩ := attempt_of_row hr hrow
  obtain ⟨rfl, rfl, rfl⟩ := inputIdentity_inj hinj (hid.symm.trans hid')
  obtain rfl := Authentic.expectation_unique hinj ha.intent ha' ha.configured hexpected
  exact hattempt

theorem attempts_exact : AttemptsExact K H L log g where
  trusted := (run_trusted hr).2
  verify r := by
    refine Act.Guards.reports (OneShot.Recall.verified_iff (V := verification K L)
      ⟨fun hrow => ?_, fun ⟨_, _, _, _, hattempt, _⟩ => (row_of_attempt hr hattempt).1⟩
      (verifyCommittedReceipt_exact (run_exact hr).2 r))
      (verifyCommittedReceipt_completes r) (fun _ _ _ _ => exec_reads)
      (answer g.store) (exec_answer g.store) fun _ => answered_answer
    obtain ⟨i, t, e, claim, hattempt, -, -, hid⟩ := attempt_of_row hr hrow
    exact ⟨i, t, e, claim, hattempt, hid⟩
  recover i t e claim ha := by
    obtain ⟨hc, hs⟩ := run_exact hr
    exact Act.Guards.reports (OneShot.Recall.recovered_iff (V := verification K L) hs.oneShot
      (.inl rfl) (by simp) (fun _ => committedAttempt_iff hr hinj ha)
      (recoverCommittedReceipt_exact hinj hc hs ha))
      (recoverCommittedReceipt_completes i t e claim) (fun _ _ _ _ => exec_reads)
      (answer g.store) (exec_answer g.store) fun _ => answered_answer

end Committed

/-- **Committed receipts are verified and recovered exactly**, in every
reachable state of the dispatch, fixture-intent and launch ledgers. -/
theorem committed_receipts_exact {K₀ : Dispatch.Crypto D}
    (hdispatch : Function.Injective K₀.sha256Json) (hinj : Function.Injective K.sha256Json) :
    (∀ log g, Run (Dispatch.system K₀) .empty log g → ∀ r d,
      Dispatch.verifyCommittedReceipt K₀ r (.ok (g.store.selectClaim r.authorizationId)) = .ok d ↔
        (∃ e ∈ log, ∃ v claimId, e.event = ⟨.claim v claimId, .ok r⟩) ∧
          d = K₀.sha256Json (.receipt r)) ∧
    ∀ H L log g, Run (system K H L) .empty log g →
      ClaimsExact K H log g ∧ AttemptsExact K H L log g :=
  ⟨fun _ _ hr r d => Dispatch.verifyCommittedReceipt_iff hdispatch hr r d,
    fun _ _ _ _ hr => ⟨claims_exact hr hinj, attempts_exact hr hinj⟩⟩

/-- A dispatch receipt that is accepted, and an intent whose claim and launch
attempt are recovered. -/
theorem sample_receipts_exact :
    Dispatch.verifyCommittedReceipt Dispatch.symbolic Dispatch.firstReceipt
        (.ok (Dispatch.sampleRun.2.store.selectClaim "auth-1")) =
      .ok (Dispatch.symbolic.sha256Json (.receipt Dispatch.firstReceipt)) ∧
    (∃ e ∈ Dispatch.sampleRun.1, ∃ v claimId,
      e.event = ⟨.claim v claimId, .ok Dispatch.firstReceipt⟩) ∧
    sampleRun.2.store.claims.claims = [claimRow Intent.symbolic sampleClaim] ∧
    sampleRun.2.store.launches.attempts.map (·.launchAttemptId) = [.text "a1"] ∧
    ClaimsExact symbolic Intent.sampleHandle sampleRun.1 sampleRun.2 ∧
    AttemptsExact symbolic Intent.sampleHandle sampleHandle sampleRun.1 sampleRun.2 := by
  have hdispatch : Function.Injective Dispatch.symbolic.sha256Json := Dispatch.Document.term_inj
  have hinj : Function.Injective symbolic.sha256Json := Document.term_inj
  have hexact := committed_receipts_exact hdispatch hinj
  have haccepted : Dispatch.verifyCommittedReceipt Dispatch.symbolic Dispatch.firstReceipt
      (.ok (Dispatch.sampleRun.2.store.selectClaim "auth-1")) =
        .ok (Dispatch.symbolic.sha256Json (.receipt Dispatch.firstReceipt)) := by
    decide +kernel
  refine ⟨haccepted, ?_, by decide +kernel, by decide +kernel, ?_⟩
  · exact ((hexact.1 _ _ Dispatch.run_sample _ _).1 haccepted).1
  · exact hexact.2 _ _ _ _ run_sample

end Bpe.Launch
