import Bpe.Launch.Authenticate
import Bpe.Launch.Symbolic

/-!
# Launch attempts are consumed once

The invariant of every run over the two ledgers: the launch ledger is a
one-shot ledger, and each of its attempts was consumed by a call that had seen
the claim it embeds in the claim ledger, where it still is.
-/

namespace Bpe.Launch

open Models Concurrent List Intent

variable {D : Type}

abbrev Log (D : Type) := List (Step (Reply (D := D)) (Store D))

/-- The reply shows the row in the claim ledger. -/
def shows? : Event (Reply (D := D)) → Option (IntentClaim D)
  | ⟨.intent (.selectClaim _), .ok c⟩ => c
  | _ => none

theorem shows?_eq_some {v : Event (Reply (D := D))} {row : IntentClaim D}
    (h : shows? v = some row) : ∃ id, v = ⟨.intent (.selectClaim id), .ok (some row)⟩ := by
  obtain ⟨c, r⟩ := v
  rcases c with (_ | _ | _ | _ | id) | _ | _ | _
  case intent.selectClaim =>
    rcases r with _ | c
    · cases h
    · exact ⟨id, by rw [show c = some row from h]⟩
  all_goals cases h

variable {K : Crypto D} {H : Intent.Handle} {L : Handle}

def Issues (K : Crypto D) : Request D → List (Event (Reply (D := D))) → Call D → Prop
  | .intent _, _, c => ∀ v attemptId, c ≠ .consume v attemptId
  | .consume q, h, c => ConsumesOwn K q h c
  | .admitting q, h, c => ConsumesOwn K q h c

def Returns : Request D → List (Event (Reply (D := D))) → Except InertError (Receipt D) → Prop
  | .intent _, _, .ok r => ∃ c, r = .claim c
  | _, h, .ok r => ∃ a, r = .attempt a ∧ h.filterMap attempt? = [a]
  | _, _, .error _ => True

/-- The arguments of a request that may consume. -/
def Request.launch? : Request D → Option (LaunchRequest D)
  | .intent _ => none
  | .consume q => some q
  | .admitting q => some q

variable {v : VerifiedInertFixtureLaunchAttempt D} {attemptId : Sha256Text D}

theorem issues_consume {q : Request D} {h : List (Event (Reply (D := D)))}
    (hc : Issues K q h (.consume v attemptId)) :
    ∃ l, q.launch? = some l ∧ Authenticated K l v ∧ attemptId = l.attemptId ∧
      Shown K v.claimReceipt h := by
  cases q with
  | intent q => exact absurd rfl (hc v attemptId)
  | consume l => exact ⟨l, rfl, hc⟩
  | admitting l => exact ⟨l, rfl, hc⟩

/-- The signed intent that a call names. -/
def Request.signedIntent : Request D → SignedInertFixtureIntent D
  | .intent q => q.intent
  | .consume l => l.intent
  | .admitting l => l.intent

theorem signedIntent_of_launch {q : Request D} {l : LaunchRequest D} (h : q.launch? = some l) :
    q.signedIntent = l.intent := by
  cases q with
  | intent q => cases h
  | consume l => cases h; rfl
  | admitting l => cases h; rfl

/-- The identity names the claim or its intent. -/
def LaunchIdentity.names (K : Crypto D) (r : LaunchIdentity D) (l : LaunchRequest D) : Prop :=
  r.claimReceiptSha256 = K.sha256Json (.receipt l.claimReceipt) ∨
  r.intentSha256 = K.sha256Json (.intent l.intent) ∨ r.intentId = l.intent.payload.intentId ∨
  r.intentNonce = l.intent.payload.intentNonce ∨ r.claimId = l.claimReceipt.claimId ∨
  r.claimNonce = l.claimReceipt.claimNonce

theorem conflicts_of_names {r : LaunchIdentity D} {l : LaunchRequest D} (hv : Authenticated K l v)
    (h : r.names K l) :
    r.conflicts (launchIdentity K L v) := by
  unfold LaunchIdentity.conflicts launchIdentity
  rw [hv.claimReceiptSha256, hv.intentSha256, hv.receiptOf.intentId, hv.receiptOf.intentNonce,
    hv.claimReceipt]
  rcases h with h | h | h | h | h | h
  · exact .inl h
  · exact .inr (.inr (.inl h))
  · exact .inr (.inl h)
  · exact .inr (.inr (.inr (.inl h)))
  · exact .inr (.inr (.inr (.inr (.inl h))))
  · exact .inr (.inr (.inr (.inr (.inr h))))

/-- The attempt was consumed by a call of the log, on a claim that is in the
claim ledger, inside the claim's interval. -/
def Consumed (K : Crypto D) (L : Handle) (log : Log D)
    (s : Store D) (a : LaunchAttempt D) : Prop :=
  ∃ e ∈ log, ∃ v attemptId, e.call = .consume v attemptId ∧ a.identity = launchIdentity K L v ∧
    a.receiptJson.claimReceipt = v.claimReceipt ∧
    claimRow K.toCrypto v.claimReceipt ∈ s.claims.claims ∧
    inClaimInterval v.claimReceipt a.consumedAtUnix

structure Inv (K : Crypto D) (L : Handle) (log : Log D)
    (s : Store D) : Prop where
  shown : ∀ e ∈ log, ∀ row, shows? e.event = some row → row ∈ s.claims.claims
  consumed : ∀ a ∈ s.launches.attempts, Consumed K L log s a

variable {log : Log D}

variable {s s' : Store D}

theorem Consumed.mono {a : LaunchAttempt D} (h : Consumed K L log s a)
    (hg : s.claims.Grows s'.claims) (e : Step Reply (Store D)) :
    Consumed K L (log ++ [e]) s' a := by
  obtain ⟨e', he', v, attemptId, hcall, hid, hclaim, hrow, hinterval⟩ := h
  exact ⟨e', mem_append_left _ he', v, attemptId, hcall, hid, hclaim,
    hg.records.subset hrow, hinterval⟩

variable [DecidableEq D]

theorem mem_of_shows {c : Call D} {r : Reply c} {row : IntentClaim D}
    (hx : Exec K H L c s r s') (hs : shows? ⟨c, r⟩ = some row) : row ∈ s'.claims.claims := by
  obtain ⟨id, hev⟩ := shows?_eq_some hs
  cases hev
  obtain ⟨⟨hclaims, hreply⟩, -⟩ := hx
  rw [hclaims]
  rcases hreply with hreply | ⟨_, hreply⟩
  · exact mem_of_find?_eq_some (Except.ok.inj hreply).symm
  · cases hreply

theorem InertFixtureLaunchAttemptReceipt.valid_interval {r : InertFixtureLaunchAttemptReceipt D}
    (h : r.valid K) : inClaimInterval r.claimReceipt r.launchAttemptConsumedAtUnix := by
  simp only [valid, Bool.and_eq_true, decide_eq_true_eq] at h
  obtain ⟨-, -, -, -, -, -, -, hinterval⟩ := h
  exact hinterval

/-! ## What a call guarantees -/

theorem program_guards (q : Request D) :
    Prog.Guards (Issues K q) (Returns q) [] (q.program K H L) := by
  cases q with
  | intent q =>
    have hp : Act.Guards (fun _ c => ∀ v attemptId, c ≠ Call.consume v attemptId)
        (fun _ _ => True) (fun _ _ => True) []
        (fromIntent (q.program K.toCrypto H) : Program D _) :=
      Act.guards_embed.2 ((Intent.program_guards q).imp (fun _ c _ v attemptId hc => by cases hc)
        (fun _ _ _ => trivial) fun _ _ _ => trivial)
    have hm : Act.Guards (Issues K (.intent q)) (fun h r => Returns (.intent q) h (.ok r))
        (fun _ _ => True) [] (Request.program K H L (.intent q)) :=
      Act.guards_map.2 (hp.mono (fun _ r _ => ⟨r, rfl⟩) fun _ _ _ => trivial)
    exact Prog.Guards.mono hm fun h r hr => by cases r <;> exact hr
  | consume q =>
    have hm : Act.Guards (Issues K (.consume q)) (fun h r => Returns (.consume q) h (.ok r))
        (fun _ _ => True) [] (Request.program K H L (.consume q)) :=
      Act.guards_map.2 ((consumeLaunchAttempt_guards q (consumesOwn_of_reads q)
        fun _ _ hc _ => hc).mono (fun _ r hr => ⟨r, rfl, hr⟩) fun _ _ _ => trivial)
    exact Prog.Guards.mono hm fun h r hr => by cases r <;> exact hr
  | admitting q =>
    have hm : Act.Guards (Issues K (.admitting q)) (fun h r => Returns (.admitting q) h (.ok r))
        (fun _ _ => True) [] (Request.program K H L (.admitting q)) :=
      Act.guards_map.2 ((admitInertFixtureLaunchAttempt_guards q (consumesOwn_of_reads q)
        fun _ _ hc _ => hc).mono (fun _ r hr => ⟨r, rfl, hr⟩) fun _ _ _ => trivial)
    exact Prog.Guards.mono hm fun h r hr => by cases r <;> exact hr

/-! ## What a run preserves -/

/-- What a call may reserve. -/
def Call.reserves (K : Crypto D) (L : Handle) : Call D → LaunchReservation D → Prop
  | .consume v _, r => Reserves K L v r
  | _, _ => False

theorem conducts : OneShot.Conducts (system K H L) rules (fun s => s.launches.view)
    (Call.reserves K L) attempt? := by
  intro c s r s' hx
  rcases exec_effect hx with ⟨-, hs, hno⟩ | ⟨v, attemptId, reply, made, hev, -, hleft, hmade⟩
  · refine ⟨none, .raised (by simp only [hs]; exact .refl _), fun _ => ?_⟩
    cases c with
    | consume v attemptId => exact absurd rfl (hno v attemptId)
    | _ => rfl
  · cases hev
    refine ⟨_, hleft.1, fun hnone => ?_⟩
    cases reply with
    | error err => rfl
    | ok r =>
      rw [hmade r rfl] at hnone
      cases hnone

theorem Inv.shown_step (h : Inv K L log s) {i : Nat} {c : Call D} {r : Reply c}
    (hx : Exec K H L c s r s') :
    ∀ e ∈ log ++ [⟨i, c, r, s, s'⟩], ∀ row, shows? e.event = some row → row ∈ s'.claims.claims := by
  intro e he row hrow
  rcases mem_append.1 he with he | he
  · exact (exec_grows c s r s' hx).claims.records.subset (h.shown e he row hrow)
  · cases mem_singleton.1 he
    exact mem_of_shows hx hrow

theorem Inv.consume (h : Inv K L log s) {i : Nat}
    {reply : Except InertError (InertFixtureLaunchAttemptReceipt D)}
    {made : Option (InertFixtureLaunchAttemptReceipt D)}
    (hx : Exec K H L (.consume v attemptId) s reply s') (hclaims : s'.claims = s.claims)
    (hleft : Left K L v attemptId s.launches made s'.launches)
    (hshown : Shown K v.claimReceipt (own log i)) :
    Inv K L (log ++ [⟨i, .consume v attemptId, reply, s, s'⟩]) s' where
  shown := h.shown_step hx
  consumed a ha := by
    rcases hleft.1.record ha with ha | hmade
    · exact (h.consumed a ha).mono (by rw [hclaims]; exact .refl _) _
    · obtain ⟨r, rfl, rfl⟩ := Option.map_eq_some_iff.1 hmade
      obtain ⟨hvalid, id, env, -, rfl⟩ := hleft.2 r rfl
      refine ⟨_, mem_append_right _ (mem_singleton.2 rfl), v, attemptId, rfl, rfl, rfl, ?_,
        InertFixtureLaunchAttemptReceipt.valid_interval hvalid⟩
      rw [hclaims]
      obtain ⟨e, he, -, hev⟩ := mem_own.1 hshown
      exact h.shown e he _ (by rw [hev]; rfl)

variable {g : Config (Request D) Reply (Except InertError (Receipt D)) (Store D)}

section

variable (hr : Run (system K H L) .empty log g)

include hr

theorem run_inv : Inv K L log g.store := by
  refine Run.invariant (P := Issues K) program_guards (Inv K L) ?_ ?_ hr
  · exact ⟨by simp, by simp [Store.empty, LaunchLedger.empty]⟩
  · intro log i q c r s s' hinv hissue hx
    rcases exec_effect hx with ⟨hgrow, hlaunches, _⟩ |
      ⟨v, attemptId, reply, made, he, hclaims, hl, _⟩
    · refine ⟨hinv.shown_step hx, fun a ha => ?_⟩
      rw [hlaunches] at ha
      exact (hinv.consumed a ha).mono hgrow _
    · cases he
      obtain ⟨l, -, -, -, hshown⟩ := issues_consume hissue
      exact hinv.consume (H := H) hx hclaims hl hshown

theorem consumer {e : Step Reply (Store D)} (he : e ∈ log) (hc : e.call = .consume v attemptId) :
    ∃ q l, g.Started e.thread q ∧ q.launch? = some l ∧ Authenticated K l v := by
  obtain ⟨_, _, q, _, hstarted, hissue⟩ := Run.issued (P := Issues K) program_guards hr e he
  rw [hc] at hissue
  obtain ⟨l, hl, hauth, -, -⟩ := issues_consume hissue
  exact ⟨q, l, hstarted, hl, hauth⟩

/-- What a call may reserve is the identity of its own claim. -/
theorem reserves_own {e : Step Reply (Store D)} (he : e ∈ log) {q : Request D}
    (hq : g.Started e.thread q) {res : LaunchReservation D} (hres : e.call.reserves K L res) :
    ∃ l v, q.launch? = some l ∧ Authenticated K l v ∧ res.identity = launchIdentity K L v := by
  obtain ⟨v, attemptId, hcall⟩ : ∃ v attemptId, e.call = .consume v attemptId := by
    rcases hc : e.call with _ | ⟨v, attemptId⟩ | _ | _ <;> rw [hc] at hres
    case consume => exact ⟨v, attemptId, rfl⟩
    all_goals exact hres.elim
  obtain ⟨q', l, hstarted, hl, hauth⟩ := consumer hr he hcall
  obtain rfl := Config.Started.unique hq hstarted
  rw [hcall] at hres
  exact ⟨l, v, hl, hauth, hres.1⟩

theorem reserves_conflicts {e : Step Reply (Store D)} (he : e ∈ log) {q : Request D}
    {l : LaunchRequest D} (hq : g.Started e.thread q) (hl : q.launch? = some l)
    {id : LaunchIdentity D} (hnames : id.names K l) {res : LaunchReservation D}
    (hres : e.call.reserves K L res) : id.conflicts res.identity := by
  obtain ⟨l', v, hl', hauth, hid⟩ := reserves_own hr he hq hres
  obtain rfl := Option.some.inj (hl.symm.trans hl')
  rw [hid]
  exact conflicts_of_names hauth hnames

theorem returned {i : Nat} {q : Request D} {r : InertFixtureLaunchAttemptReceipt D}
    (hi : g.Finished i q (.ok (.attempt r))) :
    ∃ e ∈ log, e.thread = i ∧ attempt? e.event ≠ none := by
  have hreturns := Run.result (P := Issues K) program_guards hr hi
  have hown : (own log i).filterMap attempt? = [r] := by
    cases q with
    | intent q => obtain ⟨c, hc⟩ := hreturns; cases hc
    | consume l => obtain ⟨a, ha, hown⟩ := hreturns; cases ha; exact hown
    | admitting l => obtain ⟨a, ha, hown⟩ := hreturns; cases ha; exact hown
  obtain ⟨e, he, hthread, hattempt⟩ := exists_of_own hown
  exact ⟨e, he, hthread, by simp [hattempt]⟩

end

/-- **Launch attempts are one-shot across both ledgers**, over any interleaving
of any number of claims and consumptions on provisioned ledgers. -/
theorem launch_attempt_one_shot (hr : Run (system K H L) .empty log g) :
    g.store.launches.reservations.Pairwise (fun r r' =>
      r.identity.claimReceiptSha256 ≠ r'.identity.claimReceiptSha256 ∧
      r.identity.intentSha256 ≠ r'.identity.intentSha256 ∧
      r.identity.intentId ≠ r'.identity.intentId ∧
      r.identity.intentNonce ≠ r'.identity.intentNonce ∧
      r.identity.claimId ≠ r'.identity.claimId ∧
      r.identity.claimNonce ≠ r'.identity.claimNonce) ∧
    (∀ i j q q' r r', g.Finished i q (.ok (.attempt r)) → g.Finished j q' (.ok (.attempt r')) →
      (K.sha256Json (.intent q.signedIntent) = K.sha256Json (.intent q'.signedIntent) ∨
        q.signedIntent.payload.intentId = q'.signedIntent.payload.intentId ∨
        q.signedIntent.payload.intentNonce = q'.signedIntent.payload.intentNonce) → i = j) ∧
    (∀ a ∈ g.store.launches.attempts, ∃ c ∈ g.store.claims.claims,
      c.receiptJson = a.receiptJson.claimReceipt ∧
      c.identity.intentSha256 = a.identity.intentSha256 ∧
      c.claimedAtUnix ≤ a.consumedAtUnix ∧
      ∃ i q, g.Started i q ∧ a.identity.intentSha256 = K.sha256Json (.intent q.signedIntent) ∧
        a.consumedAtUnix < q.signedIntent.payload.expiresAtUnix) ∧
    (∀ log' g', Steps (system K H L) g log' g' → ∀ res ∈ g.store.launches.reservations,
      res ∈ g'.store.launches.reservations ∧
      ∀ i q l, g'.Started i q → q.launch? = some l → res.identity.names K l →
        (∀ e ∈ log', e.thread = i →
          e.after.launches.reservations = e.before.launches.reservations ∧
          e.after.launches.attempts = e.before.launches.attempts) ∧
        ((∀ e ∈ log, e.thread = i → ∀ v attemptId, e.call ≠ .consume v attemptId) →
          ∀ x, g'.Finished i q x → ∃ err, x = .error err)) ∧
    (∀ e ∈ log, e.before.launches.clockHighWaterUnix ≤ e.after.launches.clockHighWaterUnix) := by
  have hinv := run_inv hr
  have honce : OneShot.Inv rules g.store.launches.view := conducts.inv hr .empty
  refine ⟨?_, fun i j q q' r r' hi hj hsame => ?_, fun a ha => ?_,
    fun log' g' hsteps res hres => ?_,
    fun e he => (exec_grows _ _ _ _ (hr.exec_of_mem he)).launches.clock⟩
  · refine List.Pairwise.imp (fun {r r'} hne => ?_) honce.distinct
    change ¬ r.identity.conflicts r'.identity at hne
    unfold LaunchIdentity.conflicts at hne
    tauto
  · obtain ⟨e, he, rfl, hattempt⟩ := returned hr hi
    obtain ⟨e', he', rfl, hattempt'⟩ := returned hr hj
    rw [conducts.unique hr he he' hattempt hattempt' fun res res' hres hres' => ?_]
    obtain ⟨l, v, hl, hauth, hid⟩ := reserves_own hr he ⟨_, hi⟩ hres
    obtain ⟨l', _, hl', _⟩ := reserves_own hr he' ⟨_, hj⟩ hres'
    rw [signedIntent_of_launch hl, signedIntent_of_launch hl'] at hsame
    refine reserves_conflicts hr he' ⟨_, hj⟩ hl' ?_ hres'
    change res.identity.names K l'
    unfold LaunchIdentity.names
    rw [hid]
    unfold launchIdentity
    rw [hauth.intentSha256, hauth.receiptOf.intentId, hauth.receiptOf.intentNonce]
    rcases hsame with h | h | h
    · exact .inr (.inl h)
    · exact .inr (.inr (.inl h))
    · exact .inr (.inr (.inr (.inl h)))
  · obtain ⟨e, he, v, attemptId, hcall, hid, hclaim, hrow, hinterval⟩ := hinv.consumed a ha
    obtain ⟨q, l, hstarted, hl, hauth⟩ := consumer hr he hcall
    have hsigned := signedIntent_of_launch hl
    refine ⟨_, hrow, hclaim.symm, ?_, hinterval.1, e.thread, q, hstarted, ?_, ?_⟩
    · rw [hid]
      exact hauth.receiptOf.intentSha256.trans hauth.intentSha256.symm
    · rw [hid, hsigned]
      exact hauth.intentSha256
    · rw [hsigned, ← hauth.receiptOf.expiresAtUnix]
      exact hinterval.2
  · have hr' : Run (system K H L) .empty (log ++ log') g' := Steps.trans hr hsteps
    refine ⟨(conducts.grows hsteps).reservations.subset hres, fun i q l hq hl hnames => ?_⟩
    -- The reservation is still there at every later step.
    have later : ∀ e ∈ log', e.thread = i → attempt? e.event = none ∧
        OneShot.Advances e.before.launches.view e.after.launches.view := by
      rintro e he rfl
      exact conducts.refused hsteps he hres fun _ hres' =>
        reserves_conflicts hr' (mem_append_right _ he) hq hl hnames hres'
    refine ⟨fun e he hthread => ?_, fun hnot x hx => ?_⟩
    · exact ⟨(later e he hthread).2.reservations, (later e he hthread).2.records⟩
    · rcases x with err | r
      · exact ⟨err, rfl⟩
      · have hreturns := Run.result (P := Issues K) program_guards hr' hx
        obtain ⟨a, rfl⟩ : ∃ a, r = .attempt a := by
          cases q with
          | intent q => cases hl
          | consume l => exact hreturns.imp fun _ h => h.1
          | admitting l => exact hreturns.imp fun _ h => h.1
        obtain ⟨e, he, hthread, hattempt⟩ := returned hr' hx
        rcases mem_append.1 he with he | he
        · obtain ⟨j, c, x, s, s'⟩ := e
          cases c with
          | consume v attemptId => exact absurd rfl (hnot _ he hthread v attemptId)
          | _ => exact absurd rfl hattempt
        · exact absurd (later e he hthread).1 hattempt

/-- A claimed intent whose launch attempt is consumed once. -/
theorem sample_attempt_committed :
    sampleRun.2.store.launches.attempts.map (·.launchAttemptId) = [.text "a1"] ∧
      ∀ a ∈ sampleRun.2.store.launches.attempts, ∃ c ∈ sampleRun.2.store.claims.claims,
        c.receiptJson = a.receiptJson.claimReceipt ∧
        c.identity.intentSha256 = a.identity.intentSha256 ∧
        c.claimedAtUnix ≤ a.consumedAtUnix ∧
        ∃ i q, sampleRun.2.Started i q ∧
          a.identity.intentSha256 = symbolic.sha256Json (.intent q.signedIntent) ∧
          a.consumedAtUnix < q.signedIntent.payload.expiresAtUnix :=
  ⟨by decide +kernel, (launch_attempt_one_shot run_sample).2.2.1⟩

end Bpe.Launch
