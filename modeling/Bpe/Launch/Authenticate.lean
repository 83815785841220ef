import Bpe.Launch.Effect

/-!
# What a consumption guarantees

An authenticated attempt carries a claim receipt of its intent that the claim
ledger showed; `consume_launch_attempt` consumes only such attempts, and at
most one.
-/

namespace Bpe.Launch

open Models List Act Intent

variable {D : Type}

/-- The attempt is that of the request, on a receipt of its intent. -/
structure Authenticated (K : Crypto D) (q : LaunchRequest D)
    (v : VerifiedInertFixtureLaunchAttempt D) : Prop where
  claimReceipt : v.claimReceipt = q.claimReceipt
  intentSha256 : v.intentSha256 = K.sha256Json (.intent q.intent)
  claimReceiptSha256 : v.claimReceiptSha256 = K.sha256Json (.receipt q.claimReceipt)
  receiptOf : ReceiptOf K.toCrypto q.intent v.claimReceipt

/-- The attempt was made of these inputs, and of a receipt with their digests. -/
structure InputsOf (K : Crypto D) (i : SignedInertFixtureIntent D)
    (t : InertFixtureIntentTrustStore) (claim : InertFixtureIntentClaimReceipt D)
    (v : VerifiedInertFixtureLaunchAttempt D) : Prop where
  claimReceipt : v.claimReceipt = claim
  intentSha256 : v.intentSha256 = K.sha256Json (.intent i)
  payloadSha256 : v.payloadSha256 = K.sha256Json (.payload i.payload)
  trustStoreSha256 : v.trustStoreSha256 = K.sha256Json (.trustStore t)
  claimReceiptSha256 : v.claimReceiptSha256 = K.sha256Json (.receipt claim)
  ofIntent : claim.intentSha256 = K.sha256Json (.intent i)
  ofPayload : claim.intentPayloadSha256 = K.sha256Json (.payload i.payload)
  ofTrustStore : claim.trustStoreSha256 = K.sha256Json (.trustStore t)

/-- The calls so far include a snapshot of the claim ledger that shows the
receipt's row. -/
def Shown (K : Crypto D) (r : InertFixtureIntentClaimReceipt D)
    (h : List (Event (Reply (D := D)))) : Prop :=
  ⟨.intent (.selectClaim r.intentId), .ok (some (claimRow K.toCrypto r))⟩ ∈ h

/-- The receipt that a consumption replied. -/
def attempt? : Event (Reply (D := D)) → Option (InertFixtureLaunchAttemptReceipt D)
  | ⟨.consume _ _, .ok r⟩ => some r
  | _ => none

def Call.Reads : Call D → Prop
  | .intent c => c.Reads
  | .consume _ _ => False
  | _ => True

/-- The calls of `h` with those of an intent program behind them. -/
def Extended (h h' : List (Event (Reply (D := D)))) (t : List (Event (Intent.Reply (D := D)))) :
    Prop :=
  h' = h ++ t.map intentCalls.event

theorem Extended.attempts {h h' : List (Event (Reply (D := D)))}
    {t : List (Event (Intent.Reply (D := D)))} (he : Extended h h' t) :
    h'.filterMap attempt? = h.filterMap attempt? := by
  have hnone : t.filterMap (attempt? ∘ intentCalls.event) = [] :=
    filterMap_eq_nil_iff.2 fun _ _ => rfl
  rw [he, filterMap_append, filterMap_map, hnone, append_nil]

theorem Extended.shown {K : Crypto D} {r : InertFixtureIntentClaimReceipt D}
    {h h' : List (Event (Reply (D := D)))} {t : List (Event (Intent.Reply (D := D)))}
    (he : Extended h h' t) (hs : Intent.Shown K.toCrypto r t) : Shown K r h' := by
  rw [he]
  exact mem_append_right _ (mem_map_of_mem hs)

theorem fromIntent_guards {α : Type} {P : List (Event (Reply (D := D))) → Call D → Prop}
    {Q : List (Event (Intent.Reply (D := D))) → α → Prop} {h : List (Event (Reply (D := D)))}
    {p : Intent.Program D α} (hP : ∀ h c, c.Reads → P h c)
    (hp : Act.Guards (fun _ c => c.Reads) Q (fun _ _ => True) [] p) :
    Act.Guards P (fun h' a => ∃ t, Extended h h' t ∧ Q t a)
      (fun h' _ => ∃ t, Extended h h' t) h (fromIntent p) := by
  refine guards_embed.2 (hp.imp (fun _ c hc => hP _ _ hc) (fun t a ha => ?_) fun t e _ => ?_)
  · exact ⟨t, rfl, ha⟩
  · exact ⟨t, rfl⟩

/-- The consumptions a program may issue: those of authenticated attempts. -/
def ConsumesOwn (K : Crypto D) (q : LaunchRequest D) (h : List (Event (Reply (D := D)))) :
    Call D → Prop
  | .consume v attemptId => Authenticated K q v ∧ attemptId = q.attemptId ∧ Shown K v.claimReceipt h
  | _ => True

theorem consumesOwn_of_reads {K : Crypto D} (q : LaunchRequest D)
    (h : List (Event (Reply (D := D)))) (c : Call D) (hc : c.Reads) : ConsumesOwn K q h c := by
  cases c with
  | consume v attemptId => exact hc.elim
  | intent c => trivial
  | selectReservation d => trivial
  | selectAttempt id => trivial

variable [DecidableEq D] {K : Crypto D} {H : Intent.Handle} {L : Handle}

/-- A launch call consumes authentic inputs of its own, and only reads the claim
ledger. -/
def BindsLaunch (K : Crypto D) (H : Intent.Handle) (L : Handle) (l : LaunchRequest D) :
    Call D → Prop
  | .intent c => c.Reads
  | .consume v _ => InputsOf K l.intent l.trustStore l.claimReceipt v ∧
      Intent.Authentic K.toCrypto H l.intent l.trustStore l.expectation.intentExpectation ∧
      L.expected l.expectation
  | _ => True

theorem bindsLaunch_of_reads (l : LaunchRequest D) (c : Call D) (hc : c.Reads) :
    BindsLaunch K H L l c := by
  cases c with
  | intent c => exact hc
  | consume v attemptId => exact hc.elim
  | selectReservation d => trivial
  | selectAttempt id => trivial

theorem validateLaunchExpectation_guards (e : InertFixtureLaunchExpectation D)
    {h : List (Event (Intent.Reply (D := D)))} :
    Act.Guards (fun _ c => c.Reads) (fun _ _ => True) (fun _ _ => True) h
      (validateLaunchExpectation K e) := by
  unfold validateLaunchExpectation
  refine guards_bind.2 (guards_perform.2 ⟨reads_canonicalPath _, fun b => ?_,
    fun _ => trivial⟩)
  refine guards_bind.2 (guards_lift.2 ⟨fun _ _ => ?_, fun _ _ => trivial⟩)
  refine guards_bind.2 ((guards_perform (c := Intent.Call.canonicalPath _)).2
    ⟨reads_canonicalPath _, fun (b : Bool) => ?_, fun _ => trivial⟩)
  refine guards_check_bind (fun _ => trivial) fun _ => ?_
  refine guards_check_bind (fun _ => trivial) fun _ => ?_
  refine guards_check_bind (fun _ => trivial) fun _ => ?_
  refine guards_check_bind (fun _ => trivial) fun _ => ?_
  exact guards_check (fun _ => trivial) fun _ => trivial

section Claim

variable (i : SignedInertFixtureIntent D) (t : InertFixtureIntentTrustStore)
  (e : InertFixtureIntentExpectation D) (now : Int) (enforce : Bool)
  {h : List (Event (Intent.Reply (D := D)))}

theorem verifiedIntent_guards :
    Act.Guards (fun _ c => c.Reads) (fun _ _ => True) (fun _ _ => True) h
      (verifiedIntent K i t e now enforce) := by
  unfold verifiedIntent
  refine guards_ite.2 ⟨fun _ => ?_, fun _ => guards_pure.2 trivial⟩
  exact guards_map.2 (verifyInertFixtureIntent_guards (reads_canonicalPath _)
    (fun _ => trivial) (fun _ _ => trivial) fun _ _ _ _ => trivial)

theorem authenticateClaim_guards :
    Act.Guards (fun _ c => c.Reads)
      (fun h r => ReceiptOf K.toCrypto i r.2 ∧ Intent.Shown K.toCrypto r.2 h ∧
        RecoveredOf K.toCrypto H i t e r.2)
      (fun _ _ => True) h (authenticateClaim K H i t e now enforce) := by
  unfold authenticateClaim
  refine guards_bind.2 ((verifiedIntent_guards i t e now enforce).mono (fun h v? _ => ?_)
    fun _ _ _ => trivial)
  refine guards_bind.2 ((recoverCommittedReceipt_guards (fun _ _ hc => hc) i t e).mono
    (fun h r hr => ?_) fun _ _ _ => trivial)
  exact guards_pure.2 hr

end Claim

/-- What authentication accepts was made of authentic inputs. -/
theorem authenticateLaunchInputs_guards (q : LaunchRequest D) (now : Int) (enforce : Bool)
    {h : List (Event (Intent.Reply (D := D)))} :
    Act.Guards (fun _ c => c.Reads)
      (fun h v => Authenticated K q v ∧ Intent.Shown K.toCrypto v.claimReceipt h ∧
        InputsOf K q.intent q.trustStore q.claimReceipt v ∧
        Intent.Authentic K.toCrypto H q.intent q.trustStore q.expectation.intentExpectation)
      (fun _ _ => True) h
      (authenticateLaunchInputs K H q.intent q.trustStore q.expectation q.claimReceipt now
        enforce) := by
  unfold authenticateLaunchInputs
  refine guards_check_bind (fun _ => trivial) fun _ => ?_
  refine guards_bind.2 (guards_mapError.2 ((validateLaunchExpectation_guards _).mono
    (fun h _ _ => ?_) fun _ _ _ => trivial))
  refine guards_check_bind (fun _ => trivial) fun _ => ?_
  refine guards_check_bind (fun _ => trivial) fun _ => ?_
  refine guards_check_bind (fun _ => trivial) fun _ => ?_
  refine guards_bind.2 (guards_mapError.2 ((authenticateClaim_guards _ _ _ _ _).mono
    (fun h r hr => ?_) fun _ _ _ => trivial))
  obtain ⟨verified?, recovered⟩ := r
  refine guards_check_bind (fun _ => trivial) fun heq => ?_
  refine guards_check_bind (fun _ => trivial) fun _ => ?_
  refine guards_check_bind (fun _ => trivial) fun _ => ?_
  refine guards_check_bind (fun _ => trivial) fun _ => ?_
  refine guards_pure.2 ?_
  obtain rfl : recovered = q.claimReceipt := Classical.not_not.1 heq
  obtain ⟨hof, hshown, hrec⟩ := hr
  exact ⟨⟨rfl, rfl, rfl, hof⟩, hshown, ⟨rfl, rfl, rfl, rfl, rfl, hrec.intentSha256,
    hrec.payloadSha256, hrec.trustStoreSha256⟩, hrec.authentic⟩

section Calls

variable {α : Type} {P : List (Event (Reply (D := D))) → Call D → Prop}
  {Q : List (Event (Reply (D := D))) → α → Prop}
  {E : List (Event (Reply (D := D))) → InertError → Prop} {h : List (Event (Reply (D := D)))}

/-- What `consume_launch_attempt` and `admit_inert_fixture_launch_attempt` do before they
look at the configured ledger. -/
theorem authenticated_guards (q : LaunchRequest D) {k : VerifiedInertFixtureLaunchAttempt D →
      Program D α} (hP : ∀ h c, c.Reads → P h c)
    (hE : ∀ h' e, h'.filterMap attempt? = h.filterMap attempt? → E h' e)
    (hk : ∀ h' v, h'.filterMap attempt? = h.filterMap attempt? → Authenticated K q v →
      Shown K v.claimReceipt h' → InputsOf K q.intent q.trustStore q.claimReceipt v →
      Intent.Authentic K.toCrypto H q.intent q.trustStore q.expectation.intentExpectation →
      Act.Guards P Q E h' (k v)) :
    Act.Guards P Q E h (do
      let now ← Act.perform (Call.intent .currentUnixTime)
      let v ← fromIntent (authenticateLaunchInputs K H q.intent q.trustStore q.expectation
        q.claimReceipt now true)
      fromIntent (validateLaunchExpectation K q.expectation)
      k v) := by
  refine guards_bind.2 ((guards_perform (c := Call.intent .currentUnixTime)).2
    ⟨hP _ _ reads_currentUnixTime, fun (now : Int) => ?_, fun _ => hE _ _ (by simp [attempt?])⟩)
  refine guards_bind.2 ((fromIntent_guards hP (authenticateLaunchInputs_guards q now true)).mono
    (fun h₁ v hv => ?_) fun h₁ e he => ?_)
  · obtain ⟨t, ht, hauth, hshown, hinputs, hauthentic⟩ := hv
    refine guards_bind.2 ((fromIntent_guards hP (validateLaunchExpectation_guards _)).mono
      (fun h₂ _ hv => ?_) fun h₂ e he => ?_)
    · obtain ⟨t', ht', -⟩ := hv
      refine hk _ v ?_ hauth ?_ hinputs hauthentic
      · rw [ht'.attempts, ht.attempts]; simp [attempt?]
      · rw [ht']
        exact mem_append_left _ (ht.shown hshown)
    · obtain ⟨t', ht'⟩ := he
      refine hE _ _ ?_
      rw [ht'.attempts, ht.attempts]; simp [attempt?]
  · obtain ⟨t, ht⟩ := he
    refine hE _ _ ?_
    rw [ht.attempts]; simp [attempt?]

variable (q : LaunchRequest D) (hP : ∀ h c, c.Reads → P h c)
  (hconsume : ∀ h v, ConsumesOwn K q h (.consume v q.attemptId) →
    BindsLaunch K H L q (.consume v q.attemptId) → P h (.consume v q.attemptId))

include hP hconsume

theorem consumeLaunchAttempt_guards :
    Act.Guards P (fun h' r => h'.filterMap attempt? = h.filterMap attempt? ++ [r])
      (fun h' _ => h'.filterMap attempt? = h.filterMap attempt?) h
      (consumeLaunchAttempt K H L q.intent q.trustStore q.expectation q.claimReceipt
        q.attemptId) := by
  refine authenticated_guards q hP (fun _ _ he => he) fun h' v hh hauth hshown hinputs ha => ?_
  refine guards_check_bind (fun _ => hh) fun hexpected => ?_
  refine (guards_perform (c := Call.consume v q.attemptId)).2
    ⟨hconsume _ _ ⟨hauth, rfl, hshown⟩ ⟨hinputs, ha, Classical.not_not.1 hexpected⟩,
      fun r => ?_, fun e => ?_⟩
  · rw [filterMap_append, hh]; rfl
  · rw [filterMap_append, hh]; simp [attempt?]

theorem admitInertFixtureLaunchAttempt_guards :
    Act.Guards P (fun h' r => h'.filterMap attempt? = h.filterMap attempt? ++ [r])
      (fun h' _ => h'.filterMap attempt? = h.filterMap attempt?) h
      (admitInertFixtureLaunchAttempt K H L q.intent q.trustStore q.expectation q.claimReceipt
        q.attemptId) := by
  refine authenticated_guards q hP (fun _ _ he => he) fun h' v hh _ _ _ _ => ?_
  refine guards_check_bind (fun _ => hh) fun _ => ?_
  rw [← hh]
  exact consumeLaunchAttempt_guards q hP hconsume

end Calls

end Bpe.Launch
