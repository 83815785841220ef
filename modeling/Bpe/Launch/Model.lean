import Bpe.Intent.Ledger

/-!
# Launch attempts

The launch expectation and the launch-attempt receipt of `inert_launch.py`
with their validators, and `_authenticate_launch_inputs`. Authentication
issues no call but those of the intent ledger: it looks at paths, reads the
clock, and recovers the committed claim.
-/

namespace Bpe.Launch

open Models Intent

structure InertFixtureLaunchExpectation (D : Type) where
  intentExpectation : InertFixtureIntentExpectation D
  launchLedgerPath : String
  workerInstanceId : String
  claimLedgerId : String
  launchLedgerId : String

structure VerifiedInertFixtureLaunchAttempt (D : Type) where
  intent : SignedInertFixtureIntent D
  claimReceipt : InertFixtureIntentClaimReceipt D
  intentSha256 : D
  payloadSha256 : D
  trustStoreId : String
  trustStoreSha256 : D
  claimReceiptSha256 : D
  verifiedAtUnix : Int

structure InertFixtureLaunchAttemptReceipt (D : Type) where
  claimReceipt : InertFixtureIntentClaimReceipt D
  claimReceiptSha256 : D
  launchAttemptId : D
  launchAttemptNonce : D
  launchAttemptConsumedAtUnix : Int
  workerInstanceId : String
  claimLedgerId : String
  launchLedgerId : String
  deriving DecidableEq

/-- The document of `_launch_binding_sha256`. -/
structure LaunchBinding (D : Type) where
  intentId : String
  intentSha256 : D
  intentNonce : D
  claimReceiptSha256 : D
  claimId : D
  claimNonce : D
  policySha256 : D
  workerInstanceId : String
  claimLedgerId : String
  launchLedgerId : String

/-- The further documents `sha256_json` is applied to. -/
inductive LaunchDocument (D : Type) where
  | attempt (r : InertFixtureLaunchAttemptReceipt D)
  | binding (b : LaunchBinding D)

structure Crypto (D : Type) extends Intent.Crypto D where
  launchSha256Json : LaunchDocument D → D

section Validators

variable {D : Type} [DecidableEq D] (K : Crypto D)

def InertFixtureLaunchAttemptReceipt.valid (r : InertFixtureLaunchAttemptReceipt D) : Bool :=
  r.claimReceipt.valid K.toCrypto && isStableId r.workerInstanceId &&
  isStableId r.claimLedgerId && isStableId r.launchLedgerId &&
  decide (
    0 ≤ r.launchAttemptConsumedAtUnix ∧
    r.claimReceiptSha256 = K.sha256Json (.receipt r.claimReceipt) ∧
    r.launchAttemptId ≠ K.zero ∧ r.launchAttemptNonce ≠ K.zero ∧
    (r.workerInstanceId = r.claimReceipt.bindings.workerInstanceId ∧
      r.claimLedgerId = r.claimReceipt.bindings.claimLedgerId ∧
      r.launchLedgerId = r.claimReceipt.bindings.launchLedgerId) ∧
    r.claimLedgerId ≠ r.launchLedgerId ∧
    (r.claimReceipt.claimedAtUnix ≤ r.launchAttemptConsumedAtUnix ∧
      r.launchAttemptConsumedAtUnix < r.claimReceipt.intentExpiresAtUnix))

/-- The bindings that `inert_fixture_intent_expectation_for` compares with the
policy, besides its digest. -/
def anchored (e : InertFixtureIntentExpectation D) : Prop :=
  let p := e.policy.bindings K.toCrypto
  p.policySha256 = e.bindings.policySha256 ∧
  p.workerPoolAudience = e.bindings.workerPoolAudience ∧
  p.workerInstanceId = e.bindings.workerInstanceId ∧
  p.claimLedgerId = e.bindings.claimLedgerId ∧ p.launchLedgerId = e.bindings.launchLedgerId ∧
  p.delegatedRootId = e.bindings.delegatedRootId ∧
  p.launcherArtifactId = e.bindings.launcherArtifactId ∧
  p.launcherArtifactSha256 = e.bindings.launcherArtifactSha256 ∧
  p.launcherSeccompPolicyId = e.bindings.launcherSeccompPolicyId ∧
  p.launcherSeccompPolicySha256 = e.bindings.launcherSeccompPolicySha256

instance (e : InertFixtureIntentExpectation D) : Decidable (anchored K e) :=
  inferInstanceAs (Decidable (_ ∧ _))

/-- `_normalized_intent_expectation`, on a path that resolves to itself or not:
the expectation that the policy determines must be the one given. -/
def normalizedIntentExpectation (e : InertFixtureIntentExpectation D) (canonicalPath : Bool) :
    Except InertError Unit :=
  let derived : InertFixtureIntentExpectation D :=
    { e with bindings := e.policy.bindings K.toCrypto }
  if ¬ (e.policy.valid K.toCrypto ∧ anchored K e ∧ derived.valid K.toCrypto canonicalPath) then
    .error (.launchExpectation "launch-attempt intent expectation is invalid")
  else if derived ≠ e then
    .error (.launchExpectation
      "launch-attempt intent expectation differs from its complete policy")
  else .ok ()

def validateLaunchExpectation (e : InertFixtureLaunchExpectation D) : Intent.Program D Unit := do
  let canonicalPath ← Act.perform (Call.canonicalPath e.intentExpectation.claimLedgerPath)
  let _ ← Act.lift (normalizedIntentExpectation K e.intentExpectation canonicalPath)
  let canonicalLaunchPath : Bool ← Act.perform (Call.canonicalPath e.launchLedgerPath)
  Act.when (¬ canonicalLaunchPath) (Act.raise (.launchExpectation
    "launch-ledger path must be existing, absolute, and canonical"))
  Act.when (e.launchLedgerPath = e.intentExpectation.claimLedgerPath)
    (Act.raise (.launchExpectation "claim and launch ledgers must use distinct canonical paths"))
  Act.when (¬ (isStableId e.workerInstanceId ∧ isStableId e.claimLedgerId ∧
      isStableId e.launchLedgerId))
    (Act.raise (.launchExpectation "launch expectation identity is invalid"))
  Act.when (¬ (e.workerInstanceId = e.intentExpectation.bindings.workerInstanceId ∧
      e.claimLedgerId = e.intentExpectation.bindings.claimLedgerId ∧
      e.launchLedgerId = e.intentExpectation.bindings.launchLedgerId))
    (Act.raise (.launchExpectation
      "launch expectation differs from the complete intent expectation"))
  Act.when (e.claimLedgerId = e.launchLedgerId) (Act.raise (.launchExpectation
    "claim and launch ledgers must have distinct identities"))

end Validators

/-! ## Authentication -/

/-- How `_authenticate_launch_inputs` reports an invalid expectation. -/
def invalidInputs : InertError → InertError
  | .launchExpectation _ | .launchLedger _ | .attemptAlreadyConsumed _ =>
    .launchAuthorization "launch-attempt authentication inputs are invalid"
  | e => e

/-- How it reports a failed verification or recovery. -/
def failedAuthentication (e : InertError) : InertError :=
  if e.isIntentError then .launchAuthorization
    "launch attempt failed original intent or committed-claim authentication"
  else e

section Authenticate

variable {D : Type} [DecidableEq D] (K : Crypto D) (H : Intent.Handle)
  (i : SignedInertFixtureIntent D) (t : InertFixtureIntentTrustStore)

/-- `verified_intent`, bound only where the validity window is enforced. -/
def verifiedIntent (e : InertFixtureIntentExpectation D) (now : Int) (enforceValidity : Bool) :
    Intent.Program D (Option (VerifiedInertFixtureIntent D)) :=
  if enforceValidity then some <$> verifyInertFixtureIntent K.toCrypto i t e now true
  else pure none

/-- The verification and the recovery that authentication rests on. -/
def authenticateClaim (e : InertFixtureIntentExpectation D) (now : Int) (enforceValidity : Bool) :
    Intent.Program D
      (Option (VerifiedInertFixtureIntent D) × InertFixtureIntentClaimReceipt D) := do
  let verified? ← verifiedIntent K i t e now enforceValidity
  let recovered ← recoverCommittedReceipt K.toCrypto H i t e
  pure (verified?, recovered)

def authenticateLaunchInputs (e : InertFixtureLaunchExpectation D)
    (claim : InertFixtureIntentClaimReceipt D) (now : Int)
    (enforceValidity : Bool) : Intent.Program D (VerifiedInertFixtureLaunchAttempt D) := do
  Act.when (now < 0) (Act.raise (.launchAuthorization
    "launch-attempt verification time must be a nonnegative integer"))
  let _ ← Act.mapError invalidInputs (validateLaunchExpectation K e)
  Act.when (¬ claim.valid K.toCrypto) (Act.raise (.launchAuthorization
    "launch-attempt claim receipt is invalid"))
  Act.when (¬ (i.valid K.toCrypto ∧ t.valid K.toCrypto)) (Act.raise (.launchAuthorization
    "launch-attempt authentication inputs are invalid"))
  Act.when (¬ (H.path = e.intentExpectation.claimLedgerPath ∧ H.ledgerId = e.claimLedgerId ∧
      H.workerInstanceId = e.workerInstanceId))
    (Act.raise (.launchAuthorization
      "launch attempt received a different configured claim ledger"))
  let (verified?, recovered) ← Act.mapError failedAuthentication
    (authenticateClaim K H i t e.intentExpectation now enforceValidity)
  Act.when (recovered ≠ claim) (Act.raise (.launchAuthorization
    "launch attempt requires the exact authenticated committed claim receipt"))
  Act.when (¬ (i.payload.bindings.workerInstanceId = e.workerInstanceId ∧
      i.payload.bindings.claimLedgerId = e.claimLedgerId ∧
      i.payload.bindings.launchLedgerId = e.launchLedgerId))
    (Act.raise (.launchAuthorization "launch-attempt worker or ledger binding differs"))
  Act.when (enforceValidity ∧ now < claim.claimedAtUnix) (Act.raise (.launchAuthorization
    "launch-attempt clock is earlier than the committed claim"))
  let result : VerifiedInertFixtureLaunchAttempt D := {
    intent := i
    claimReceipt := claim
    intentSha256 := K.sha256Json (.intent i)
    payloadSha256 := K.sha256Json (.payload i.payload)
    trustStoreId := (verified?.map (·.trustStoreId)).getD t.trustStoreId
    trustStoreSha256 := K.sha256Json (.trustStore t)
    claimReceiptSha256 := K.sha256Json (.receipt claim)
    verifiedAtUnix := now }
  Act.when (∃ v ∈ verified?, ¬ (v.intentSha256 = result.intentSha256 ∧
      v.payloadSha256 = result.payloadSha256 ∧ v.trustStoreSha256 = result.trustStoreSha256))
    (Act.raise (.launchAuthorization "launch-attempt intent verification provenance differs"))
  pure result

end Authenticate

end Bpe.Launch
