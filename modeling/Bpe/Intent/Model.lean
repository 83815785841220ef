import Bpe.Models.InertError
import Bpe.Models.Resources

/-!
# Fixture intents

The policy, the signed intent, the trust store, the expectation and the claim
receipt of `inert_fixture.py` with their validators, and
`_verify_inert_fixture_intent`. Literal fields have one value and are left
out. The fifteen fields that an intent binds are a record of their own,
`InertFixtureBindings`, in the payload, the expectation and the receipt.

`Crypto` holds what the code takes from outside: the all-zero digest,
`sha256_json`, base64url decoding and Ed25519 verification.
-/

namespace Bpe.Intent

open Models

def maxInertFixtureIntentLifetimeSeconds : Int := 15 * 60

def cleanupTimeoutMs : Int := 5000

structure InertFixtureBindings (D : Type) where
  policyId : String
  policySha256 : D
  workerPoolAudience : String
  workerInstanceId : String
  claimLedgerId : String
  launchLedgerId : String
  delegatedRootId : String
  launcherArtifactId : String
  launcherArtifactSha256 : D
  launcherSeccompPolicyId : String
  launcherSeccompPolicySha256 : D
  resourceProfileId : String
  resourceProfileSha256 : D
  fixtureTimeoutMs : Int
  totalTimeoutMs : Int
  deriving DecidableEq

structure InertFixturePolicy (D : Type) where
  policyId : String
  workerPoolAudience : String
  workerInstanceId : String
  claimLedgerId : String
  launchLedgerId : String
  delegatedRootId : String
  launcherArtifactId : String
  launcherArtifactSha256 : D
  launcherSeccompPolicyId : String
  launcherSeccompPolicySha256 : D
  resources : ExecutionResourceProfile
  resourceProfileSha256 : D
  fixtureTimeoutMs : Int
  totalTimeoutMs : Int
  deriving DecidableEq

structure InertFixtureIntentPayload (D : Type) where
  intentId : String
  intentNonce : D
  bindings : InertFixtureBindings D
  issuedAtUnix : Int
  notBeforeUnix : Int
  expiresAtUnix : Int

structure SignedInertFixtureIntent (D : Type) where
  keyId : String
  payload : InertFixtureIntentPayload D
  payloadSha256 : D
  signatureBase64url : String

structure InertFixtureIntentTrustKey where
  keyId : String
  publicKeyBase64url : String
  validFromUnix : Int
  validUntilUnix : Int
  revoked : Bool

structure InertFixtureIntentTrustStore where
  trustStoreId : String
  keys : List InertFixtureIntentTrustKey

structure InertFixtureIntentExpectation (D : Type) where
  policy : InertFixturePolicy D
  claimLedgerPath : String
  bindings : InertFixtureBindings D
  deriving DecidableEq

structure VerifiedInertFixtureIntent (D : Type) where
  intent : SignedInertFixtureIntent D
  intentSha256 : D
  payloadSha256 : D
  trustStoreId : String
  trustStoreSha256 : D
  verifiedAtUnix : Int

structure InertFixtureIntentClaimReceipt (D : Type) where
  intentId : String
  intentSha256 : D
  intentPayloadSha256 : D
  signatureKeyId : String
  trustStoreId : String
  trustStoreSha256 : D
  claimId : D
  claimNonce : D
  claimedAtUnix : Int
  intentNonce : D
  intentIssuedAtUnix : Int
  intentNotBeforeUnix : Int
  intentExpiresAtUnix : Int
  bindings : InertFixtureBindings D
  deriving DecidableEq

inductive Document (D : Type) where
  | resources (r : ExecutionResourceProfile)
  | policy (p : InertFixturePolicy D)
  | payload (p : InertFixtureIntentPayload D)
  | intent (i : SignedInertFixtureIntent D)
  | trustStore (t : InertFixtureIntentTrustStore)
  | binding (b : InertFixtureBindings D)
  | receipt (r : InertFixtureIntentClaimReceipt D)

structure Crypto (D : Type) where
  zero : D
  sha256Json : Document D → D
  /-- `_decode_base64url` accepts the text for that many bytes. -/
  decodesBase64url : Nat → String → Bool
  /-- The public key verifies the signature over the payload's signing bytes. -/
  verify : String → String → InertFixtureIntentPayload D → Bool

section Validators

variable {D : Type} (K : Crypto D)

/-- `policy_bindings` -/
def InertFixturePolicy.bindings (p : InertFixturePolicy D) : InertFixtureBindings D where
  policyId := p.policyId
  policySha256 := K.sha256Json (.policy p)
  workerPoolAudience := p.workerPoolAudience
  workerInstanceId := p.workerInstanceId
  claimLedgerId := p.claimLedgerId
  launchLedgerId := p.launchLedgerId
  delegatedRootId := p.delegatedRootId
  launcherArtifactId := p.launcherArtifactId
  launcherArtifactSha256 := p.launcherArtifactSha256
  launcherSeccompPolicyId := p.launcherSeccompPolicyId
  launcherSeccompPolicySha256 := p.launcherSeccompPolicySha256
  resourceProfileId := p.resources.profileId
  resourceProfileSha256 := p.resourceProfileSha256
  fixtureTimeoutMs := p.fixtureTimeoutMs
  totalTimeoutMs := p.totalTimeoutMs

variable [DecidableEq D]

/-- What the payload and the receipt check of the fields they both have. -/
def InertFixtureBindings.valid (b : InertFixtureBindings D) : Bool :=
  isStableId b.policyId && isStableId b.workerPoolAudience && isStableId b.workerInstanceId &&
  isStableId b.claimLedgerId && isStableId b.launchLedgerId && isStableId b.delegatedRootId &&
  isStableId b.launcherArtifactId && isStableId b.launcherSeccompPolicyId &&
  isStableId b.resourceProfileId &&
  decide (
    (5000 ≤ b.fixtureTimeoutMs ∧ b.fixtureTimeoutMs ≤ 30000) ∧
    (10000 ≤ b.totalTimeoutMs ∧ b.totalTimeoutMs ≤ 35000) ∧
    b.totalTimeoutMs = b.fixtureTimeoutMs + cleanupTimeoutMs ∧
    b.claimLedgerId ≠ b.launchLedgerId ∧
    b.launcherArtifactSha256 ≠ K.zero ∧ b.launcherSeccompPolicySha256 ≠ K.zero ∧
    b.policySha256 ≠ K.zero)

def InertFixturePolicy.valid (p : InertFixturePolicy D) : Bool :=
  isStableId p.policyId && isStableId p.workerPoolAudience && isStableId p.workerInstanceId &&
  isStableId p.claimLedgerId && isStableId p.launchLedgerId && isStableId p.delegatedRootId &&
  isStableId p.launcherArtifactId && isStableId p.launcherSeccompPolicyId && p.resources.valid &&
  decide (
    (5000 ≤ p.fixtureTimeoutMs ∧ p.fixtureTimeoutMs ≤ 30000) ∧
    (10000 ≤ p.totalTimeoutMs ∧ p.totalTimeoutMs ≤ 35000) ∧
    p.launcherArtifactSha256 ≠ K.zero ∧ p.launcherSeccompPolicySha256 ≠ K.zero ∧
    p.resourceProfileSha256 = K.sha256Json (.resources p.resources) ∧
    p.fixtureTimeoutMs ≤ p.resources.wallTimeoutMs ∧
    2 ≤ p.resources.pidsMax ∧
    p.totalTimeoutMs = p.fixtureTimeoutMs + cleanupTimeoutMs ∧
    p.claimLedgerId ≠ p.launchLedgerId)

def InertFixtureIntentPayload.valid (p : InertFixtureIntentPayload D) : Bool :=
  isStableId p.intentId && p.bindings.valid K &&
  decide (
    0 ≤ p.issuedAtUnix ∧ 0 ≤ p.notBeforeUnix ∧ 0 ≤ p.expiresAtUnix ∧
    p.intentNonce ≠ K.zero ∧
    (p.issuedAtUnix ≤ p.notBeforeUnix ∧ p.notBeforeUnix < p.expiresAtUnix) ∧
    p.expiresAtUnix - p.issuedAtUnix ≤ maxInertFixtureIntentLifetimeSeconds)

def SignedInertFixtureIntent.valid (i : SignedInertFixtureIntent D) : Bool :=
  isStableId i.keyId && i.payload.valid K && K.decodesBase64url 64 i.signatureBase64url &&
  decide (i.payloadSha256 = K.sha256Json (.payload i.payload))

def InertFixtureIntentTrustKey.valid (k : InertFixtureIntentTrustKey) : Bool :=
  isStableId k.keyId && K.decodesBase64url 32 k.publicKeyBase64url &&
  decide (0 ≤ k.validFromUnix ∧ 0 ≤ k.validUntilUnix ∧ k.validFromUnix < k.validUntilUnix)

def InertFixtureIntentTrustStore.valid (t : InertFixtureIntentTrustStore) : Bool :=
  isStableId t.trustStoreId && t.keys.all (·.valid K) &&
  decide (1 ≤ t.keys.length ∧ t.keys.length ≤ 64 ∧ (t.keys.map (·.keyId)).Nodup ∧
    (t.keys.map (·.publicKeyBase64url)).Nodup)

/-- `_validate_expectation`, on a path that resolves to itself or not: the
probe payload's own fields are valid, so what it checks is the bindings. -/
def InertFixtureIntentExpectation.valid (e : InertFixtureIntentExpectation D)
    (canonicalPath : Bool) : Bool :=
  canonicalPath && e.policy.valid K && decide (e.bindings = e.policy.bindings K) &&
  e.bindings.valid K

def InertFixtureIntentClaimReceipt.valid (r : InertFixtureIntentClaimReceipt D) : Bool :=
  isStableId r.intentId && isStableId r.signatureKeyId && isStableId r.trustStoreId &&
  r.bindings.valid K &&
  decide (
    0 ≤ r.claimedAtUnix ∧ 0 ≤ r.intentIssuedAtUnix ∧ 0 ≤ r.intentNotBeforeUnix ∧
    0 ≤ r.intentExpiresAtUnix ∧
    r.claimId ≠ K.zero ∧ r.claimNonce ≠ K.zero ∧ r.intentNonce ≠ K.zero ∧
    r.intentSha256 ≠ K.zero ∧ r.intentPayloadSha256 ≠ K.zero ∧ r.trustStoreSha256 ≠ K.zero ∧
    r.bindings.resourceProfileSha256 ≠ K.zero ∧
    (r.intentIssuedAtUnix ≤ r.intentNotBeforeUnix ∧ r.intentNotBeforeUnix ≤ r.claimedAtUnix ∧
      r.claimedAtUnix < r.intentExpiresAtUnix) ∧
    r.intentExpiresAtUnix - r.intentIssuedAtUnix ≤ maxInertFixtureIntentLifetimeSeconds)

end Validators

section Verify

variable {D : Type}

/-- `not_before <= now < expires` -/
def InertFixtureIntentPayload.inWindow (p : InertFixtureIntentPayload D) (now : Int) : Prop :=
  p.notBeforeUnix ≤ now ∧ now < p.expiresAtUnix

instance (p : InertFixtureIntentPayload D) (now : Int) : Decidable (p.inWindow now) :=
  inferInstanceAs (Decidable (_ ∧ _))

variable [DecidableEq D] (K : Crypto D)

/-- `_verify_inert_fixture_intent`, from the validation of its inputs on. -/
def authenticateIntent (i : SignedInertFixtureIntent D) (t : InertFixtureIntentTrustStore)
    (e : InertFixtureIntentExpectation D) (now : Int) (enforceValidity canonicalPath : Bool) :
    Except InertError (VerifiedInertFixtureIntent D) :=
  if ¬ (i.valid K ∧ t.valid K ∧ e.valid K canonicalPath) then
    .error (.authorization "fixture-intent inputs are invalid")
  else if i.payload.bindings ≠ e.bindings then
    .error (.authorization "fixture-intent bindings differ")
  else if enforceValidity ∧ ¬ i.payload.inWindow now then
    .error (.authorization "fixture intent is outside its validity window")
  else
    match t.keys.filter (·.keyId == i.keyId) with
    | [key] =>
      if key.revoked then
        .error (.authorization "fixture-intent signing key is revoked")
      else if ¬ (key.validFromUnix ≤ i.payload.issuedAtUnix ∧
          i.payload.expiresAtUnix ≤ key.validUntilUnix) then
        .error (.authorization "fixture intent is outside the signing key validity window")
      else if ¬ K.verify key.publicKeyBase64url i.signatureBase64url i.payload then
        .error (.authorization "fixture-intent signature is invalid")
      else
        .ok {
          intent := i
          intentSha256 := K.sha256Json (.intent i)
          payloadSha256 := K.sha256Json (.payload i.payload)
          trustStoreId := t.trustStoreId
          trustStoreSha256 := K.sha256Json (.trustStore t)
          verifiedAtUnix := now }
    | _ => .error (.authorization "fixture-intent signing key is not trusted")

variable {K}

/-- A verified intent: its digests are those of the documents it was checked
against. -/
structure Verified (K : Crypto D) (t : InertFixtureIntentTrustStore)
    (v : VerifiedInertFixtureIntent D) : Prop where
  valid : v.intent.valid K
  intentSha256 : v.intentSha256 = K.sha256Json (.intent v.intent)
  payloadSha256 : v.payloadSha256 = K.sha256Json (.payload v.intent.payload)
  trustStoreId : v.trustStoreId = t.trustStoreId
  trustStoreSha256 : v.trustStoreSha256 = K.sha256Json (.trustStore t)

theorem authenticateIntent_ok {i : SignedInertFixtureIntent D} {t : InertFixtureIntentTrustStore}
    {e : InertFixtureIntentExpectation D} {now : Int} {enforce canonicalPath : Bool}
    {v : VerifiedInertFixtureIntent D}
    (h : authenticateIntent K i t e now enforce canonicalPath = .ok v) :
    Verified K t v ∧ v.intent = i ∧ v.verifiedAtUnix = now ∧ i.payload.bindings = e.bindings := by
  unfold authenticateIntent at h
  split at h
  · cases h
  next hvalid =>
  split at h
  · cases h
  next hbindings =>
  split at h
  · cases h
  split at h
  · split at h
    · cases h
    split at h
    · cases h
    split at h
    · cases h
    cases h
    exact ⟨⟨(Classical.not_not.1 hvalid).1, rfl, rfl, rfl, rfl⟩, rfl, rfl,
      Classical.not_not.1 hbindings⟩
  · cases h

end Verify

end Bpe.Intent
