import Bpe.Models.Text

/-!
# Dispatch authorizations

The signed authorization, the trust store and the admission receipt of
`dispatch.py` with their validators, and `_verify_dispatch_authorization`.
Literal fields have one value and are left out. The ten fields that an
authorization binds are a record of their own, `DispatchExpectation`, in the
payload and in the receipt.

`Crypto` holds what the code takes from outside: the all-zero digest,
`sha256_json`, base64url decoding and Ed25519 verification.
-/

namespace Bpe.Dispatch

open Models

def maxAuthorizationLifetimeSeconds : Int := 15 * 60

inductive DispatchPurpose where
  | training | development | calibration | validation | sealedEval | benchmark
  deriving DecidableEq

structure DispatchExpectation (D : Type) where
  jobManifestSha256 : D
  requestSha256 : D
  experimentSha256 : D
  environmentSha256 : D
  executionProfileSha256 : D
  resourceProfileSha256 : D
  purpose : DispatchPurpose
  workerPoolAudience : String
  policyId : String
  policySha256 : D
  deriving DecidableEq

structure DispatchAuthorizationPayload (D : Type) where
  authorizationId : String
  dispatchNonce : D
  bindings : DispatchExpectation D
  issuedAtUnix : Int
  notBeforeUnix : Int
  expiresAtUnix : Int
  retryIndex : Int
  retryOfAuthorizationId : Option String
  retryOfClaimSha256 : Option D

structure SignedDispatchAuthorization (D : Type) where
  keyId : String
  payload : DispatchAuthorizationPayload D
  payloadSha256 : D
  signatureBase64url : String

structure DispatchTrustKey where
  keyId : String
  publicKeyBase64url : String
  validFromUnix : Int
  validUntilUnix : Int
  revoked : Bool

structure DispatchTrustStore where
  trustStoreId : String
  keys : List DispatchTrustKey

structure DispatchAdmissionReceipt (D : Type) where
  authorizationId : String
  authorizationSha256 : D
  authorizationPayloadSha256 : D
  signatureKeyId : String
  trustStoreId : String
  trustStoreSha256 : D
  claimId : D
  claimNonce : D
  claimedAtUnix : Int
  dispatchNonce : D
  bindings : DispatchExpectation D
  retryIndex : Int
  retryOfAuthorizationId : Option String
  retryOfClaimSha256 : Option D

/-- The documents `sha256_json` is applied to. -/
inductive Document (D : Type) where
  | payload (p : DispatchAuthorizationPayload D)
  | authorization (a : SignedDispatchAuthorization D)
  | trustStore (t : DispatchTrustStore)
  | binding (b : DispatchExpectation D)
  | receipt (r : DispatchAdmissionReceipt D)

structure Crypto (D : Type) where
  zero : D
  sha256Json : Document D → D
  /-- `_decode_base64url` accepts the text for that many bytes. -/
  decodesBase64url : Nat → String → Bool
  /-- The public key verifies the signature over the payload's signing bytes. -/
  verify : String → String → DispatchAuthorizationPayload D → Bool

inductive DispatchError where
  | authorization (message : String)
  | ledger (message : String)
  | alreadyClaimed (message : String)
  /-- An integer beyond 64 bits handed to SQLite, which nothing catches. -/
  | overflow
  deriving DecidableEq

section Validators

variable {D : Type} [DecidableEq D] (K : Crypto D)

/-- `_validate_expectation`: the probe payload's own fields are valid, so what
is left is the pattern of the two identifiers. -/
def DispatchExpectation.valid (e : DispatchExpectation D) : Bool :=
  isStableId e.workerPoolAudience && isStableId e.policyId

/-- The index is zero exactly when no parent is named. -/
def retryLineageCloses (index : Int) (parentId : Option String) (parentClaim : Option D) : Prop :=
  ¬ ((index = 0 ∧ (parentId ≠ none ∨ parentClaim ≠ none)) ∨
    (index > 0 ∧ (parentId = none ∨ parentClaim = none)))

instance (index : Int) (parentId : Option String) (parentClaim : Option D) :
    Decidable (retryLineageCloses index parentId parentClaim) :=
  inferInstanceAs (Decidable (¬ _))

def DispatchAuthorizationPayload.valid (p : DispatchAuthorizationPayload D) : Bool :=
  isStableId p.authorizationId && p.bindings.valid && p.retryOfAuthorizationId.all isStableId &&
  decide (
    0 ≤ p.issuedAtUnix ∧ 0 ≤ p.notBeforeUnix ∧ 0 ≤ p.expiresAtUnix ∧
    0 ≤ p.retryIndex ∧ p.retryIndex ≤ 16 ∧
    (p.issuedAtUnix ≤ p.notBeforeUnix ∧ p.notBeforeUnix < p.expiresAtUnix) ∧
    p.expiresAtUnix - p.issuedAtUnix ≤ maxAuthorizationLifetimeSeconds ∧
    p.dispatchNonce ≠ K.zero ∧
    retryLineageCloses p.retryIndex p.retryOfAuthorizationId p.retryOfClaimSha256 ∧
    p.retryOfAuthorizationId ≠ some p.authorizationId ∧
    p.retryOfClaimSha256 ≠ some K.zero)

def SignedDispatchAuthorization.valid (a : SignedDispatchAuthorization D) : Bool :=
  isStableId a.keyId && a.payload.valid K && K.decodesBase64url 64 a.signatureBase64url &&
  decide (a.payloadSha256 = K.sha256Json (.payload a.payload))

def DispatchTrustKey.valid (k : DispatchTrustKey) : Bool :=
  isStableId k.keyId && K.decodesBase64url 32 k.publicKeyBase64url &&
  decide (0 ≤ k.validFromUnix ∧ 0 ≤ k.validUntilUnix ∧ k.validFromUnix < k.validUntilUnix)

def DispatchTrustStore.valid (t : DispatchTrustStore) : Bool :=
  isStableId t.trustStoreId && t.keys.all (·.valid K) &&
  decide (1 ≤ t.keys.length ∧ t.keys.length ≤ 64 ∧ (t.keys.map (·.keyId)).Nodup ∧
    (t.keys.map (·.publicKeyBase64url)).Nodup)

def DispatchAdmissionReceipt.valid (r : DispatchAdmissionReceipt D) : Bool :=
  isStableId r.authorizationId && isStableId r.signatureKeyId && isStableId r.trustStoreId &&
  r.bindings.valid && r.retryOfAuthorizationId.all isStableId &&
  decide (
    0 ≤ r.claimedAtUnix ∧ 0 ≤ r.retryIndex ∧ r.retryIndex ≤ 16 ∧
    r.claimId ≠ K.zero ∧ r.claimNonce ≠ K.zero ∧ r.dispatchNonce ≠ K.zero ∧
    retryLineageCloses r.retryIndex r.retryOfAuthorizationId r.retryOfClaimSha256)

end Validators

structure VerifiedDispatchAuthorization (D : Type) where
  authorization : SignedDispatchAuthorization D
  authorizationSha256 : D
  payloadSha256 : D
  trustStoreId : String
  trustStoreSha256 : D
  verifiedAtUnix : Int

section Verify

variable {D : Type} [DecidableEq D] (K : Crypto D)

/-- `not_before <= now < expires` -/
def DispatchAuthorizationPayload.inWindow (p : DispatchAuthorizationPayload D) (now : Int) : Prop :=
  p.notBeforeUnix ≤ now ∧ now < p.expiresAtUnix

instance (p : DispatchAuthorizationPayload D) (now : Int) : Decidable (p.inWindow now) :=
  inferInstanceAs (Decidable (_ ∧ _))

/-- `_verify_dispatch_authorization` -/
def verifyAuthorization (a : SignedDispatchAuthorization D) (t : DispatchTrustStore)
    (e : DispatchExpectation D) (now : Int) (enforceValidity : Bool) :
    Except DispatchError (VerifiedDispatchAuthorization D) :=
  if now < 0 then
    .error (.authorization "verification time must be a nonnegative integer")
  else if ¬ (a.valid K ∧ t.valid K ∧ e.valid) then
    .error (.authorization "dispatch authorization inputs are invalid")
  else if a.payload.bindings ≠ e then
    .error (.authorization "dispatch authorization bindings differ")
  else if enforceValidity ∧ ¬ a.payload.inWindow now then
    .error (.authorization "dispatch authorization is outside its validity window")
  else
    match t.keys.filter (·.keyId == a.keyId) with
    | [key] =>
      if key.revoked then
        .error (.authorization "dispatch signing key is revoked")
      else if ¬ (key.validFromUnix ≤ a.payload.issuedAtUnix ∧
          a.payload.expiresAtUnix ≤ key.validUntilUnix) then
        .error (.authorization
          "dispatch authorization is outside the signing key validity window")
      else if ¬ K.verify key.publicKeyBase64url a.signatureBase64url a.payload then
        .error (.authorization "dispatch authorization signature is invalid")
      else
        .ok {
          authorization := a
          authorizationSha256 := K.sha256Json (.authorization a)
          payloadSha256 := K.sha256Json (.payload a.payload)
          trustStoreId := t.trustStoreId
          trustStoreSha256 := K.sha256Json (.trustStore t)
          verifiedAtUnix := now }
    | _ => .error (.authorization "dispatch signing key is not trusted")

variable {K}

/-- A verified authorization: its digests are those of valid documents. -/
structure Verified (K : Crypto D) (v : VerifiedDispatchAuthorization D) : Prop where
  valid : v.authorization.valid K
  authorizationSha256 : v.authorizationSha256 = K.sha256Json (.authorization v.authorization)
  payloadSha256 : v.payloadSha256 = K.sha256Json (.payload v.authorization.payload)

theorem verifyAuthorization_ok {a : SignedDispatchAuthorization D} {t : DispatchTrustStore}
    {e : DispatchExpectation D} {now : Int} {enforce : Bool}
    {v : VerifiedDispatchAuthorization D} (h : verifyAuthorization K a t e now enforce = .ok v) :
    Verified K v ∧ v.authorization = a := by
  unfold verifyAuthorization at h
  split at h
  · cases h
  split at h
  · cases h
  next hvalid =>
  split at h
  · cases h
  split at h
  · cases h
  split at h
  · split at h
    · cases h
    split at h
    · cases h
    split at h
    · cases h
    cases h
    exact ⟨⟨(Classical.not_not.1 hvalid).1, rfl, rfl⟩, rfl⟩
  · cases h

theorem SignedDispatchAuthorization.valid_payload {a : SignedDispatchAuthorization D}
    (h : a.valid K) : a.payload.valid K := by
  simp only [valid, Bool.and_eq_true] at h
  exact h.1.1.2

/-- What the lineage proofs take from the payload validator. -/
theorem DispatchAuthorizationPayload.valid_lineage {p : DispatchAuthorizationPayload D}
    (h : p.valid K) :
    (0 ≤ p.retryIndex ∧ p.retryIndex ≤ 16) ∧
      p.issuedAtUnix ≤ p.notBeforeUnix ∧
      retryLineageCloses p.retryIndex p.retryOfAuthorizationId p.retryOfClaimSha256 := by
  simp only [valid, Bool.and_eq_true, decide_eq_true_eq] at h
  obtain ⟨-, -, -, -, h₁, h₂, h₃, -, -, h₄, -, -⟩ := h
  exact ⟨⟨h₁, h₂⟩, h₃.1, h₄⟩

end Verify

end Bpe.Dispatch
