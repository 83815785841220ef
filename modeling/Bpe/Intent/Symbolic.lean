import Bpe.Intent.Ledger
import Bpe.Models.Digest

/-!
# A symbolic instance

Digests as terms, with every signature accepted: an injective `sha256_json` on
which calls can be played.
-/

namespace Bpe.Intent

open Models Term

def resourcesTerm (p : ExecutionResourceProfile) : Term :=
  ofList id [.text p.profileId, .num p.wallTimeoutMs, .num p.cpuTimeSeconds, .num p.memoryBytes,
    .num p.pidsMax, .num p.openFilesMax, .num p.fileSizeBytes, .num p.stackBytes,
    .num p.stdoutBytes, .num p.stderrBytes, .num p.tmpfsBytes, .num p.tmpfsInodes]

def InertFixturePolicy.term (p : InertFixturePolicy Term) : Term :=
  ofList id [.text p.policyId, .text p.workerPoolAudience, .text p.workerInstanceId,
    .text p.claimLedgerId, .text p.launchLedgerId, .text p.delegatedRootId,
    .text p.launcherArtifactId, p.launcherArtifactSha256, .text p.launcherSeccompPolicyId,
    p.launcherSeccompPolicySha256, resourcesTerm p.resources, p.resourceProfileSha256,
    .num p.fixtureTimeoutMs, .num p.totalTimeoutMs]

def InertFixtureBindings.term (b : InertFixtureBindings Term) : Term :=
  ofList id [.text b.policyId, b.policySha256, .text b.workerPoolAudience,
    .text b.workerInstanceId, .text b.claimLedgerId, .text b.launchLedgerId,
    .text b.delegatedRootId, .text b.launcherArtifactId, b.launcherArtifactSha256,
    .text b.launcherSeccompPolicyId, b.launcherSeccompPolicySha256, .text b.resourceProfileId,
    b.resourceProfileSha256, .num b.fixtureTimeoutMs, .num b.totalTimeoutMs]

def InertFixtureIntentPayload.term (p : InertFixtureIntentPayload Term) : Term :=
  ofList id [.text p.intentId, p.intentNonce, p.bindings.term, .num p.issuedAtUnix,
    .num p.notBeforeUnix, .num p.expiresAtUnix]

def SignedInertFixtureIntent.term (i : SignedInertFixtureIntent Term) : Term :=
  ofList id [.text i.keyId, i.payload.term, i.payloadSha256, .text i.signatureBase64url]

def InertFixtureIntentTrustKey.term (k : InertFixtureIntentTrustKey) : Term :=
  ofList id [.text k.keyId, .text k.publicKeyBase64url, .num k.validFromUnix,
    .num k.validUntilUnix, ofBool k.revoked]

def InertFixtureIntentTrustStore.term (t : InertFixtureIntentTrustStore) : Term :=
  .pair (.text t.trustStoreId) (ofList InertFixtureIntentTrustKey.term t.keys)

def InertFixtureIntentClaimReceipt.term (r : InertFixtureIntentClaimReceipt Term) : Term :=
  ofList id [.text r.intentId, r.intentSha256, r.intentPayloadSha256, .text r.signatureKeyId,
    .text r.trustStoreId, r.trustStoreSha256, r.claimId, r.claimNonce, .num r.claimedAtUnix,
    r.intentNonce, .num r.intentIssuedAtUnix, .num r.intentNotBeforeUnix,
    .num r.intentExpiresAtUnix, r.bindings.term]

/-- Each kind of document under its own tag. -/
def Document.term : Document Term → Term
  | .resources r => .pair (.num 0) (resourcesTerm r)
  | .policy p => .pair (.num 1) p.term
  | .payload p => .pair (.num 2) p.term
  | .intent i => .pair (.num 3) i.term
  | .trustStore t => .pair (.num 4) t.term
  | .binding b => .pair (.num 5) b.term
  | .receipt r => .pair (.num 6) r.term

@[simp] theorem resourcesTerm_inj {a b : ExecutionResourceProfile} :
    resourcesTerm a = resourcesTerm b ↔ a = b := by
  cases a; cases b
  simp [resourcesTerm]

@[simp] theorem InertFixturePolicy.term_inj {a b : InertFixturePolicy Term} :
    a.term = b.term ↔ a = b := by
  cases a; cases b
  simp [term]

@[simp] theorem InertFixtureBindings.term_inj {a b : InertFixtureBindings Term} :
    a.term = b.term ↔ a = b := by
  cases a; cases b
  simp [term]

@[simp] theorem InertFixtureIntentPayload.term_inj {a b : InertFixtureIntentPayload Term} :
    a.term = b.term ↔ a = b := by
  cases a; cases b
  simp [term]

@[simp] theorem SignedInertFixtureIntent.term_inj {a b : SignedInertFixtureIntent Term} :
    a.term = b.term ↔ a = b := by
  cases a; cases b
  simp [term]

@[simp] theorem InertFixtureIntentTrustKey.term_inj {a b : InertFixtureIntentTrustKey} :
    a.term = b.term ↔ a = b := by
  cases a; cases b
  simp [term]

@[simp] theorem InertFixtureIntentTrustStore.term_inj {a b : InertFixtureIntentTrustStore} :
    a.term = b.term ↔ a = b := by
  cases a; cases b
  simp [term]

@[simp] theorem InertFixtureIntentClaimReceipt.term_inj
    {a b : InertFixtureIntentClaimReceipt Term} : a.term = b.term ↔ a = b := by
  cases a; cases b
  simp [term]

theorem Document.term_inj : Function.Injective Document.term := by
  intro a b h
  cases a <;> cases b <;> simp_all [term]

def symbolic : Crypto Term where
  zero := .text "0"
  sha256Json := Document.term
  decodesBase64url _ _ := true
  verify _ _ _ := true

def reply (H : Handle) (env : Env Term) : (c : Call Term) → Ledger Term → Reply c × Ledger Term
  | .currentUnixTime, s => (.ok env.now, s)
  | .canonicalPath _, s => (.ok true, s)
  | .claim v claimId, s => claim symbolic H env v claimId s
  | .selectReservation d, s => (.ok (s.selectReservation d), s)
  | .selectClaim id, s => (.ok (s.selectClaim id), s)

theorem exec_reply (H : Handle) (env : Env Term) (c : Call Term) (s : Ledger Term) (r : Reply c)
    (s' : Ledger Term) (h : reply H env c s = (r, s')) : Exec symbolic H c s r s' := by
  cases c with
  | currentUnixTime => cases h; exact ⟨rfl, env.now, rfl⟩
  | canonicalPath p => cases h; exact ⟨rfl, true, rfl⟩
  | claim v claimId => exact ⟨env, h⟩
  | selectReservation d => cases h; exact ⟨rfl, .inl rfl⟩
  | selectClaim id => cases h; exact ⟨rfl, .inl rfl⟩

/-! ## A claim, its repetition, and a tombstone -/

def sampleResources : ExecutionResourceProfile where
  profileId := "profile"
  wallTimeoutMs := 60000
  cpuTimeSeconds := 10
  memoryBytes := 64 * 1024 * 1024
  pidsMax := 8
  openFilesMax := 64
  fileSizeBytes := 1024 * 1024
  stackBytes := 1024 * 1024
  stdoutBytes := 1024
  stderrBytes := 1024
  tmpfsBytes := 1024 * 1024
  tmpfsInodes := 64

def samplePolicy : InertFixturePolicy Term where
  policyId := "policy"
  workerPoolAudience := "pool"
  workerInstanceId := "worker"
  claimLedgerId := "claims"
  launchLedgerId := "launches"
  delegatedRootId := "root"
  launcherArtifactId := "launcher"
  launcherArtifactSha256 := .text "launcher"
  launcherSeccompPolicyId := "seccomp"
  launcherSeccompPolicySha256 := .text "seccomp"
  resources := sampleResources
  resourceProfileSha256 := symbolic.sha256Json (.resources sampleResources)
  fixtureTimeoutMs := 10000
  totalTimeoutMs := 15000

def sampleHandle : Handle := ⟨"/ledgers/claims", "claims", "worker"⟩

def sampleExpectation : InertFixtureIntentExpectation Term where
  policy := samplePolicy
  claimLedgerPath := "/ledgers/claims"
  bindings := samplePolicy.bindings symbolic

def sampleStore : InertFixtureIntentTrustStore where
  trustStoreId := "store"
  keys := [⟨"key", "public", 0, 10000, false⟩]

/-- An intent with that ID and nonce, valid from 100 to 200. -/
def sampleIntent (intentId nonce : String) : SignedInertFixtureIntent Term :=
  let payload := ⟨intentId, .text nonce, samplePolicy.bindings symbolic, 100, 100, 200⟩
  ⟨"key", payload, symbolic.sha256Json (.payload payload), "signature"⟩

def sampleRequest (i : SignedInertFixtureIntent Term) (claimId : Sha256Text Term) : Request Term :=
  ⟨i, sampleStore, sampleExpectation, claimId, false⟩

def sampleEnv (now : Int) (nonce : String) : Env Term :=
  ⟨fun _ => false, now, .text nonce, false, false⟩

/-- The first call claims its intent, the second finds it consumed, and the
third consumes another intent under a malformed claim ID. -/
def sampleMoves : List (Concurrent.Move (Request Term) (Env Term)) :=
  [.start (sampleRequest (sampleIntent "intent-1" "n1") (.sha256 (.text "c1"))),
    .step 0 (sampleEnv 105 ""), .step 0 (sampleEnv 105 ""), .step 0 (sampleEnv 110 "w1"),
    .start (sampleRequest (sampleIntent "intent-1" "n1") (.sha256 (.text "c2"))),
    .step 1 (sampleEnv 115 ""), .step 1 (sampleEnv 115 ""), .step 1 (sampleEnv 120 "w2"),
    .start (sampleRequest (sampleIntent "intent-2" "n2") (.malformed "c3")),
    .step 2 (sampleEnv 125 ""), .step 2 (sampleEnv 125 ""), .step 2 (sampleEnv 130 "w3")]

def sampleRun :=
  Concurrent.play (system symbolic sampleHandle) (reply sampleHandle) sampleMoves [] ⟨.empty, []⟩

theorem run_sample :
    Concurrent.Run (system symbolic sampleHandle) .empty sampleRun.1 sampleRun.2 :=
  Concurrent.steps_play (exec_reply sampleHandle) sampleMoves .refl

end Bpe.Intent
