import Bpe.Dispatch.Ledger
import Bpe.Models.Digest

/-!
# A symbolic instance

Digests as terms, with every signature accepted: an injective `sha256_json` on
which calls can be played.
-/

namespace Bpe.Dispatch

open Models Term

def DispatchPurpose.term : DispatchPurpose → Term
  | .training => .text "training"
  | .development => .text "development"
  | .calibration => .text "calibration"
  | .validation => .text "validation"
  | .sealedEval => .text "sealed_eval"
  | .benchmark => .text "benchmark"

def DispatchExpectation.term (e : DispatchExpectation Term) : Term :=
  ofList id [e.jobManifestSha256, e.requestSha256, e.experimentSha256, e.environmentSha256,
    e.executionProfileSha256, e.resourceProfileSha256, e.purpose.term, .text e.workerPoolAudience,
    .text e.policyId, e.policySha256]

def DispatchAuthorizationPayload.term (p : DispatchAuthorizationPayload Term) : Term :=
  ofList id [.text p.authorizationId, p.dispatchNonce, p.bindings.term, .num p.issuedAtUnix,
    .num p.notBeforeUnix, .num p.expiresAtUnix, .num p.retryIndex,
    ofOption .text p.retryOfAuthorizationId, ofOption id p.retryOfClaimSha256]

def SignedDispatchAuthorization.term (a : SignedDispatchAuthorization Term) : Term :=
  ofList id [.text a.keyId, a.payload.term, a.payloadSha256, .text a.signatureBase64url]

def DispatchTrustKey.term (k : DispatchTrustKey) : Term :=
  ofList id [.text k.keyId, .text k.publicKeyBase64url, .num k.validFromUnix,
    .num k.validUntilUnix, ofBool k.revoked]

def DispatchTrustStore.term (t : DispatchTrustStore) : Term :=
  .pair (.text t.trustStoreId) (ofList DispatchTrustKey.term t.keys)

def DispatchAdmissionReceipt.term (r : DispatchAdmissionReceipt Term) : Term :=
  ofList id [.text r.authorizationId, r.authorizationSha256, r.authorizationPayloadSha256,
    .text r.signatureKeyId, .text r.trustStoreId, r.trustStoreSha256, r.claimId, r.claimNonce,
    .num r.claimedAtUnix, r.dispatchNonce, r.bindings.term, .num r.retryIndex,
    ofOption .text r.retryOfAuthorizationId, ofOption id r.retryOfClaimSha256]

def Document.term : Document Term → Term
  | .payload p => .pair (.num 0) p.term
  | .authorization a => .pair (.num 1) a.term
  | .trustStore t => .pair (.num 2) t.term
  | .binding b => .pair (.num 3) b.term
  | .receipt r => .pair (.num 4) r.term

@[simp] theorem DispatchPurpose.term_inj {a b : DispatchPurpose} : a.term = b.term ↔ a = b := by
  cases a <;> cases b <;> simp [term]

@[simp] theorem DispatchExpectation.term_inj {a b : DispatchExpectation Term} :
    a.term = b.term ↔ a = b := by
  cases a; cases b
  simp [term]

@[simp] theorem DispatchAuthorizationPayload.term_inj {a b : DispatchAuthorizationPayload Term} :
    a.term = b.term ↔ a = b := by
  cases a; cases b
  simp [term]

@[simp] theorem SignedDispatchAuthorization.term_inj {a b : SignedDispatchAuthorization Term} :
    a.term = b.term ↔ a = b := by
  cases a; cases b
  simp [term]

@[simp] theorem DispatchTrustKey.term_inj {a b : DispatchTrustKey} : a.term = b.term ↔ a = b := by
  cases a; cases b
  simp [term]

@[simp] theorem DispatchTrustStore.term_inj {a b : DispatchTrustStore} :
    a.term = b.term ↔ a = b := by
  cases a; cases b
  simp [term]

@[simp] theorem DispatchAdmissionReceipt.term_inj {a b : DispatchAdmissionReceipt Term} :
    a.term = b.term ↔ a = b := by
  cases a; cases b
  simp [term]

theorem Document.term_inj : Function.Injective Document.term := by
  intro a b h
  cases a <;> cases b <;> simp_all [term]

def symbolic : Crypto Term where
  zero := .text "0"
  sha256Json := Document.term
  decodesBase64url _ _ := true
  verify _ _ _ := true

def reply (env : Env Term) : (c : Call Term) → Ledger Term → Reply c × Ledger Term
  | .currentUnixTime, s => (.ok env.now, s)
  | .openLedger, s => (.ok (), s)
  | .advanceClock observed, s => (advanceClock env observed).outcome s
  | .claim v claimId, s => (claimTransaction symbolic env v claimId).outcome s

theorem exec_reply (env : Env Term) (c : Call Term) (s : Ledger Term) (r : Reply c)
    (s' : Ledger Term) (h : reply env c s = (r, s')) : Exec symbolic c s r s' := by
  cases c with
  | currentUnixTime => cases h; exact ⟨rfl, env.now, rfl⟩
  | openLedger => cases h; rfl
  | advanceClock observed => exact ⟨env, h⟩
  | claim v claimId => exact ⟨env, h⟩

/-! ## A first attempt and its retry -/

def sampleBindings : DispatchExpectation Term where
  jobManifestSha256 := .text "job"
  requestSha256 := .text "request"
  experimentSha256 := .text "experiment"
  environmentSha256 := .text "environment"
  executionProfileSha256 := .text "profile"
  resourceProfileSha256 := .text "resources"
  purpose := .training
  workerPoolAudience := "pool"
  policyId := "policy"
  policySha256 := .text "policy"

def sampleStore : DispatchTrustStore where
  trustStoreId := "store"
  keys := [⟨"key", "public", 0, 10000, false⟩]

def sampleAuthorization (p : DispatchAuthorizationPayload Term) :
    SignedDispatchAuthorization Term :=
  ⟨"key", p, symbolic.sha256Json (.payload p), "signature"⟩

def sampleRequest (p : DispatchAuthorizationPayload Term) (claimId : String) : Request Term :=
  ⟨sampleAuthorization p, sampleStore, sampleBindings, .sha256 (.text claimId), false⟩

def firstPayload : DispatchAuthorizationPayload Term :=
  ⟨"auth-1", .text "n1", sampleBindings, 100, 100, 200, 0, none, none⟩

/-- The receipt of the first attempt, claimed at time 110. -/
def firstReceipt : DispatchAdmissionReceipt Term where
  authorizationId := "auth-1"
  authorizationSha256 := symbolic.sha256Json (.authorization (sampleAuthorization firstPayload))
  authorizationPayloadSha256 := symbolic.sha256Json (.payload firstPayload)
  signatureKeyId := "key"
  trustStoreId := "store"
  trustStoreSha256 := symbolic.sha256Json (.trustStore sampleStore)
  claimId := .text "c1"
  claimNonce := .text "w1"
  claimedAtUnix := 110
  dispatchNonce := .text "n1"
  bindings := sampleBindings
  retryIndex := 0
  retryOfAuthorizationId := none
  retryOfClaimSha256 := none

def retryPayload : DispatchAuthorizationPayload Term :=
  ⟨"auth-2", .text "n2", sampleBindings, 120, 120, 220, 1, some "auth-1",
    some (symbolic.sha256Json (.receipt firstReceipt))⟩

def sampleEnv (now : Int) (nonce : String) : Env Term := ⟨fun _ => false, now, .text nonce⟩

def sampleMoves : List (Concurrent.Move (Request Term) (Env Term)) :=
  [.start (sampleRequest firstPayload "c1"), .step 0 (sampleEnv 105 ""), .step 0 (sampleEnv 105 ""),
    .step 0 (sampleEnv 110 "w1"), .start (sampleRequest retryPayload "c2"),
    .step 1 (sampleEnv 125 ""), .step 1 (sampleEnv 125 ""), .step 1 (sampleEnv 130 "w2")]

def sampleRun := Concurrent.play (system symbolic) reply sampleMoves [] ⟨.empty, []⟩

theorem run_sample : Concurrent.Run (system symbolic) .empty sampleRun.1 sampleRun.2 :=
  Concurrent.steps_play exec_reply sampleMoves .refl

end Bpe.Dispatch
