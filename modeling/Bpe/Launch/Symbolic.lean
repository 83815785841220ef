import Bpe.Intent.Symbolic
import Bpe.Launch.Ledger

/-!
# A symbolic instance of both ledgers

Digests as terms, and a schedule on which an intent is claimed and its launch
attempt consumed.
-/

namespace Bpe.Launch

open Models Term Intent

def InertFixtureLaunchAttemptReceipt.term (r : InertFixtureLaunchAttemptReceipt Term) : Term :=
  ofList id [r.claimReceipt.term, r.claimReceiptSha256, r.launchAttemptId, r.launchAttemptNonce,
    .num r.launchAttemptConsumedAtUnix, .text r.workerInstanceId, .text r.claimLedgerId,
    .text r.launchLedgerId]

def LaunchBinding.term (b : LaunchBinding Term) : Term :=
  ofList id [.text b.intentId, b.intentSha256, b.intentNonce, b.claimReceiptSha256, b.claimId,
    b.claimNonce, b.policySha256, .text b.workerInstanceId, .text b.claimLedgerId,
    .text b.launchLedgerId]

/-- Each kind of document under its own tag, apart from those of intents. -/
def LaunchDocument.term : LaunchDocument Term → Term
  | .attempt r => .pair (.num 7) r.term
  | .binding b => .pair (.num 8) b.term

def symbolic : Crypto Term where
  toCrypto := Intent.symbolic
  launchSha256Json := LaunchDocument.term

/-- The environments of a schedule's call, on either ledger. -/
structure Envs where
  intent : Intent.Env Term
  launch : Env Term

def reply (H : Intent.Handle) (L : Handle) (env : Envs) :
    (c : Call Term) → Store Term → Reply c × Store Term
  | .intent c, s =>
    let (r, claims) := Intent.reply H env.intent c s.claims
    (r, { s with claims })
  | .consume v attemptId, s =>
    let (r, launches) := consume symbolic L env.launch v attemptId s.launches
    (r, { s with launches })
  | .selectReservation d, s => (.ok (s.launches.selectReservation d), s)
  | .selectAttempt id, s => (.ok (s.launches.selectAttempt id), s)

theorem exec_reply (H : Intent.Handle) (L : Handle) (env : Envs) (c : Call Term) (s : Store Term)
    (r : Reply c) (s' : Store Term) (h : reply H L env c s = (r, s')) :
    Exec symbolic H L c s r s' := by
  cases c with
  | intent c => cases h; exact ⟨Intent.exec_reply H env.intent c s.claims _ _ rfl, rfl⟩
  | consume v attemptId => cases h; exact ⟨rfl, env.launch, rfl⟩
  | selectReservation d => cases h; exact ⟨rfl, .inl rfl⟩
  | selectAttempt id => cases h; exact ⟨rfl, .inl rfl⟩

/-! ## A claim and its launch attempt -/

def sampleHandle : Handle := ⟨"/ledgers/launches", "launches", "worker", "claims"⟩

def sampleExpectation : InertFixtureLaunchExpectation Term where
  intentExpectation := Intent.sampleExpectation
  launchLedgerPath := "/ledgers/launches"
  workerInstanceId := "worker"
  claimLedgerId := "claims"
  launchLedgerId := "launches"

def sampleIntent : SignedInertFixtureIntent Term := Intent.sampleIntent "intent-1" "n1"

/-- The receipt of the sample intent, claimed at time 110. -/
def sampleClaim : InertFixtureIntentClaimReceipt Term where
  intentId := "intent-1"
  intentSha256 := symbolic.sha256Json (.intent sampleIntent)
  intentPayloadSha256 := symbolic.sha256Json (.payload sampleIntent.payload)
  signatureKeyId := "key"
  trustStoreId := "store"
  trustStoreSha256 := symbolic.sha256Json (.trustStore sampleStore)
  claimId := .text "c1"
  claimNonce := .text "w1"
  claimedAtUnix := 110
  intentNonce := .text "n1"
  intentIssuedAtUnix := 100
  intentNotBeforeUnix := 100
  intentExpiresAtUnix := 200
  bindings := samplePolicy.bindings Intent.symbolic

def sampleLaunch (attemptId : String) : LaunchRequest Term :=
  ⟨sampleIntent, sampleStore, sampleExpectation, sampleClaim, .sha256 (.text attemptId)⟩

def sampleEnvs (now : Int) (nonce : String) : Envs :=
  ⟨sampleEnv now nonce, ⟨fun _ => false, now, .text nonce, false, false⟩⟩

/-- Thread `i` executes its next `n` calls at time `now`. -/
def steps {ι : Type} (i n : Nat) (now : Int) (nonce : String) :
    List (Concurrent.Move ι Envs) :=
  List.replicate n (.step i (sampleEnvs now nonce))

/-- The intent is claimed; then two consumptions of it run, one after the
other. -/
def sampleMoves : List (Concurrent.Move (Request Term) Envs) :=
  .start (.intent (sampleRequest sampleIntent (.sha256 (.text "c1")))) :: steps 0 3 110 "w1" ++
  .start (.consume (sampleLaunch "a1")) :: steps 1 12 120 "x1" ++
  .start (.consume (sampleLaunch "a2")) :: steps 2 12 130 "x2"

def sampleRun :=
  Concurrent.play (system symbolic Intent.sampleHandle sampleHandle)
    (reply Intent.sampleHandle sampleHandle) sampleMoves [] ⟨.empty, []⟩

theorem run_sample :
    Concurrent.Run (system symbolic Intent.sampleHandle sampleHandle) .empty sampleRun.1
      sampleRun.2 :=
  Concurrent.steps_play (exec_reply Intent.sampleHandle sampleHandle) sampleMoves .refl

end Bpe.Launch
