import Bpe.Intent.Model
import Bpe.Lib.Act
import Bpe.Lib.Consume
import Bpe.Lib.Recall

/-!
# The fixture-intent ledger

The tables of `InertFixtureIntentLedger`, a one-shot ledger, the transaction of
`claim_intent` as a `Consumption` of it, the two snapshots that `recover_committed_receipt` and
`verify_committed_receipt` read, and these functions and
`admit_inert_fixture_intent` as programs over them. Any statement may fail
with a `sqlite3.Error`, which rolls the transaction back; closing the
connection may fail after a commit. The ledger's identity is `Handle`.

`receipt_json` is the receipt itself: what is stored is what
`canonical_json_bytes` made of it, and is parsed back.
-/

namespace Bpe.Intent

open Models

/-- `InertFixtureIntentLedger`: its configured identity. -/
structure Handle where
  path : String
  ledgerId : String
  workerInstanceId : String

/-- The columns that a reservation and its claim share. -/
structure ReservationIdentity (D : Type) where
  intentSha256 : D
  intentId : String
  payloadSha256 : D
  signatureKeyId : String
  trustStoreId : String
  trustStoreSha256 : D
  workerInstanceId : String
  claimLedgerId : String
  launchLedgerId : String
  intentNonce : D
  policySha256 : D
  bindingSha256 : D
  deriving DecidableEq

/-- A row of `inert_fixture_intent_reservations`. -/
structure IntentReservation (D : Type) where
  identity : ReservationIdentity D
  reservedAtUnix : Int

/-- A row of `inert_fixture_intent_claims`. -/
structure IntentClaim (D : Type) where
  identity : ReservationIdentity D
  claimId : D
  claimNonce : D
  claimedAtUnix : Int
  receiptSha256 : D
  receiptJson : InertFixtureIntentClaimReceipt D
  policyId : String
  workerPoolAudience : String
  delegatedRootId : String
  launcherArtifactId : String
  launcherArtifactSha256 : D
  launcherSeccompPolicyId : String
  launcherSeccompPolicySha256 : D
  resourceProfileId : String
  resourceProfileSha256 : D
  deriving DecidableEq

structure Ledger (D : Type) where
  reservations : List (IntentReservation D)
  claims : List (IntentClaim D)
  clockHighWaterUnix : Int

def Ledger.empty {D : Type} : Ledger D := ⟨[], [], 0⟩

def Ledger.view {D : Type} (s : Ledger D) :
    OneShot.Ledger (IntentReservation D) (IntentClaim D) :=
  ⟨s.reservations, s.claims, s.clockHighWaterUnix⟩

abbrev Env (D : Type) : Type := OneShot.Env D

section Transactions

variable {D : Type} (K : Crypto D) (H : Handle)

def reservationIdentity (v : VerifiedInertFixtureIntent D) : ReservationIdentity D where
  intentSha256 := v.intentSha256
  intentId := v.intent.payload.intentId
  payloadSha256 := v.payloadSha256
  signatureKeyId := v.intent.keyId
  trustStoreId := v.trustStoreId
  trustStoreSha256 := v.trustStoreSha256
  workerInstanceId := H.workerInstanceId
  claimLedgerId := H.ledgerId
  launchLedgerId := v.intent.payload.bindings.launchLedgerId
  intentNonce := v.intent.payload.intentNonce
  policySha256 := v.intent.payload.bindings.policySha256
  bindingSha256 := K.sha256Json (.binding v.intent.payload.bindings)

def claimRow (r : InertFixtureIntentClaimReceipt D) : IntentClaim D where
  identity := {
    intentSha256 := r.intentSha256
    intentId := r.intentId
    payloadSha256 := r.intentPayloadSha256
    signatureKeyId := r.signatureKeyId
    trustStoreId := r.trustStoreId
    trustStoreSha256 := r.trustStoreSha256
    workerInstanceId := r.bindings.workerInstanceId
    claimLedgerId := r.bindings.claimLedgerId
    launchLedgerId := r.bindings.launchLedgerId
    intentNonce := r.intentNonce
    policySha256 := r.bindings.policySha256
    bindingSha256 := K.sha256Json (.binding r.bindings) }
  claimId := r.claimId
  claimNonce := r.claimNonce
  claimedAtUnix := r.claimedAtUnix
  receiptSha256 := K.sha256Json (.receipt r)
  receiptJson := r
  policyId := r.bindings.policyId
  workerPoolAudience := r.bindings.workerPoolAudience
  delegatedRootId := r.bindings.delegatedRootId
  launcherArtifactId := r.bindings.launcherArtifactId
  launcherArtifactSha256 := r.bindings.launcherArtifactSha256
  launcherSeccompPolicyId := r.bindings.launcherSeccompPolicyId
  launcherSeccompPolicySha256 := r.bindings.launcherSeccompPolicySha256
  resourceProfileId := r.bindings.resourceProfileId
  resourceProfileSha256 := r.bindings.resourceProfileSha256

/-- The receipt of a claim, before it is validated. -/
def claimReceipt (v : VerifiedInertFixtureIntent D) (claimId : D) (env : Env D) :
    InertFixtureIntentClaimReceipt D where
  intentId := v.intent.payload.intentId
  intentSha256 := v.intentSha256
  intentPayloadSha256 := v.payloadSha256
  signatureKeyId := v.intent.keyId
  trustStoreId := v.trustStoreId
  trustStoreSha256 := v.trustStoreSha256
  claimId := claimId
  claimNonce := env.nonce
  claimedAtUnix := env.now
  intentNonce := v.intent.payload.intentNonce
  intentIssuedAtUnix := v.intent.payload.issuedAtUnix
  intentNotBeforeUnix := v.intent.payload.notBeforeUnix
  intentExpiresAtUnix := v.intent.payload.expiresAtUnix
  bindings := v.intent.payload.bindings

/-- The identities share a value of a column that is `UNIQUE` on its own. -/
def ReservationIdentity.conflicts (r r' : ReservationIdentity D) : Prop :=
  r.intentSha256 = r'.intentSha256 ∨ r.intentId = r'.intentId ∨ r.intentNonce = r'.intentNonce

theorem ReservationIdentity.conflicts.symm {r r' : ReservationIdentity D} (h : r.conflicts r') :
    r'.conflicts r := by
  rcases h with h | h | h
  · exact .inl h.symm
  · exact .inr (.inl h.symm)
  · exact .inr (.inr h.symm)

def rules : OneShot.Rules (ReservationIdentity D) (IntentReservation D) (IntentClaim D) where
  reserved := IntentReservation.identity
  recorded := IntentClaim.identity
  reservedAt := IntentReservation.reservedAtUnix
  recordedAt := IntentClaim.claimedAtUnix
  conflicts := ReservationIdentity.conflicts
  symm := ReservationIdentity.conflicts.symm

/-- What `_validate_schema` checks of the rows: the foreign key, and a
high-water mark that no row is ahead of. -/
def Ledger.trusted (s : Ledger D) : Prop := s.view.Trusted rules

variable [DecidableEq D]

instance : DecidableRel (rules (D := D)).conflicts :=
  fun _ _ => inferInstanceAs (Decidable (_ ∨ _))

/-- The transaction of `claim_intent`, from `_connect` on. -/
def consumption (v : VerifiedInertFixtureIntent D) (claimId : Sha256Text D) :
    OneShot.Consumption InertError (rules (D := D)) D (InertFixtureIntentClaimReceipt D) where
  cannotOpen := .ledger "cannot open fixture-intent claim ledger"
  cannotCommit := .ledger "cannot commit fixture-intent claim"
  notTrusted := .ledger "fixture-intent claim ledger schema is not trusted"
  invalidTime := .ledger "worker clock returned an invalid Unix time"
  behind now := now < v.verifiedAtUnix
  movedBehind := .ledger "worker clock moved behind its durable fixture-intent high-water mark"
  overflow := .overflow
  outside now := ¬ v.intent.payload.inWindow now
  outsideWindow := .ledger "fixture intent is outside its validity window at durable claim"
  keyed r := r.identity.intentSha256 == v.intentSha256
  differs r := r.identity ≠ reservationIdentity K H v ∨
    ¬ v.intent.payload.inWindow r.reservedAtUnix
  notTheInputs := .ledger "fixture-intent reservation differs from authenticated inputs"
  alreadyReserved := .alreadyClaimed
    "fixture intent was already consumed by a terminal reservation"
  shares r := r.identity.intentId = (reservationIdentity K H v).intentId ∨
    r.identity.intentNonce = (reservationIdentity K H v).intentNonce
  identityConsumed := .alreadyClaimed "fixture intent signed identity was already consumed"
  reservation now := ⟨reservationIdentity K H v, now⟩
  reservable r := 0 ≤ r.reservedAtUnix
  integrity := .ledger "fixture-intent claim violated ledger integrity"
  recordId := claimId.nonzero? K.zero
  malformedId := .alreadyClaimed ("fixture intent was already consumed: claim ID must be a " ++
    "nonzero lowercase SHA-256 value")
  idOf := IntentClaim.claimId
  idCollision := .alreadyClaimed "fixture intent was already consumed by an identity collision"
  receipt := claimReceipt v
  valid r := r.valid K
  noReceipt := .alreadyClaimed "fixture intent was already consumed before receipt construction"
  row := claimRow K
  collides c row := c.claimNonce = row.claimNonce ∨ c.receiptSha256 = row.receiptSha256
  receiptCollision := .alreadyClaimed
    "fixture intent was already consumed by a receipt collision"
  recordable row := 0 ≤ row.claimedAtUnix
  durableCollision := .alreadyClaimed
    "fixture intent was already consumed by a durable collision"
  cannotClose := .ledger "cannot close fixture-intent claim ledger"

def claim (env : Env D) (v : VerifiedInertFixtureIntent D) (claimId : Sha256Text D)
    (s : Ledger D) : Except InertError (InertFixtureIntentClaimReceipt D) × Ledger D :=
  let (reply, s') := (consumption K H v claimId).run env s.view
  (reply, ⟨s'.reservations, s'.records, s'.clock⟩)

end Transactions

/-! ## The calls -/

inductive Call (D : Type) where
  | currentUnixTime
  /-- Whether the path is absolute and resolves to itself. -/
  | canonicalPath (path : String)
  | claim (v : VerifiedInertFixtureIntent D) (claimId : Sha256Text D)
  /-- The reservation with that intent digest, and its claim. -/
  | selectReservation (intentSha256 : D)
  /-- The claim with that intent ID. -/
  | selectClaim (intentId : String)

/-- What a call returns, when it does not raise. -/
def Value {D : Type} : Call D → Type
  | .currentUnixTime => Int
  | .canonicalPath _ => Bool
  | .claim _ _ => InertFixtureIntentClaimReceipt D
  | .selectReservation _ => Option (IntentReservation D × Option (IntentClaim D))
  | .selectClaim _ => Option (IntentClaim D)

abbrev Reply {D : Type} : Call D → Type := Replies InertError Value

/-- The arguments of one call, and which of the two functions it calls. -/
structure Request (D : Type) where
  intent : SignedInertFixtureIntent D
  trustStore : InertFixtureIntentTrustStore
  expectation : InertFixtureIntentExpectation D
  claimId : Sha256Text D
  admitting : Bool

section Programs

variable {D : Type} [DecidableEq D] (K : Crypto D) (H : Handle)

abbrev Program (D : Type) (α : Type) : Type := Act (Call D) Reply InertError α

variable (i : SignedInertFixtureIntent D) (t : InertFixtureIntentTrustStore)
  (e : InertFixtureIntentExpectation D)

def verifyInertFixtureIntent (now : Int) (enforceValidity : Bool) :
    Program D (VerifiedInertFixtureIntent D) := do
  Act.when (now < 0) (Act.raise (.authorization
    "fixture-intent verification time must be a nonnegative integer"))
  let canonicalPath ← Act.perform (Call.canonicalPath e.claimLedgerPath)
  Act.lift (authenticateIntent K i t e now enforceValidity canonicalPath)

/-- The intent is bound to this ledger. -/
def Handle.owns (v : VerifiedInertFixtureIntent D) (e : InertFixtureIntentExpectation D) : Prop :=
  v.intent.payload.bindings.workerInstanceId = H.workerInstanceId ∧
  v.intent.payload.bindings.claimLedgerId = H.ledgerId ∧ e.claimLedgerPath = H.path

instance (v : VerifiedInertFixtureIntent D) (e : InertFixtureIntentExpectation D) :
    Decidable (H.owns v e) :=
  inferInstanceAs (Decidable (_ ∧ _))

def claimIntent (claimId : Sha256Text D) : Program D (InertFixtureIntentClaimReceipt D) := do
  let verificationTime ← Act.perform Call.currentUnixTime
  let verified ← verifyInertFixtureIntent K i t e verificationTime true
  Act.when (¬ H.owns verified e) (Act.raise (.ledger
    "fixture intent is bound to a different worker or claim ledger"))
  Act.perform (Call.claim verified claimId)

def admitInertFixtureIntent (claimId : Sha256Text D) :
    Program D (InertFixtureIntentClaimReceipt D) := do
  let verificationTime ← Act.perform Call.currentUnixTime
  let _ ← verifyInertFixtureIntent K i t e verificationTime true
  Act.when (¬ (H.path = e.claimLedgerPath ∧ H.ledgerId = e.bindings.claimLedgerId ∧
      H.workerInstanceId = e.bindings.workerInstanceId))
    (Act.raise (.ledger "fixture admission received a different configured claim ledger"))
  claimIntent K H i t e claimId

def verification : OneShot.Recall (Reply (D := D)) InertError (IntentClaim D) D
    (InertFixtureIntentClaimReceipt D) where
  valid r := r.valid K
  invalid := .ledger "fixture-intent claim receipt is invalid"
  bound r := r.bindings.workerInstanceId = H.workerInstanceId ∧
    r.bindings.claimLedgerId = H.ledgerId
  boundElsewhere := .ledger "fixture-intent receipt is bound to a different worker or ledger"
  select r := Act.perform (Call.selectClaim r.intentId)
  row := claimRow K
  notCommitted := .ledger "fixture-intent claim receipt is not committed in this ledger"
  digest r := K.sha256Json (.receipt r)
  stored := IntentClaim.receiptJson
  stored_row _ := rfl

/-- `verify_committed_receipt`: the digest of a receipt that is committed. -/
def verifyCommittedReceipt (r : InertFixtureIntentClaimReceipt D) : Program D D :=
  (verification K H).verify r

/-- The stored receipt is that of the verified intent. -/
def recovers (v : VerifiedInertFixtureIntent D) (c : IntentClaim D) : Prop :=
  let r := c.receiptJson
  K.sha256Json (.receipt r) = c.receiptSha256 ∧ r.intentId = v.intent.payload.intentId ∧
  r.intentSha256 = v.intentSha256 ∧ r.intentPayloadSha256 = v.payloadSha256 ∧
  r.signatureKeyId = v.intent.keyId ∧ r.trustStoreId = v.trustStoreId ∧
  r.trustStoreSha256 = v.trustStoreSha256 ∧
  r.intentNonce = v.intent.payload.intentNonce ∧
  r.intentIssuedAtUnix = v.intent.payload.issuedAtUnix ∧
  r.intentNotBeforeUnix = v.intent.payload.notBeforeUnix ∧
  r.intentExpiresAtUnix = v.intent.payload.expiresAtUnix ∧
  r.bindings = v.intent.payload.bindings ∧
  K.sha256Json (.binding r.bindings) = K.sha256Json (.binding v.intent.payload.bindings)

instance (v : VerifiedInertFixtureIntent D) (c : IntentClaim D) : Decidable (recovers K v c) :=
  inferInstanceAs (Decidable (_ ∧ _))

/-- What `recover_committed_receipt` looks for, once the intent is verified. -/
def search (v : VerifiedInertFixtureIntent D) : OneShot.Search (Reply (D := D)) InertError
    (ReservationIdentity D) (IntentReservation D) (IntentClaim D) where
  select := Act.perform (Call.selectReservation v.intentSha256)
  notReserved := .ledger "no recoverable receipt is committed for this fixture intent"
  identity := reservationIdentity K H v
  inWindow time := v.intent.payload.inWindow time
  differs := .ledger "fixture-intent reservation differs from the authenticated intent"
  tombstone := .alreadyClaimed
    "fixture intent was terminally consumed without a recoverable receipt"
  invalidBytes := .ledger "committed fixture-intent receipt bytes are invalid"
  recovers c := recovers K v c
  receiptDiffers := .ledger
    "committed fixture-intent receipt differs from the authenticated intent"
  notVerified := .ledger "recovered fixture-intent receipt failed exact ledger verification"

def recoverCommittedReceipt : Program D (InertFixtureIntentClaimReceipt D) := do
  let now ← Act.perform Call.currentUnixTime
  let v ← verifyInertFixtureIntent K i t e now false
  Act.when (¬ H.owns v e) (Act.raise (.ledger
    "fixture intent is bound to a different worker or claim ledger"))
  (verification K H).recover rules (search K H v)

def Request.program (q : Request D) : Program D (InertFixtureIntentClaimReceipt D) :=
  if q.admitting then admitInertFixtureIntent K H q.intent q.trustStore q.expectation q.claimId
  else claimIntent K H q.intent q.trustStore q.expectation q.claimId

/-- The snapshot of `recover_committed_receipt`: a `LEFT JOIN` on the intent
digest. -/
def Ledger.selectReservation (s : Ledger D) (intentSha256 : D) :
    Option (IntentReservation D × Option (IntentClaim D)) :=
  s.view.lookup ReservationIdentity.intentSha256 rules intentSha256

def Ledger.selectClaim (s : Ledger D) (intentId : String) : Option (IntentClaim D) :=
  s.view.record? ReservationIdentity.intentId rules intentId

/-- What each call may reply and do: a clock and the file system say anything,
a transaction runs atomically in some environment, and a snapshot is taken or
fails. -/
def Exec : (c : Call D) → Ledger D → Reply c → Ledger D → Prop
  | .currentUnixTime, s, r, s' => s' = s ∧ ∃ t : Int, r = .ok t
  | .canonicalPath _, s, r, s' => s' = s ∧ ∃ b : Bool, r = .ok b
  | .claim v claimId, s, r, s' => ∃ env, claim K H env v claimId s = (r, s')
  | .selectReservation d, s, r, s' =>
    s' = s ∧ (r = .ok (s.selectReservation d) ∨ ∃ e, r = .error e)
  | .selectClaim id, s, r, s' => s' = s ∧ (r = .ok (s.selectClaim id) ∨ ∃ e, r = .error e)

def system : Concurrent (Request D) (Call D) Reply
    (Except InertError (InertFixtureIntentClaimReceipt D)) (Ledger D) where
  prog q := q.program K H
  exec := Exec K H

end Programs

end Bpe.Intent
