import Bpe.Launch.Model

/-!
# The launch-attempt ledger

The tables of `InertFixtureLaunchLedger`, the transaction of
`consume_launch_attempt`, the two snapshots that `recover_committed_receipt`
and `verify_committed_receipt` read, and these functions and
`admit_inert_fixture_launch_attempt` as programs. Both ledgers stand side by
side in the store; the calls of the intent ledger are calls here.
-/

namespace Bpe.Launch

open Models Intent

/-- `InertFixtureLaunchLedger`: its configured identity. -/
structure Handle where
  path : String
  ledgerId : String
  workerInstanceId : String
  claimLedgerId : String

/-- The columns that a reservation and its attempt share. -/
structure LaunchIdentity (D : Type) where
  claimReceiptSha256 : D
  intentId : String
  intentSha256 : D
  payloadSha256 : D
  intentNonce : D
  claimId : D
  claimNonce : D
  claimedAtUnix : Int
  trustStoreSha256 : D
  workerInstanceId : String
  claimLedgerId : String
  launchLedgerId : String
  policySha256 : D
  bindingSha256 : D
  deriving DecidableEq

/-- A row of `inert_fixture_launch_reservations`. -/
structure LaunchReservation (D : Type) where
  identity : LaunchIdentity D
  reservedAtUnix : Int

/-- A row of `inert_fixture_launch_attempts`. -/
structure LaunchAttempt (D : Type) where
  identity : LaunchIdentity D
  launchAttemptId : D
  launchAttemptNonce : D
  consumedAtUnix : Int
  receiptSha256 : D
  receiptJson : InertFixtureLaunchAttemptReceipt D
  deriving DecidableEq

structure LaunchLedger (D : Type) where
  reservations : List (LaunchReservation D)
  attempts : List (LaunchAttempt D)
  clockHighWaterUnix : Int

def LaunchLedger.empty {D : Type} : LaunchLedger D := ⟨[], [], 0⟩

def LaunchLedger.view {D : Type} (s : LaunchLedger D) :
    OneShot.Ledger (LaunchReservation D) (LaunchAttempt D) :=
  ⟨s.reservations, s.attempts, s.clockHighWaterUnix⟩

section Transactions

variable {D : Type} (K : Crypto D) (L : Handle)

def launchBindingSha256 (claim : InertFixtureIntentClaimReceipt D) (claimReceiptSha256 : D)
    (workerInstanceId claimLedgerId launchLedgerId : String) : D :=
  K.launchSha256Json (.binding {
    intentId := claim.intentId
    intentSha256 := claim.intentSha256
    intentNonce := claim.intentNonce
    claimReceiptSha256 := claimReceiptSha256
    claimId := claim.claimId
    claimNonce := claim.claimNonce
    policySha256 := claim.bindings.policySha256
    workerInstanceId := workerInstanceId
    claimLedgerId := claimLedgerId
    launchLedgerId := launchLedgerId })

/-- `reservation_identity` -/
def launchIdentity (v : VerifiedInertFixtureLaunchAttempt D) : LaunchIdentity D where
  claimReceiptSha256 := v.claimReceiptSha256
  intentId := v.claimReceipt.intentId
  intentSha256 := v.intentSha256
  payloadSha256 := v.payloadSha256
  intentNonce := v.claimReceipt.intentNonce
  claimId := v.claimReceipt.claimId
  claimNonce := v.claimReceipt.claimNonce
  claimedAtUnix := v.claimReceipt.claimedAtUnix
  trustStoreSha256 := v.trustStoreSha256
  workerInstanceId := L.workerInstanceId
  claimLedgerId := L.claimLedgerId
  launchLedgerId := L.ledgerId
  policySha256 := v.claimReceipt.bindings.policySha256
  bindingSha256 := launchBindingSha256 K v.claimReceipt v.claimReceiptSha256 L.workerInstanceId
    L.claimLedgerId L.ledgerId

/-- The receipt of an attempt, before it is validated. -/
def attemptReceipt (v : VerifiedInertFixtureLaunchAttempt D) (attemptId : D) (env : Env D) :
    InertFixtureLaunchAttemptReceipt D where
  claimReceipt := v.claimReceipt
  claimReceiptSha256 := v.claimReceiptSha256
  launchAttemptId := attemptId
  launchAttemptNonce := env.nonce
  launchAttemptConsumedAtUnix := env.now
  workerInstanceId := L.workerInstanceId
  claimLedgerId := L.claimLedgerId
  launchLedgerId := L.ledgerId

def attemptRow (v : VerifiedInertFixtureLaunchAttempt D)
    (r : InertFixtureLaunchAttemptReceipt D) : LaunchAttempt D where
  identity := launchIdentity K L v
  launchAttemptId := r.launchAttemptId
  launchAttemptNonce := r.launchAttemptNonce
  consumedAtUnix := r.launchAttemptConsumedAtUnix
  receiptSha256 := K.launchSha256Json (.attempt r)
  receiptJson := r

/-- The row that `verify_committed_receipt` expects of a receipt. -/
def expectedRow (r : InertFixtureLaunchAttemptReceipt D) : LaunchAttempt D where
  identity := {
    claimReceiptSha256 := r.claimReceiptSha256
    intentId := r.claimReceipt.intentId
    intentSha256 := r.claimReceipt.intentSha256
    payloadSha256 := r.claimReceipt.intentPayloadSha256
    intentNonce := r.claimReceipt.intentNonce
    claimId := r.claimReceipt.claimId
    claimNonce := r.claimReceipt.claimNonce
    claimedAtUnix := r.claimReceipt.claimedAtUnix
    trustStoreSha256 := r.claimReceipt.trustStoreSha256
    workerInstanceId := r.workerInstanceId
    claimLedgerId := r.claimLedgerId
    launchLedgerId := r.launchLedgerId
    policySha256 := r.claimReceipt.bindings.policySha256
    bindingSha256 := launchBindingSha256 K r.claimReceipt r.claimReceiptSha256 r.workerInstanceId
      r.claimLedgerId r.launchLedgerId }
  launchAttemptId := r.launchAttemptId
  launchAttemptNonce := r.launchAttemptNonce
  consumedAtUnix := r.launchAttemptConsumedAtUnix
  receiptSha256 := K.launchSha256Json (.attempt r)
  receiptJson := r

/-- The identities share a value of a column that is `UNIQUE` on its own. -/
def LaunchIdentity.conflicts (r r' : LaunchIdentity D) : Prop :=
  r.claimReceiptSha256 = r'.claimReceiptSha256 ∨ r.intentId = r'.intentId ∨
  r.intentSha256 = r'.intentSha256 ∨ r.intentNonce = r'.intentNonce ∨ r.claimId = r'.claimId ∨
  r.claimNonce = r'.claimNonce

theorem LaunchIdentity.conflicts.symm {r r' : LaunchIdentity D} (h : r.conflicts r') :
    r'.conflicts r := by
  rcases h with h | h | h | h | h | h
  · exact .inl h.symm
  · exact .inr (.inl h.symm)
  · exact .inr (.inr (.inl h.symm))
  · exact .inr (.inr (.inr (.inl h.symm)))
  · exact .inr (.inr (.inr (.inr (.inl h.symm))))
  · exact .inr (.inr (.inr (.inr (.inr h.symm))))

def rules : OneShot.Rules (LaunchIdentity D) (LaunchReservation D) (LaunchAttempt D) where
  reserved := LaunchReservation.identity
  recorded := LaunchAttempt.identity
  reservedAt := LaunchReservation.reservedAtUnix
  recordedAt := LaunchAttempt.consumedAtUnix
  conflicts := LaunchIdentity.conflicts
  symm := LaunchIdentity.conflicts.symm

/-- What `_validate_schema` checks of the rows: the foreign key, and a
high-water mark that no row is ahead of. -/
def LaunchLedger.trusted (s : LaunchLedger D) : Prop := s.view.Trusted rules

/-- The claim's own interval, up to the intent's expiry. -/
def inClaimInterval (claim : InertFixtureIntentClaimReceipt D) (time : Int) : Prop :=
  claim.claimedAtUnix ≤ time ∧ time < claim.intentExpiresAtUnix

instance (claim : InertFixtureIntentClaimReceipt D) (time : Int) :
    Decidable (inClaimInterval claim time) :=
  inferInstanceAs (Decidable (_ ∧ _))

variable [DecidableEq D]

instance : DecidableRel (rules (D := D)).conflicts :=
  fun _ _ => inferInstanceAs (Decidable (_ ∨ _))

/-- The transaction of `consume_launch_attempt`, from `_connect` on. -/
def consumption (v : VerifiedInertFixtureLaunchAttempt D) (attemptId : Sha256Text D) :
    OneShot.Consumption InertError (rules (D := D)) D (InertFixtureLaunchAttemptReceipt D) where
  cannotOpen := .launchLedger "cannot open launch-attempt ledger"
  cannotCommit := .launchLedger "cannot commit launch-attempt consumption"
  notTrusted := .launchLedger "launch-attempt ledger schema is not trusted"
  invalidTime := .launchLedger "worker clock returned an invalid Unix time"
  behind now := now < v.verifiedAtUnix ∨ now < v.claimReceipt.claimedAtUnix
  movedBehind := .launchLedger
    "worker clock moved behind the claim or durable launch high-water mark"
  overflow := .overflow
  outside now := v.claimReceipt.intentExpiresAtUnix ≤ now
  outsideWindow := .launchLedger
    "fixture intent expired before durable launch-attempt consumption"
  keyed r := r.identity.claimReceiptSha256 == v.claimReceiptSha256
  differs r := r.identity ≠ launchIdentity K L v ∨
    ¬ inClaimInterval v.claimReceipt r.reservedAtUnix
  notTheInputs := .launchLedger "launch reservation differs from authenticated inputs"
  alreadyReserved := .attemptAlreadyConsumed
    "launch attempt was already consumed by a terminal reservation"
  shares r := r.identity.intentId = (launchIdentity K L v).intentId ∨
    r.identity.intentSha256 = (launchIdentity K L v).intentSha256 ∨
    r.identity.intentNonce = (launchIdentity K L v).intentNonce ∨
    r.identity.claimId = (launchIdentity K L v).claimId ∨
    r.identity.claimNonce = (launchIdentity K L v).claimNonce
  identityConsumed := .attemptAlreadyConsumed
    "launch claim or intent identity was already consumed"
  reservation now := ⟨launchIdentity K L v, now⟩
  reservable r := 0 ≤ r.identity.claimedAtUnix ∧ r.identity.claimedAtUnix ≤ r.reservedAtUnix
  integrity := .launchLedger "launch-attempt consumption violated ledger integrity"
  recordId := attemptId.nonzero? K.zero
  malformedId := .attemptAlreadyConsumed ("launch attempt was already consumed: attempt ID " ++
    "must be a nonzero lowercase SHA-256 value")
  idOf := LaunchAttempt.launchAttemptId
  idCollision := .attemptAlreadyConsumed
    "launch attempt was already consumed by an identity collision"
  receipt := attemptReceipt L v
  valid r := r.valid K
  noReceipt := .attemptAlreadyConsumed
    "launch attempt was already consumed before receipt construction"
  row := attemptRow K L v
  collides a row := a.launchAttemptNonce = row.launchAttemptNonce ∨
    a.receiptSha256 = row.receiptSha256
  receiptCollision := .attemptAlreadyConsumed
    "launch attempt was already consumed by a receipt collision"
  recordable row := 0 ≤ row.identity.claimedAtUnix ∧
    row.identity.claimedAtUnix ≤ row.consumedAtUnix
  durableCollision := .attemptAlreadyConsumed
    "launch attempt was already consumed by a durable collision"
  cannotClose := .launchLedger "cannot close launch-attempt ledger"

def consume (env : Env D) (v : VerifiedInertFixtureLaunchAttempt D) (attemptId : Sha256Text D)
    (s : LaunchLedger D) :
    Except InertError (InertFixtureLaunchAttemptReceipt D) × LaunchLedger D :=
  let (reply, s') := (consumption K L v attemptId).run env s.view
  (reply, ⟨s'.reservations, s'.records, s'.clock⟩)

/-- The snapshot of `recover_committed_receipt`: a `LEFT JOIN` on the claim
receipt's digest. -/
def LaunchLedger.selectReservation (s : LaunchLedger D) (claimReceiptSha256 : D) :
    Option (LaunchReservation D × Option (LaunchAttempt D)) :=
  s.view.lookup LaunchIdentity.claimReceiptSha256 rules claimReceiptSha256

def LaunchLedger.selectAttempt (s : LaunchLedger D) (intentId : String) :
    Option (LaunchAttempt D) :=
  s.view.record? LaunchIdentity.intentId rules intentId

end Transactions

/-! ## The calls -/

inductive Call (D : Type) where
  | intent (c : Intent.Call D)
  | consume (v : VerifiedInertFixtureLaunchAttempt D) (attemptId : Sha256Text D)
  /-- The reservation with that claim-receipt digest, and its attempt. -/
  | selectReservation (claimReceiptSha256 : D)
  /-- The attempt with that intent ID. -/
  | selectAttempt (intentId : String)

/-- What a call returns, when it does not raise. -/
def Value {D : Type} : Call D → Type
  | .intent c => Intent.Value c
  | .consume _ _ => InertFixtureLaunchAttemptReceipt D
  | .selectReservation _ => Option (LaunchReservation D × Option (LaunchAttempt D))
  | .selectAttempt _ => Option (LaunchAttempt D)

abbrev Reply {D : Type} : Call D → Type := Replies InertError Value

/-- The calls of the intent ledger among these. -/
def intentCalls {D : Type} : Embedding (Intent.Reply (D := D)) (Reply (D := D)) where
  call := .intent
  reply _ := Equiv.refl _

structure Store (D : Type) where
  claims : Intent.Ledger D
  launches : LaunchLedger D

def Store.empty {D : Type} : Store D := ⟨.empty, .empty⟩

abbrev Program (D : Type) (α : Type) : Type := Act (Call D) Reply InertError α

def fromIntent {D α : Type} (p : Intent.Program D α) : Program D α := intentCalls.prog p

section Programs

variable {D : Type} [DecidableEq D] (K : Crypto D) (H : Intent.Handle) (L : Handle)

/-- The expectation is for this launch ledger. -/
def Handle.expected (e : InertFixtureLaunchExpectation D) : Prop :=
  L.path = e.launchLedgerPath ∧ L.ledgerId = e.launchLedgerId ∧
  L.workerInstanceId = e.workerInstanceId ∧ L.claimLedgerId = e.claimLedgerId

instance (e : InertFixtureLaunchExpectation D) : Decidable (L.expected e) :=
  inferInstanceAs (Decidable (_ ∧ _))

variable (i : SignedInertFixtureIntent D) (t : InertFixtureIntentTrustStore)
  (e : InertFixtureLaunchExpectation D) (claim : InertFixtureIntentClaimReceipt D)

def consumeLaunchAttempt (attemptId : Sha256Text D) :
    Program D (InertFixtureLaunchAttemptReceipt D) := do
  let verificationTime ← Act.perform (Call.intent .currentUnixTime)
  let verified ← fromIntent (authenticateLaunchInputs K H i t e claim verificationTime true)
  fromIntent (validateLaunchExpectation K e)
  Act.when (¬ L.expected e) (Act.raise (.launchLedger
    "launch attempt is bound to a different configured launch ledger"))
  Act.perform (Call.consume verified attemptId)

def admitInertFixtureLaunchAttempt (attemptId : Sha256Text D) :
    Program D (InertFixtureLaunchAttemptReceipt D) := do
  let verificationTime ← Act.perform (Call.intent .currentUnixTime)
  let _ ← fromIntent (authenticateLaunchInputs K H i t e claim verificationTime true)
  fromIntent (validateLaunchExpectation K e)
  Act.when (¬ L.expected e) (Act.raise (.launchLedger
    "launch admission received a different configured launch ledger"))
  consumeLaunchAttempt K H L i t e claim attemptId

def verification : OneShot.Recall (Reply (D := D)) InertError (LaunchAttempt D) D
    (InertFixtureLaunchAttemptReceipt D) where
  valid r := r.valid K
  invalid := .launchLedger "launch-attempt receipt is invalid"
  bound r := r.workerInstanceId = L.workerInstanceId ∧ r.claimLedgerId = L.claimLedgerId ∧
    r.launchLedgerId = L.ledgerId
  boundElsewhere := .launchLedger "launch-attempt receipt is bound to another ledger"
  select r := Act.perform (Call.selectAttempt r.claimReceipt.intentId)
  row := expectedRow K
  notCommitted := .launchLedger "launch-attempt receipt is not committed in this ledger"
  digest r := K.launchSha256Json (.attempt r)
  stored := LaunchAttempt.receiptJson
  stored_row _ := rfl

/-- `verify_committed_receipt`: the digest of a receipt that is committed. -/
def verifyCommittedReceipt (r : InertFixtureLaunchAttemptReceipt D) : Program D D :=
  (verification K L).verify r

/-- The stored receipt is that of the authenticated inputs. -/
def recovers (v : VerifiedInertFixtureLaunchAttempt D) (e : InertFixtureLaunchExpectation D)
    (a : LaunchAttempt D) : Prop :=
  let r := a.receiptJson
  K.launchSha256Json (.attempt r) = a.receiptSha256 ∧ r.claimReceipt = v.claimReceipt ∧
  r.claimReceiptSha256 = v.claimReceiptSha256 ∧ r.workerInstanceId = e.workerInstanceId ∧
  r.claimLedgerId = e.claimLedgerId ∧ r.launchLedgerId = e.launchLedgerId

instance (v : VerifiedInertFixtureLaunchAttempt D) (e : InertFixtureLaunchExpectation D)
    (a : LaunchAttempt D) : Decidable (recovers K v e a) :=
  inferInstanceAs (Decidable (_ ∧ _))

/-- What `recover_committed_receipt` looks for, once its inputs are authenticated. -/
def search (v : VerifiedInertFixtureLaunchAttempt D) (e : InertFixtureLaunchExpectation D) :
    OneShot.Search (Reply (D := D)) InertError (LaunchIdentity D) (LaunchReservation D)
      (LaunchAttempt D) where
  select := Act.perform (Call.selectReservation v.claimReceiptSha256)
  notReserved := .launchLedger "no recoverable launch-attempt receipt is committed"
  identity := launchIdentity K L v
  inWindow time := inClaimInterval v.claimReceipt time
  differs := .launchLedger "launch reservation differs from authenticated inputs"
  tombstone := .attemptAlreadyConsumed
    "launch attempt was terminally consumed without a recoverable receipt"
  invalidBytes := .launchLedger "committed launch-attempt receipt bytes are invalid"
  recovers a := recovers K v e a
  receiptDiffers := .launchLedger
    "committed launch-attempt receipt differs from authenticated inputs"
  notVerified := .launchLedger "recovered launch-attempt receipt failed exact ledger verification"

def recoverCommittedReceipt : Program D (InertFixtureLaunchAttemptReceipt D) := do
  let now ← Act.perform (Call.intent .currentUnixTime)
  let v ← fromIntent (authenticateLaunchInputs K H i t e claim now false)
  fromIntent (validateLaunchExpectation K e)
  Act.when (¬ L.expected e) (Act.raise (.launchLedger
    "launch attempt is bound to a different configured launch ledger"))
  (verification K L).recover rules (search K L v e)

def Exec : (c : Call D) → Store D → Reply c → Store D → Prop
  | .intent c, s, r, s' =>
    Intent.Exec K.toCrypto H c s.claims r s'.claims ∧ s'.launches = s.launches
  | .consume v attemptId, s, r, s' =>
    s'.claims = s.claims ∧ ∃ env, consume K L env v attemptId s.launches = (r, s'.launches)
  | .selectReservation d, s, r, s' =>
    s' = s ∧ (r = .ok (s.launches.selectReservation d) ∨ ∃ e, r = .error e)
  | .selectAttempt id, s, r, s' =>
    s' = s ∧ (r = .ok (s.launches.selectAttempt id) ∨ ∃ e, r = .error e)

structure LaunchRequest (D : Type) where
  intent : SignedInertFixtureIntent D
  trustStore : InertFixtureIntentTrustStore
  expectation : InertFixtureLaunchExpectation D
  claimReceipt : InertFixtureIntentClaimReceipt D
  attemptId : Sha256Text D

inductive Request (D : Type) where
  | intent (q : Intent.Request D)
  | consume (q : LaunchRequest D)
  | admitting (q : LaunchRequest D)

inductive Receipt (D : Type) where
  | claim (r : InertFixtureIntentClaimReceipt D)
  | attempt (r : InertFixtureLaunchAttemptReceipt D)

def Request.program : Request D → Program D (Receipt D)
  | .intent q => .claim <$> fromIntent (q.program K.toCrypto H)
  | .consume q => .attempt <$>
      consumeLaunchAttempt K H L q.intent q.trustStore q.expectation q.claimReceipt q.attemptId
  | .admitting q => .attempt <$> admitInertFixtureLaunchAttempt K H L q.intent q.trustStore
      q.expectation q.claimReceipt q.attemptId

def system : Concurrent (Request D) (Call D) Reply (Except InertError (Receipt D)) (Store D) where
  prog q := q.program K H L
  exec := Exec K H L

end Programs

end Bpe.Launch
