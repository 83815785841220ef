import Bpe.Dispatch.Model
import Bpe.Lib.Act
import Bpe.Lib.Txn

/-!
# The dispatch claim ledger

The two tables of `DispatchClaimLedger`, the transactions of `_advance_clock`
and `claim_authorization`, and the calls `claim_authorization` and
`admit_dispatch` as programs that read the worker clock and run transactions.
Any statement of a transaction may fail with a `sqlite3.Error`, which rolls it
back. Integers beyond 64 bits fail where they are bound.
-/

namespace Bpe.Dispatch

open Models

/-- A row of `dispatch_claims`. -/
structure DispatchClaim (D : Type) where
  authorizationId : String
  authorizationSha256 : D
  payloadSha256 : D
  signatureKeyId : String
  trustStoreId : String
  trustStoreSha256 : D
  dispatchNonce : D
  claimId : D
  claimNonce : D
  claimedAtUnix : Int
  receiptSha256 : D
  jobManifestSha256 : D
  bindingSha256 : D
  policyId : String
  policySha256 : D
  retryIndex : Int
  retryOfAuthorizationId : Option String
  retryOfClaimSha256 : Option D
  deriving DecidableEq

structure Ledger (D : Type) where
  claims : List (DispatchClaim D)
  clockHighWaterUnix : Int

def Ledger.empty {D : Type} : Ledger D := ⟨[], 0⟩

/-- The points of a transaction where SQLite may fail. -/
inductive Statement where
  | connect | begin | selectClock | updateClock | selectConflict | selectParent | insert | commit

/-- What a transaction takes from outside: which statement fails, the clock it
reads and the nonce it generates. -/
structure Env (D : Type) where
  fault : Statement → Bool
  now : Int
  nonce : D

section Transactions

variable {D : Type} [DecidableEq D] (K : Crypto D)

/-- A statement that fails rolls the transaction back. -/
def Env.run (env : Env D) (st : Statement) (message : String) : Txn (Ledger D) DispatchError Unit :=
  .when (env.fault st) (.abort (.rollback (.ledger message)))

/-- `COMMIT`, then raise. -/
def Env.commitRaise (env : Env D) (message : String) (e : DispatchError) :
    Txn (Ledger D) DispatchError Unit := do
  env.run .commit message
  .abort (.commit e)

/-- The part both transactions share: the observed time may not lie behind the
high-water mark, and becomes the mark. -/
def advanceHighWater (env : Env D) (observed : Int) (message : String) :
    Txn (Ledger D) DispatchError Unit := do
  env.run .selectClock message
  let s ← .read
  .when (observed < s.clockHighWaterUnix)
    (.abort (.rollback (.ledger "worker clock moved behind its durable high-water mark")))
  env.run .updateClock message
  .when (int64Max < observed) (.abort (.rollback .overflow))
  .write fun s => { s with clockHighWaterUnix := observed }

def advanceClock (env : Env D) (observed : Int) : Txn (Ledger D) DispatchError Unit := do
  .when (observed < 0)
    (.abort (.rollback (.ledger "worker clock returned an invalid Unix time")))
  env.run .connect "cannot open dispatch claim ledger"
  let message := "cannot update dispatch clock high-water mark"
  env.run .begin message
  advanceHighWater env observed message
  env.run .commit message

def dispatchBindingSha256 (p : DispatchAuthorizationPayload D) : D :=
  K.sha256Json (.binding p.bindings)

/-- The receipt of a claim, when its fields pass the validator. -/
def admissionReceipt (v : VerifiedDispatchAuthorization D) (claimId : Sha256Text D) (env : Env D) :
    Option (DispatchAdmissionReceipt D) :=
  match claimId with
  | .malformed _ => none
  | .sha256 claimId =>
    let p := v.authorization.payload
    let r : DispatchAdmissionReceipt D := {
      authorizationId := p.authorizationId
      authorizationSha256 := v.authorizationSha256
      authorizationPayloadSha256 := v.payloadSha256
      signatureKeyId := v.authorization.keyId
      trustStoreId := v.trustStoreId
      trustStoreSha256 := v.trustStoreSha256
      claimId := claimId
      claimNonce := env.nonce
      claimedAtUnix := env.now
      dispatchNonce := p.dispatchNonce
      bindings := p.bindings
      retryIndex := p.retryIndex
      retryOfAuthorizationId := p.retryOfAuthorizationId
      retryOfClaimSha256 := p.retryOfClaimSha256 }
    if r.valid K then some r else none

def claimRow (r : DispatchAdmissionReceipt D) : DispatchClaim D where
  authorizationId := r.authorizationId
  authorizationSha256 := r.authorizationSha256
  payloadSha256 := r.authorizationPayloadSha256
  signatureKeyId := r.signatureKeyId
  trustStoreId := r.trustStoreId
  trustStoreSha256 := r.trustStoreSha256
  dispatchNonce := r.dispatchNonce
  claimId := r.claimId
  claimNonce := r.claimNonce
  claimedAtUnix := r.claimedAtUnix
  receiptSha256 := K.sha256Json (.receipt r)
  jobManifestSha256 := r.bindings.jobManifestSha256
  bindingSha256 := K.sha256Json (.binding r.bindings)
  policyId := r.bindings.policyId
  policySha256 := r.bindings.policySha256
  retryIndex := r.retryIndex
  retryOfAuthorizationId := r.retryOfAuthorizationId
  retryOfClaimSha256 := r.retryOfClaimSha256

/-- `a` and `b` are not null and equal, as SQL compares them. -/
def sqlEq {α : Type} [DecidableEq α] (a b : Option α) : Prop := a ≠ none ∧ a = b

instance {α : Type} [DecidableEq α] (a b : Option α) : Decidable (sqlEq a b) :=
  inferInstanceAs (Decidable (_ ∧ _))

/-- The rows share a value of a `UNIQUE` column. -/
def DispatchClaim.conflicts (r r' : DispatchClaim D) : Prop :=
  r.authorizationId = r'.authorizationId ∨ r.authorizationSha256 = r'.authorizationSha256 ∨
  r.dispatchNonce = r'.dispatchNonce ∨ r.claimId = r'.claimId ∨ r.claimNonce = r'.claimNonce ∨
  r.receiptSha256 = r'.receiptSha256 ∨
  sqlEq r.retryOfAuthorizationId r'.retryOfAuthorizationId ∨
  sqlEq r.retryOfClaimSha256 r'.retryOfClaimSha256

instance (r r' : DispatchClaim D) : Decidable (r.conflicts r') :=
  inferInstanceAs (Decidable (_ ∨ _))

/-- The `CHECK` constraints and the foreign key of the table; the lengths of
digests hold by type. -/
def DispatchClaim.admissible (r : DispatchClaim D) (claims : List (DispatchClaim D)) : Prop :=
  0 ≤ r.claimedAtUnix ∧ 0 ≤ r.retryIndex ∧
  ((r.retryIndex = 0 ∧ r.retryOfAuthorizationId = none ∧ r.retryOfClaimSha256 = none) ∨
    (r.retryIndex > 0 ∧ r.retryOfAuthorizationId ≠ none ∧ r.retryOfClaimSha256 ≠ none)) ∧
  (r.retryOfAuthorizationId = none ∨ r.retryOfClaimSha256 = none ∨
    ∃ q ∈ r :: claims, r.retryOfAuthorizationId = some q.authorizationId ∧
      r.retryOfClaimSha256 = some q.receiptSha256)

instance (r : DispatchClaim D) (claims : List (DispatchClaim D)) :
    Decidable (r.admissible claims) :=
  inferInstanceAs (Decidable (_ ∧ _))

/-- The parent row that a retry must continue. -/
def continues (p : DispatchAuthorizationPayload D) (parent : DispatchClaim D) : Prop :=
  parent.retryIndex = p.retryIndex - 1 ∧ parent.bindingSha256 = dispatchBindingSha256 K p ∧
  ¬ p.issuedAtUnix < parent.claimedAtUnix ∧ p.retryOfClaimSha256 = some parent.receiptSha256

instance (p : DispatchAuthorizationPayload D) (parent : DispatchClaim D) :
    Decidable (continues K p parent) :=
  inferInstanceAs (Decidable (_ ∧ _))

/-- The retry check of `claim_authorization`. -/
def retryAllowed (p : DispatchAuthorizationPayload D) (claims : List (DispatchClaim D)) : Bool :=
  match p.retryOfAuthorizationId with
  | none => true
  | some id =>
    match claims.find? (·.authorizationId == id) with
    | none => false
    | some parent => continues K p parent

/-- The transaction of `claim_authorization`, from `_connect` on. -/
def claimTransaction (env : Env D) (v : VerifiedDispatchAuthorization D)
    (claimId : Sha256Text D) : Txn (Ledger D) DispatchError (DispatchAdmissionReceipt D) := do
  let message := "cannot commit dispatch authorization claim"
  env.run .connect "cannot open dispatch claim ledger"
  env.run .begin message
  .when (env.now < 0)
    (.abort (.rollback (.ledger "worker clock returned an invalid Unix time")))
  advanceHighWater env env.now message
  .when (¬ v.authorization.payload.inWindow env.now)
    (env.commitRaise message
      (.ledger "authorization is outside its validity window at durable claim"))
  match admissionReceipt K v claimId env with
  | none => do
    env.run .commit message
    .abort (.commit (.ledger "dispatch claim identity is invalid"))
  | some receipt => do
    let row := claimRow K receipt
    env.run .selectConflict message
    let s ← .read
    .when (∃ q ∈ s.claims, row.conflicts q)
      (env.commitRaise message (.alreadyClaimed
        "dispatch authorization, nonce, claim, or retry parent was already consumed"))
    .when (receipt.retryOfAuthorizationId ≠ none) (env.run .selectParent message)
    .when (¬ retryAllowed K v.authorization.payload s.claims)
      (env.commitRaise message (.ledger ("dispatch retry parent or claim receipt is missing, " ++
        "misbound, predates its claim, or has the wrong index")))
    env.run .insert message
    .when ((∃ q ∈ s.claims, row.conflicts q) ∨ ¬ row.admissible s.claims)
      (.abort (.rollback (.ledger "dispatch claim violated ledger integrity")))
    .write fun s => { s with claims := s.claims ++ [row] }
    env.run .commit message
    pure receipt

end Transactions

/-! ## The calls -/

inductive Call (D : Type) where
  | currentUnixTime
  /-- `DispatchClaimLedger(path)` on the provisioned database. -/
  | openLedger
  | advanceClock (observed : Int)
  | claim (v : VerifiedDispatchAuthorization D) (claimId : Sha256Text D)

/-- What a call returns, when it does not raise. -/
def Value {D : Type} : Call D → Type
  | .currentUnixTime => Int
  | .openLedger => Unit
  | .advanceClock _ => Unit
  | .claim _ _ => DispatchAdmissionReceipt D

abbrev Reply {D : Type} : Call D → Type := Replies DispatchError Value

/-- The arguments of one call, and which of the two functions it calls. -/
structure Request (D : Type) where
  authorization : SignedDispatchAuthorization D
  trustStore : DispatchTrustStore
  expectation : DispatchExpectation D
  claimId : Sha256Text D
  admitting : Bool

section Programs

variable {D : Type} [DecidableEq D] (K : Crypto D)

abbrev Program (D : Type) (α : Type) : Type := Act (Call D) Reply DispatchError α

def claimAuthorization (a : SignedDispatchAuthorization D) (t : DispatchTrustStore)
    (e : DispatchExpectation D) (claimId : Sha256Text D) :
    Program D (DispatchAdmissionReceipt D) := do
  let verificationTime ← Act.perform Call.currentUnixTime
  let _ ← Act.perform (Call.advanceClock verificationTime)
  let verified ← Act.lift (verifyAuthorization K a t e verificationTime true)
  Act.perform (Call.claim verified claimId)

def admitDispatch (a : SignedDispatchAuthorization D) (t : DispatchTrustStore)
    (e : DispatchExpectation D) (claimId : Sha256Text D) :
    Program D (DispatchAdmissionReceipt D) := do
  let verificationTime ← Act.perform Call.currentUnixTime
  let _ ← Act.lift (verifyAuthorization K a t e verificationTime false)
  let _ ← Act.perform Call.openLedger
  let _ ← Act.perform (Call.advanceClock verificationTime)
  claimAuthorization K a t e claimId

def Request.program (q : Request D) : Program D (DispatchAdmissionReceipt D) :=
  if q.admitting then admitDispatch K q.authorization q.trustStore q.expectation q.claimId
  else claimAuthorization K q.authorization q.trustStore q.expectation q.claimId

/-- What each call may reply and do: a clock reads anything, and a transaction
runs atomically, in some environment. -/
def Exec : (c : Call D) → Ledger D → Reply c → Ledger D → Prop
  | .currentUnixTime, s, r, s' => s' = s ∧ ∃ t : Int, r = .ok t
  | .openLedger, s, _, s' => s' = s
  | .advanceClock observed, s, r, s' => ∃ env, (advanceClock env observed).outcome s = (r, s')
  | .claim v claimId, s, r, s' => ∃ env, (claimTransaction K env v claimId).outcome s = (r, s')

def system : Concurrent (Request D) (Call D) Reply
    (Except DispatchError (DispatchAdmissionReceipt D)) (Ledger D) where
  prog q := q.program K
  exec := Exec K

end Programs

end Bpe.Dispatch
