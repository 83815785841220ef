import Bpe.Intent.OneShot

/-!
# Recovering a committed claim

A receipt that `recover_committed_receipt` returns was read back from the
ledger, row for row, and is a receipt of the intent it was asked for.
-/

namespace Bpe.Intent

open Models Act

variable {D : Type}

/-- The calls so far include a snapshot that shows the receipt's row. -/
def Shown (K : Crypto D) (r : InertFixtureIntentClaimReceipt D)
    (h : List (Event (Reply (D := D)))) : Prop :=
  ⟨.selectClaim r.intentId, .ok (some (claimRow K r))⟩ ∈ h

/-- The receipt repeats what the intent signs. -/
structure ReceiptOf (K : Crypto D) (i : SignedInertFixtureIntent D)
    (r : InertFixtureIntentClaimReceipt D) : Prop where
  intentSha256 : r.intentSha256 = K.sha256Json (.intent i)
  intentId : r.intentId = i.payload.intentId
  intentNonce : r.intentNonce = i.payload.intentNonce
  expiresAtUnix : r.intentExpiresAtUnix = i.payload.expiresAtUnix
  bindings : r.bindings = i.payload.bindings

/-- The call is none that writes. -/
def Call.Reads (c : Call D) : Prop := ∀ v claimId, c ≠ .claim v claimId

theorem reads_currentUnixTime : (Call.currentUnixTime : Call D).Reads := by simp [Call.Reads]

theorem reads_canonicalPath (p : String) : (Call.canonicalPath p : Call D).Reads := by
  simp [Call.Reads]

theorem reads_selectReservation (d : D) : (Call.selectReservation d).Reads := by simp [Call.Reads]

theorem reads_selectClaim (id : String) : (Call.selectClaim id : Call D).Reads := by
  simp [Call.Reads]

variable [DecidableEq D] {K : Crypto D} {H : Handle}
  {P : List (Event (Reply (D := D))) → Call D → Prop} {h : List (Event (Reply (D := D)))}

theorem verifyCommittedReceipt_guards (hP : ∀ h c, c.Reads → P h c)
    (r : InertFixtureIntentClaimReceipt D) :
    Act.Guards P (fun h _ => Shown K r h) (fun _ _ => True) h (verifyCommittedReceipt K H r) := by
  unfold verifyCommittedReceipt OneShot.Recall.verify
  refine guards_check_bind (fun _ => trivial) fun _ => ?_
  refine guards_check_bind (fun _ => trivial) fun _ => ?_
  refine guards_bind.2 ((guards_perform (c := Call.selectClaim _)).2
    ⟨hP _ _ (reads_selectClaim _), fun (row : Option (IntentClaim D)) => ?_, fun _ => trivial⟩)
  refine guards_check_bind (fun _ => trivial) fun hrow => ?_
  refine guards_pure.2 ?_
  have hrow : row = some (claimRow K r) := Classical.not_not.1 hrow
  subst hrow
  exact List.mem_append_right _ (List.mem_singleton.2 rfl)

/-- A recovered receipt carries the digests of authentic inputs. -/
structure RecoveredOf (K : Crypto D) (H : Handle) (i : SignedInertFixtureIntent D)
    (t : InertFixtureIntentTrustStore) (e : InertFixtureIntentExpectation D)
    (r : InertFixtureIntentClaimReceipt D) : Prop where
  authentic : Authentic K H i t e
  intentSha256 : r.intentSha256 = K.sha256Json (.intent i)
  payloadSha256 : r.intentPayloadSha256 = K.sha256Json (.payload i.payload)
  trustStoreSha256 : r.trustStoreSha256 = K.sha256Json (.trustStore t)

theorem recoverCommittedReceipt_guards (hP : ∀ h c, c.Reads → P h c)
    (i : SignedInertFixtureIntent D) (t : InertFixtureIntentTrustStore)
    (e : InertFixtureIntentExpectation D) :
    Act.Guards P (fun h r => ReceiptOf K i r ∧ Shown K r h ∧ RecoveredOf K H i t e r)
      (fun _ _ => True) h (recoverCommittedReceipt K H i t e) := by
  unfold recoverCommittedReceipt
  refine guards_bind.2 (guards_perform.2 ⟨hP _ _ reads_currentUnixTime, fun now => ?_,
    fun _ => trivial⟩)
  refine guards_bind.2 (verifyInertFixtureIntent_guards (hP _ _ (reads_canonicalPath _))
    (fun _ => trivial) (fun _ _ => trivial) fun b b' v hv => ?_)
  refine guards_check_bind (fun _ => trivial) fun howns => ?_
  have hauthentic := authentic_of_verified hv (Classical.not_not.1 howns)
  obtain ⟨hverified, rfl, -, -⟩ := authenticateIntent_ok hv
  unfold OneShot.Recall.recover
  refine guards_bind.2 ((guards_perform (c := Call.selectReservation _)).2
    ⟨hP _ _ (reads_selectReservation _), fun row => ?_, fun _ => trivial⟩)
  rcases row with _ | ⟨reservation, _ | c⟩
  · exact guards_raise.2 trivial
  · exact guards_check_bind (fun _ => trivial) fun _ => guards_raise.2 trivial
  · refine guards_check_bind (fun _ => trivial) fun _ => ?_
    refine guards_check_bind (fun _ => trivial) fun _ => ?_
    refine guards_check_bind (fun _ => trivial) fun hrec => ?_
    refine guards_bind.2 ((verifyCommittedReceipt_guards hP _).mono (fun h _ hshown => ?_)
      fun _ _ _ => trivial)
    refine guards_check_bind (fun _ => trivial) fun _ => ?_
    obtain ⟨-, hid, hsha, hpayload, -, -, htrust, hnonce, -, -, hexp, hbind, -⟩ :=
      of_decide_eq_true (Classical.not_not.1 hrec)
    have hsha' := hsha.trans hverified.intentSha256
    exact guards_pure.2 ⟨⟨hsha', hid, hnonce, hexp, hbind⟩, hshown, hauthentic, hsha',
      hpayload.trans hverified.payloadSha256, htrust.trans hverified.trustStoreSha256⟩

end Bpe.Intent
