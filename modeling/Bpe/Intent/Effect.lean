import Bpe.Intent.Ledger

/-!
# The intent ledger as a one-shot ledger

`claim_effect` says what the claim transaction can do: it refines one operation
of a one-shot ledger, which may reserve the identity of the verified intent
inside its window and record the receipt it replies.
-/

namespace Bpe.Intent

open Models

variable {D : Type}

/-- Rows are added and none is changed. -/
def Ledger.Grows (s s' : Ledger D) : Prop := OneShot.Extends s.view s'.view

theorem Ledger.Grows.refl (s : Ledger D) : s.Grows s := OneShot.Extends.refl _

theorem Ledger.Grows.trans {s s' s'' : Ledger D} (h : s.Grows s') (h' : s'.Grows s'') :
    s.Grows s'' :=
  OneShot.Extends.trans h h'

/-- The reservation that a claim of `v` makes. -/
def Reserves (K : Crypto D) (H : Handle) (v : VerifiedInertFixtureIntent D)
    (r : IntentReservation D) : Prop :=
  r.identity = reservationIdentity K H v ∧ v.intent.payload.inWindow r.reservedAtUnix

variable [DecidableEq D]

/-- The receipt that a claim of `v` under `claimId` makes. -/
def Makes (K : Crypto D) (v : VerifiedInertFixtureIntent D) (claimId : Sha256Text D)
    (r : InertFixtureIntentClaimReceipt D) : Prop :=
  r.valid K ∧ ∃ (id : D) (env : Env D), claimId = .sha256 id ∧ r = claimReceipt v id env

/-- The transaction left the receipt `made`, or none. -/
def Left (K : Crypto D) (H : Handle) (v : VerifiedInertFixtureIntent D) (claimId : Sha256Text D)
    (s : Ledger D) (made : Option (InertFixtureIntentClaimReceipt D)) (s' : Ledger D) : Prop :=
  OneShot.Effect rules (Reserves K H v) s.view (made.map (claimRow K)) s'.view ∧
    ∀ r ∈ made, Makes K v claimId r

variable {K : Crypto D} {H : Handle}

theorem claim_effect {env : Env D} {v : VerifiedInertFixtureIntent D} {claimId : Sha256Text D}
    {s s' : Ledger D} {reply : Except InertError (InertFixtureIntentClaimReceipt D)}
    (h : claim K H env v claimId s = (reply, s')) :
    ∃ made, Left K H v claimId s made s' ∧ ∀ r, reply = .ok r → made = some r := by
  obtain ⟨hreply, rfl⟩ := Prod.mk.inj h
  obtain ⟨made, ⟨heffect, hmade⟩, hok⟩ := OneShot.Consumption.effect
    (A := Reserves K H v) (fun now _ hwindow => ⟨⟨rfl, by simpa [consumption] using hwindow⟩, rfl⟩)
    (Prod.ext hreply rfl : (consumption K H v claimId).run env s.view = (reply, _))
  refine ⟨made, ⟨heffect, fun r hr => ?_⟩, hok⟩
  obtain ⟨hvalid, id, env, hid, hr⟩ := hmade r hr
  exact ⟨hvalid, id, env, Sha256Text.eq_of_nonzero? hid, hr⟩

/-- What any call does: only a claim touches the rows. -/
theorem exec_effect {c : Call D} {r : Reply c} {s s' : Ledger D} (h : Exec K H c s r s') :
    s' = s ∧ (∀ v claimId, c ≠ .claim v claimId) ∨
      ∃ v claimId reply made, (⟨c, r⟩ : Event Reply) = ⟨.claim v claimId, reply⟩ ∧
        Left K H v claimId s made s' ∧ ∀ r, reply = .ok r → made = some r := by
  cases c with
  | currentUnixTime => exact .inl ⟨h.1, by simp⟩
  | canonicalPath p => exact .inl ⟨h.1, by simp⟩
  | selectReservation d => exact .inl ⟨h.1, by simp⟩
  | selectClaim id => exact .inl ⟨h.1, by simp⟩
  | claim v claimId =>
    obtain ⟨env, henv⟩ := h
    obtain ⟨made, hleft, hmade⟩ := claim_effect henv
    exact .inr ⟨v, claimId, r, made, rfl, hleft, hmade⟩

/-- The receipt that a claim transaction replied. -/
def receipt? : Event (Reply (D := D)) → Option (InertFixtureIntentClaimReceipt D)
  | ⟨.claim _ _, .ok r⟩ => some r
  | _ => none

/-- What a call may reserve. -/
def Call.reserves (K : Crypto D) (H : Handle) : Call D → IntentReservation D → Prop
  | .claim v _, r => Reserves K H v r
  | _, _ => False

theorem conducts : OneShot.Conducts (system K H) rules Ledger.view (Call.reserves K H)
    receipt? := by
  intro c s r s' hx
  rcases exec_effect hx with ⟨rfl, hno⟩ | ⟨v, claimId, reply, made, hev, hleft, hmade⟩
  · refine ⟨none, .raised (.refl _), fun _ => ?_⟩
    cases c with
    | claim v claimId => exact absurd rfl (hno v claimId)
    | _ => rfl
  · cases hev
    refine ⟨_, hleft.1, fun hnone => ?_⟩
    cases reply with
    | error err => rfl
    | ok r =>
      rw [hmade r rfl] at hnone
      cases hnone

theorem exec_grows (c : Call D) (s : Ledger D) (r : Reply c) (s' : Ledger D)
    (h : Exec K H c s r s') : s.Grows s' :=
  conducts.extends c s r s' h

end Bpe.Intent
