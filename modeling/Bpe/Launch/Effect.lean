import Bpe.Intent.Recover
import Bpe.Launch.Ledger

/-!
# The launch ledger as a one-shot ledger

`consume_effect` says what the consumption transaction can do: it refines one
operation of a one-shot ledger, which may reserve the identity of the
authenticated claim inside its interval and record the receipt it replies.
-/

namespace Bpe.Launch

open Models Intent

variable {D : Type}

/-- The reservation that a consumption of `v` makes. -/
def Reserves (K : Crypto D) (L : Handle) (v : VerifiedInertFixtureLaunchAttempt D)
    (r : LaunchReservation D) : Prop :=
  r.identity = launchIdentity K L v ∧ inClaimInterval v.claimReceipt r.reservedAtUnix

/-- Rows are added to either ledger and none is changed. -/
structure Store.Grows (s s' : Store D) : Prop where
  claims : s.claims.Grows s'.claims
  launches : OneShot.Extends s.launches.view s'.launches.view

theorem Store.Grows.refl (s : Store D) : s.Grows s := ⟨.refl _, .refl _⟩

theorem Store.Grows.trans {s s' s'' : Store D} (h : s.Grows s') (h' : s'.Grows s'') :
    s.Grows s'' :=
  ⟨h.claims.trans h'.claims, h.launches.trans h'.launches⟩

variable [DecidableEq D]

/-- The receipt that a consumption of `v` under `attemptId` makes. -/
def Makes (K : Crypto D) (L : Handle) (v : VerifiedInertFixtureLaunchAttempt D)
    (attemptId : Sha256Text D) (r : InertFixtureLaunchAttemptReceipt D) : Prop :=
  r.valid K ∧ ∃ (id : D) (env : Env D), attemptId = .sha256 id ∧ r = attemptReceipt L v id env

/-- The transaction left the receipt `made`, or none. -/
def Left (K : Crypto D) (L : Handle) (v : VerifiedInertFixtureLaunchAttempt D)
    (attemptId : Sha256Text D) (s : LaunchLedger D)
    (made : Option (InertFixtureLaunchAttemptReceipt D)) (s' : LaunchLedger D) : Prop :=
  OneShot.Effect rules (Reserves K L v) s.view (made.map (attemptRow K L v)) s'.view ∧
    ∀ r ∈ made, Makes K L v attemptId r

variable {K : Crypto D} {L : Handle}

theorem consume_effect {env : Env D} {v : VerifiedInertFixtureLaunchAttempt D}
    {attemptId : Sha256Text D} {s s' : LaunchLedger D}
    {reply : Except InertError (InertFixtureLaunchAttemptReceipt D)}
    (h : consume K L env v attemptId s = (reply, s')) :
    ∃ made, Left K L v attemptId s made s' ∧ ∀ r, reply = .ok r → made = some r := by
  obtain ⟨hreply, rfl⟩ := Prod.mk.inj h
  have hreserves (now : Int) (hbehind : ¬ (consumption K L v attemptId).behind now)
      (houtside : ¬ (consumption K L v attemptId).outside now) :
      Reserves K L v ⟨launchIdentity K L v, now⟩ := by
    simp only [consumption, decide_eq_true_eq, not_or, not_lt, not_le] at hbehind houtside
    exact ⟨rfl, hbehind.2, houtside⟩
  obtain ⟨made, ⟨heffect, hmade⟩, hok⟩ := OneShot.Consumption.effect (A := Reserves K L v)
    (fun now hbehind houtside => ⟨hreserves now hbehind houtside, rfl⟩)
    (Prod.ext hreply rfl : (consumption K L v attemptId).run env s.view = (reply, _))
  refine ⟨made, ⟨heffect, fun r hr => ?_⟩, hok⟩
  obtain ⟨hvalid, id, env, hid, hr⟩ := hmade r hr
  exact ⟨hvalid, id, env, Sha256Text.eq_of_nonzero? hid, hr⟩

/-! ## Both ledgers -/

variable {H : Intent.Handle}

/-- What any call does: a consumption changes the launch ledger, a call of the
intent ledger the claims, and no other call anything. -/
theorem exec_effect {c : Call D} {r : Reply c} {s s' : Store D} (h : Exec K H L c s r s') :
    (s.claims.Grows s'.claims ∧ s'.launches = s.launches ∧
      ∀ v attemptId, c ≠ .consume v attemptId) ∨
      ∃ v attemptId reply made, (⟨c, r⟩ : Event Reply) = ⟨.consume v attemptId, reply⟩ ∧
        s'.claims = s.claims ∧ Left K L v attemptId s.launches made s'.launches ∧
        ∀ r, reply = .ok r → made = some r := by
  cases c with
  | intent c => exact .inl ⟨Intent.exec_grows _ _ _ _ h.1, h.2, by simp⟩
  | selectReservation d => exact .inl ⟨h.1 ▸ .refl _, h.1 ▸ rfl, by simp⟩
  | selectAttempt id => exact .inl ⟨h.1 ▸ .refl _, h.1 ▸ rfl, by simp⟩
  | consume v attemptId =>
    obtain ⟨hclaims, env, henv⟩ := h
    obtain ⟨made, hleft, hmade⟩ := consume_effect henv
    exact .inr ⟨v, attemptId, r, made, rfl, hclaims, hleft, hmade⟩

theorem exec_grows (c : Call D) (s : Store D) (r : Reply c) (s' : Store D)
    (h : Exec K H L c s r s') : s.Grows s' := by
  rcases exec_effect h with ⟨hclaims, hlaunches, _⟩ | ⟨v, attemptId, reply, made, _, hclaims, hl, _⟩
  · exact ⟨hclaims, by rw [hlaunches]; exact .refl _⟩
  · exact ⟨by rw [hclaims]; exact .refl _, hl.1.extends⟩

end Bpe.Launch
