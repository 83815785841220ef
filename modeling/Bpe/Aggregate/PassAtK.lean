import Bpe.Lib.Except
import Bpe.Lib.Subsets

/-!
# The pass@k estimator

`pass_at_k_estimate` in exact arithmetic: of the subsets of `k` samples, the share that
has a success. Where fewer than `k` samples fail the source returns one without dividing;
the binomial coefficient is zero there, so that one formula covers both (`passAtK`).
-/

namespace Bpe.Aggregate

def passAtKEstimate (n c k : Int) : Except String ℚ :=
  if ¬ (0 ≤ c ∧ c ≤ n) then .error "successful samples must be between zero and n"
  else if ¬ (1 ≤ k ∧ k ≤ n) then .error "k must be between one and n"
  else if n - c < k then .ok 1
  else .ok (1 - (n - c).toNat.choose k.toNat / n.toNat.choose k.toNat)

def passAtK (n c k : Nat) : ℚ := 1 - (n - c).choose k / n.choose k

variable {n c k : Nat}

theorem passAtKEstimate_eq (hc : c ≤ n) (hk : 1 ≤ k) (hkn : k ≤ n) :
    passAtKEstimate n c k = .ok (passAtK n c k) := by
  rw [passAtKEstimate, if_neg (by omega), if_neg (by omega), passAtK]
  have hsub : ((n : Int) - c).toNat = n - c := by omega
  split
  next hfew =>
    have hzero : (n - c).choose k = 0 := Nat.choose_eq_zero_of_lt (by omega)
    rw [hzero, Nat.cast_zero, zero_div, sub_zero]
  next => rw [hsub, Int.toNat_natCast, Int.toNat_natCast]

theorem passAtK_eq_share {α : Type} [DecidableEq α] {samples successes : Finset α}
    (hsub : successes ⊆ samples) (hk : k ≤ samples.card) :
    passAtK samples.card successes.card k =
      ((samples.powersetCard k).filter fun u => ∃ x ∈ u, x ∈ successes).card /
        (samples.powersetCard k).card := by
  have hpos : (0 : ℚ) < samples.card.choose k := by exact_mod_cast Nat.choose_pos hk
  have hcount : (((samples.powersetCard k).filter fun u => ∃ x ∈ u, x ∈ successes).card : ℚ) =
      samples.card.choose k - (samples.card - successes.card).choose k := by
    rw [eq_sub_iff_add_eq]
    exact_mod_cast card_meeting_add_choose hsub
  rw [passAtK, hcount, Finset.card_powersetCard, sub_div, div_self hpos.ne']

theorem passAtK_nonneg : 0 ≤ passAtK n c k := by
  have hle : (n - c).choose k ≤ n.choose k := Nat.choose_le_choose k (Nat.sub_le n c)
  rw [passAtK, sub_nonneg]
  refine div_le_one_of_le₀ ?_ (Nat.cast_nonneg _)
  exact_mod_cast hle

theorem passAtK_le_one : passAtK n c k ≤ 1 := by
  rw [passAtK, sub_le_self_iff]
  positivity

theorem passAtK_mono_successes {c' : Nat} (h : c ≤ c') : passAtK n c k ≤ passAtK n c' k := by
  have hle : (n - c').choose k ≤ (n - c).choose k := Nat.choose_le_choose k (by omega)
  rw [passAtK, passAtK, sub_le_sub_iff_left]
  gcongr

theorem passAtK_mono_size {k' : Nat} (h : k ≤ k') (hk' : k' ≤ n) :
    passAtK n c k ≤ passAtK n c k' := by
  rw [passAtK, passAtK, sub_le_sub_iff_left]
  exact choose_ratio_antitone (Nat.sub_le n c) h hk'

theorem passAtK_eq_zero (hc : c ≤ n) (hk : 1 ≤ k) (hkn : k ≤ n) :
    passAtK n c k = 0 ↔ c = 0 := by
  have hpos : (0 : ℚ) < n.choose k := by exact_mod_cast Nat.choose_pos hkn
  rw [passAtK, sub_eq_zero, eq_comm, div_eq_one_iff_eq hpos.ne', Nat.cast_inj]
  constructor
  · intro heq
    by_contra hne
    exact absurd heq (choose_lt_choose_left hk hkn (by omega)).ne
  · rintro rfl
    rw [Nat.sub_zero]

theorem passAtK_one (hc : c ≤ n) (hn : 1 ≤ n) : passAtK n c 1 = c / n := by
  have hpos : (0 : ℚ) < n := by exact_mod_cast hn
  rw [passAtK, Nat.choose_one_right, Nat.choose_one_right, Nat.cast_sub hc, sub_div,
    div_self hpos.ne', sub_sub_cancel]

/-- **The estimate is the probability that a subset of the samples has a success.** -/
theorem pass_at_k_subset_probability (hc : c ≤ n) (hk : 1 ≤ k) (hkn : k ≤ n) :
    ∃ q, passAtKEstimate n c k = .ok q ∧
      (∀ (α : Type) [DecidableEq α] (samples successes : Finset α), successes ⊆ samples →
        samples.card = n → successes.card = c →
        q = ((samples.powersetCard k).filter fun u => ∃ x ∈ u, x ∈ successes).card /
          (samples.powersetCard k).card) ∧
      0 ≤ q ∧ q ≤ 1 ∧
      (∀ c' : Nat, c ≤ c' → c' ≤ n → ∃ q', passAtKEstimate n c' k = .ok q' ∧ q ≤ q') ∧
      (∀ k' : Nat, k ≤ k' → k' ≤ n → ∃ q', passAtKEstimate n c k' = .ok q' ∧ q ≤ q') ∧
      (q = 0 ↔ c = 0) ∧ (k = 1 → q = c / n) := by
  refine ⟨passAtK n c k, passAtKEstimate_eq hc hk hkn, ?_, passAtK_nonneg, passAtK_le_one,
    ?_, ?_, passAtK_eq_zero hc hk hkn, ?_⟩
  · rintro α _ samples successes hsub rfl rfl
    exact passAtK_eq_share hsub hkn
  · intro c' hcc' hc'
    exact ⟨_, passAtKEstimate_eq hc' hk hkn, passAtK_mono_successes hcc'⟩
  · intro k' hkk' hk'
    exact ⟨_, passAtKEstimate_eq hc (hk.trans hkk') hk', passAtK_mono_size hkk' hk'⟩
  · rintro rfl
    exact passAtK_one hc hkn

/-- Two of four samples: five of the six pairs have one. -/
theorem pass_at_k_subset_probability_pairs :
    let pairs := (Finset.range 4).powersetCard 2
    let good := pairs.filter fun u => ∃ x ∈ u, x ∈ Finset.range 2
    good.card = 5 ∧ pairs.card = 6 ∧ passAtKEstimate 4 2 2 = .ok (5 / 6) := by
  intro pairs good
  have hgood : good.card = 5 := by decide
  have hpairs : pairs.card = 6 := by decide
  obtain ⟨q, hq, hshare, -⟩ :=
    pass_at_k_subset_probability (show 2 ≤ 4 by omega) (show 1 ≤ 2 by omega) (show 2 ≤ 4 by omega)
  have heq : q = good.card / pairs.card :=
    hshare ℕ (Finset.range 4) (Finset.range 2) (by decide) rfl rfl
  rw [hgood, hpairs] at heq
  subst heq
  exact ⟨hgood, hpairs, hq⟩

end Bpe.Aggregate
