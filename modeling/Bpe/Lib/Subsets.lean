import Mathlib.Tactic
import Mathlib.Data.Nat.Choose.Sum

/-!
# Subsets of a size that meet a set

Of the subsets with `k` elements those that avoid a set are the subsets of the rest, so
that the ones that meet it are counted by a difference of binomial coefficients. The
share that avoids it falls with the size of the set and with `k`.
-/

namespace Bpe

variable {α : Type} [DecidableEq α] {s t : Finset α} {m n k : Nat}

theorem card_avoiding (h : t ⊆ s) :
    ((s.powersetCard k).filter fun u => ¬ ∃ x ∈ u, x ∈ t).card =
      (s.card - t.card).choose k := by
  have hrest : ((s.powersetCard k).filter fun u => ¬ ∃ x ∈ u, x ∈ t) =
      (s \ t).powersetCard k := by
    ext u
    simp only [Finset.mem_filter, Finset.mem_powersetCard, Finset.subset_iff, Finset.mem_sdiff,
      not_exists, not_and]
    constructor
    · rintro ⟨⟨hsub, hcard⟩, havoid⟩
      exact ⟨fun x hx => ⟨hsub hx, havoid x hx⟩, hcard⟩
    · rintro ⟨hsub, hcard⟩
      exact ⟨⟨fun x hx => (hsub hx).1, hcard⟩, fun x hx => (hsub hx).2⟩
  rw [hrest, Finset.card_powersetCard, Finset.card_sdiff_of_subset h]

/-- The subsets that meet a set and those that avoid it are all of them. -/
theorem card_meeting_add_choose (h : t ⊆ s) :
    ((s.powersetCard k).filter fun u => ∃ x ∈ u, x ∈ t).card + (s.card - t.card).choose k =
      s.card.choose k := by
  rw [← card_avoiding h, Finset.card_filter_add_card_filter_not, Finset.card_powersetCard]

/-- One more element in the subsets, of the smaller set at most as much more. -/
theorem choose_succ_mul_le (h : m ≤ n) :
    m.choose (k + 1) * n.choose k ≤ m.choose k * n.choose (k + 1) := by
  have hm := Nat.choose_succ_right_eq m k
  have hn := Nat.choose_succ_right_eq n k
  refine Nat.le_of_mul_le_mul_right ?_ (Nat.succ_pos k)
  calc m.choose (k + 1) * n.choose k * (k + 1)
      = m.choose k * n.choose k * (m - k) := by
        rw [Nat.mul_right_comm, hm]
        ring
    _ ≤ m.choose k * n.choose k * (n - k) :=
        Nat.mul_le_mul_left _ (Nat.sub_le_sub_right h k)
    _ = m.choose k * n.choose (k + 1) * (k + 1) := by
        rw [Nat.mul_assoc (m.choose k) (n.choose (k + 1)), hn]
        ring

theorem choose_ratio_antitone {l : Nat} (h : m ≤ n) (hkl : k ≤ l) (hl : l ≤ n) :
    (m.choose l / n.choose l : ℚ) ≤ m.choose k / n.choose k := by
  induction l, hkl using Nat.le_induction with
  | base => exact le_rfl
  | succ l hkl ih =>
    refine le_trans ?_ (ih (Nat.le_of_succ_le hl))
    have hpos : ∀ {j}, j ≤ n → (0 : ℚ) < n.choose j :=
      fun hj => by exact_mod_cast Nat.choose_pos hj
    rw [div_le_div_iff₀ (hpos hl) (hpos (Nat.le_of_succ_le hl))]
    exact_mod_cast choose_succ_mul_le h

theorem choose_lt_choose_left (hk : 1 ≤ k) (hkn : k ≤ n) (h : m < n) :
    m.choose k < n.choose k := by
  obtain ⟨n, rfl⟩ := Nat.exists_eq_succ_of_ne_zero (by omega : n ≠ 0)
  obtain ⟨k, rfl⟩ := Nat.exists_eq_succ_of_ne_zero (by omega : k ≠ 0)
  have hle : m.choose (k + 1) ≤ n.choose (k + 1) := Nat.choose_le_choose _ (by omega)
  have hpos : 0 < n.choose k := Nat.choose_pos (by omega)
  have hsplit : (n + 1).choose (k + 1) = n.choose k + n.choose (k + 1) := Nat.choose_succ_succ n k
  rw [Nat.succ_eq_add_one, Nat.succ_eq_add_one]
  omega

end Bpe
