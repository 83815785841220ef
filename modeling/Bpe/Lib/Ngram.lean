import Mathlib.Tactic
import Mathlib.Data.Finset.Card

/-!
# Similarity by n-grams

The n-grams of a list are the parts of that length that stand together in it
(`mem_ngrams`), so that those of a part are among those of the whole. Two sets of them
are compared by the share of common ones in all (`jaccard`) and in the smaller set
(`containment`); a set within the other is contained wholly.
-/

namespace Bpe

open List

variable {α : Type} [DecidableEq α] {size : Nat} {a b g : List α}

def ngrams (size : Nat) (tokens : List α) : Finset (List α) :=
  if tokens.length < size then ∅
  else ((range (tokens.length - size + 1)).map fun i =>
    (tokens.drop i).take size).toFinset

theorem mem_ngrams : g ∈ ngrams size a ↔ g.length = size ∧ g <:+: a := by
  rw [ngrams]
  split
  next h =>
    simp only [Finset.notMem_empty, false_iff, not_and]
    intro hsize hwithin
    have := hwithin.length_le
    omega
  next h =>
    simp only [mem_toFinset, mem_map, mem_range]
    constructor
    · rintro ⟨i, hi, rfl⟩
      refine ⟨?_, .trans (IsPrefix.isInfix <| take_prefix _ _) (drop_suffix _ _).isInfix⟩
      rw [length_take, length_drop]
      omega
    · rintro ⟨hsize, front, back, rfl⟩
      refine ⟨front.length, ?_, ?_⟩
      · simp only [length_append]
        omega
      · rw [append_assoc, drop_left, ← hsize, take_left]

theorem ngrams_subset (h : a <:+: b) : ngrams size a ⊆ ngrams size b := by
  intro g hg
  obtain ⟨hsize, hwithin⟩ := mem_ngrams.1 hg
  exact mem_ngrams.2 ⟨hsize, hwithin.trans h⟩

theorem ngrams_card_pos (h : size ≤ a.length) : 0 < (ngrams size a).card := by
  refine Finset.card_pos.2 ⟨a.take size, mem_ngrams.2 ⟨?_, IsPrefix.isInfix <| take_prefix _ _⟩⟩
  rw [length_take]
  omega

/-! ## Similarity -/

variable {β : Type} [DecidableEq β] {s t : Finset β}

def jaccard (s t : Finset β) : ℚ := (s ∩ t).card / (s ∪ t).card

def containment (s t : Finset β) : ℚ := (s ∩ t).card / min s.card t.card

theorem jaccard_nonneg : 0 ≤ jaccard s t := by
  rw [jaccard]
  positivity

theorem containment_nonneg : 0 ≤ containment s t := by
  rw [containment]
  positivity

theorem jaccard_le_one : jaccard s t ≤ 1 := by
  refine div_le_one_of_le₀ ?_ (Nat.cast_nonneg _)
  exact_mod_cast Finset.card_le_card (Finset.inter_subset_left.trans Finset.subset_union_left)

theorem containment_le_one : containment s t ≤ 1 := by
  refine div_le_one_of_le₀ ?_ (Nat.cast_nonneg _)
  exact_mod_cast le_min (Finset.card_le_card Finset.inter_subset_left)
    (Finset.card_le_card Finset.inter_subset_right)

theorem containment_of_subset (h : s ⊆ t) (hs : 0 < s.card) : containment s t = 1 := by
  rw [containment, Finset.inter_eq_left.2 h, min_eq_left (Finset.card_le_card h)]
  exact div_self (by exact_mod_cast hs.ne')

theorem containment_comm : containment s t = containment t s := by
  rw [containment, containment, Finset.inter_comm, min_comm]

end Bpe
