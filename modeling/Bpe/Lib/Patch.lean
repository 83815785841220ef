import Bpe.Lib.Collect

/-!
# Finite maps and patches

A list of entries is a map from keys to values: the dictionary that is built from
it, where the last entry of a key counts. Setting, one after the other, the keys
at which two maps differ to their values in the second turns the first into the
second.
-/

namespace Bpe

open List

variable {ε κ α : Type}

section Entries

variable [DecidableEq κ] {key : ε → κ} {value : ε → α} {l l' : List ε} {k : κ}

/-- The value of a key in the dictionary of the entries. -/
def dictOf (key : ε → κ) (value : ε → α) (l : List ε) (k : κ) : Option α :=
  (l.reverse.find? fun e => key e = k).map value

theorem dictOf_eq_some (hl : (l.map key).Nodup) {a : α} :
    dictOf key value l k = some a ↔ ∃ e ∈ l, key e = k ∧ value e = a := by
  rw [dictOf, Option.map_eq_some_iff]
  constructor
  · rintro ⟨e, he, rfl⟩
    refine ⟨e, mem_reverse.1 (mem_of_find?_eq_some he), ?_, rfl⟩
    simpa using find?_some he
  · rintro ⟨e, he, rfl, rfl⟩
    obtain ⟨b, hb⟩ : ∃ b, (l.reverse.find? fun b => key b = key e) = some b :=
      Option.isSome_iff_exists.1 (find?_isSome.2 ⟨e, mem_reverse.2 he, by simp⟩)
    have hmem : b ∈ l := mem_reverse.1 (mem_of_find?_eq_some hb)
    have hkey : key b = key e := by simpa using find?_some hb
    exact ⟨b, hb, congrArg value (inj_on_of_nodup_map hl hmem he hkey)⟩

theorem dictOf_isSome : (dictOf key value l k).isSome ↔ k ∈ l.map key := by
  rw [dictOf, Option.isSome_map, find?_isSome, mem_map]
  simp

theorem dictOf_eq_none : dictOf key value l k = none ↔ k ∉ l.map key := by
  rw [← Option.not_isSome_iff_eq_none, dictOf_isSome]

end Entries

/-- Of a list of keys, those that two maps differ at. -/
def differing [DecidableEq α] (keys : List κ) (m m' : κ → Option α) : List κ :=
  keys.filter fun k => m k ≠ m' k

theorem mem_differing [DecidableEq α] {keys : List κ} {m m' : κ → Option α} {k : κ}
    (h : m k ≠ m' k → k ∈ keys) : k ∈ differing keys m m' ↔ m k ≠ m' k := by
  rw [differing, mem_filter, decide_eq_true_iff]
  exact ⟨And.right, fun hk => ⟨h hk, hk⟩⟩

theorem filterMap_differing [DecidableEq α] {β : Type} {keys : List κ} {m m' : κ → Option α}
    {f : κ → β} : (keys.filterMap fun k => if m k ≠ m' k then some (f k) else none) =
      (differing keys m m').map f := by
  induction keys with
  | nil => rfl
  | cons k keys ih =>
    unfold differing at ih ⊢
    by_cases hk : m k = m' k
    · simpa [hk] using ih
    · simpa [hk] using ih

/-- Setting keys to their values in `m'` leaves the map as it is at the others. -/
theorem foldl_update [DecidableEq κ] (m' : κ → Option α) (keys : List κ) (m : κ → Option α)
    (k : κ) : keys.foldl (fun m j => Function.update m j (m' j)) m k =
      if k ∈ keys then m' k else m k := by
  induction keys generalizing m with
  | nil => rfl
  | cons j keys ih =>
    rw [foldl_cons, ih]
    by_cases hk : k ∈ keys
    · rw [if_pos hk, if_pos (mem_cons_of_mem j hk)]
    · by_cases hj : k = j
      · subst hj
        rw [if_neg hk, if_pos mem_cons_self, Function.update_self]
      · rw [if_neg hk, Function.update_of_ne hj, if_neg]
        exact fun h => (mem_cons.1 h).elim hj hk

/-- The keys that stand in one of two lists, in increasing order. -/
def unionKeys [LinearOrder κ] (a b : List κ) : List κ := sortOn id (a ++ b).dedup

theorem mem_unionKeys [LinearOrder κ] {a b : List κ} {k : κ} :
    k ∈ unionKeys a b ↔ k ∈ a ∨ k ∈ b := by
  rw [unionKeys, (perm_sortOn id _).mem_iff, mem_dedup, mem_append]

theorem pairwise_unionKeys [LinearOrder κ] (a b : List κ) :
    (unionKeys a b).Pairwise (· < ·) := by
  have hkeys : ((a ++ b).dedup.map id).Nodup := by
    rw [map_id]
    exact nodup_dedup _
  exact pairwise_sortOn_lt hkeys

end Bpe
