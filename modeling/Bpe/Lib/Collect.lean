import Mathlib.Tactic
import Mathlib.Data.List.Sort

/-!
# Sets and sorted lists

Code that compares two collections as sets, or puts one in the order of a key.
Sorting by a key that no two entries share forgets the order they came in.
-/

namespace Bpe

open List

section Sets

variable {α : Type} [DecidableEq α] {a b : List α}

/-- Each list has the members of the other. -/
def sameSet (a b : List α) : Bool := a.all (b.contains ·) && b.all (a.contains ·)

theorem sameSet_iff : sameSet a b ↔ ∀ x, x ∈ a ↔ x ∈ b := by
  simp only [sameSet, Bool.and_eq_true, all_eq_true, contains_iff_mem]
  exact ⟨fun h x => ⟨h.1 x, h.2 x⟩, fun h => ⟨fun x => (h x).1, fun x => (h x).2⟩⟩

/-- Lists without repetition that have the same members are one list up to order. -/
theorem perm_of_sameSet (ha : a.Nodup) (hb : b.Nodup) (h : sameSet a b) : a.Perm b :=
  (perm_ext_iff_of_nodup ha hb).2 (sameSet_iff.1 h)

theorem eraseDups_eq_singleton {x : α} : a.eraseDups = [x] ↔ a ≠ [] ∧ ∀ y ∈ a, y = x := by
  cases a with
  | nil => simp
  | cons y l =>
    rw [eraseDups_cons, cons.injEq, forall_mem_cons]
    constructor
    · rintro ⟨rfl, hrest⟩
      refine ⟨cons_ne_nil _ _, rfl, fun z hz => ?_⟩
      by_contra hne
      have hmem : z ∈ (l.filter fun w => !w == y).eraseDups := by
        rw [mem_eraseDups, mem_filter]
        exact ⟨hz, by simpa using hne⟩
      rw [hrest] at hmem
      cases hmem
    · rintro ⟨-, rfl, hall⟩
      have hnone : (l.filter fun w => !w == y) = [] := by simpa using hall
      rw [hnone]
      exact ⟨rfl, rfl⟩

end Sets

/-- Where every entry has a value, the values are the entries. -/
theorem map_eq_map_some {α β : Type} {f : α → Option β} {l : List α} (h : ∀ a ∈ l, (f a).isSome) :
    l.map f = (l.filterMap f).map some := by
  induction l with
  | nil => rfl
  | cons a l ih =>
    obtain ⟨b, hb⟩ := Option.isSome_iff_exists.1 (h a mem_cons_self)
    rw [map_cons, filterMap_cons_some hb, map_cons, hb,
      ih fun x hx => h x (mem_cons_of_mem a hx)]

/-- A list is the entries of each key, one key after the other. -/
theorem perm_flatMap_filter {α κ : Type} [DecidableEq κ] (key : α → κ) {keys : List κ} {l : List α}
    (hkeys : keys.Nodup) (h : ∀ a ∈ l, key a ∈ keys) :
    (keys.flatMap fun k => l.filter fun a => key a = k).Perm l := by
  induction keys generalizing l with
  | nil =>
    cases l with
    | nil => exact .nil
    | cons a l => cases h a mem_cons_self
  | cons k keys ih =>
    obtain ⟨hk, hkeys⟩ := nodup_cons.1 hkeys
    have hrest : (keys.flatMap fun k' => l.filter fun a => key a = k') =
        keys.flatMap fun k' => (l.filter fun a => ¬ key a = k).filter fun a => key a = k' := by
      refine flatMap_congr fun k' hk' => ?_
      rw [filter_filter]
      refine filter_congr fun a _ => ?_
      by_cases ha : key a = k'
      · have hne : key a ≠ k := fun h => hk (h ▸ ha ▸ hk')
        simp [ha, ha ▸ hne]
      · simp [ha]
    have hmem : ∀ a ∈ l.filter (fun a => ¬ key a = k), key a ∈ keys := fun a ha => by
      obtain ⟨hal, hne⟩ := mem_filter.1 ha
      exact (mem_cons.1 (h a hal)).resolve_left (by simpa using hne)
    rw [flatMap_cons, hrest]
    refine ((ih hkeys hmem).append_left _).trans ?_
    simpa using filter_append_perm (fun a => decide (key a = k)) l

section Sorting

variable {α κ : Type} [LinearOrder κ] {key : α → κ} {l l' : List α}

/-- `sorted` by a key. -/
def sortOn (key : α → κ) (l : List α) : List α := l.insertionSort fun a b => key a ≤ key b

theorem perm_sortOn (key : α → κ) (l : List α) : (sortOn key l).Perm l :=
  perm_insertionSort _ l

theorem pairwise_sortOn (key : α → κ) (l : List α) :
    (sortOn key l).Pairwise fun a b => key a ≤ key b := by
  let le : α → α → Prop := fun a b => key a ≤ key b
  have : Std.Total le := ⟨fun a b => le_total (key a) (key b)⟩
  have : IsTrans α le := ⟨fun _ _ _ hab hbc => le_trans hab hbc⟩
  exact pairwise_insertionSort le l

theorem pairwise_sortOn_lt (hl : (l.map key).Nodup) :
    (sortOn key l).Pairwise fun a b => key a < key b := by
  have hkeys : ((sortOn key l).map key).Nodup := ((perm_sortOn key l).map key).nodup_iff.2 hl
  refine ((pairwise_sortOn key l).and (pairwise_map.1 hkeys)).imp ?_
  rintro a b ⟨hle, hne⟩
  exact lt_of_le_of_ne hle hne

/-- Sorting by distinct keys gives the same list for every order of the entries. -/
theorem sortOn_eq_of_perm (hl : (l.map key).Nodup) (h : l.Perm l') :
    sortOn key l = sortOn key l' := by
  apply List.Perm.eq_of_pairwise _ (pairwise_sortOn key l) (pairwise_sortOn key l')
    ((perm_sortOn key l).trans (h.trans (perm_sortOn key l').symm))
  intro a b ha hb hab hba
  have ha' : a ∈ l := (perm_sortOn key l).subset ha
  have hb' : b ∈ l := h.symm.subset ((perm_sortOn key l').subset hb)
  exact inj_on_of_nodup_map hl ha' hb' (le_antisymm hab hba)

/-- The list is what `sorted` makes of it. -/
def isSorted (l : List κ) : Bool := decide (l = sortOn id l)

theorem isSorted_iff {l : List κ} : isSorted l ↔ l.Pairwise (· ≤ ·) := by
  rw [isSorted, decide_eq_true_iff]
  constructor
  · intro h
    rw [h]
    exact pairwise_sortOn id l
  · intro h
    exact (h.insertionSort_eq).symm

end Sorting

end Bpe
