import Mathlib.Tactic
import Mathlib.Data.List.Basic

/-!
# Branches of a tree

A node is named by its path from the root. Its ancestors are the nonempty parts that
begin its path, itself apart (`mem_ancestors`); its children are the last names of the
paths one longer (`mem_children`).
-/

namespace Bpe

open List

variable {α : Type} {p q : List α}

def ancestors (p : List α) : List (List α) := (range (p.length - 1)).map fun i => p.take (i + 1)

theorem mem_ancestors : q ∈ ancestors p ↔ q ≠ [] ∧ q <+: p ∧ q ≠ p := by
  rw [ancestors, mem_map]
  constructor
  · rintro ⟨i, hi, rfl⟩
    rw [mem_range] at hi
    have hlength : (p.take (i + 1)).length = i + 1 := by
      rw [length_take]
      omega
    refine ⟨?_, take_prefix _ _, fun heq => ?_⟩
    · intro hnil
      rw [hnil] at hlength
      cases hlength
    · rw [heq] at hlength
      omega
  · rintro ⟨hne, hfront, hproper⟩
    have hpos := length_pos_iff.2 hne
    have hle := hfront.length_le
    have hlt : q.length ≠ p.length := fun h => hproper (hfront.eq_of_length h)
    refine ⟨q.length - 1, mem_range.2 (by omega), ?_⟩
    rw [Nat.sub_add_cancel hpos]
    exact (prefix_iff_eq_take.1 hfront).symm

theorem not_mem_ancestors_self : p ∉ ancestors p := fun h => (mem_ancestors.1 h).2.2 rfl

theorem ancestors_trans {r : List α} (hq : q ∈ ancestors p) (hr : r ∈ ancestors q) :
    r ∈ ancestors p := by
  obtain ⟨-, hqp, hne⟩ := mem_ancestors.1 hq
  obtain ⟨hr, hrq, -⟩ := mem_ancestors.1 hr
  refine mem_ancestors.2 ⟨hr, hrq.trans hqp, ?_⟩
  rintro rfl
  exact hne (hqp.eq_of_length_le hrq.length_le)

/-- A node above another has a child above it or equal to it. -/
theorem exists_child (h : p <+: q) (hne : p ≠ q) : ∃ a, p ++ [a] <+: q := by
  obtain ⟨rest, rfl⟩ := h
  cases rest with
  | nil => exact absurd (append_nil p).symm hne
  | cons a rest =>
    refine ⟨a, rest, ?_⟩
    rw [append_assoc, singleton_append]

/-- Of a set that has the ancestors of its members, every nonempty start of a member is one. -/
theorem mem_of_isPrefix {s : Set (List α)} (h : ∀ q ∈ s, ∀ d ∈ ancestors q, d ∈ s) (hq : q ∈ s)
    (hne : p ≠ []) (hp : p <+: q) : p ∈ s := by
  by_cases heq : p = q
  · exact heq ▸ hq
  · exact h q hq p (mem_ancestors.2 ⟨hne, hp, heq⟩)

/-- The parent of a node is the root or an ancestor. -/
theorem dropLast_mem_ancestors (h : p.dropLast ≠ []) : p.dropLast ∈ ancestors p := by
  refine mem_ancestors.2 ⟨h, dropLast_prefix p, fun heq => ?_⟩
  have hp : p ≠ [] := by
    rintro rfl
    exact h rfl
  have hpos := length_pos_iff.2 hp
  have := congrArg length heq
  rw [length_dropLast] at this
  omega

theorem singleton_mem_ancestors {a : α} : [a] ∈ ancestors p ↔ p.head? = some a ∧ p ≠ [a] := by
  rw [mem_ancestors]
  constructor
  · rintro ⟨-, ⟨rest, rfl⟩, hne⟩
    exact ⟨rfl, hne.symm⟩
  · rintro ⟨hhead, hne⟩
    obtain ⟨rest, rfl⟩ := head?_eq_some_iff.1 hhead
    exact ⟨cons_ne_nil _ _, ⟨rest, rfl⟩, hne.symm⟩

theorem concat_eq_singleton {a b : α} (h : p ++ [a] = [b]) : p = [] ∧ a = b := by
  rcases append_eq_singleton_iff.1 h with ⟨hp, ha⟩ | ⟨-, hnil⟩
  · exact ⟨hp, (cons.inj ha).1⟩
  · cases hnil

/-! ## Children -/

variable [DecidableEq α] {paths : List (List α)} {a : α}

def children (paths : List (List α)) (p : List α) : List α :=
  paths.filterMap fun q => if q.dropLast = p then q.getLast? else none

theorem concat_of_child {r : List α}
    (h : (if r.dropLast = p then r.getLast? else none) = some a) : r = p ++ [a] := by
  split at h
  next hp =>
    obtain ⟨front, rfl⟩ := getLast?_eq_some_iff.1 h
    rw [dropLast_concat] at hp
    rw [hp]
  next => cases h

theorem mem_children : a ∈ children paths p ↔ p ++ [a] ∈ paths := by
  rw [children, mem_filterMap]
  constructor
  · rintro ⟨r, hr, h⟩
    exact concat_of_child h ▸ hr
  · intro h
    exact ⟨_, h, by rw [dropLast_concat, if_pos rfl, getLast?_concat]⟩

theorem nodup_children (h : paths.Nodup) : (children paths p).Nodup := by
  refine h.filterMap fun r r' a hr hr' => ?_
  rw [concat_of_child hr, concat_of_child hr']

end Bpe
