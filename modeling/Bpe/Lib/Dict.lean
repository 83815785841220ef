import Mathlib.Tactic
import Mathlib.Data.String.Basic

/-!
# Dictionaries

A dictionary lists its entries by increasing key, so that two dictionaries with
the same values are one. `find?_key` looks a record up in a list by a key that no
two records share.
-/

namespace Bpe

open List

theorem find?_key {α κ : Type} [DecidableEq κ] {key : α → κ} {l : List α}
    (hl : (l.map key).Nodup) {a : α} (ha : a ∈ l) :
    (l.find? fun b => key b = key a) = some a := by
  obtain ⟨b, hb⟩ : ∃ b, (l.find? fun b => key b = key a) = some b :=
    Option.isSome_iff_exists.1 (find?_isSome.2 ⟨a, ha, by simp⟩)
  have hkey : key b = key a := by simpa using find?_some hb
  rw [hb, inj_on_of_nodup_map hl (mem_of_find?_eq_some hb) ha hkey]

/-- `d[k] = a` of a dictionary in the order its keys came in. -/
def assignKey {κ α : Type} [DecidableEq κ] : List (κ × α) → κ → α → List (κ × α)
  | [], k, a => [(k, a)]
  | e :: l, k, a => if e.1 = k then (k, a) :: l else e :: assignKey l k a

variable {κ α : Type}

theorem mem_assignKey_self [DecidableEq κ] {l : List (κ × α)} {k : κ} {a : α} :
    (k, a) ∈ assignKey l k a := by
  induction l with
  | nil => exact mem_singleton.2 rfl
  | cons e l ih =>
    rw [assignKey]
    split
    · exact mem_cons_self
    · exact mem_cons_of_mem e ih

theorem mem_assignKey_of_ne [DecidableEq κ] {l : List (κ × α)} {j k : κ} {a b : α} (h : (j, b) ∈ l)
    (hne : j ≠ k) : (j, b) ∈ assignKey l k a := by
  induction l with
  | nil => cases h
  | cons e l ih =>
    rw [assignKey]
    split
    next hk =>
      rcases mem_cons.1 h with rfl | h
      · exact absurd hk hne
      · exact mem_cons_of_mem _ h
    next =>
      rcases mem_cons.1 h with rfl | h
      · exact mem_cons_self
      · exact mem_cons_of_mem e (ih h)

theorem mem_of_mem_assignKey [DecidableEq κ] {l : List (κ × α)} {k : κ} {a : α} {e : κ × α}
    (h : e ∈ assignKey l k a) : e = (k, a) ∨ e ∈ l := by
  induction l with
  | nil => exact .inl (mem_singleton.1 h)
  | cons f l ih =>
    rw [assignKey] at h
    split at h
    · rcases mem_cons.1 h with h | h
      · exact .inl h
      · exact .inr (mem_cons_of_mem f h)
    · rcases mem_cons.1 h with h | h
      · exact .inr (h ▸ mem_cons_self)
      · rcases ih h with h | h
        · exact .inl h
        · exact .inr (mem_cons_of_mem f h)

theorem map_fst_assignKey [DecidableEq κ] (l : List (κ × α)) (k : κ) (a : α) :
    (assignKey l k a).map Prod.fst =
      if k ∈ l.map Prod.fst then l.map Prod.fst else l.map Prod.fst ++ [k] := by
  induction l with
  | nil => rfl
  | cons e l ih =>
    rw [assignKey]
    by_cases hk : e.1 = k
    · simp [hk]
    · rw [if_neg hk, map_cons, ih]
      have hcons : k ∈ (e :: l).map Prod.fst ↔ k ∈ l.map Prod.fst := by
        rw [map_cons, mem_cons]
        exact or_iff_right fun h => hk h.symm
      by_cases hmem : k ∈ l.map Prod.fst
      · rw [if_pos hmem, if_pos (hcons.2 hmem), map_cons]
      · rw [if_neg hmem, if_neg (mt hcons.1 hmem), map_cons, cons_append]

theorem nodup_assignKey [DecidableEq κ] {l : List (κ × α)} (hl : (l.map Prod.fst).Nodup) (k : κ)
    (a : α) :
    ((assignKey l k a).map Prod.fst).Nodup := by
  rw [map_fst_assignKey]
  split
  · exact hl
  next hk => exact hl.append (nodup_singleton k) (disjoint_singleton.2 hk)

/-- Of a dictionary, the entries under other keys stay. -/
theorem mem_assignKey [DecidableEq κ] {l : List (κ × α)} (hl : (l.map Prod.fst).Nodup) {k : κ}
    {a : α} {e : κ × α} :
    e ∈ assignKey l k a ↔ e = (k, a) ∨ e.1 ≠ k ∧ e ∈ l := by
  constructor
  · intro h
    by_cases hk : e.1 = k
    · refine .inl (inj_on_of_nodup_map (nodup_assignKey hl k a) h mem_assignKey_self hk)
    · refine .inr ⟨hk, (mem_of_mem_assignKey h).resolve_left fun he => hk ?_⟩
      rw [he]
  · rintro (rfl | ⟨hk, he⟩)
    · exact mem_assignKey_self
    · exact mem_assignKey_of_ne he hk

theorem nodup_foldl_assignKey [DecidableEq κ] {l d : List (κ × α)} (hd : (d.map Prod.fst).Nodup) :
    ((l.foldl (fun d e => assignKey d e.1 e.2) d).map Prod.fst).Nodup := by
  induction l generalizing d with
  | nil => exact hd
  | cons e l ih => exact ih (nodup_assignKey hd e.1 e.2)

/-- Where no key is assigned two values, the dictionary has all that is assigned. -/
theorem mem_foldl_assignKey [DecidableEq κ] {l d : List (κ × α)} (hd : (d.map Prod.fst).Nodup)
    (h : ∀ a ∈ d ++ l, ∀ b ∈ d ++ l, a.1 = b.1 → a = b) {e : κ × α} :
    e ∈ l.foldl (fun d e => assignKey d e.1 e.2) d ↔ e ∈ d ++ l := by
  induction l generalizing d with
  | nil => rw [append_nil, foldl_nil]
  | cons f l ih =>
    have hmem : ∀ g, g ∈ assignKey d f.1 f.2 ++ l ↔ g ∈ d ++ f :: l := by
      intro g
      rw [mem_append, mem_assignKey hd, mem_append, mem_cons]
      constructor
      · rintro ((rfl | ⟨-, hg⟩) | hg)
        · exact .inr (.inl rfl)
        · exact .inl hg
        · exact .inr (.inr hg)
      · rintro (hg | rfl | hg)
        · by_cases hkey : g.1 = f.1
          · exact .inl (.inl (h g (mem_append_left _ hg) f
              (mem_append_right _ mem_cons_self) hkey))
          · exact .inl (.inr ⟨hkey, hg⟩)
        · exact .inl (.inl rfl)
        · exact .inr hg
    rw [foldl_cons, ih (nodup_assignKey hd _ _), hmem]
    intro a ha b hb
    exact h a ((hmem a).1 ha) b ((hmem b).1 hb)

structure Dict (κ α : Type) [LT κ] where
  entries : List (κ × α)
  sorted : entries.Pairwise fun a b => a.1 < b.1
  deriving DecidableEq

namespace Dict

variable {κ α : Type}

section

variable [LT κ]

def empty : Dict κ α := ⟨[], .nil⟩

def single (k : κ) (a : α) : Dict κ α := ⟨[(k, a)], pairwise_singleton _ _⟩

def values (d : Dict κ α) : List α := d.entries.map (·.2)

def get? [DecidableEq κ] (d : Dict κ α) (k : κ) : Option α := d.entries.lookup k

end

variable [LT κ] [Std.Irrefl (α := κ) (· < ·)] [DecidableEq κ] {d : Dict κ α} {k : κ} {a : α}

theorem lookup_eq_some {l : List (κ × α)} (hl : l.Pairwise fun a b => a.1 < b.1) :
    l.lookup k = some a ↔ (k, a) ∈ l := by
  induction l with
  | nil => simp
  | cons e l ih =>
    obtain ⟨j, b⟩ := e
    obtain ⟨hhead, htail⟩ := pairwise_cons.1 hl
    rw [lookup_cons, mem_cons]
    by_cases hjk : k = j
    · subst hjk
      have hnot : (k, a) ∉ l := fun hmem =>
        Std.Irrefl.irrefl (r := fun a b : κ => a < b) k (hhead _ hmem)
      simp [hnot, eq_comm]
    · rw [beq_eq_false_iff_ne.2 hjk]
      simp [hjk, ih htail]

theorem get?_eq_some : d.get? k = some a ↔ (k, a) ∈ d.entries := lookup_eq_some d.sorted

end Dict

end Bpe
