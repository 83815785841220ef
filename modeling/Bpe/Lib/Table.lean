import Mathlib.Tactic

/-!
# Tables with unique columns

A table is the list of its rows in insertion order. `conflicts` relates rows
that share a value of a unique column; a table is `Distinct` when no two of
its positions hold conflicting rows.
-/

namespace Bpe

variable {α β : Type} {conflicts : α → α → Prop}

def Distinct (conflicts : α → α → Prop) (rows : List α) : Prop :=
  rows.Pairwise fun a b => ¬ conflicts a b

theorem distinct_nil : Distinct conflicts [] := .nil

variable {rows : List α}

theorem Distinct.snoc {r : α} (h : Distinct conflicts rows) (hr : ∀ q ∈ rows, ¬ conflicts q r) :
    Distinct conflicts (rows ++ [r]) := by
  refine List.pairwise_append.2 ⟨h, List.pairwise_singleton _ _, fun q hq r' hr' => ?_⟩
  rw [List.mem_singleton.1 hr']
  exact hr q hq

theorem distinct_map {f : β → α} {l : List β} :
    Distinct conflicts (l.map f) ↔ Distinct (fun a b => conflicts (f a) (f b)) l :=
  List.pairwise_map

/-- Rows of a distinct table that conflict are one row. -/
theorem Distinct.eq (h : Distinct conflicts rows) (hsymm : ∀ {a b}, conflicts a b → conflicts b a)
    {a b : α} (ha : a ∈ rows) (hb : b ∈ rows) (hc : conflicts a b) : a = b := by
  by_contra hne
  have : Std.Symm fun a b => ¬ conflicts a b := ⟨fun _ _ hn hc' => hn (hsymm hc')⟩
  exact h.forall ha hb hne hc

/-- A lookup by unique columns finds the one row that has them. -/
theorem Distinct.find?_eq_some (h : Distinct conflicts rows)
    (hsymm : ∀ {a b}, conflicts a b → conflicts b a) {p : α → Bool}
    (hp : ∀ a b, p a → p b → conflicts a b) {a : α} :
    rows.find? p = some a ↔ a ∈ rows ∧ p a := by
  constructor
  · intro ha
    exact ⟨List.mem_of_find?_eq_some ha, List.find?_some ha⟩
  · rintro ⟨ha, hpa⟩
    obtain ⟨b, hb⟩ := Option.isSome_iff_exists.1 (List.find?_isSome.2 ⟨a, ha, hpa⟩)
    rw [hb, h.eq hsymm ha (List.mem_of_find?_eq_some hb) (hp a b hpa (List.find?_some hb))]

end Bpe
