import Mathlib.Tactic

/-!
# Chains of checks

Code that checks one condition after another and stops at the first that
fails is an `if … then .error … else …` chain, or a `refuse` of the list of its
conditions with their messages. The lemmas turn a successful chain into the
conjunction of its conditions.
-/

namespace Bpe

open List

variable {ε α β : Type}

variable {x : Except ε α}

theorem ite_error_eq_ok {c : Prop} [Decidable c] {e : ε} {a : α} :
    (if c then Except.error e else x) = .ok a ↔ ¬ c ∧ x = .ok a := by
  by_cases hc : c <;> simp [hc]

theorem ite_ok_eq_ok {c : Prop} [Decidable c] {e : ε} {a b : α} :
    (if c then Except.ok a else Except.error e) = .ok b ↔ c ∧ a = b := by
  by_cases hc : c <;> simp [hc]

theorem exists_ok_of_isSome (h : x.toOption.isSome) : ∃ a, x = .ok a := by
  cases x with
  | error e => cases h
  | ok a => exact ⟨a, rfl⟩

variable {f : α → Except ε β}

theorem bind_eq_ok {b : β} :
    x >>= f = .ok b ↔ ∃ a, x = .ok a ∧ f a = .ok b := by
  cases x with
  | error e =>
    constructor
    · intro h; cases h
    · rintro ⟨a, h, -⟩; cases h
  | ok a =>
    constructor
    · intro h; exact ⟨a, rfl, h⟩
    · rintro ⟨a, h, h'⟩; cases h; exact h'

theorem seq_eq_ok {x : Except ε Unit} {y : Except ε α} {a : α} :
    (x >>= fun _ => y) = .ok a ↔ x = .ok () ∧ y = .ok a := by
  rw [bind_eq_ok]
  exact ⟨fun ⟨_, hx, hy⟩ => ⟨hx, hy⟩, fun ⟨hx, hy⟩ => ⟨(), hx, hy⟩⟩

theorem isOk_iff {x : Except ε Unit} : x.isOk ↔ x = .ok () := by
  cases x with
  | error e => simp [Except.isOk, Except.toBool]
  | ok u => simp [Except.isOk, Except.toBool]

theorem exists_of_isOk (h : x.isOk = true) : ∃ a, x = .ok a := by
  cases x with
  | error e => cases h
  | ok a => exact ⟨a, rfl⟩

theorem mapError_eq_ok {ε' : Type} {f : ε → ε'} {a : α} :
    x.mapError f = .ok a ↔ x = .ok a := by
  cases x <;> simp [Except.mapError]

variable {l : List α}

theorem forM_eq_ok {f : α → Except ε Unit} :
    l.forM f = .ok () ↔ ∀ a ∈ l, f a = .ok () := by
  induction l with
  | nil => simp [List.forM, pure, Except.pure]
  | cons a l ih =>
    rw [List.forM, seq_eq_ok, ih, forall_mem_cons]

variable {l' : List β}

theorem mapM_eq_ok :
    l.mapM f = .ok l' ↔ l.map f = l'.map .ok := by
  induction l generalizing l' with
  | nil =>
    rw [mapM_nil, map_nil, eq_comm (a := []), map_eq_nil_iff]
    exact ⟨fun h => by cases h; rfl, fun h => by rw [h]; rfl⟩
  | cons a l ih =>
    rw [mapM_cons, bind_eq_ok]
    constructor
    · rintro ⟨b, hb, hl⟩
      obtain ⟨bs, hbs, hout⟩ := bind_eq_ok.1 hl
      cases hout
      rw [map_cons, map_cons, hb, ih.1 hbs]
    · intro h
      cases l' with
      | nil => cases h
      | cons b bs =>
        obtain ⟨hb, hbs⟩ := cons.inj h
        exact ⟨b, hb, bind_eq_ok.2 ⟨bs, ih.2 hbs, rfl⟩⟩

/-- A loop whose rounds begin with a check passes all of them. -/
theorem mapM_seq_eq_ok {g : α → Except ε Unit} :
    (l.mapM fun a => g a >>= fun _ => f a) = .ok l' ↔
      (∀ a ∈ l, g a = .ok ()) ∧ l.mapM f = .ok l' := by
  rw [mapM_eq_ok, mapM_eq_ok]
  induction l generalizing l' with
  | nil => simp
  | cons a l ih =>
    cases l' with
    | nil => simp
    | cons b l' =>
      rw [map_cons, map_cons, map_cons, cons.injEq, cons.injEq,
        forall_mem_cons, ih, seq_eq_ok]
      tauto

theorem mapM_ok (h : ∀ a ∈ l, ∃ b, f a = .ok b) :
    ∃ l', l.mapM f = .ok l' := by
  induction l with
  | nil => exact ⟨[], rfl⟩
  | cons a l ih =>
    obtain ⟨b, hb⟩ := h a mem_cons_self
    obtain ⟨l', hl'⟩ := ih fun a ha => h a (mem_cons_of_mem _ ha)
    refine ⟨b :: l', mapM_eq_ok.2 ?_⟩
    rw [map_cons, map_cons, hb, mapM_eq_ok.1 hl']

theorem exists_of_mapM (h : l.mapM f = .ok l') {b : β} (hb : b ∈ l') : ∃ a ∈ l, f a = .ok b := by
  rw [mapM_eq_ok] at h
  have hmem : Except.ok b ∈ l.map f := h ▸ mem_map_of_mem hb
  exact mem_map.1 hmem

theorem mem_of_mapM (h : l.mapM f = .ok l') {a : α} (ha : a ∈ l) : ∃ b ∈ l', f a = .ok b := by
  have hmem : f a ∈ l'.map Except.ok := mapM_eq_ok.1 h ▸ mem_map_of_mem ha
  obtain ⟨b, hb, heq⟩ := mem_map.1 hmem
  exact ⟨b, hb, heq.symm⟩

theorem getElem?_of_mapM (h : l.mapM f = .ok l') (i : Nat) : (l[i]?).map f = (l'[i]?).map .ok := by
  rw [← getElem?_map, ← getElem?_map, mapM_eq_ok.1 h]

/-- What one step of a loop keeps, of the elements consumed so far and of the
accumulator, holds at its end. -/
theorem foldlM_invariant {f : β → α → Except ε β} {b b' : β} (h : l.foldlM f b = .ok b')
    (P : List α → β → Prop) (hstart : P [] b)
    (hstep : ∀ l a b b', P l b → f b a = .ok b' → P (l ++ [a]) b') : P l b' := by
  suffices ∀ l l₀ b, P l₀ b → l.foldlM f b = .ok b' → P (l₀ ++ l) b' from this l [] b hstart h
  intro l
  induction l with
  | nil =>
    intro l₀ b hb h
    cases h
    rw [append_nil]
    exact hb
  | cons a l ih =>
    intro l₀ b hb h
    rw [foldlM_cons, bind_eq_ok] at h
    obtain ⟨b₁, hb₁, h⟩ := h
    rw [append_cons]
    exact ih (l₀ ++ [a]) b₁ (hstep l₀ a b b₁ hb hb₁) h

/-- A view that each step keeps is kept by the loop. -/
theorem map_of_mapM {γ : Type} {g : α → γ} {g' : β → γ} (h : l.mapM f = .ok l')
    (hf : ∀ a b, f a = .ok b → g' b = g a) :
    l'.map g' = l.map g := by
  rw [mapM_eq_ok] at h
  induction l generalizing l' with
  | nil => rw [map_eq_nil_iff.1 h.symm, map_nil, map_nil]
  | cons a l ih =>
    cases l' with
    | nil => cases h
    | cons b l' =>
      obtain ⟨hb, hl⟩ := cons.inj h
      rw [map_cons, map_cons, hf a b hb, ih hl]

/-- Raise the message of the first condition that holds. -/
def refuse : List (Bool × String) → Except String Unit
  | [] => .ok ()
  | (bad, message) :: rest => if bad then .error message else refuse rest

theorem refuse_eq_ok {checks : List (Bool × String)} :
    refuse checks = .ok () ↔ ∀ c ∈ checks, c.1 = false := by
  induction checks with
  | nil => simp [refuse]
  | cons c rest ih =>
    rw [refuse, ite_error_eq_ok, ih, forall_mem_cons, Bool.not_eq_true]

/-- Of a list that passed, the condition at one place. -/
theorem refuse_at {checks : List (Bool × String)} (h : refuse checks = .ok ()) (i : Nat)
    {c : Bool × String} (hi : checks[i]? = some c) : c.1 = false :=
  refuse_eq_ok.1 h c (mem_of_getElem? hi)

end Bpe
