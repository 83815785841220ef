import Mathlib.Tactic

/-!
# Programs that issue calls

`Prog C R α` is a program that issues calls `c : C`, continues on a reply
`R c`, and returns an `α`. A loop that outruns its iteration budget is
`stuck`. `Prog.Runs p t a` says the trace `t` of calls with their replies
drives `p` to the result `a`; nothing is assumed about which replies come, so
a statement over every trace is a statement over every environment.

Stateful programs are `Proc C R σ`, a state transformer over `Prog`.
`Proc.Runs` is their run relation and `Proc.Ensures` the partial-correctness
judgment over every run, with one rule per program constructor.
-/

namespace Bpe

inductive Prog (C : Type) (R : C → Type) (α : Type) where
  | ret (a : α)
  | call (c : C) (k : R c → Prog C R α)
  | stuck

/-- One issued call with the reply it got. -/
abbrev Event {C : Type} (R : C → Type) : Type := (c : C) × R c

namespace Prog

variable {C : Type} {R : C → Type} {α β : Type}

def bind : Prog C R α → (α → Prog C R β) → Prog C R β
  | .ret a, f => f a
  | .call c k, f => .call c fun r => (k r).bind f
  | .stuck, _ => .stuck

instance : Monad (Prog C R) where
  pure := .ret
  bind := bind

inductive Runs : Prog C R α → List (Event R) → α → Prop where
  | ret (a : α) : Runs (.ret a) [] a
  | call {c : C} {k : R c → Prog C R α} (r : R c) {t : List (Event R)} {a : α} :
      Runs (k r) t a → Runs (.call c k) (⟨c, r⟩ :: t) a

theorem runs_ret {a b : α} {t : List (Event R)} :
    Runs (.ret a : Prog C R α) t b ↔ t = [] ∧ b = a := by
  constructor
  · rintro ⟨⟩; exact ⟨rfl, rfl⟩
  · rintro ⟨rfl, rfl⟩; exact .ret _

theorem runs_call {c : C} {k : R c → Prog C R α} {t : List (Event R)} {a : α} :
    Runs (.call c k) t a ↔ ∃ r t', t = ⟨c, r⟩ :: t' ∧ Runs (k r) t' a := by
  constructor
  · intro h
    cases h with
    | call r h => exact ⟨r, _, rfl, h⟩
  · rintro ⟨r, t', rfl, h⟩; exact .call r h

theorem runs_bind {p : Prog C R α} {f : α → Prog C R β} {t : List (Event R)} {b : β} :
    Runs (p.bind f) t b ↔ ∃ t₁ a t₂, Runs p t₁ a ∧ Runs (f a) t₂ b ∧ t = t₁ ++ t₂ := by
  induction p generalizing t with
  | ret a =>
    constructor
    · intro h; exact ⟨[], a, t, .ret a, h, rfl⟩
    · rintro ⟨t₁, a', t₂, h₁, h₂, rfl⟩
      obtain ⟨rfl, rfl⟩ := runs_ret.1 h₁
      exact h₂
  | call c k ih =>
    rw [bind, runs_call]
    constructor
    · rintro ⟨r, t', rfl, h⟩
      obtain ⟨t₁, a, t₂, h₁, h₂, rfl⟩ := (ih r).1 h
      exact ⟨⟨c, r⟩ :: t₁, a, t₂, .call r h₁, h₂, rfl⟩
    · rintro ⟨t₁, a, t₂, h₁, h₂, rfl⟩
      obtain ⟨r, t', rfl, hk⟩ := runs_call.1 h₁
      exact ⟨r, t' ++ t₂, rfl, (ih r).2 ⟨t', a, t₂, hk, h₂, rfl⟩⟩
  | stuck =>
    constructor
    · intro h; cases h
    · rintro ⟨_, _, _, h, _⟩; cases h

/-- Replay a recorded trace: the result of `p` on it, when `p` issues exactly
the recorded calls. -/
def replay [DecidableEq C] : Prog C R α → List (Event R) → Option α
  | .ret a, [] => some a
  | .ret _, _ :: _ => none
  | .call _ _, [] => none
  | .call c k, e :: t => if h : e.1 = c then replay (k (h ▸ e.2)) t else none
  | .stuck, _ => none

theorem runs_of_replay [DecidableEq C] {a : α} :
    ∀ {p : Prog C R α} {t : List (Event R)}, p.replay t = some a → Runs p t a
  | .ret _, [], h => by cases h; exact .ret _
  | .ret _, _ :: _, h => by cases h
  | .call _ _, [], h => by cases h
  | .call c k, ⟨c', r⟩ :: t, h => by
    simp only [replay] at h
    split at h
    · next e => cases e; exact .call r (runs_of_replay h)
    · cases h
  | .stuck, _, h => by simp [replay] at h

end Prog

/-- Programs with a state `σ` of their own. -/
abbrev Proc (C : Type) (R : C → Type) (σ : Type) : Type → Type := StateT σ (Prog C R)

namespace Proc

variable {C : Type} {R : C → Type} {σ α β ι : Type}

/-- From state `s`, the calls and replies `t` take `m` to the result `a` in
state `s'`. -/
def Runs (m : Proc C R σ α) (s : σ) (t : List (Event R)) (a : α) (s' : σ) : Prop :=
  Prog.Runs (m s) t (a, s')

/-- Run `body` until it answers `.inr`, at most `fuel` times. -/
def iterate : Nat → (ι → Proc C R σ (ι ⊕ β)) → ι → Proc C R σ β
  | 0, _, _ => fun _ => .stuck
  | fuel + 1, body, i => do
    match ← body i with
    | .inl j => iterate fuel body j
    | .inr b => pure b

section Runs

variable {m : Proc C R σ α} {f : α → Proc C R σ β} {s s₁ s₂ : σ} {a : α} {b : β}
  {t t₁ t₂ : List (Event R)}

theorem runs_pure (a : α) (s : σ) : Runs (pure a : Proc C R σ α) s [] a s := .ret _

theorem runs_get (s : σ) : Runs (get : Proc C R σ σ) s [] s s := .ret _

theorem Runs.bind (h₁ : Runs m s t₁ a s₁) (h₂ : Runs (f a) s₁ t₂ b s₂) :
    Runs (m >>= f) s (t₁ ++ t₂) b s₂ :=
  Prog.runs_bind.2 ⟨t₁, (a, s₁), t₂, h₁, h₂, rfl⟩

theorem runs_bind : Runs (m >>= f) s t b s₂ ↔
    ∃ t₁ a s₁ t₂, Runs m s t₁ a s₁ ∧ Runs (f a) s₁ t₂ b s₂ ∧ t = t₁ ++ t₂ := by
  constructor
  · intro h
    obtain ⟨t₁, ⟨a, s₁⟩, t₂, h₁, h₂, e⟩ := Prog.runs_bind.1 h
    exact ⟨t₁, a, s₁, t₂, h₁, h₂, e⟩
  · rintro ⟨t₁, a, s₁, t₂, h₁, h₂, rfl⟩
    exact h₁.bind h₂

theorem runs_andM_false {x y : Proc C R σ Bool} (h : Runs x s t false s₁) :
    Runs (x <&&> y) s t false s₁ := by
  rw [← List.append_nil t]
  exact h.bind (runs_pure false s₁)

theorem runs_iterate_done {body : ι → Proc C R σ (ι ⊕ β)} {i : ι} (n : Nat)
    (h : Runs (body i) s t (.inr b) s₁) : Runs (iterate (n + 1) body i) s t b s₁ := by
  rw [← List.append_nil t, iterate]
  exact h.bind (runs_pure b s₁)

theorem runs_iterate_next {body : ι → Proc C R σ (ι ⊕ β)} {i j : ι} {n : Nat}
    (h : Runs (body i) s t₁ (.inl j) s₁) (h₂ : Runs (iterate n body j) s₁ t₂ b s₂) :
    Runs (iterate (n + 1) body i) s (t₁ ++ t₂) b s₂ := by
  rw [iterate]
  exact h.bind h₂

end Runs

/-- Every run of `m` from `s` ends in `Q`. -/
def Ensures (m : Proc C R σ α) (s : σ) (Q : List (Event R) → α → σ → Prop) : Prop :=
  ∀ t a s', Runs m s t a s' → Q t a s'

section Ensures

variable {m : Proc C R σ α} {f : α → Proc C R σ β} {s : σ}

theorem Ensures.mono {P Q : List (Event R) → α → σ → Prop} (h : Ensures m s P)
    (hpq : ∀ t a s', P t a s' → Q t a s') : Ensures m s Q :=
  fun t a s' hr => hpq t a s' (h t a s' hr)

theorem Ensures.and {P Q : List (Event R) → α → σ → Prop} (h : Ensures m s P)
    (h' : Ensures m s Q) : Ensures m s fun t a s' => P t a s' ∧ Q t a s' :=
  fun t a s' hr => ⟨h t a s' hr, h' t a s' hr⟩

theorem Ensures.bind {P : List (Event R) → α → σ → Prop} {Q : List (Event R) → β → σ → Prop}
    (h : Ensures m s P)
    (k : ∀ t a s₁, P t a s₁ → Ensures (f a) s₁ fun t' b s₂ => Q (t ++ t') b s₂) :
    Ensures (m >>= f) s Q := by
  intro t b s₂ hr
  obtain ⟨t₁, a, s₁, t₂, h₁, h₂, rfl⟩ := runs_bind.1 hr
  exact k t₁ a s₁ (h t₁ a s₁ h₁) t₂ b s₂ h₂

theorem ensures_pure {a : α} {Q : List (Event R) → α → σ → Prop} (h : Q [] a s) :
    Ensures (pure a : Proc C R σ α) s Q := by
  intro t b s' hr
  obtain ⟨rfl, hb⟩ := Prog.runs_ret.1 hr
  cases hb; exact h

theorem ensures_get {Q : List (Event R) → σ → σ → Prop} (h : Q [] s s) :
    Ensures (get : Proc C R σ σ) s Q := ensures_pure (a := s) h

theorem ensures_modify {g : σ → σ} {Q : List (Event R) → PUnit → σ → Prop}
    (h : Q [] ⟨⟩ (g s)) : Ensures (modify g : Proc C R σ PUnit) s Q := by
  intro t b s' hr
  obtain ⟨rfl, hb⟩ := Prog.runs_ret.1 hr
  cases hb; exact h

theorem ensures_ite {c : Prop} [Decidable c] {m₁ m₂ : Proc C R σ α}
    {Q : List (Event R) → α → σ → Prop}
    (h₁ : c → Ensures m₁ s Q) (h₂ : ¬ c → Ensures m₂ s Q) :
    Ensures (if c then m₁ else m₂) s Q := by
  split
  · next h => exact h₁ h
  · next h => exact h₂ h

theorem Ensures.andM {x y : Proc C R σ Bool} {P Q : List (Event R) → Bool → σ → Prop}
    (h : Ensures x s P)
    (htrue : ∀ t s₁, P t true s₁ → Ensures y s₁ fun t' b s₂ => Q (t ++ t') b s₂)
    (hfalse : ∀ t s₁, P t false s₁ → Q t false s₁) : Ensures (x <&&> y) s Q := by
  refine h.bind fun t b s₁ hp => ?_
  cases b with
  | true => exact htrue t s₁ hp
  | false => exact ensures_pure (by simpa using hfalse t s₁ hp)

/-- The loop rule: `I` holds of the loop variable, the calls issued since the
loop began and the state, before every iteration. -/
theorem ensures_iterate {body : ι → Proc C R σ (ι ⊕ β)} (I : ι → List (Event R) → σ → Prop)
    {Q : List (Event R) → β → σ → Prop}
    (hbody : ∀ i t s, I i t s → Ensures (body i) s fun t' r s' =>
      match r with
      | .inl j => I j (t ++ t') s'
      | .inr b => Q (t ++ t') b s')
    (n : Nat) {i : ι} (h : I i [] s) : Ensures (iterate n body i) s Q := by
  suffices ∀ n i t s, I i t s → Ensures (iterate n body i) s fun t' b s' => Q (t ++ t') b s' by
    simpa using this n i [] s h
  intro n
  induction n with
  | zero => intro i t s _ t' b s' hr; cases hr
  | succ n ih =>
    intro i t s hi
    refine (hbody i t s hi).bind fun t₁ r s₁ hr => ?_
    cases r with
    | inl j => simpa only [List.append_assoc] using ih j (t ++ t₁) s₁ hr
    | inr b => exact ensures_pure (by simpa using hr)

end Ensures

/-! ## Programs within a relation

A relation between the state before, the calls issued and the state after
that contains the empty run and is closed under composition holds of every
program built from parts it holds of. -/

structure Composes (S : σ → List (Event R) → σ → Prop) : Prop where
  refl : ∀ s, S s [] s
  trans : ∀ {s t s₁ t' s₂}, S s t s₁ → S s₁ t' s₂ → S s (t ++ t') s₂

/-- Every run of `m` is in `S`. -/
def Within (S : σ → List (Event R) → σ → Prop) (m : Proc C R σ α) : Prop :=
  ∀ s, Ensures m s fun t _ s' => S s t s'

section Within

variable {S : σ → List (Event R) → σ → Prop} {m : Proc C R σ α} {f : α → Proc C R σ β}

theorem within_pure (hS : Composes S) (a : α) : Within S (pure a : Proc C R σ α) :=
  fun s => ensures_pure (hS.refl s)

theorem Within.bind (hm : Within S m) (hS : Composes S) (hf : ∀ a, Within S (f a)) :
    Within S (m >>= f) :=
  fun s => (hm s).bind fun _ a s₁ h => (hf a s₁).mono fun _ _ _ h' => hS.trans h h'

theorem within_ite {c : Prop} [Decidable c] {m₁ m₂ : Proc C R σ α} (h₁ : Within S m₁)
    (h₂ : Within S m₂) : Within S (if c then m₁ else m₂) :=
  fun s => ensures_ite (fun _ => h₁ s) (fun _ => h₂ s)

theorem Within.andM {x y : Proc C R σ Bool} (hx : Within S x) (hS : Composes S)
    (hy : Within S y) : Within S (x <&&> y) :=
  fun s => (hx s).andM (fun _ s₁ h => (hy s₁).mono fun _ _ _ h' => hS.trans h h') fun _ _ h => h

theorem within_iterate (hS : Composes S) {body : ι → Proc C R σ (ι ⊕ β)}
    (h : ∀ i, Within S (body i)) (n : Nat) (i : ι) : Within S (iterate n body i) := by
  intro s
  refine ensures_iterate (fun _ t s₁ => S s t s₁) (fun i t s₁ ht => ?_) n (hS.refl s)
  refine (h i s₁).mono fun t' r s₂ ht' => ?_
  cases r <;> exact hS.trans ht ht'

end Within

end Proc

end Bpe
