import Bpe.Lib.Act

/-!
# Routines

A `Routine` is a program with local variables that may raise. What it assigned
before it raised stays assigned, so a `try` block is an `attempt` and its
handler reads the variables as the block left them. `Routine.Guards` is
`Act.Guards` with the variables in both postconditions.
-/

namespace Bpe

def Routine (C : Type) (R : C → Type) (ε σ α : Type) : Type := σ → Prog C R (Except ε α × σ)

namespace Routine

variable {C : Type} {R V : C → Type} {ε σ τ α β ι : Type}

instance : Monad (Routine C R ε σ) where
  pure a := fun s => .ret (.ok a, s)
  bind m f := fun s => (m s).bind fun
    | (.ok a, s) => f a s
    | (.error e, s) => .ret (.error e, s)

def get : Routine C R ε σ σ := fun s => .ret (.ok s, s)

def assign (f : σ → σ) : Routine C R ε σ Unit := fun s => .ret (.ok (), f s)

def raise (e : ε) : Routine C R ε σ α := fun s => .ret (.error e, s)

def act (m : Act C R ε α) : Routine C R ε σ α := fun s => Prog.bind m fun x => .ret (x, s)

def perform (c : C) : Routine C (Replies ε V) ε σ (V c) := act (Act.perform c)

/-- The outcome of `m` as a value. -/
def attempt (m : Routine C R ε σ α) : Routine C R ε σ (Except ε α) := fun s =>
  (m s).bind fun x => .ret (.ok x.1, x.2)

/-- Run `m` with variables of its own; they are part of its outcome. -/
def nested (m : Routine C R ε τ α) (t : τ) : Routine C R ε σ (Except ε α × τ) := fun s =>
  (m t).bind fun x => .ret (.ok x, s)

def when (c : Prop) [Decidable c] (m : Routine C R ε σ Unit) : Routine C R ε σ Unit :=
  if c then m else pure ()

/-- Run `body` until it answers `.inr`, at most `fuel` times. -/
def loop : Nat → (ι → Routine C R ε σ (ι ⊕ β)) → ι → Routine C R ε σ β
  | 0, _, _ => fun _ => .stuck
  | fuel + 1, body, i => do
    match ← body i with
    | .inl j => loop fuel body j
    | .inr b => pure b

def Guards (P : List (Event R) → C → Prop) (Q : List (Event R) → α → σ → Prop)
    (E : List (Event R) → ε → σ → Prop) (h : List (Event R)) (s : σ)
    (m : Routine C R ε σ α) : Prop :=
  Prog.Guards P (fun h x => match x.1 with
    | .ok a => Q h a x.2
    | .error e => E h e x.2) h (m s)

variable {P : List (Event R) → C → Prop} {Q : List (Event R) → α → σ → Prop}
  {E : List (Event R) → ε → σ → Prop} {h : List (Event R)} {s : σ}

theorem guards_pure {a : α} : Guards P Q E h s (pure a : Routine C R ε σ α) ↔ Q h a s := Iff.rfl

theorem guards_raise {e : ε} : Guards P Q E h s (raise e : Routine C R ε σ α) ↔ E h e s := Iff.rfl

theorem guards_get {Q : List (Event R) → σ → σ → Prop} :
    Guards P Q E h s (get : Routine C R ε σ σ) ↔ Q h s s := Iff.rfl

theorem guards_assign {Q : List (Event R) → Unit → σ → Prop} {f : σ → σ} :
    Guards P Q E h s (assign f : Routine C R ε σ Unit) ↔ Q h () (f s) := Iff.rfl

theorem guards_bind {m : Routine C R ε σ β} {f : β → Routine C R ε σ α} :
    Guards P Q E h s (m >>= f) ↔ Guards P (fun h b s => Guards P Q E h s (f b)) E h s m := by
  unfold Guards
  refine Prog.guards_bind.trans (iff_of_eq ?_)
  congr 1
  funext h x
  obtain ⟨_ | _, _⟩ := x <;> rfl

theorem guards_map {f : β → α} {m : Routine C R ε σ β} :
    Guards P Q E h s (f <$> m) ↔ Guards P (fun h b s => Q h (f b) s) E h s m :=
  guards_bind

theorem guards_act {m : Act C R ε α} :
    Guards P Q E h s (act m) ↔ Act.Guards P (fun h a => Q h a s) (fun h e => E h e s) h m := by
  unfold Guards Act.Guards act
  refine Prog.guards_bind.trans (iff_of_eq ?_)
  congr 1

theorem guards_perform {P : List (Event (Replies ε V)) → C → Prop} {c : C}
    {Q : List (Event (Replies ε V)) → V c → σ → Prop}
    {E : List (Event (Replies ε V)) → ε → σ → Prop} {h : List (Event (Replies ε V))} :
    Guards P Q E h s (perform c : Routine C (Replies ε V) ε σ (V c)) ↔
      P h c ∧ (∀ a, Q (h ++ [⟨c, .ok a⟩]) a s) ∧ ∀ e, E (h ++ [⟨c, .error e⟩]) e s :=
  guards_act.trans Act.guards_perform

variable {m : Routine C R ε σ α}

theorem guards_attempt {Q : List (Event R) → Except ε α → σ → Prop} :
    Guards P Q E h s (attempt m) ↔
      Guards P (fun h a => Q h (.ok a)) (fun h e => Q h (.error e)) h s m := by
  unfold Guards attempt
  refine Prog.guards_bind.trans (iff_of_eq ?_)
  congr 1
  funext h x
  obtain ⟨_ | _, _⟩ := x <;> rfl

theorem guards_nested {m : Routine C R ε τ α} {t : τ}
    {Q : List (Event R) → Except ε α × τ → σ → Prop} :
    Guards P Q E h s (nested m t) ↔
      Guards P (fun h a t => Q h (.ok a, t) s) (fun h e t => Q h (.error e, t) s) h t m := by
  unfold Guards nested
  refine Prog.guards_bind.trans (iff_of_eq ?_)
  congr 1
  funext h x
  obtain ⟨_ | _, _⟩ := x <;> rfl

theorem guards_ite {c : Prop} [Decidable c] {m m' : Routine C R ε σ α} :
    Guards P Q E h s (if c then m else m') ↔
      (c → Guards P Q E h s m) ∧ (¬ c → Guards P Q E h s m') := by
  by_cases hc : c <;> simp [hc]

theorem guards_when {c : Prop} [Decidable c] {m : Routine C R ε σ Unit}
    {Q : List (Event R) → Unit → σ → Prop} :
    Guards P Q E h s (when c m) ↔ (c → Guards P Q E h s m) ∧ (¬ c → Q h () s) :=
  guards_ite

theorem Guards.imp {P' : List (Event R) → C → Prop} {Q' : List (Event R) → α → σ → Prop}
    {E' : List (Event R) → ε → σ → Prop} (hm : Guards P Q E h s m) (hp : ∀ h c, P h c → P' h c)
    (hq : ∀ h a s, Q h a s → Q' h a s) (he : ∀ h e s, E h e s → E' h e s) :
    Guards P' Q' E' h s m := by
  refine Prog.Guards.imp hm hp fun h x hx => ?_
  obtain ⟨e | a, s⟩ := x
  · exact he h e s hx
  · exact hq h a s hx

theorem Guards.mono {Q' : List (Event R) → α → σ → Prop} {E' : List (Event R) → ε → σ → Prop}
    (hm : Guards P Q E h s m) (hq : ∀ h a s, Q h a s → Q' h a s)
    (he : ∀ h e s, E h e s → E' h e s) : Guards P Q' E' h s m :=
  hm.imp (fun _ _ hc => hc) hq he

/-- The calls that a routine adds are among those it may issue. -/
theorem Guards.frame {Z : C → Prop} (hm : Guards (fun _ c => Z c) Q E h s m) :
    Guards (fun _ c => Z c) (fun h' a s' => Q h' a s' ∧ ∃ t, h' = h ++ t ∧ ∀ v ∈ t, Z v.1)
      (fun h' e s' => E h' e s' ∧ ∃ t, h' = h ++ t ∧ ∀ v ∈ t, Z v.1) h s m := by
  refine Prog.Guards.mono (Prog.Guards.runs hm) fun h' x hx => ?_
  obtain ⟨hx, t, ht, -, hissued⟩ := hx
  have hcalls : ∀ v ∈ t, Z v.1 := fun v hv => (hissued v hv).choose_spec
  obtain ⟨_ | _, _⟩ := x
  · exact ⟨hx, t, ht, hcalls⟩
  · exact ⟨hx, t, ht, hcalls⟩

/-- The loop rule: `I` holds of the calls issued so far, the loop variable and
the local variables, before every iteration. -/
theorem guards_loop {body : ι → Routine C R ε σ (ι ⊕ β)} (I : List (Event R) → ι → σ → Prop)
    {Q : List (Event R) → β → σ → Prop}
    (hbody : ∀ h i s, I h i s → Guards P (fun h x s => match x with
      | .inl j => I h j s
      | .inr b => Q h b s) E h s (body i)) :
    ∀ (fuel : Nat) {h : List (Event R)} {i : ι} {s : σ}, I h i s →
      Guards P Q E h s (loop fuel body i) := by
  intro fuel
  induction fuel with
  | zero => intros; trivial
  | succ fuel ih =>
    intro h i s hi
    refine guards_bind.2 ((hbody h i s hi).mono (fun h x s hx => ?_) fun _ _ _ he => he)
    cases x with
    | inl j => exact ih hx
    | inr b => exact hx

end Routine

end Bpe
