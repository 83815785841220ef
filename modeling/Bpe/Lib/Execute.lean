import Bpe.Lib.Routine

/-!
# Programs run alone

`Prog.Executes` runs one program against a store that nobody else touches.
`Prog.Completes P p` says that `p` always returns and issues no call outside
`P`; where the calls of `P` leave the store alone, so does `p`, and it has an
execution for every way its calls can be answered.
-/

namespace Bpe

namespace Prog

variable {C : Type} {R : C → Type} {α β σ : Type}

inductive Executes (exec : (c : C) → σ → R c → σ → Prop) :
    Prog C R α → σ → List (Event R) → α → σ → Prop where
  | ret (a : α) (s : σ) : Executes exec (.ret a) s [] a s
  | call {c : C} {k : R c → Prog C R α} {r : R c} {s s₁ s₂ : σ} {t : List (Event R)} {a : α} :
      exec c s r s₁ → Executes exec (k r) s₁ t a s₂ →
      Executes exec (.call c k) s (⟨c, r⟩ :: t) a s₂

def Completes (P : C → Prop) : Prog C R α → Prop
  | .ret _ => True
  | .call c k => P c ∧ ∀ r, Completes P (k r)
  | .stuck => False

variable {P : C → Prop} {exec : (c : C) → σ → R c → σ → Prop}

variable {p : Prog C R α}

theorem Completes.bind {f : α → Prog C R β} (hp : p.Completes P) (hf : ∀ a, (f a).Completes P) :
    (p.bind f).Completes P := by
  induction p with
  | ret a => exact hf a
  | call c k ih => exact ⟨hp.1, fun r => ih r (hp.2 r)⟩
  | stuck => exact hp.elim

/-- What follows `p` need only complete on what `p` may return. -/
theorem Completes.bind_guards {G : List (Event R) → C → Prop} {Q : List (Event R) → α → Prop}
    {f : α → Prog C R β} (hp : p.Completes P) (hf : ∀ h a, Q h a → (f a).Completes P) :
    ∀ {h : List (Event R)}, Guards G Q h p → (p.bind f).Completes P := by
  induction p with
  | ret a => intro h hq; exact hf h a hq
  | call c k ih => intro h hq; exact ⟨hp.1, fun r => ih r (hp.2 r) (hq.2 r)⟩
  | stuck => exact hp.elim

/-- Calls that keep the store are all answered from the store at the start. -/
theorem Completes.keeps (hp : p.Completes P) (hkeep : ∀ c s r s', P c → exec c s r s' → s' = s)
    {s s' : σ} {t : List (Event R)} {a : α} (hx : Executes exec p s t a s') :
    s' = s ∧ Runs p t a ∧ ∀ v ∈ t, exec v.1 s v.2 s := by
  induction hx with
  | ret a s => exact ⟨rfl, .ret a, by simp⟩
  | @call c k r s s₁ s₂ t a hr _ ih =>
    obtain rfl := hkeep _ _ _ _ hp.1 hr
    obtain ⟨rfl, hruns, hanswers⟩ := ih (hp.2 r)
    refine ⟨rfl, .call r hruns, fun v hv => ?_⟩
    rcases List.mem_cons.1 hv with rfl | hv
    · exact hr
    · exact hanswers v hv

/-- Answers for every call that keep the store make an execution. -/
theorem Completes.executes (hp : p.Completes P) (f : (c : C) → R c) {s : σ}
    (hf : ∀ c, P c → exec c s (f c) s) :
    ∃ t a, Executes exec p s t a s ∧ ∀ v ∈ t, v.2 = f v.1 := by
  induction p with
  | ret a => exact ⟨[], a, .ret a s, by simp⟩
  | call c k ih =>
    obtain ⟨t, a, hx, ht⟩ := ih (f c) (hp.2 _)
    refine ⟨⟨c, f c⟩ :: t, a, .call (hf c hp.1) hx, fun v hv => ?_⟩
    rcases List.mem_cons.1 hv with rfl | hv
    · rfl
    · exact ht v hv
  | stuck => exact hp.elim

theorem completes_embed {C' : Type} {R' : C' → Type} {m : Embedding R R'} {P' : C' → Prop}
    (hp : p.Completes fun c => P' (m.call c)) : (m.prog p).Completes P' := by
  induction p with
  | ret a => trivial
  | call c k ih => exact ⟨hp.1, fun r => ih _ (hp.2 _)⟩
  | stuck => exact hp.elim

theorem Guards.result {G : List (Event R) → C → Prop} {Q : List (Event R) → α → Prop}
    {t : List (Event R)} {a : α} (hr : Runs p t a) :
    ∀ {h : List (Event R)}, Guards G Q h p → Q (h ++ t) a := by
  induction hr with
  | ret a => intro h hp; rw [List.append_nil]; exact hp
  | call r _ ih => intro h hp; simpa using ih (hp.2 r)

end Prog

/-- Run alone at `s`, `p` returns, leaves the store alone, and has an outcome in
`Q` where all its calls are answered as `A` says. -/
structure Reports {C : Type} {R : C → Type} {α σ : Type} (exec : (c : C) → σ → R c → σ → Prop)
    (A : List (Event R) → Prop) (p : Prog C R α) (s : σ) (Q : α → Prop) : Prop where
  outcome : ∀ t x s', p.Executes exec s t x s' → s' = s ∧ (A t → Q x)
  returns : ∃ t x, p.Executes exec s t x s ∧ A t

namespace Act

variable {C : Type} {R V : C → Type} {ε ε' α β : Type} {P : C → Prop}

def Completes (P : C → Prop) (m : Act C R ε α) : Prop := Prog.Completes P m

theorem completes_bind {m : Act C R ε β} {f : β → Act C R ε α} (hm : m.Completes P)
    (hf : ∀ b, (f b).Completes P) : Completes P (m >>= f) := by
  refine Prog.Completes.bind hm fun x => ?_
  cases x with
  | ok b => exact hf b
  | error e => trivial

theorem completes_mapError {f : ε' → ε} {m : Act C R ε' α} (hm : m.Completes P) :
    Completes P (mapError f m) := by
  refine Prog.Completes.bind hm fun x => ?_
  cases x <;> trivial

theorem completes_perform {c : C} (hc : P c) :
    Completes P (perform c : Act C (Replies ε V) ε (V c)) :=
  ⟨hc, fun _ => trivial⟩

theorem completes_when {c : Prop} [Decidable c] {e : ε} :
    Completes P (when c (raise e) : Act C R ε Unit) := by
  unfold when
  split <;> trivial

theorem completes_check_bind {c : Prop} [Decidable c] {e : ε} {f : Unit → Act C R ε α}
    (hf : (f ()).Completes P) : Completes P (when c (raise e) >>= f) :=
  completes_bind completes_when fun _ => hf

theorem Guards.result {G : List (Event R) → C → Prop} {Q : List (Event R) → α → Prop}
    {E : List (Event R) → ε → Prop} {m : Act C R ε α} (hm : Guards G Q E [] m)
    {t : List (Event R)} {x : Except ε α} (hr : Prog.Runs m t x) :
    (∀ a, x = .ok a → Q t a) ∧ ∀ e, x = .error e → E t e := by
  have := Prog.Guards.result hr hm
  rw [List.nil_append] at this
  constructor
  · rintro a rfl; exact this
  · rintro e rfl; exact this

/-- A program that only reads reports what it guarantees. -/
theorem Guards.reports {σ : Type} {exec : (c : C) → σ → R c → σ → Prop} {s : σ}
    {A : List (Event R) → Prop} {G : List (Event R) → C → Prop} {m : Act C R ε α}
    {Q : Except ε α → Prop}
    (hm : Guards G (fun h a => A h → Q (.ok a)) (fun h e => A h → Q (.error e)) [] m)
    (hc : m.Completes P) (hkeep : ∀ c s r s', P c → exec c s r s' → s' = s) (f : (c : C) → R c)
    (hf : ∀ c, P c → exec c s (f c) s) (hA : ∀ t : List (Event R), (∀ v ∈ t, v.2 = f v.1) → A t) :
    Reports exec A m s Q where
  outcome t x s' hx := by
    obtain ⟨rfl, hruns, -⟩ := Prog.Completes.keeps hc hkeep hx
    obtain ⟨hok, herr⟩ := hm.result hruns
    refine ⟨rfl, fun ha => ?_⟩
    cases x with
    | ok a => exact hok a rfl ha
    | error e => exact herr e rfl ha
  returns := by
    obtain ⟨t, x, hx, ht⟩ := Prog.Completes.executes hc f hf
    exact ⟨t, x, hx, hA t ht⟩

end Act

namespace Routine

variable {C : Type} {R V : C → Type} {ε σ α β ι : Type} {P : C → Prop}

/-- `Prog.Completes`, whatever the variables. -/
def Completes (P : C → Prop) (m : Routine C R ε σ α) : Prop := ∀ s, Prog.Completes P (m s)

theorem completes_pure (a : α) : Completes P (pure a : Routine C R ε σ α) := fun _ => trivial

theorem completes_raise (e : ε) : Completes P (raise e : Routine C R ε σ α) := fun _ => trivial

theorem completes_bind {m : Routine C R ε σ β} {f : β → Routine C R ε σ α} (hm : m.Completes P)
    (hf : ∀ b, (f b).Completes P) : Completes P (m >>= f) := by
  intro s
  refine Prog.Completes.bind (hm s) fun x => ?_
  obtain ⟨_ | b, s'⟩ := x
  · trivial
  · exact hf b s'

theorem completes_perform {c : C} (hc : P c) :
    Completes P (perform c : Routine C (Replies ε V) ε σ (V c)) :=
  fun _ => ⟨hc, fun _ => trivial⟩

theorem completes_attempt {m : Routine C R ε σ α} (hm : m.Completes P) :
    Completes P (attempt m) :=
  fun s => Prog.Completes.bind (hm s) fun _ => trivial

theorem completes_ite {c : Prop} [Decidable c] {m m' : Routine C R ε σ α} (hm : m.Completes P)
    (hm' : m'.Completes P) : Completes P (if c then m else m') := by
  split
  · exact hm
  · exact hm'

theorem completes_when {c : Prop} [Decidable c] {m : Routine C R ε σ Unit} (hm : m.Completes P) :
    Completes P (when c m) :=
  completes_ite hm (completes_pure ())

/-- A loop whose variable goes down at every turn needs no more fuel than that. -/
theorem completes_loop {body : ι → Routine C R ε σ (ι ⊕ β)} {G : List (Event R) → C → Prop}
    {E : List (Event R) → ε → σ → Prop} (I : List (Event R) → ι → σ → Prop) (μ : ι → Nat)
    (hbody : ∀ i, (body i).Completes P)
    (hdown : ∀ h i s, I h i s →
      Guards G (fun h x s => ∀ j, x = .inl j → I h j s ∧ μ j < μ i) E h s (body i)) :
    ∀ (fuel : Nat) {h : List (Event R)} {i : ι} {s : σ}, I h i s → μ i < fuel →
      Prog.Completes P (loop fuel body i s) := by
  intro fuel
  induction fuel with
  | zero => intro h i s _ hi; omega
  | succ fuel ih =>
    intro h i s hI hi
    refine Prog.Completes.bind_guards (hbody i s) (fun h x hx => ?_) (hdown h i s hI)
    obtain ⟨_ | j | b, s'⟩ := x
    · trivial
    · obtain ⟨hj, hlt⟩ := hx j rfl
      exact ih hj (by omega)
    · trivial

end Routine

end Bpe
