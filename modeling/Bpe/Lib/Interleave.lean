import Bpe.Lib.Prog

/-!
# Interleaved programs over a shared store

A `Concurrent` system has a family of programs, indexed by their arguments, and says what
each call may reply and do to a shared store. `Steps` interleaves any number
of started programs, one call at a time, and logs every executed call with the
store around it; a crashed program is one that is never scheduled again.

What a single program guarantees about its own calls is `Prog.Guards`, a
weakest-precondition judgment over the calls it has issued so far.
`Run.guards` carries it to every thread of every run, and `Run.invariant` is
the induction over the log that uses it.
-/

namespace Bpe

open List

namespace Prog

variable {C : Type} {R : C → Type} {α β : Type}

/-- With the calls `h` already issued, `p` issues a call only where `P` holds
of the calls before it, and returns only where `Q` holds. -/
def Guards (P : List (Event R) → C → Prop) (Q : List (Event R) → α → Prop) :
    List (Event R) → Prog C R α → Prop
  | h, .ret a => Q h a
  | h, .call c k => P h c ∧ ∀ r, Guards P Q (h ++ [⟨c, r⟩]) (k r)
  | _, .stuck => True

variable {P : List (Event R) → C → Prop}

variable {p : Prog C R α}

theorem Guards.imp {P' : List (Event R) → C → Prop} {Q Q' : List (Event R) → α → Prop} :
    ∀ {h : List (Event R)}, Guards P Q h p → (∀ h c, P h c → P' h c) →
      (∀ h a, Q h a → Q' h a) → Guards P' Q' h p := by
  induction p with
  | ret a => intro h hp _ hq; exact hq h a hp
  | call c k ih => intro h hp hc hq; exact ⟨hc h c hp.1, fun r => ih r (hp.2 r) hc hq⟩
  | stuck => intros; trivial

theorem Guards.mono {Q Q' : List (Event R) → α → Prop} {h : List (Event R)} (hp : Guards P Q h p)
    (hq : ∀ h a, Q h a → Q' h a) : Guards P Q' h p :=
  hp.imp (fun _ _ hc => hc) hq

theorem guards_bind {Q : List (Event R) → β → Prop} {f : α → Prog C R β} :
    ∀ {h : List (Event R)}, Guards P Q h (p.bind f) ↔
      Guards P (fun h a => Guards P Q h (f a)) h p := by
  induction p with
  | ret a => intro h; exact Iff.rfl
  | call c k ih => intro h; exact and_congr_right fun _ => forall_congr' fun r => ih r
  | stuck => intro h; exact Iff.rfl

variable {Q : List (Event R) → α → Prop}

/-- What a program has run through when it returns, and that it might issue each
of these calls. -/
theorem Guards.runs :
    ∀ {h : List (Event R)}, Guards P Q h p → Guards P (fun h' a => Q h' a ∧
      ∃ t, h' = h ++ t ∧ Runs p t a ∧ ∀ v ∈ t, ∃ t', P (h ++ t') v.1) h p := by
  induction p with
  | ret a => intro h hp; exact ⟨hp, [], by simp, .ret a, by simp⟩
  | stuck => intros; trivial
  | call c k ih =>
    intro h hp
    refine ⟨hp.1, fun r => (ih r (hp.2 r)).mono fun h' a ha => ?_⟩
    obtain ⟨hq, t, rfl, ht, hissued⟩ := ha
    refine ⟨hq, ⟨c, r⟩ :: t, by simp, .call r ht, fun v hv => ?_⟩
    rcases mem_cons.1 hv with rfl | hv
    · exact ⟨[], by simpa using hp.1⟩
    · obtain ⟨t', ht'⟩ := hissued v hv
      exact ⟨⟨c, r⟩ :: t', by simpa using ht'⟩

/-- `p` has gone through the calls `t` and goes on as `q`. -/
inductive Reaches : Prog C R α → List (Event R) → Prog C R α → Prop where
  | refl (p : Prog C R α) : Reaches p [] p
  | call {c : C} {k : R c → Prog C R α} (r : R c) {t : List (Event R)} {q : Prog C R α} :
      Reaches (k r) t q → Reaches (.call c k) (⟨c, r⟩ :: t) q

/-- What a program guarantees from its start it guarantees from where it is. -/
theorem Guards.reaches {p q : Prog C R α} {t : List (Event R)} (hr : Reaches p t q) :
    ∀ {h : List (Event R)}, Guards P Q h p → Guards P Q (h ++ t) q := by
  induction hr with
  | refl p => intro h hp; simpa using hp
  | call r _ ih => intro h hp; simpa using ih (hp.2 r)

/-- Every call of a run was issued where the program may issue it. -/
theorem Guards.issued {p q : Prog C R α} {t₁ t₂ : List (Event R)} {v : Event R}
    (hr : Reaches p (t₁ ++ v :: t₂) q) :
    ∀ {h : List (Event R)}, Guards P Q h p → P (h ++ t₁) v.1 := by
  induction t₁ generalizing p with
  | nil =>
    intro h hp
    cases hr
    simpa using hp.1
  | cons e t₁ ih =>
    intro h hp
    cases hr with
    | call r hr => simpa using ih hr (hp.2 r)

end Prog

/-! ## Programs of a smaller interface -/

/-- The calls of `C` among the calls of `C'`, with the same replies. -/
structure Embedding {C C' : Type} (R : C → Type) (R' : C' → Type) where
  call : C → C'
  reply : ∀ c, R c ≃ R' (call c)

namespace Embedding

variable {C C' : Type} {R : C → Type} {R' : C' → Type} {α : Type} (m : Embedding R R')

def event (v : Event R) : Event R' := ⟨m.call v.1, m.reply v.1 v.2⟩

/-- A program that issues its calls through the larger interface. -/
def prog : Prog C R α → Prog C' R' α
  | .ret a => .ret a
  | .call c k => .call (m.call c) fun r => prog (k ((m.reply c).symm r))
  | .stuck => .stuck

theorem guards_prog {P : List (Event R') → C' → Prop} {Q : List (Event R') → α → Prop}
    {h₀ : List (Event R')} {p : Prog C R α} : ∀ {h : List (Event R)},
    (m.prog p).Guards P Q (h₀ ++ h.map m.event) ↔
      p.Guards (fun h c => P (h₀ ++ h.map m.event) (m.call c))
        (fun h a => Q (h₀ ++ h.map m.event) a) h := by
  induction p with
  | ret a => intro h; exact Iff.rfl
  | stuck => intro h; exact Iff.rfl
  | call c k ih =>
    intro h
    refine and_congr_right fun _ => ⟨fun hr r => ?_, fun hr r => ?_⟩
    · have := hr (m.reply c r)
      simp only [Equiv.symm_apply_apply] at this
      refine (ih r).1 ?_
      simpa [event] using this
    · have := (ih ((m.reply c).symm r)).2 (hr _)
      simpa [event] using this

end Embedding

/-- Programs by their arguments, and the replies and effects of each call. -/
structure Concurrent (ι C : Type) (R : C → Type) (α σ : Type) where
  prog : ι → Prog C R α
  exec : (c : C) → σ → R c → σ → Prop

namespace Concurrent

variable {ι C α σ : Type} {R : C → Type}

/-- One executed call: who issued it, its reply, the store before and after. -/
structure Step {C : Type} (R : C → Type) (σ : Type) where
  thread : Nat
  call : C
  reply : R call
  before : σ
  after : σ

def Step.event (e : Step R σ) : Event R := ⟨e.call, e.reply⟩

structure Thread (ι : Type) {C : Type} (R : C → Type) (α : Type) where
  args : ι
  rest : Prog C R α

structure Config (ι : Type) {C : Type} (R : C → Type) (α σ : Type) where
  store : σ
  threads : List (Thread ι R α)

/-- Thread `i` was started with the arguments `a`. -/
def Config.Started (g : Config ι R α σ) (i : Nat) (a : ι) : Prop :=
  ∃ p, g.threads[i]? = some ⟨a, p⟩

theorem Config.Started.unique {g : Config ι R α σ} {i : Nat} {a b : ι} (h : g.Started i a)
    (h' : g.Started i b) : a = b := by
  obtain ⟨p, hp⟩ := h
  obtain ⟨q, hq⟩ := h'
  rw [hp] at hq
  cases hq
  rfl

/-- Thread `i`, started with the arguments `a`, has returned `b`. -/
def Config.Finished (g : Config ι R α σ) (i : Nat) (a : ι) (b : α) : Prop :=
  g.threads[i]? = some ⟨a, .ret b⟩

inductive Steps (S : Concurrent ι C R α σ) (g₀ : Config ι R α σ) :
    List (Step R σ) → Config ι R α σ → Prop where
  | refl : Steps S g₀ [] g₀
  | start {g : Config ι R α σ} {log : List (Step R σ)} (a : ι) :
      Steps S g₀ log g → Steps S g₀ log ⟨g.store, g.threads ++ [⟨a, S.prog a⟩]⟩
  | step {g : Config ι R α σ} {log : List (Step R σ)} {i : Nat} {a : ι} {c : C}
      {k : R c → Prog C R α} {r : R c} {s : σ} :
      Steps S g₀ log g → g.threads[i]? = some ⟨a, .call c k⟩ → S.exec c g.store r s →
      Steps S g₀ (log ++ [⟨i, c, r, g.store, s⟩]) ⟨s, g.threads.set i ⟨a, k r⟩⟩

/-- A run from the store `s`, with no program started yet. -/
def Run (S : Concurrent ι C R α σ) (s : σ) (log : List (Step R σ)) (g : Config ι R α σ) : Prop :=
  Steps S ⟨s, []⟩ log g

/-- The calls thread `i` has issued, in order. -/
def own (log : List (Step R σ)) (i : Nat) : List (Event R) :=
  (log.filter fun e => e.thread == i).map Step.event

theorem own_snoc_self (log : List (Step R σ)) (e : Step R σ) :
    own (log ++ [e]) e.thread = own log e.thread ++ [e.event] := by
  simp [own]

variable {log : List (Step R σ)}

theorem own_snoc_other {e : Step R σ} {i : Nat} (h : e.thread ≠ i) :
    own (log ++ [e]) i = own log i := by
  simp [own, h]

theorem mem_own {i : Nat} {v : Event R} :
    v ∈ own log i ↔ ∃ e ∈ log, e.thread = i ∧ e.event = v := by
  simp only [own, mem_map, mem_filter, beq_iff_eq, and_assoc]

/-- What `f` reads from the logged calls, with who issued them. -/
def collect {β : Type} (f : Event R → Option β) (log : List (Step R σ)) : List (Nat × β) :=
  log.filterMap fun e => (f e.event).map fun b => (e.thread, b)

theorem collect_snoc {β : Type} (f : Event R → Option β) (log : List (Step R σ)) (e : Step R σ) :
    collect f (log ++ [e]) = collect f log ++ ((f e.event).map fun b => (e.thread, b)).toList := by
  cases hf : f e.event <;> simp [collect, hf]

theorem mem_collect {β : Type} {f : Event R → Option β} {i : Nat} {b : β} :
    (i, b) ∈ collect f log ↔ ∃ e ∈ log, e.thread = i ∧ f e.event = some b := by
  simp only [collect, mem_filterMap, Option.map_eq_some_iff, Prod.mk.injEq]
  constructor
  · rintro ⟨e, he, b', hb, hi, rfl⟩; exact ⟨e, he, hi, hb⟩
  · rintro ⟨e, he, hi, hb⟩; exact ⟨e, he, b, hb, hi, rfl⟩

theorem mem_own_filterMap {β : Type} {f : Event R → Option β} {i : Nat} {b : β} :
    b ∈ (own log i).filterMap f ↔ (i, b) ∈ collect f log := by
  rw [mem_collect, mem_filterMap]
  constructor
  · rintro ⟨v, hv, hb⟩
    obtain ⟨e, he, hi, rfl⟩ := mem_own.1 hv
    exact ⟨e, he, hi, hb⟩
  · rintro ⟨e, he, hi, hb⟩
    exact ⟨e.event, mem_own.2 ⟨e, he, hi, rfl⟩, hb⟩

theorem exists_of_own {β : Type} {f : Event R → Option β} {i : Nat} {b : β}
    (h : (own log i).filterMap f = [b]) : ∃ e ∈ log, e.thread = i ∧ f e.event = some b :=
  mem_collect.1 (mem_own_filterMap.1 (by rw [h]; exact mem_singleton_self b))

variable {S : Concurrent ι C R α σ} {s₀ : σ} {log : List (Step R σ)} {g : Config ι R α σ}

/-- Nobody has issued a call who was not started. -/
theorem Run.thread_lt (hr : Run S s₀ log g) : ∀ e ∈ log, e.thread < g.threads.length := by
  induction hr with
  | refl => simp
  | start a _ ih =>
    intro e he
    have := ih e he
    simp only [length_append, length_singleton]
    omega
  | step _ hi _ ih =>
    intro e he
    simp only [length_set]
    rcases mem_append.1 he with he | he
    · exact ih e he
    · rw [mem_singleton.1 he]
      exact (List.getElem?_eq_some_iff.1 hi).1

theorem own_eq_nil {i : Nat} (h : ∀ e ∈ log, e.thread < i) : own log i = [] := by
  simp only [own, map_eq_nil_iff, filter_eq_nil_iff, beq_iff_eq]
  intro e he hi
  have := h e he
  omega

section Guards

variable {P : ι → List (Event R) → C → Prop} {Q : ι → List (Event R) → α → Prop}

/-- What every program guarantees from its start, every thread guarantees from
where it is. -/
theorem Run.guards (hP : ∀ a, (S.prog a).Guards (P a) (Q a) []) (hr : Run S s₀ log g) :
    ∀ (i : Nat) (th : Thread ι R α), g.threads[i]? = some th →
      th.rest.Guards (P th.args) (Q th.args) (own log i) := by
  induction hr with
  | refl => simp
  | start a hs ih =>
    intro i th hi
    rw [getElem?_append] at hi
    split at hi
    · exact ih i th hi
    · next hge =>
      obtain ⟨_, rfl⟩ : i - _ = 0 ∧ _ = th := by
        simpa only [getElem?_singleton, Option.ite_none_right_eq_some,
          Option.some.injEq] using hi
      rw [own_eq_nil fun e he =>
        Nat.lt_of_lt_of_le (Run.thread_lt hs e he) (Nat.not_lt.1 hge)]
      exact hP a
  | @step g log i a c k r s hs hi hx ih =>
    intro j th hj
    by_cases hij : i = j
    · subst hij
      rw [List.getElem?_set_self (List.getElem?_eq_some_iff.1 hi).1] at hj
      cases hj
      rw [own_snoc_self log ⟨i, c, r, g.store, s⟩]
      exact (ih i _ hi).2 r
    · rw [getElem?_set_ne hij] at hj
      rw [own_snoc_other (by simpa using hij)]
      exact ih j th hj

theorem Run.result (hP : ∀ a, (S.prog a).Guards (P a) (Q a) []) (hr : Run S s₀ log g)
    {i : Nat} {a : ι} {b : α} (hi : g.Finished i a b) : Q a (own log i) b :=
  Run.guards hP hr i _ hi

/-- A logged call was issued by a thread that is still there, where its program
may issue it. -/
theorem Run.issued (hP : ∀ a, (S.prog a).Guards (P a) (Q a) []) (hr : Run S s₀ log g) :
    ∀ e ∈ log, ∃ l₁ l₂ a, log = l₁ ++ e :: l₂ ∧ g.Started e.thread a ∧
      P a (own l₁ e.thread) e.call := by
  induction hr with
  | refl => simp
  | start b hs ih =>
    intro e he
    obtain ⟨l₁, l₂, a, hl, ⟨p, hi⟩, hp⟩ := ih e he
    refine ⟨l₁, l₂, a, hl, ⟨p, ?_⟩, hp⟩
    rw [getElem?_append_left (Run.thread_lt hs e he)]
    exact hi
  | @step g log i a c k r s hs hi hx ih =>
    intro e he
    have hlen := (List.getElem?_eq_some_iff.1 hi).1
    rcases mem_append.1 he with he | he
    · obtain ⟨l₁, l₂, b, hl, ⟨p, hj⟩, hp⟩ := ih e he
      refine ⟨l₁, l₂ ++ [⟨i, c, r, g.store, s⟩], b, ?_, ⟨if i = e.thread then k r else p, ?_⟩, hp⟩
      · rw [hl, append_assoc, cons_append]
      · split
        · next hij =>
          subst hij
          rw [hi] at hj
          cases hj
          exact getElem?_set_self hlen
        · next hij => rw [getElem?_set_ne hij]; exact hj
    · cases mem_singleton.1 he
      exact ⟨log, [], a, rfl, ⟨k r, getElem?_set_self hlen⟩, (Run.guards hP hs i _ hi).1⟩

/-- The induction over a run: `I` holds of the log and the store at every
point, when each call that a program may issue there preserves it. -/
theorem Run.invariant (hP : ∀ a, (S.prog a).Guards (P a) (Q a) []) (I : List (Step R σ) → σ → Prop)
    (h₀ : I [] s₀)
    (hstep : ∀ log i a c r s s', I log s → P a (own log i) c → S.exec c s r s' →
      I (log ++ [⟨i, c, r, s, s'⟩]) s')
    (hr : Run S s₀ log g) : I log g.store := by
  induction hr with
  | refl => exact h₀
  | start a _ ih => exact ih
  | step hs hi hx ih => exact hstep _ _ _ _ _ _ _ ih (Run.guards hP hs _ _ hi).1 hx

end Guards

/-! ## Reading the log -/

variable {g₀ : Config ι R α σ}

/-- A run stops just before any of its logged calls. -/
theorem Steps.split {l₁ l₂ : List (Step R σ)} {e : Step R σ} (hr : Steps S g₀ (l₁ ++ e :: l₂) g) :
    ∃ g₁ a k, Steps S g₀ l₁ g₁ ∧ g₁.store = e.before ∧
      g₁.threads[e.thread]? = some ⟨a, .call e.call k⟩ ∧ S.exec e.call e.before e.reply e.after ∧
      Steps S ⟨e.after, g₁.threads.set e.thread ⟨a, k e.reply⟩⟩ l₂ g := by
  generalize hl : l₁ ++ e :: l₂ = log at hr
  induction hr generalizing l₂ with
  | refl => simp at hl
  | start a hs ih =>
    obtain ⟨g₁, b, k, h₁, hb, hk, hx, h₂⟩ := ih hl
    exact ⟨g₁, b, k, h₁, hb, hk, hx, h₂.start a⟩
  | @step g' log i a c k r s hs hi hx ih =>
    rcases eq_nil_or_concat l₂ with rfl | ⟨l, e', rfl⟩
    · obtain ⟨rfl, he⟩ := append_inj' hl rfl
      cases he
      exact ⟨_, a, k, hs, rfl, hi, hx, .refl⟩
    · have hl' : (l₁ ++ e :: l) ++ [e'] = log ++ [⟨i, c, r, g'.store, s⟩] := by
        simpa using hl
      obtain ⟨hlog, he⟩ := append_inj' hl' rfl
      cases he
      obtain ⟨g₁, b, k', h₁, hb, hk, hx', h₂⟩ := ih hlog
      rw [concat_eq_append]
      exact ⟨g₁, b, k', h₁, hb, hk, hx', h₂.step hi hx⟩

theorem Steps.trans {g₁ g₂ g₃ : Config ι R α σ} {l₁ l₂ : List (Step R σ)}
    (h₁ : Steps S g₁ l₁ g₂) (h₂ : Steps S g₂ l₂ g₃) : Steps S g₁ (l₁ ++ l₂) g₃ := by
  induction h₂ with
  | refl => simpa using h₁
  | start a _ ih => exact ih.start a
  | step _ hi hx ih =>
    rw [← append_assoc]
    exact ih.step hi hx

theorem Steps.exec_of_mem (hr : Steps S g₀ log g) {e : Step R σ} (he : e ∈ log) :
    S.exec e.call e.before e.reply e.after := by
  obtain ⟨l₁, l₂, rfl⟩ := append_of_mem he
  obtain ⟨_, _, _, _, _, _, hx, _⟩ := hr.split
  exact hx

section Relation

variable {T : σ → σ → Prop} (hrefl : ∀ s, T s s)
  (htrans : ∀ {s s' s''}, T s s' → T s' s'' → T s s'') (hx : ∀ c s r s', S.exec c s r s' → T s s')
include hrefl htrans hx

/-- A reflexive and transitive relation that every call respects holds between
the stores at any two points. -/
theorem Steps.rel (hr : Steps S g₀ log g) : T g₀.store g.store := by
  induction hr with
  | refl => exact hrefl _
  | start a _ ih => exact ih
  | step _ _ h ih => exact htrans ih (hx _ _ _ _ h)

/-- Such a relation holds from the start to every logged call, and from there to
the end. -/
theorem Steps.rel_around (hr : Steps S g₀ log g) {e : Step R σ} (he : e ∈ log) :
    T g₀.store e.before ∧ T e.after g.store := by
  obtain ⟨l₁, l₂, rfl⟩ := append_of_mem he
  obtain ⟨g₁, _, _, h₁, hb, _, _, h₂⟩ := hr.split
  rw [← hb]
  exact ⟨Steps.rel hrefl htrans hx h₁, Steps.rel hrefl htrans hx h₂⟩

/-- Of two logged calls one is after the other. -/
theorem Steps.rel_ordered (hr : Steps S g₀ log g) {e e' : Step R σ} (he : e ∈ log)
    (he' : e' ∈ log) :
    e = e' ∨ T e.after e'.before ∨ T e'.after e.before := by
  obtain ⟨l₁, l₂, rfl⟩ := append_of_mem he
  obtain ⟨g₁, _, _, h₁, hb, _, _, h₂⟩ := hr.split
  rcases mem_append.1 he' with he' | he'
  · rw [← hb]
    exact .inr (.inr (h₁.rel_around hrefl htrans hx he').2)
  · rcases mem_cons.1 he' with rfl | he'
    · exact .inl rfl
    · exact .inr (.inl (h₂.rel_around hrefl htrans hx he').1)

end Relation

/-- What does not hold at the start and holds at the end, some logged call
established. -/
theorem Steps.established {p : σ → Prop} (hr : Steps S g₀ log g) (h₀ : ¬ p g₀.store)
    (h : p g.store) : ∃ e ∈ log, ¬ p e.before ∧ p e.after := by
  induction hr with
  | refl => exact absurd h h₀
  | start a _ ih => exact ih h
  | @step g log i a c k r s _ _ _ ih =>
    by_cases hp : p g.store
    · obtain ⟨e, he, hne, hafter⟩ := ih hp
      exact ⟨e, mem_append_left _ he, hne, hafter⟩
    · exact ⟨_, mem_append_right _ (mem_singleton.2 rfl), hp, h⟩

/-! ## Playing a schedule

A run can be computed: each move starts a program or lets a thread execute its
next call in a given environment. A move that does not apply is skipped. -/

inductive Move (ι E : Type) where
  | start (a : ι)
  | step (i : Nat) (env : E)

variable {E : Type}

def play (S : Concurrent ι C R α σ) (f : E → (c : C) → σ → R c × σ) :
    List (Move ι E) → List (Step R σ) → Config ι R α σ → List (Step R σ) × Config ι R α σ
  | [], log, g => (log, g)
  | .start a :: ms, log, g => play S f ms log ⟨g.store, g.threads ++ [⟨a, S.prog a⟩]⟩
  | .step i env :: ms, log, g =>
    match g.threads[i]? with
    | some ⟨a, .call c k⟩ =>
      let (r, s) := f env c g.store
      play S f ms (log ++ [⟨i, c, r, g.store, s⟩]) ⟨s, g.threads.set i ⟨a, k r⟩⟩
    | _ => play S f ms log g

theorem steps_play {f : E → (c : C) → σ → R c × σ}
    (hf : ∀ env c s r s', f env c s = (r, s') → S.exec c s r s') (ms : List (Move ι E)) :
    ∀ {log g}, Steps S g₀ log g → Steps S g₀ (play S f ms log g).1 (play S f ms log g).2 := by
  induction ms with
  | nil => intro log g h; exact h
  | cons m ms ih =>
    intro log g h
    cases m with
    | start a => exact ih (h.start a)
    | step i env =>
      simp only [play]
      split
      · next a c k hi => exact ih (h.step hi (hf env c g.store _ _ rfl))
      · exact ih h

end Concurrent

end Bpe
