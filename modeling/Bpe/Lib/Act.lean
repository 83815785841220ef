import Bpe.Lib.Interleave

/-!
# Programs that may raise

`Act C R ε α` is a program that returns an `α` or raises an `ε`; a call `c`
whose reply is a `V c` or a raised `ε` is performed with `Act.perform`.
`Act.Guards` is `Prog.Guards` with one postcondition for each way out; its
rules are equivalences, so that a program is checked by rewriting with them.
-/

namespace Bpe

/-- The replies of calls that return a `V c` or raise an `ε`. -/
abbrev Replies {C : Type} (ε : Type) (V : C → Type) (c : C) : Type := Except ε (V c)

def Act (C : Type) (R : C → Type) (ε α : Type) : Type := Prog C R (Except ε α)

namespace Act

variable {C : Type} {R V : C → Type} {ε ε' α β : Type}

instance : Monad (Act C R ε) where
  pure a := .ret (.ok a)
  bind m f := Prog.bind m fun
    | .ok a => f a
    | .error e => .ret (.error e)

def raise (e : ε) : Act C R ε α := .ret (.error e)

/-- Issue `c`, and raise what it raises. -/
def perform (c : C) : Act C (Replies ε V) ε (V c) := .call c .ret

def lift (x : Except ε α) : Act C R ε α := .ret x

/-- `m` with its errors translated. -/
def mapError (f : ε → ε') (m : Act C R ε α) : Act C R ε' α := Prog.bind m fun
  | .ok a => .ret (.ok a)
  | .error e => .ret (.error (f e))

def when (c : Prop) [Decidable c] (m : Act C R ε Unit) : Act C R ε Unit :=
  if c then m else pure ()

def Guards (P : List (Event R) → C → Prop) (Q : List (Event R) → α → Prop)
    (E : List (Event R) → ε → Prop) (h : List (Event R)) (m : Act C R ε α) : Prop :=
  Prog.Guards P (fun h r => match r with
    | .ok a => Q h a
    | .error e => E h e) h m

variable {P : List (Event R) → C → Prop} {Q : List (Event R) → α → Prop}
  {E : List (Event R) → ε → Prop} {h : List (Event R)}

theorem guards_pure {a : α} : Guards P Q E h (pure a : Act C R ε α) ↔ Q h a := Iff.rfl

theorem guards_raise {e : ε} : Guards P Q E h (raise e : Act C R ε α) ↔ E h e := Iff.rfl

theorem guards_lift {x : Except ε α} :
    Guards P Q E h (lift x : Act C R ε α) ↔
      (∀ a, x = .ok a → Q h a) ∧ ∀ e, x = .error e → E h e := by
  cases x with
  | ok a =>
    constructor
    · intro hq
      refine ⟨fun b hb => ?_, fun e he => ?_⟩
      · cases hb; exact hq
      · cases he
    · intro hq; exact hq.1 a rfl
  | error e =>
    constructor
    · intro hq
      refine ⟨fun b hb => ?_, fun e he => ?_⟩
      · cases hb
      · cases he; exact hq
    · intro hq; exact hq.2 e rfl

theorem guards_perform {P : List (Event (Replies ε V)) → C → Prop} {c : C}
    {Q : List (Event (Replies ε V)) → V c → Prop} {E : List (Event (Replies ε V)) → ε → Prop}
    {h : List (Event (Replies ε V))} :
    Guards P Q E h (perform c : Act C (Replies ε V) ε (V c)) ↔
      P h c ∧ (∀ a, Q (h ++ [⟨c, .ok a⟩]) a) ∧ ∀ e, E (h ++ [⟨c, .error e⟩]) e := by
  refine and_congr_right fun _ => ⟨fun hr => ⟨fun a => hr (.ok a), fun e => hr (.error e)⟩, ?_⟩
  rintro ⟨hq, he⟩ (e | a)
  · exact he e
  · exact hq a

theorem guards_bind {m : Act C R ε β} {f : β → Act C R ε α} :
    Guards P Q E h (m >>= f) ↔ Guards P (fun h b => Guards P Q E h (f b)) E h m := by
  unfold Guards
  refine Prog.guards_bind.trans (iff_of_eq ?_)
  congr 1
  funext h r
  cases r <;> rfl

theorem guards_map {f : β → α} {m : Act C R ε β} :
    Guards P Q E h (f <$> m) ↔ Guards P (fun h b => Q h (f b)) E h m :=
  guards_bind

theorem guards_mapError {f : ε' → ε} {m : Act C R ε' α} :
    Guards P Q E h (mapError f m) ↔ Guards P Q (fun h e => E h (f e)) h m := by
  unfold Guards mapError
  refine Prog.guards_bind.trans (iff_of_eq ?_)
  congr 1
  funext h r
  cases r <;> rfl

theorem guards_ite {c : Prop} [Decidable c] {m m' : Act C R ε α} :
    Guards P Q E h (if c then m else m') ↔
      (c → Guards P Q E h m) ∧ (¬ c → Guards P Q E h m') := by
  by_cases hc : c <;> simp [hc]

theorem guards_check {c : Prop} [Decidable c] {e : ε} {Q : List (Event R) → Unit → Prop}
    (he : c → E h e) (hq : ¬ c → Q h ()) : Guards P Q E h (when c (raise e)) :=
  guards_ite.2 ⟨fun hc => guards_raise.2 (he hc), hq⟩

theorem guards_check_bind {c : Prop} [Decidable c] {e : ε} {f : Unit → Act C R ε α}
    (he : c → E h e) (hf : ¬ c → Guards P Q E h (f ())) :
    Guards P Q E h (when c (raise e) >>= f) :=
  guards_bind.2 (guards_check he hf)

theorem Guards.imp {P' : List (Event R) → C → Prop} {Q' : List (Event R) → α → Prop}
    {E' : List (Event R) → ε → Prop} {m : Act C R ε α} (hm : Guards P Q E h m)
    (hp : ∀ h c, P h c → P' h c) (hq : ∀ h a, Q h a → Q' h a) (he : ∀ h e, E h e → E' h e) :
    Guards P' Q' E' h m := by
  refine Prog.Guards.imp hm hp fun h r hr => ?_
  cases r with
  | ok a => exact hq h a hr
  | error e => exact he h e hr

theorem Guards.mono {Q' : List (Event R) → α → Prop} {E' : List (Event R) → ε → Prop}
    {m : Act C R ε α} (hm : Guards P Q E h m) (hq : ∀ h a, Q h a → Q' h a)
    (he : ∀ h e, E h e → E' h e) : Guards P Q' E' h m :=
  hm.imp (fun _ _ hc => hc) hq he

/-- A program of a smaller interface, judged by the calls it issues there. -/
theorem guards_embed {C' : Type} {R' : C' → Type} {m : Embedding R R'}
    {P : List (Event R') → C' → Prop} {Q : List (Event R') → α → Prop}
    {E : List (Event R') → ε → Prop} {h₀ : List (Event R')} {p : Act C R ε α} :
    Guards P Q E h₀ (m.prog p : Act C' R' ε α) ↔
      Guards (fun h c => P (h₀ ++ h.map m.event) (m.call c)) (fun h a => Q (h₀ ++ h.map m.event) a)
        (fun h e => E (h₀ ++ h.map m.event) e) [] p := by
  unfold Guards
  have hprog := @Embedding.guards_prog _ _ _ _ _ m P (fun h r => match r with
    | .ok a => Q h a
    | .error e => E h e) h₀ p []
  simpa only [List.map_nil, List.append_nil] using hprog

end Act

end Bpe
