import Mathlib.Data.List.Basic

/-!
# Backtracking matchers

A pattern as the list of the ways it matches a front of a text, in the order in which a
backtracking engine tries them, each with what it captures and the text left. `Best m s b rest`
says that the first way is the capture `b` with `rest` left; the rules follow a pattern from left
to right, and say which ways of a repetition fail before the one taken.
-/

namespace Bpe

open List

def Matcher (α β : Type) : Type := List α → List (β × List α)

namespace Matcher

variable {α β γ : Type}

instance instMonad : Monad (Matcher α) where
  pure b := fun s => [(b, s)]
  bind m f := fun s => (m s).flatMap fun way => f way.1 way.2

/-- As many elements of the class as there are, then fewer. -/
def greedy (p : α → Bool) : Matcher α Unit := fun s =>
  (range ((s.takeWhile p).length + 1)).reverse.map fun n => ((), s.drop n)

/-- No element, then more. -/
def lazyAny : Matcher α (List α) := fun s =>
  (range (s.length + 1)).map fun n => (s.take n, s.drop n)

def text [BEq α] (t : List α) : Matcher α Unit := fun s =>
  if t.isPrefixOf s then [((), s.drop t.length)] else []

def oneOf [BEq α] (choices : List α) : Matcher α Unit
  | [] => []
  | c :: s => if choices.contains c then [((), s)] else []

def atEnd : Matcher α Unit
  | [] => [((), [])]
  | _ :: _ => []

/-- The capture of the match. -/
def capture (m : Matcher α β) (s : List α) : Option β := (m s).head?.map Prod.fst

def Best (m : Matcher α β) (s : List α) (b : β) (rest : List α) : Prop :=
  (m s).head? = some (b, rest)

theorem Best.capture {m : Matcher α β} {s rest : List α} {b : β} (h : Best m s b rest) :
    m.capture s = some b := by
  rw [Matcher.capture, h]
  rfl

theorem best_pure (b : β) (s : List α) : Best (pure b : Matcher α β) s b s := rfl

section Bind

variable {m : Matcher α β} {f : β → Matcher α γ} {g : Unit → Matcher α γ}
  {s t rest : List α} {c : γ}

/-- The ways before the one taken all fail. -/
theorem Best.bind {before after : List (β × List α)} {way : β × List α}
    (hways : m s = before ++ way :: after) (hfail : ∀ w ∈ before, f w.1 w.2 = [])
    (h : Best (f way.1) way.2 c rest) : Best (m >>= f) s c rest := by
  show ((m s).flatMap fun way => f way.1 way.2).head? = some (c, rest)
  have hbefore : (before.flatMap fun way => f way.1 way.2) = [] := flatMap_eq_nil_iff.2 hfail
  rw [hways, flatMap_append, hbefore, nil_append, flatMap_cons, head?_append,
    show (f way.1 way.2).head? = some (c, rest) from h]
  rfl

theorem Best.bind_only {way : β × List α} (hway : m s = [way])
    (h : Best (f way.1) way.2 c rest) : Best (m >>= f) s c rest :=
  Best.bind (hway.trans (nil_append [way]).symm) (by simp) h

theorem Best.greedy_bind {p : α → Bool} (n : Nat) (hn : n ≤ (s.takeWhile p).length)
    (hfail : ∀ k, n < k → k ≤ (s.takeWhile p).length → g () (s.drop k) = [])
    (h : Best (g ()) (s.drop n) c rest) : Best (greedy p >>= g) s c rest := by
  generalize hm : (s.takeWhile p).length = m at hn hfail
  have hrange : (range (m + 1)).reverse =
      ((range (m - n)).map (n + 1 + ·)).reverse ++ n :: (range n).reverse := by
    rw [show m + 1 = (n + 1) + (m - n) by omega, range_add, reverse_append,
      range_succ, reverse_append]
    rfl
  have hways : greedy p s =
      ((range (m - n)).map (n + 1 + ·)).reverse.map (fun n => ((), s.drop n)) ++
        ((), s.drop n) :: (range n).reverse.map fun n => ((), s.drop n) := by
    rw [greedy, hm, hrange, map_append, map_cons]
  refine Best.bind hways (fun w hw => ?_) h
  obtain ⟨k, hk, rfl⟩ := mem_map.1 hw
  obtain ⟨i, hi, rfl⟩ := mem_map.1 (mem_reverse.1 hk)
  have := mem_range.1 hi
  exact hfail _ (by omega) (by omega)

theorem Best.lazyAny_bind {f : List α → Matcher α γ} (n : Nat) (hn : n ≤ s.length)
    (hfail : ∀ k < n, f (s.take k) (s.drop k) = []) (h : Best (f (s.take n)) (s.drop n) c rest) :
    Best (lazyAny >>= f) s c rest := by
  have hrange : range (s.length + 1) =
      range n ++ n :: (range (s.length - n)).map (n + 1 + ·) := by
    rw [show s.length + 1 = (n + 1) + (s.length - n) by omega, range_add, range_succ,
      append_assoc]
    rfl
  have hways : lazyAny s = (range n).map (fun n => (s.take n, s.drop n)) ++
      (s.take n, s.drop n) ::
        ((range (s.length - n)).map (n + 1 + ·)).map fun n => (s.take n, s.drop n) := by
    rw [lazyAny, hrange, map_append, map_cons]
  refine Best.bind hways (fun w hw => ?_) h
  obtain ⟨k, hk, rfl⟩ := mem_map.1 hw
  exact hfail k (mem_range.1 hk)

variable [BEq α] [LawfulBEq α]

theorem Best.text_bind (h : Best (g ()) s c rest) : Best (text t >>= g) (t ++ s) c rest := by
  have hway : text t (t ++ s) = [((), s)] := by
    rw [text, if_pos (by simp), drop_left]
  exact Best.bind_only hway h

theorem text_bind_eq_nil (h : ¬ t <+: s) : (text t >>= g) s = [] := by
  show ((text t s).flatMap fun way => g way.1 way.2) = []
  rw [text, if_neg (mt isPrefixOf_iff_prefix.1 h)]
  rfl

theorem Best.oneOf_bind {choices : List α} {a : α} (ha : a ∈ choices) (h : Best (g ()) s c rest) :
    Best (oneOf choices >>= g) (a :: s) c rest := by
  have hway : oneOf choices (a :: s) = [((), s)] := by
    rw [oneOf, if_pos (contains_iff_mem.2 ha)]
  exact Best.bind_only hway h

omit [BEq α] [LawfulBEq α] in
theorem Best.atEnd_bind (h : Best (g ()) [] c rest) :
    Best (atEnd >>= g) ([] : List α) c rest := by
  have hway : atEnd ([] : List α) = [((), [])] := rfl
  exact Best.bind_only hway h

end Bind

end Matcher

end Bpe
