import Mathlib.Tactic

/-!
# Replacing the occurrences of a pattern

`replace` takes the occurrences of a pattern from left to right, none within
another. It works on the parts of a text alone where no occurrence lies across the
place they meet (`replace_append`), and changes nothing where the pattern does not
occur. `Clear` texts neither contain the pattern nor end within it, so that a text
put together of them does not contain it either.
-/

namespace Bpe

open List

variable {α : Type} {old new s A B : List α} {c : α}

/-! ## Texts that keep clear of the pattern -/

structure Clear (old s : List α) : Prop where
  inside : ¬ old <:+: s
  edge : ∀ u v, old = u ++ v → u ≠ [] → ¬ u <:+ s

theorem Clear.append (hA : Clear old A) (hB : Clear old B) : Clear old (A ++ B) where
  inside hi := by
    rcases infix_append_iff.1 hi with h | h | ⟨u, v, huv, hu, hv⟩
    · exact hA.inside h
    · exact hB.inside h
    · by_cases hnil : u = []
      · rw [huv, hnil] at hB
        exact hB.inside hv.isInfix
      · exact hA.edge u v huv hnil hu
  edge u v huv hu := by
    rintro ⟨front, hfront⟩
    rcases append_eq_append_iff.1 hfront with ⟨w, hw, huw⟩ | ⟨w, -, hw⟩
    · by_cases hnil : w = []
      · refine hB.edge u v huv hu ?_
        rw [huw, hnil]
        exact suffix_rfl
      · exact hA.edge w (B ++ v) (by rw [huv, huw, append_assoc]) hnil ⟨front, hw.symm⟩
    · exact hB.edge u v huv hu ⟨w, hw.symm⟩

theorem Clear.of_not_mem {tail : List α} (h : c ∉ s) : Clear (c :: tail) s where
  inside hi := h (hi.subset mem_cons_self)
  edge u v huv hu hsuffix := by
    obtain ⟨x, u, rfl⟩ := exists_cons_of_ne_nil hu
    cases huv
    exact h (hsuffix.subset mem_cons_self)

theorem Clear.of_getLast (hi : ¬ old <:+: s ++ [c]) (hc : c ∉ old.dropLast) :
    Clear old (s ++ [c]) where
  inside := hi
  edge u v huv hu hsuffix := by
    by_cases hv : v = []
    · rw [hv, append_nil] at huv
      exact hi (huv ▸ hsuffix.isInfix)
    · obtain ⟨u, x, rfl⟩ := eq_nil_or_concat' u |>.resolve_left hu
      have hx : x = c := by
        obtain ⟨front, hfront⟩ := hsuffix
        rw [← append_assoc] at hfront
        exact (append_singleton_inj.1 hfront).2
      refine hc ?_
      rw [huv, dropLast_append_of_ne_nil hv, hx]
      simp

/-- An element that the pattern does not hold parts the text. -/
theorem infix_append_cons (h : c ∉ old) (hi : old <:+: A ++ c :: B) :
    old <:+: A ∨ old <:+: B := by
  rcases infix_append_iff.1 hi with hi | hi | ⟨u, v, rfl, hu, hv⟩
  · exact .inl hi
  · rcases infix_cons_iff.1 hi with hp | hi
    · rcases prefix_cons_iff.1 hp with rfl | ⟨tail, rfl, -⟩
      · exact .inl nil_infix
      · exact absurd mem_cons_self h
    · exact .inr hi
  · rcases prefix_cons_iff.1 hv with rfl | ⟨tail, rfl, -⟩
    · rw [append_nil]
      exact .inl hu.isInfix
    · exact absurd (by simp) h

/-! ## Replacement -/

variable [DecidableEq α]

/-- The first argument counts what is left of the last occurrence. -/
def replaceFrom (old new : List α) : Nat → List α → List α
  | _, [] => []
  | skip + 1, _ :: rest => replaceFrom old new skip rest
  | 0, c :: rest =>
    if old.isPrefixOf (c :: rest) then new ++ replaceFrom old new (old.length - 1) rest
    else c :: replaceFrom old new 0 rest

def replace (old new s : List α) : List α := replaceFrom old new 0 s

theorem replaceFrom_eq (n : Nat) : replaceFrom old new n s = replace old new (s.drop n) := by
  induction n generalizing s with
  | zero => rfl
  | succ n ih =>
    cases s with
    | nil => rfl
    | cons c s => exact ih

@[simp] theorem replace_nil : replace old new [] = [] := rfl

theorem replace_match (h : old ≠ []) : replace old new (old ++ s) = new ++ replace old new s := by
  obtain ⟨c, tail, rfl⟩ := exists_cons_of_ne_nil h
  rw [replace, cons_append, replaceFrom, if_pos, replaceFrom_eq]
  · simp
  · rw [← cons_append, isPrefixOf_iff_prefix]
    exact prefix_append _ _

theorem replace_cons (h : ¬ old <+: c :: s) :
    replace old new (c :: s) = c :: replace old new s := by
  rw [replace, replaceFrom, if_neg]
  · rfl
  · exact mt isPrefixOf_iff_prefix.1 h

theorem replace_cons_of_not_mem (hold : old ≠ []) (hc : c ∉ old) :
    replace old new (c :: s) = c :: replace old new s := by
  refine replace_cons fun hfront => hc ?_
  rcases prefix_cons_iff.1 hfront with hnil | ⟨tail, rfl, -⟩
  · exact absurd hnil hold
  · exact mem_cons_self

theorem replace_of_not_infix (h : ¬ old <:+: s) : replace old new s = s := by
  induction s with
  | nil => rfl
  | cons c s ih =>
    rw [replace_cons fun hp => h hp.isInfix,
      ih fun hi => h (hi.trans (suffix_cons c s).isInfix)]

/-- No occurrence lies across the place where the two parts meet. -/
theorem replace_append (hold : old ≠ [])
    (h : ∀ u v, old = u ++ v → u ≠ [] → v ≠ [] → u <:+ A → ¬ v <+: B) :
    replace old new (A ++ B) = replace old new A ++ replace old new B := by
  induction hn : A.length using Nat.strong_induction_on generalizing A with
  | _ n ih =>
    cases A with
    | nil => rfl
    | cons c A =>
      by_cases hp : old <+: c :: A
      · obtain ⟨rest, hrest⟩ := hp
        have hpos := length_pos_iff.2 hold
        have hlength := congrArg length hrest
        rw [length_append] at hlength
        rw [← hrest, append_assoc, replace_match hold, replace_match hold,
          ih rest.length (by omega) ?_ rfl, append_assoc]
        intro u v huv hu hv hsuffix
        exact h u v huv hu hv (hsuffix.trans ⟨old, hrest⟩)
      · have hall : ¬ old <+: c :: (A ++ B) := by
          rintro ⟨rest, hrest⟩
          rcases append_eq_append_iff.1 (hrest.trans (cons_append).symm) with
            ⟨tail, htail, -⟩ | ⟨v, hv, hB⟩
          · exact hp ⟨tail, htail.symm⟩
          · by_cases hnil : v = []
            · rw [hnil, append_nil] at hv
              exact hp (hv ▸ prefix_rfl)
            · exact h _ v hv (by simp) hnil suffix_rfl ⟨rest, hB.symm⟩
        rw [cons_append, replace_cons hall, replace_cons hp, cons_append,
          ih A.length (by rw [← hn]; simp) ?_ rfl]
        intro u v huv hu hv hsuffix
        exact h u v huv hu hv (hsuffix.trans (suffix_cons c A))

/-- What begins with an element that the pattern does not hold is replaced on its own. -/
theorem replace_append_cons (hold : old ≠ []) (hc : c ∉ old) :
    replace old new (A ++ c :: B) = replace old new A ++ replace old new (c :: B) := by
  refine replace_append hold fun u v huv _ hv _ hfront => hc ?_
  rcases prefix_cons_iff.1 hfront with rfl | ⟨tail, rfl, -⟩
  · exact absurd rfl hv
  · rw [huv]
    simp

/-- A pattern of two elements lies across a place only with one on each side. -/
theorem replace_pair_append {a b : α} (h : ¬ ([a] <:+ A ∧ [b] <+: B)) :
    replace [a, b] new (A ++ B) = replace [a, b] new A ++ replace [a, b] new B := by
  refine replace_append (by simp) fun u v huv hu hv hsuffix hfront => h ?_
  rcases u with _ | ⟨x, _ | ⟨y, u⟩⟩
  · exact absurd rfl hu
  · cases huv
    exact ⟨hsuffix, hfront⟩
  · simp at huv
    exact absurd huv.2.2.2 hv

theorem Clear.replace_eq (h : Clear old s) : replace old new s = s :=
  replace_of_not_infix h.inside

end Bpe
