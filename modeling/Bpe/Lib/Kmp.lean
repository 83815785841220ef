import Mathlib.Tactic

/-!
# Search for a contiguous sequence

The linear search with a prefix table. The state of a scan is the length of the
longest prefix of the needle that ends the text read so far (`Longest`); one step
keeps that (`advance_longest`). Building the table is the same scan over the needle
without its first element, since a proper border of a list is a border of its tail.
The search also counts the rounds of its inner loop: each shortens the matched part and each
element read adds at most one to it, so that the rounds are no more than the elements
(`rounds_le`). What it finds and what it takes are the two halves of one run.
-/

namespace Bpe.Kmp

open List

variable {α : Type}

/-! ## Borders -/

/-- A prefix of the needle that the text ends with. -/
def Border (needle s : List α) (k : Nat) : Prop := k ≤ needle.length ∧ needle.take k <:+ s

structure Longest (needle s : List α) (k : Nat) : Prop where
  border : Border needle s k
  longest : ∀ j, Border needle s j → j ≤ k

variable {needle s rest : List α} {table : List Nat} {x : α} {j k : Nat}

theorem Border.length_le (h : Border needle s k) : k ≤ s.length := by
  have := h.2.length_le
  rw [length_take] at this
  have := h.1
  omega

theorem border_zero : Border needle s 0 := ⟨Nat.zero_le _, by simp⟩

theorem longest_nil : Longest needle [] 0 := ⟨border_zero, fun _ h => h.length_le⟩

/-- A shorter border of the text is a border of the longer one, its first element aside. -/
theorem Border.of_lt (hj : Border needle s j) (hk : Border needle s k) (h : j < k) :
    Border needle (needle.take k).tail j := by
  have hlength : (needle.take j).length < (needle.take k).length := by
    rw [length_take, length_take]
    have := hk.1
    omega
  obtain ⟨front, hfront⟩ := suffix_of_suffix_length_le hj.2 hk.2 hlength.le
  refine ⟨hj.1, ?_⟩
  rw [← hfront] at hlength ⊢
  cases front with
  | nil => exact absurd hlength (lt_irrefl _)
  | cons a front => exact ⟨front, rfl⟩

theorem Border.trans (hk : Border needle s k) (hj : Border needle (needle.take k).tail j) :
    Border needle s j :=
  ⟨hj.1, hj.2.trans ((tail_suffix _).trans hk.2)⟩

theorem border_snoc :
    Border needle (s ++ [x]) (k + 1) ↔ Border needle s k ∧ needle[k]? = some x := by
  by_cases hk : k < needle.length
  · have htake : needle.take (k + 1) = needle.take k ++ [needle[k]] := by simp
    rw [Border, htake, getElem?_eq_getElem hk]
    constructor
    · rintro ⟨-, front, hfront⟩
      rw [← append_assoc] at hfront
      obtain ⟨hs, hx⟩ := append_singleton_inj.1 hfront
      exact ⟨⟨hk.le, front, hs⟩, by rw [hx]⟩
    · rintro ⟨⟨-, front, hfront⟩, hx⟩
      refine ⟨hk, front, ?_⟩
      rw [← append_assoc, hfront, Option.some.inj hx]
  · constructor
    · exact fun h => absurd h.1 hk
    · rintro ⟨-, hx⟩
      rw [getElem?_eq_none (by omega)] at hx
      cases hx

/-- The whole needle is the longest border there can be. -/
theorem Longest.eq_length_iff (h : Longest needle s k) : k = needle.length ↔ needle <:+ s := by
  constructor
  · rintro rfl
    have := h.border.2
    rwa [take_length] at this
  · intro hs
    have := h.longest needle.length ⟨le_rfl, by rwa [take_length]⟩
    exact le_antisymm h.border.1 this

/-- The entries of the table are the longest proper borders of the needle's prefixes. -/
def Correct (needle : List α) (table : List Nat) : Prop :=
  ∀ i < table.length, Longest needle (needle.take (i + 1)).tail (table.getD i 0)

theorem Correct.snoc (h : Correct needle table)
    (hk : Longest needle (needle.take (table.length + 1)).tail k) :
    Correct needle (table ++ [k]) := by
  intro i hi
  rw [length_append, length_singleton] at hi
  by_cases hlast : i < table.length
  · have hget : (table ++ [k]).getD i 0 = table.getD i 0 := by
      simp [getD_eq_getElem?_getD, getElem?_append_left hlast]
    rw [hget]
    exact h i hlast
  · obtain rfl : i = table.length := by omega
    simpa [getD_eq_getElem?_getD] using hk

theorem Correct.getD_le (h : Correct needle table) (hk : k < table.length) :
    table.getD k 0 ≤ k := by
  have := (h k hk).border.length_le
  rw [length_tail, length_take] at this
  omega

/-! ## The search

The state is the length that is matched, with the rounds so far. -/

variable [DecidableEq α]

/-- The `while` loop: back to shorter borders until the next element fits. -/
def fallback (needle : List α) (table : List Nat) (x : α) : Nat → Nat → Nat → Nat × Nat
  | 0, matched, rounds => (matched, rounds)
  | _, 0, rounds => (0, rounds)
  | fuel + 1, matched + 1, rounds =>
    if needle[matched + 1]? = some x then (matched + 1, rounds)
    else fallback needle table x fuel (table.getD matched 0) (rounds + 1)

def advance (needle : List α) (table : List Nat) (state : Nat × Nat) (x : α) : Nat × Nat :=
  let (matched, rounds) := fallback needle table x state.1 state.1 state.2
  (if needle[matched]? = some x then matched + 1 else matched, rounds)

/-- The prefix table, from the entries so far and the state of its scan. -/
def buildTable (needle : List α) : List Nat → Nat × Nat → List α → List Nat × Nat
  | table, state, [] => (table, state.2)
  | table, state, x :: rest =>
    let state := advance needle table state x
    buildTable needle (table ++ [state.1]) state rest

def prefixTable (needle : List α) : List Nat × Nat := buildTable needle [0] (0, 0) needle.tail

def scan (needle : List α) (table : List Nat) : Nat × Nat → List α → Bool × Nat
  | state, [] => (false, state.2)
  | state, x :: rest =>
    let state := advance needle table state x
    if state.1 = needle.length then (true, state.2) else scan needle table state rest

def search (haystack needle : List α) : Bool × Nat :=
  if needle = [] ∨ haystack.length < needle.length then (false, 0)
  else
    let (table, rounds) := prefixTable needle
    scan needle table (0, rounds) haystack

def contains (haystack needle : List α) : Bool := (search haystack needle).1

def rounds (haystack needle : List α) : Nat := (search haystack needle).2

/-! ## One step -/

/-- The loop stops at the longest border that the next element continues, if there is one. -/
theorem fallback_spec {n : Nat} (fuel : Nat) (htable : Correct needle table) (hfuel : k ≤ fuel)
    (hlength : k ≤ table.length) (hk : Border needle s k)
    (hlongest : ∀ j, Border needle s j → needle[j]? = some x → j ≤ k)
    {r : Nat × Nat} (hr : fallback needle table x fuel k n = r) :
    Border needle s r.1 ∧ (∀ j, Border needle s j → needle[j]? = some x → j ≤ r.1) ∧
      (r.1 = 0 ∨ needle[r.1]? = some x) ∧ r.2 + r.1 ≤ n + k := by
  induction fuel generalizing k n with
  | zero =>
    obtain rfl := Nat.le_zero.1 hfuel
    subst hr
    exact ⟨hk, hlongest, .inl rfl, le_rfl⟩
  | succ fuel ih =>
    cases k with
    | zero =>
      subst hr
      exact ⟨hk, hlongest, .inl rfl, le_rfl⟩
    | succ k =>
      rw [fallback] at hr
      split at hr
      next hx =>
        subst hr
        exact ⟨hk, hlongest, .inr hx, le_rfl⟩
      next hx =>
        have hentry := htable k hlength
        have hle := htable.getD_le hlength
        have hshorter : ∀ j, Border needle s j → needle[j]? = some x → j ≤ table.getD k 0 := by
          intro j hj hjx
          have hlt : j < k + 1 := by
            refine lt_of_le_of_ne (hlongest j hj hjx) ?_
            rintro rfl
            exact hx hjx
          exact hentry.longest j (hj.of_lt hk hlt)
        obtain ⟨hborder, hmax, hstop, hrounds⟩ := ih (by omega) (by omega)
          (hk.trans hentry.border) hshorter hr
        exact ⟨hborder, hmax, hstop, by omega⟩

theorem advance_spec {state r : Nat × Nat} (htable : Correct needle table)
    (hk : Longest needle s state.1) (hlength : state.1 ≤ table.length)
    (hr : advance needle table state x = r) :
    Longest needle (s ++ [x]) r.1 ∧ r.2 + r.1 ≤ state.2 + state.1 + 1 := by
  obtain ⟨hborder, hmax, hstop, hrounds⟩ := fallback_spec state.1 (x := x) (n := state.2) htable
    le_rfl hlength hk.border (fun j hj _ => hk.longest j hj) rfl
  subst hr
  simp only [advance]
  generalize fallback needle table x state.1 state.1 state.2 = b at *
  split
  next hx =>
    refine ⟨⟨border_snoc.2 ⟨hborder, hx⟩, fun j hj => ?_⟩, by omega⟩
    cases j with
    | zero => omega
    | succ j =>
      obtain ⟨hj, hjx⟩ := border_snoc.1 hj
      exact Nat.succ_le_succ (hmax j hj hjx)
  next hx =>
    -- the loop went back to the empty border, and nothing continues it
    have hzero := hstop.resolve_right hx
    simp only [hzero] at hx hmax ⊢
    refine ⟨⟨border_zero, fun j hj => ?_⟩, by omega⟩
    cases j with
    | zero => exact le_rfl
    | succ j =>
      obtain ⟨hj, hjx⟩ := border_snoc.1 hj
      obtain rfl := Nat.le_zero.1 (hmax j hj hjx)
      exact absurd hjx hx

/-! ## The table -/

/-- The state of the scan is the table's last entry. -/
theorem buildTable_spec (state : Nat × Nat) (htable : Correct needle table)
    (hk : Longest needle (needle.take table.length).tail state.1) (hpos : 0 < table.length)
    (hrest : needle.drop table.length = rest) {r : List Nat × Nat}
    (hr : buildTable needle table state rest = r) :
    Correct needle r.1 ∧ r.1.length = table.length + rest.length ∧
      r.2 ≤ state.2 + state.1 + rest.length := by
  induction rest generalizing table state with
  | nil =>
    subst hr
    exact ⟨htable, rfl, by rw [buildTable]; omega⟩
  | cons x rest ih =>
    have hlt : table.length < needle.length := by
      by_contra hge
      rw [drop_of_length_le (by omega)] at hrest
      cases hrest
    have htake : (needle.take (table.length + 1)).tail =
        (needle.take table.length).tail ++ [x] := by
      have hx : needle[table.length]? = some x := by
        rw [← head?_drop, hrest]
        rfl
      rw [take_add_one, hx, tail_append_of_ne_nil]
      · rfl
      · intro hnil
        have := congrArg length hnil
        rw [length_take, length_nil] at this
        omega
    have hlength : state.1 ≤ table.length := by
      have := hk.border.length_le
      rw [length_tail, length_take] at this
      omega
    rw [buildTable] at hr
    obtain ⟨hnext, hrounds⟩ := advance_spec (x := x) htable hk hlength rfl
    rw [← htake] at hnext
    have hsnoc : (table ++ [(advance needle table state x).1]).length = table.length + 1 := by simp
    obtain ⟨hcorrect, hsize, hle⟩ := ih _
      (htable.snoc hnext) (by rw [hsnoc]; exact hnext) (by rw [hsnoc]; omega)
      (by rw [hsnoc, ← tail_drop, hrest]; rfl) hr
    rw [length_cons]
    exact ⟨hcorrect, by omega, by omega⟩

theorem prefixTable_spec (hneedle : needle ≠ []) :
    Correct needle (prefixTable needle).1 ∧ (prefixTable needle).1.length = needle.length ∧
      (prefixTable needle).2 ≤ needle.length := by
  obtain ⟨y, needle, rfl⟩ := exists_cons_of_ne_nil hneedle
  have hnil : Longest (y :: needle) ((y :: needle).take 1).tail 0 := longest_nil
  have hone : Correct (y :: needle) [0] := by
    intro i hi
    obtain rfl : i = 0 := by simpa using hi
    exact hnil
  have hrest : (y :: needle).drop [0].length = needle := rfl
  obtain ⟨hcorrect, hlength, hrounds⟩ :=
    buildTable_spec (0, 0) hone hnil (by simp) hrest rfl
  simp only [length_cons, length_nil] at hlength ⊢
  exact ⟨hcorrect, hlength.trans (by omega), hrounds.trans (by simp)⟩

/-! ## The scan -/

theorem scan_spec (state : Nat × Nat) (rest : List α) (htable : Correct needle table)
    (hsize : table.length = needle.length) (hk : Longest needle s state.1) :
    ((scan needle table state rest).1 = true ↔ ∃ p, p ≠ [] ∧ p <+: rest ∧ needle <:+ s ++ p) ∧
      (scan needle table state rest).2 ≤ state.2 + state.1 + rest.length := by
  induction rest generalizing s state with
  | nil =>
    refine ⟨⟨fun h => (by cases h), ?_⟩, by rw [scan]; omega⟩
    rintro ⟨p, hp, hfront, -⟩
    exact absurd (prefix_nil.1 hfront) hp
  | cons x rest ih =>
    obtain ⟨hnext, hrounds⟩ := advance_spec (x := x) htable hk (hsize ▸ hk.border.1) rfl
    rw [scan, length_cons]
    split
    next hall =>
      refine ⟨⟨fun _ => ⟨[x], by simp, ⟨rest, rfl⟩, hnext.eq_length_iff.1 hall⟩, fun _ => rfl⟩, ?_⟩
      simp only
      omega
    next hall =>
      obtain ⟨hfound, hle⟩ := ih _ hnext
      refine ⟨hfound.trans ?_, by omega⟩
      constructor
      · rintro ⟨p, -, hp, hneedle⟩
        exact ⟨x :: p, by simp, cons_prefix_cons.2 ⟨rfl, hp⟩, by simpa using hneedle⟩
      · rintro ⟨p, hne, hp, hneedle⟩
        obtain ⟨y, p, rfl⟩ := exists_cons_of_ne_nil hne
        obtain ⟨rfl, hrest⟩ := cons_prefix_cons.1 hp
        refine ⟨p, ?_, hrest, by simpa using hneedle⟩
        rintro rfl
        exact hall (hnext.eq_length_iff.2 hneedle)

theorem search_spec {haystack : List α} :
    ((search haystack needle).1 = true ↔ needle ≠ [] ∧ needle <:+: haystack) ∧
      (search haystack needle).2 ≤ haystack.length + needle.length := by
  rw [search]
  split
  next h =>
    refine ⟨⟨fun hfalse => (by cases hfalse), ?_⟩, Nat.zero_le _⟩
    rintro ⟨hne, hwithin⟩
    rcases h with h | h
    · exact absurd h hne
    · exact absurd hwithin.length_le (by omega)
  next h =>
    obtain ⟨hne, -⟩ := not_or.1 h
    obtain ⟨htable, hsize, hbuild⟩ := prefixTable_spec hne
    obtain ⟨hfound, hscan⟩ := scan_spec (0, (prefixTable needle).2) haystack htable hsize
      longest_nil
    refine ⟨hfound.trans ?_, by simp only at hscan ⊢; omega⟩
    constructor
    · rintro ⟨p, -, hp, hneedle⟩
      exact ⟨hne, hneedle.isInfix.trans hp.isInfix⟩
    · rintro ⟨-, front, back, rfl⟩
      exact ⟨front ++ needle, by simp [hne], ⟨back, rfl⟩, ⟨front, rfl⟩⟩

/-- **The search finds the needle exactly where it is contiguous in the haystack.** -/
theorem contains_iff {haystack : List α} :
    contains haystack needle = true ↔ needle ≠ [] ∧ needle <:+: haystack :=
  search_spec.1

/-- **The inner loops take no more rounds than there are elements in both lists.** -/
theorem rounds_le {haystack : List α} :
    rounds haystack needle ≤ haystack.length + needle.length :=
  search_spec.2

end Bpe.Kmp
