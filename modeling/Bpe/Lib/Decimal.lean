import Mathlib.Data.Nat.Digits.Lemmas

/-!
# Canonical decimals

Digits of a number most significant first, as they are printed: zero has the one digit `0`,
and no other number starts with it. Digits in this form are those of their own value.
-/

namespace Bpe

open List

def decimalDigits (n : Nat) : List Nat := if n = 0 then [0] else (Nat.digits 10 n).reverse

/-- What a loop that reads digits from the left makes of them after `value`. -/
def digitsValue (value : Nat) (digits : List Nat) : Nat :=
  digits.foldl (fun value digit => value * 10 + digit) value

structure CanonicalDigits (digits : List Nat) : Prop where
  ne_nil : digits ≠ []
  lt : ∀ d ∈ digits, d < 10
  head : 1 < digits.length → digits.head? ≠ some 0

@[simp] theorem digitsValue_nil (value : Nat) : digitsValue value [] = value := rfl

@[simp] theorem digitsValue_cons (value d : Nat) (digits : List Nat) :
    digitsValue value (d :: digits) = digitsValue (value * 10 + d) digits := rfl

theorem decimalDigits_of_lt {n : Nat} (h : n < 10) : decimalDigits n = [n] := by
  by_cases h0 : n = 0
  · rw [h0, decimalDigits, if_pos rfl]
  · rw [decimalDigits, if_neg h0, Nat.digits_of_lt 10 n h0 h, reverse_singleton]

theorem digitsValue_eq_ofDigits (value : Nat) (digits : List Nat) :
    digitsValue value digits = Nat.ofDigits 10 (digits.reverse ++ [value]) := by
  induction digits generalizing value with
  | nil => simp
  | cons d digits ih =>
    rw [digitsValue_cons, ih, reverse_cons, append_assoc, Nat.ofDigits_append,
      Nat.ofDigits_append]
    simp only [singleton_append, Nat.ofDigits_cons, Nat.ofDigits_nil]
    ring

theorem digitsValue_zero (digits : List Nat) :
    digitsValue 0 digits = Nat.ofDigits 10 digits.reverse := by
  rw [digitsValue_eq_ofDigits, Nat.ofDigits_append, Nat.ofDigits_singleton, Nat.mul_zero,
    Nat.add_zero]

theorem decimalDigits_digitsValue {digits : List Nat} (h : CanonicalDigits digits) :
    decimalDigits (digitsValue 0 digits) = digits := by
  by_cases hlen : 1 < digits.length
  · have hlast : ∀ hne : digits.reverse ≠ [], digits.reverse.getLast hne ≠ 0 := by
      intro hne hzero
      refine h.head hlen ?_
      rw [← getLast?_reverse, getLast?_eq_some_getLast hne, hzero]
    have hdigits := Nat.digits_ofDigits 10 (by decide) digits.reverse
      (fun d hd => h.lt d (mem_reverse.1 hd)) hlast
    have hvalue : Nat.ofDigits 10 digits.reverse ≠ 0 := by
      intro hzero
      rw [hzero, Nat.digits_zero] at hdigits
      exact h.ne_nil (reverse_eq_nil_iff.1 hdigits.symm)
    rw [digitsValue_zero, decimalDigits, if_neg hvalue, hdigits, reverse_reverse]
  · obtain ⟨d, rfl⟩ : ∃ d, digits = [d] := by
      have hpos := length_pos_iff.2 h.ne_nil
      exact length_eq_one_iff.1 (by omega)
    have hd := h.lt d (mem_singleton_self d)
    rw [digitsValue_cons, digitsValue_nil, Nat.zero_mul, Nat.zero_add, decimalDigits_of_lt hd]

/-- A text whose characters stand for canonical digits is the print of its value. -/
theorem map_decimalDigits {α : Type} {text : List α} {digit : α → Nat} {print : Nat → α}
    (h : CanonicalDigits (text.map digit)) (hprint : ∀ c ∈ text, print (digit c) = c) :
    (decimalDigits (digitsValue 0 (text.map digit))).map print = text := by
  rw [decimalDigits_digitsValue h, map_map]
  exact (map_congr_left hprint).trans (map_id text)

end Bpe
