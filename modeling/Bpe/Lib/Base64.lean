import Mathlib.Data.List.Basic
import Mathlib.Tactic.Ring

/-!
# Base 64

Bytes as groups of six bits and back, as RFC 4648 has it. The last group of a text that does not
fill its bytes has padding bits; a decoder does not look at them, and `PaddingZero` says that
they are clear. Then the groups are those of the decoded bytes.
-/

namespace Bpe

open List Option

/-- Three bytes in four groups; the bits missing from the last group are clear. -/
def sextets : List UInt8 → List Nat
  | a :: b :: c :: rest =>
    a.toNat / 4 :: (a.toNat % 4 * 16 + b.toNat / 16) :: (b.toNat % 16 * 4 + c.toNat / 64) ::
      c.toNat % 64 :: sextets rest
  | [a, b] => [a.toNat / 4, a.toNat % 4 * 16 + b.toNat / 16, b.toNat % 16 * 4]
  | [a] => [a.toNat / 4, a.toNat % 4 * 16]
  | [] => []

/-- Four groups in three bytes; one group alone is not a byte. -/
def octets : List Nat → Option (List UInt8)
  | w :: x :: y :: z :: rest => (octets rest).map fun bytes =>
    UInt8.ofNat (w * 4 + x / 16) :: UInt8.ofNat (x % 16 * 16 + y / 4) ::
      UInt8.ofNat (y % 4 * 64 + z) :: bytes
  | [w, x, y] => some [UInt8.ofNat (w * 4 + x / 16), UInt8.ofNat (x % 16 * 16 + y / 4)]
  | [w, x] => some [UInt8.ofNat (w * 4 + x / 16)]
  | [_] => none
  | [] => some []

/-- The padding bits of the last group. -/
def PaddingZero : List Nat → Prop
  | _ :: _ :: _ :: _ :: rest => PaddingZero rest
  | [_, _, y] => y % 4 = 0
  | [_, x] => x % 16 = 0
  | _ => True

theorem ofNat_eq_of_toNat {n : Nat} {b : UInt8} (h : n = b.toNat) : UInt8.ofNat n = b := by
  rw [h, UInt8.ofNat_toNat]

theorem sextets_lt (bytes : List UInt8) : ∀ x ∈ sextets bytes, x < 64 := by
  fun_induction sextets bytes with
  | case1 a b c rest ih =>
    have ha := a.toNat_lt
    have hb := b.toNat_lt
    have hc := c.toNat_lt
    simp only [forall_mem_cons]
    exact ⟨by omega, by omega, by omega, by omega, ih⟩
  | case2 a b =>
    have ha := a.toNat_lt
    have hb := b.toNat_lt
    simp only [forall_mem_cons]
    exact ⟨by omega, by omega, by omega, by simp⟩
  | case3 a =>
    have ha := a.toNat_lt
    simp only [forall_mem_cons]
    exact ⟨by omega, by omega, by simp⟩
  | case4 => simp

theorem length_sextets (bytes : List UInt8) :
    (sextets bytes).length = (4 * bytes.length + 2) / 3 := by
  fun_induction sextets bytes with
  | case1 a b c rest ih =>
    simp only [length_cons, ih]
    omega
  | case2 a b => simp
  | case3 a => simp
  | case4 => simp

theorem octets_sextets (bytes : List UInt8) : octets (sextets bytes) = some bytes := by
  fun_induction sextets bytes with
  | case1 a b c rest ih =>
    have ha := a.toNat_lt
    have hb := b.toNat_lt
    have hc := c.toNat_lt
    rw [octets, ih, map_some, ofNat_eq_of_toNat (b := a) (by omega),
      ofNat_eq_of_toNat (b := b) (by omega), ofNat_eq_of_toNat (b := c) (by omega)]
  | case2 a b =>
    have ha := a.toNat_lt
    have hb := b.toNat_lt
    rw [octets, ofNat_eq_of_toNat (b := a) (by omega), ofNat_eq_of_toNat (b := b) (by omega)]
  | case3 a =>
    rw [octets, ofNat_eq_of_toNat (b := a) (by omega)]
  | case4 => rfl

theorem paddingZero_sextets (bytes : List UInt8) : PaddingZero (sextets bytes) := by
  fun_induction sextets bytes with
  | case1 a b c rest ih => exact ih
  | case2 a b => exact Nat.mul_mod_left _ 4
  | case3 a => exact Nat.mul_mod_left _ 16
  | case4 => trivial

theorem toNat_ofNat_lt {n : Nat} (h : n < 256) : (UInt8.ofNat n).toNat = n := by
  rw [UInt8.toNat_ofNat']
  omega

/-- A text decodes unless one group is left over. -/
theorem octets_isSome {groups : List Nat} (h : groups.length % 4 ≠ 1) :
    ∃ bytes, octets groups = some bytes ∧ bytes.length = groups.length * 3 / 4 := by
  fun_induction octets groups with
  | case1 w x y z rest ih =>
    simp only [length_cons] at h ⊢
    obtain ⟨bytes, hbytes, hlen⟩ := ih (by omega)
    refine ⟨_, by rw [hbytes, map_some], ?_⟩
    simp only [length_cons, hlen]
    omega
  | case2 w x y => exact ⟨_, rfl, by simp⟩
  | case3 w x => exact ⟨_, rfl, by simp⟩
  | case4 w => exact absurd rfl h
  | case5 => exact ⟨_, rfl, rfl⟩

/-- Groups with clear padding are those of the decoded bytes. -/
theorem sextets_octets {groups : List Nat} (hlt : ∀ x ∈ groups, x < 64)
    (hzero : PaddingZero groups) {bytes : List UInt8} (h : octets groups = some bytes) :
    sextets bytes = groups := by
  fun_induction octets groups generalizing bytes with
  | case1 w x y z rest ih =>
    simp only [forall_mem_cons] at hlt
    obtain ⟨hw, hx, hy, hz, hrest⟩ := hlt
    obtain ⟨tail, htail, rfl⟩ := map_eq_some_iff.1 h
    rw [sextets, ih hrest hzero htail, toNat_ofNat_lt (by omega), toNat_ofNat_lt (by omega),
      toNat_ofNat_lt (by omega)]
    congr 1
    · omega
    congr 1
    · omega
    congr 1
    · omega
    congr 1
    omega
  | case2 w x y =>
    simp only [forall_mem_cons] at hlt
    obtain ⟨hw, hx, hy, -⟩ := hlt
    have hy0 : y % 4 = 0 := hzero
    cases h
    rw [sextets, toNat_ofNat_lt (by omega), toNat_ofNat_lt (by omega)]
    congr 1
    · omega
    congr 1
    · omega
    congr 1
    omega
  | case3 w x =>
    simp only [forall_mem_cons] at hlt
    obtain ⟨hw, hx, -⟩ := hlt
    have hx0 : x % 16 = 0 := hzero
    cases h
    rw [sextets, toNat_ofNat_lt (by omega)]
    congr 1
    · omega
    congr 1
    omega
  | case4 w => cases h
  | case5 =>
    cases h
    rfl

/-- The padding bits by the length of the text. -/
theorem paddingZero_iff (groups : List Nat) : PaddingZero groups ↔
    (groups.length % 4 = 3 → ∀ x ∈ groups.getLast?, x % 4 = 0) ∧
      (groups.length % 4 = 2 → ∀ x ∈ groups.getLast?, x % 16 = 0) := by
  fun_induction PaddingZero groups with
  | case1 w x y z rest ih =>
    rw [ih]
    cases rest with
    | nil => simp
    | cons r rest =>
      simp only [length_cons, getLast?_cons_cons]
      have hmod : (rest.length + 1 + 1 + 1 + 1 + 1) % 4 = (rest.length + 1) % 4 := by omega
      rw [hmod]
  | case2 w x y => simp
  | case3 w x => simp
  | case4 groups hfour hthree htwo =>
    match groups with
    | [] => simp
    | [w] => simp
    | [w, x] => exact absurd rfl (htwo w x)
    | [w, x, y] => exact absurd rfl (hthree w x y)
    | w :: x :: y :: z :: rest => exact absurd rfl (hfour w x y z rest)

end Bpe
