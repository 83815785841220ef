import Bpe.Lib.BigEndian

/-!
# Length-prefixed streams

Each byte string after its length in eight bytes, and groups of them each closed by the
byte 255. A stream is read back from its start: the length says where a string ends, and
below `2 ^ 56` no length starts with the closing byte.
-/

namespace Bpe

open List

theorem beBytes_succ (n v : Nat) :
    beBytes (n + 1) v = UInt8.ofNat (v / 256 ^ n) :: beBytes n v := by
  induction n generalizing v with
  | zero => simp [beBytes]
  | succ n ih =>
    rw [beBytes, ih, beBytes, cons_append, Nat.div_div_eq_div_mul, ← pow_succ']

def frame (bytes : List UInt8) : List UInt8 := beBytes 8 bytes.length ++ bytes

def frames (strings : List (List UInt8)) : List UInt8 := strings.flatMap frame

def closedFrames (groups : List (List (List UInt8))) : List UInt8 :=
  groups.flatMap fun strings => frames strings ++ [255]

variable {a b : List UInt8} {s t : List (List UInt8)} {r r' : List UInt8}

theorem frame_append_inj (ha : a.length < 2 ^ 64) (hb : b.length < 2 ^ 64)
    (h : frame a ++ r = frame b ++ r') : a = b ∧ r = r' := by
  rw [frame, frame, append_assoc, append_assoc] at h
  obtain ⟨hlength, hrest⟩ := append_inj h (by rw [length_beBytes, length_beBytes])
  have hsame := congrArg beNat hlength
  rw [beNat_beBytes 8 (by omega), beNat_beBytes 8 (by omega)] at hsame
  exact append_inj hrest hsame

theorem frames_inj (hs : ∀ a ∈ s, a.length < 2 ^ 64) (ht : ∀ a ∈ t, a.length < 2 ^ 64)
    (h : frames s = frames t) : s = t := by
  have hnil : ∀ {a : List UInt8} {l : List (List UInt8)}, frames (a :: l) ≠ [] := by
    intro a l h
    have := congrArg length h
    rw [frames, flatMap_cons, frame, length_append, length_append,
      length_beBytes, length_nil] at this
    omega
  induction s generalizing t with
  | nil =>
    cases t with
    | nil => rfl
    | cons b t => exact absurd h.symm hnil
  | cons a s ih =>
    cases t with
    | nil => exact absurd h hnil
    | cons b t =>
      obtain ⟨rfl, hrest⟩ := frame_append_inj (hs a mem_cons_self) (ht b mem_cons_self) h
      rw [ih (fun x hx => hs x (mem_cons_of_mem a hx))
        (fun x hx => ht x (mem_cons_of_mem a hx)) hrest]

/-- No string starts as a group ends. -/
theorem frame_ne_close (ha : a.length < 2 ^ 56) : frame a ++ r ≠ 255 :: r' := by
  intro h
  rw [frame, beBytes_succ, Nat.div_eq_of_lt (by omega)] at h
  cases (cons.inj h).1

theorem frames_close_inj (hs : ∀ a ∈ s, a.length < 2 ^ 56) (ht : ∀ a ∈ t, a.length < 2 ^ 56)
    (h : frames s ++ 255 :: r = frames t ++ 255 :: r') : s = t ∧ r = r' := by
  induction s generalizing t with
  | nil =>
    cases t with
    | nil => exact ⟨rfl, (cons.inj h).2⟩
    | cons b t =>
      rw [frames, frames, flatMap_cons, append_assoc] at h
      exact absurd h.symm (frame_ne_close (ht b mem_cons_self))
  | cons a s ih =>
    cases t with
    | nil =>
      rw [frames, frames, flatMap_cons, append_assoc] at h
      exact absurd h (frame_ne_close (hs a mem_cons_self))
    | cons b t =>
      have hlarge : (2 : Nat) ^ 56 < 2 ^ 64 := by omega
      rw [frames, frames, flatMap_cons, flatMap_cons, append_assoc,
        append_assoc] at h
      obtain ⟨rfl, hrest⟩ := frame_append_inj ((hs a mem_cons_self).trans hlarge)
        ((ht b mem_cons_self).trans hlarge) h
      obtain ⟨rfl, hr⟩ := ih (fun x hx => hs x (mem_cons_of_mem a hx))
        (fun x hx => ht x (mem_cons_of_mem a hx)) hrest
      exact ⟨rfl, hr⟩

theorem closedFrames_inj {g g' : List (List (List UInt8))}
    (hg : ∀ s ∈ g, ∀ a ∈ s, a.length < 2 ^ 56) (hg' : ∀ s ∈ g', ∀ a ∈ s, a.length < 2 ^ 56)
    (h : closedFrames g = closedFrames g') : g = g' := by
  have hcons : ∀ {s : List (List UInt8)} {l : List (List (List UInt8))},
      closedFrames (s :: l) = frames s ++ 255 :: closedFrames l := by
    intro s l
    rw [closedFrames, flatMap_cons, append_assoc]
    rfl
  have hnil : ∀ {s : List (List UInt8)} {l : List (List (List UInt8))},
      closedFrames (s :: l) ≠ [] := by
    intro s l h
    rw [hcons] at h
    exact cons_ne_nil _ _ (append_eq_nil_iff.1 h).2
  induction g generalizing g' with
  | nil =>
    cases g' with
    | nil => rfl
    | cons t g' => exact absurd h.symm hnil
  | cons s g ih =>
    cases g' with
    | nil => exact absurd h hnil
    | cons t g' =>
      rw [hcons, hcons] at h
      obtain ⟨rfl, hrest⟩ := frames_close_inj (hg s mem_cons_self) (hg' t mem_cons_self) h
      rw [ih (fun x hx => hg x (mem_cons_of_mem s hx))
        (fun x hx => hg' x (mem_cons_of_mem s hx)) hrest]

end Bpe
