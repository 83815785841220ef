import Bpe.Lib.Interleave
import Bpe.Launcher.Seccomp

/-!
# The fixture child

`bpe_child_fixture`: the child closes what it inherited, reports over the
ready pipe, descriptor 9, and pauses for good. It never returns, and nothing
follows `SYS_exit`. What the child reports is what `bpe_wait_child_ready`
reads.
-/

namespace Bpe.Launcher

open Prog List

inductive ChildCall where
  | close (fd : Nat)
  | closeRange (first : Nat)
  | write (bytes : List UInt8)
  | pause
  | exit (status : Nat)

abbrev Child : Type := Prog ChildCall (fun _ => Except Errno Nat) Empty

abbrev ChildTrace : Type := List (Event fun _ : ChildCall => Except Errno Nat)

def ChildCall.number : ChildCall → BitVec 32
  | .close _ => 3
  | .closeRange _ => 436
  | .write _ => 1
  | .pause => 34
  | .exit _ => 60

def childRecord (status : UInt8) (errorNumber : Nat) : List UInt8 :=
  childRecordMagic ++ [status, 0] ++
    if 1 ≤ errorNumber ∧ errorNumber ≤ Native.protocolMaxErrno then
      [.ofNat (errorNumber >>> 8), .ofNat errorNumber]
    else [0, 0]

def childExit (status : Nat) : Child := .call (.exit status) fun _ => .stuck

/-- Descriptors 0 to 8, then 10 and above. -/
def setupCalls : List ChildCall := (range 9).map .close ++ [.closeRange 10]

def pauses : Nat → Child
  | 0 => .stuck
  | fuel + 1 => .call .pause fun _ => pauses fuel

def childReady (fuel : Nat) : Child :=
  .call (.write (childRecord 0 0)) fun r =>
    if r.toOption = some (childRecord 0 0).length then
      .call (.close 9) fun r => if r.isOk then pauses fuel else childExit 125
    else childExit 125

def Succeeded (t : ChildTrace) (cs : List ChildCall) : Prop :=
  t.map (·.1) = cs ∧ ∀ v ∈ t, v.2.isOk

/-- The setup succeeded, the success record was written whole and the ready
pipe was closed. -/
def ChildReady (t : ChildTrace) : Prop :=
  ∃ t' n, Succeeded t' setupCalls ∧
    t = t' ++ [⟨.write (childRecord 0 0), .ok 8⟩, ⟨.close 9, .ok n⟩]

/-- What the last two calls of a ready child were, and that nothing failed
before them. -/
theorem ChildReady.last {t : ChildTrace} {v w : Event fun _ : ChildCall => Except Errno Nat}
    (h : ChildReady (t ++ [v, w])) : v = ⟨.write (childRecord 0 0), .ok 8⟩ ∧
      (∃ n, w = ⟨.close 9, .ok n⟩) ∧ ∀ u ∈ t, u.2.isOk := by
  obtain ⟨t', n, hsetup, heq⟩ := h
  obtain ⟨rfl, hlast⟩ := append_inj' heq rfl
  cases hlast
  exact ⟨rfl, ⟨n, rfl⟩, hsetup.2⟩

theorem Succeeded.snoc {t : ChildTrace} {cs : List ChildCall} (h : Succeeded t cs) (c : ChildCall)
    (n : Nat) : Succeeded (t ++ [⟨c, .ok n⟩]) (cs ++ [c]) := by
  refine ⟨by rw [map_append, h.1]; rfl, fun v hv => ?_⟩
  rcases mem_append.1 hv with hv | hv
  · exact h.2 v hv
  · rw [mem_singleton.1 hv]; rfl

end Bpe.Launcher
