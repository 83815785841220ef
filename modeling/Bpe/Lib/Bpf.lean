import Mathlib.Tactic

/-!
# Classic BPF

The instructions of seccomp filters over an accumulator. Jumps only go
forward, so `run` recurs on the rest of the program; `none` is a program that
runs off its end.
-/

namespace Bpe.Bpf

inductive Insn where
  | ldAbs (k : BitVec 32)
  | jeq (jt jf : Nat) (k : BitVec 32)
  | ret (k : BitVec 32)

/-- What a program returns on the data whose words `load` reads, with `a` in
the accumulator. -/
def run (load : BitVec 32 → BitVec 32) : List Insn → BitVec 32 → Option (BitVec 32)
  | [], _ => none
  | .ldAbs k :: rest, _ => run load rest (load k)
  | .jeq jt jf k :: rest, a => run load (rest.drop (if a = k then jt else jf)) a
  | .ret k :: _, _ => some k
termination_by program => program.length

/-- Return `v` when the accumulator holds `k`. -/
def returnOn (v k : BitVec 32) : List Insn := [.jeq 0 1 k, .ret v]

theorem run_returnOn {load : BitVec 32 → BitVec 32} {v a : BitVec 32} {rest : List Insn}
    (ks : List (BitVec 32)) : run load (ks.flatMap (returnOn v) ++ rest) a =
      if a ∈ ks then some v else run load rest a := by
  induction ks with
  | nil => simp
  | cons k ks ih =>
    rw [List.flatMap_cons, returnOn, List.append_assoc, List.cons_append, run]
    by_cases h : a = k
    · simp [h, run]
    · simpa [h] using ih

end Bpe.Bpf
