import Mathlib.Tactic

/-!
# Identifier texts

`StableId` and `Sha256` of the models. A SHA-256 text that passed its pattern
is a value of an abstract type `D`, so that a digest function into `D` may be
assumed injective; a text a caller hands over may fail the pattern.
-/

namespace Bpe.Models

/-- The characters of `[a-zA-Z0-9._/@:+-]`. -/
def stableIdChar (c : Char) : Bool :=
  c.isAlphanum || ['.', '_', '/', '@', ':', '+', '-'].contains c

/-- `^[a-zA-Z0-9][a-zA-Z0-9._/@:+-]{0,127}$` -/
def isStableId (s : String) : Bool :=
  match s.toList with
  | [] => false
  | c :: cs => c.isAlphanum && cs.length ≤ 127 && cs.all stableIdChar

/-- A text where a SHA-256 is expected: one that matches `^[0-9a-f]{64}$`, or
another. -/
inductive Sha256Text (D : Type) where
  | sha256 (d : D)
  | malformed (text : String)

/-- The digest, where the text is one and not zero. -/
def Sha256Text.nonzero? {D : Type} [DecidableEq D] (zero : D) : Sha256Text D → Option D
  | .sha256 d => if d = zero then none else some d
  | .malformed _ => none

theorem Sha256Text.eq_of_nonzero? {D : Type} [DecidableEq D] {zero d : D} {t : Sha256Text D}
    (h : t.nonzero? zero = some d) : t = .sha256 d := by
  cases t with
  | sha256 d' =>
    simp only [nonzero?, Option.ite_none_left_eq_some, Option.some.injEq] at h
    rw [h.2]
  | malformed text => cases h

end Bpe.Models
