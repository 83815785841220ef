import Mathlib.Tactic

/-!
# Symbolic digests

An ideal digest is the digested document itself. `Term` spells documents out
as binary trees, so that the encoding of a record is injective and equality of
digests can be computed.
-/

namespace Bpe.Models

inductive Term where
  | text (s : String)
  | num (n : Int)
  | pair (a b : Term)
  deriving DecidableEq

namespace Term

def ofOption {α : Type} (f : α → Term) : Option α → Term
  | none => .num 0
  | some a => .pair (.num 1) (f a)

def ofList {α : Type} (f : α → Term) : List α → Term
  | [] => .num 0
  | a :: l => .pair (f a) (ofList f l)

def ofBool (b : Bool) : Term := .num b.toNat

/-! Encodings are injective, as simp lemmas: the encoding of a record then is by
`simp` with its definition. -/

variable {α : Type} {f : α → Term}

@[simp] theorem ofOption_inj (hf : ∀ a b, f a = f b ↔ a = b) {a b : Option α} :
    ofOption f a = ofOption f b ↔ a = b := by
  cases a <;> cases b <;> simp [ofOption, hf]

@[simp] theorem ofList_inj (hf : ∀ a b, f a = f b ↔ a = b) {l l' : List α} :
    ofList f l = ofList f l' ↔ l = l' := by
  induction l generalizing l' with
  | nil => cases l' <;> simp [ofList]
  | cons a l ih => cases l' <;> simp [ofList, hf, ih]

@[simp] theorem ofBool_inj {a b : Bool} : ofBool a = ofBool b ↔ a = b := by
  cases a <;> cases b <;> simp [ofBool]

end Term

end Bpe.Models
