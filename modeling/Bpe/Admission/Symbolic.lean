import Mathlib.Data.List.Lex
import Bpe.Admission.Model

/-!
# Behaviors as terms

An order on terms, and an injective digest of behaviors.
-/

namespace Bpe.Models.Term

/-- A term in Polish order. -/
def tokens : Term → List (ℕ ×ₗ ℤ ×ₗ String)
  | .text s => [toLex (0, toLex (0, s))]
  | .num n => [toLex (1, toLex (n, ""))]
  | .pair a b => toLex (2, toLex (0, "")) :: (tokens a ++ tokens b)

theorem tokens_append_inj {t t' : Term} {r r' : List (ℕ ×ₗ ℤ ×ₗ String)}
    (h : tokens t ++ r = tokens t' ++ r') : t = t' ∧ r = r' := by
  induction t generalizing t' r r' with
  | text s => cases t' <;> simp_all [tokens]
  | num n => cases t' <;> simp_all [tokens]
  | pair a b iha ihb =>
    cases t' with
    | text s => simp [tokens] at h
    | num n => simp [tokens] at h
    | pair a' b' =>
      simp only [tokens, List.cons_append, List.append_assoc, List.cons.injEq, true_and] at h
      obtain ⟨rfl, hrest⟩ := iha h
      obtain ⟨rfl, hr⟩ := ihb hrest
      exact ⟨rfl, hr⟩

theorem tokens_inj : Function.Injective tokens := by
  intro t t' h
  have happend : tokens t ++ [] = tokens t' ++ [] := by rw [h]
  exact (tokens_append_inj happend).1

instance linearOrder : LinearOrder Term := LinearOrder.lift' tokens tokens_inj

instance inhabited : Inhabited Term := ⟨.num 0⟩

end Bpe.Models.Term

namespace Bpe.Admission

open Models Grading Bpe.Task Replay Term

def ofRat (q : ℚ) : Term := .pair (.num q.num) (.num q.den)

@[simp] theorem ofRat_inj {q q' : ℚ} : ofRat q = ofRat q' ↔ q = q' := by
  simp only [ofRat, pair.injEq, num.injEq, Nat.cast_inj]
  exact ⟨fun h => Rat.ext h.1 h.2, by rintro rfl; simp⟩

def stageTerm (s : Stage) : Term := .text s.value

@[simp] theorem stageTerm_inj {s s' : Stage} : stageTerm s = stageTerm s' ↔ s = s' := by
  cases s <;> cases s' <;> decide

def outcomeTerm : Outcome → Term
  | .pass => .num 0
  | .fail => .num 1
  | .timeout => .num 2
  | .skipped => .num 3
  | .infraError => .num 4
  | .unsupported => .num 5

@[simp] theorem outcomeTerm_inj {o o' : Outcome} : outcomeTerm o = outcomeTerm o' ↔ o = o' := by
  cases o <;> cases o' <;> decide

def artifactTerm (a : ArtifactRef Term) : Term :=
  ofList id [a.sha256, .num a.sizeBytes, .text a.mediaType]

@[simp] theorem artifactTerm_inj {a b : ArtifactRef Term} :
    artifactTerm a = artifactTerm b ↔ a = b := by
  cases a; cases b
  simp [artifactTerm]

def artifactsTerm (d : Dict String (ArtifactRef Term)) : Term :=
  ofList (fun entry => .pair (.text entry.1) (artifactTerm entry.2)) d.entries

@[simp] theorem artifactsTerm_inj {d d' : Dict String (ArtifactRef Term)} :
    artifactsTerm d = artifactsTerm d' ↔ d = d' := by
  cases d; cases d'
  simp [artifactsTerm, Prod.ext_iff]

def CheckBehavior.term (k : CheckBehavior Term) : Term :=
  ofList id [.text k.checkId, outcomeTerm k.outcome, ofBool k.required, ofRat k.weight,
    .text k.reasonCode, k.facts, artifactsTerm k.artifacts]

@[simp] theorem CheckBehavior.term_inj {a b : CheckBehavior Term} :
    a.term = b.term ↔ a = b := by
  cases a; cases b
  simp [term]

def StageBehavior.term (s : StageBehavior Term) : Term :=
  ofList id [stageTerm s.stage, outcomeTerm s.outcome, .text s.reasonCode, ofOption .num s.exitCode,
    s.facts, artifactsTerm s.artifacts, ofList CheckBehavior.term s.checks]

@[simp] theorem StageBehavior.term_inj {a b : StageBehavior Term} :
    a.term = b.term ↔ a = b := by
  cases a; cases b
  simp [term]

def BehaviorProjection.term (p : BehaviorProjection Term) : Term :=
  .pair p.functional.term p.semantics.term

theorem BehaviorProjection.term_inj : Function.Injective BehaviorProjection.term := by
  rintro ⟨_, _⟩ ⟨_, _⟩ h
  simpa [term] using h

end Bpe.Admission
