import Bpe.Grading.Model

/-!
# Tasks and evaluation plans

`TaskBundle` with its public and private projections, and the `EvaluationPlan`
of `job.py`, with their validators. Literal fields are left out. The JSON
documents `parameters` and `expected` are read by no code here.
-/

namespace Bpe.Task

open Models Grading

variable {D : Type}

inductive Family where
  | repair | generation
  deriving DecidableEq

inductive Split where
  | train | development | calibration | validation | sealedEval
  deriving DecidableEq

structure FileRef (D : Type) where
  path : String
  sha256 : D
  sizeBytes : Nat
  deriving DecidableEq

/-- `path_must_be_relative_and_normalized`: what `PurePosixPath` prints as it was
written, with no parent component. -/
def isNormalizedPath (path : String) : Bool :=
  path == "." ||
    (path.toList.splitOn '/').all fun part => !([[], ['.'], ['.', '.']].contains part)

def FileRef.valid (f : FileRef D) : Bool := lengthWithin 1 512 f.path && isNormalizedPath f.path

structure CandidateContract where
  maxResponseBytes : Nat
  allowMarkdownFence : Bool
  deriving DecidableEq

def CandidateContract.valid (c : CandidateContract) : Bool :=
  decide (0 < c.maxResponseBytes) && decide (c.maxResponseBytes ≤ 1024 * 1024)

structure ProgramContract where
  programType : String
  sectionName : String
  entrypoint : String
  maxPrograms : Nat
  deriving DecidableEq

def ProgramContract.valid (p : ProgramContract) : Bool :=
  isStableId p.programType && isStableId p.sectionName && isStableId p.entrypoint &&
    decide (1 ≤ p.maxPrograms) && decide (p.maxPrograms ≤ 16)

structure PublicTask (D : Type) where
  taskId : String
  version : String
  family : Family
  prompt : FileRef D
  starterSource : Option (FileRef D)
  candidateContract : CandidateContract
  program : ProgramContract
  publicSdkId : String
  environmentId : String
  maxAttempts : Nat
  wholeAttemptTimeoutSeconds : Nat
  deriving DecidableEq

def PublicTask.validate (t : PublicTask D) : Except String Unit :=
  refuse [
    (!isStableId t.taskId, "task_id"),
    (!isStableId t.version, "version"),
    (!t.prompt.valid, "prompt"),
    (!t.starterSource.all (·.valid), "starter_source"),
    (!t.candidateContract.valid, "candidate_contract"),
    (!t.program.valid, "program"),
    (!isStableId t.publicSdkId, "public_sdk_id"),
    (!isStableId t.environmentId, "environment_id"),
    (!(decide (1 ≤ t.maxAttempts) && decide (t.maxAttempts ≤ 16)), "max_attempts"),
    (!(decide (1 ≤ t.wholeAttemptTimeoutSeconds) && decide (t.wholeAttemptTimeoutSeconds ≤ 600)),
      "whole_attempt_timeout_seconds"),
    (t.family == .repair && t.starterSource.isNone, "repair tasks require starter source"),
    (t.family == .generation && t.starterSource.isSome,
      "generation tasks cannot expose starter source")]

structure Provenance (D : Type) where
  repository : String
  commit : String
  sourcePath : String
  license : String
  originalSha256 : D
  deriving DecidableEq

def Provenance.valid (p : Provenance D) : Bool :=
  lengthWithin 1 512 p.repository && isCommit p.commit && lengthWithin 1 1024 p.sourcePath &&
    lengthWithin 1 128 p.license

structure MutationRecord where
  operator : String
  operatorVersion : String
  seed : Nat
  parameters : Term
  deriving DecidableEq

def MutationRecord.valid (m : MutationRecord) : Bool :=
  isStableId m.operator && isStableId m.operatorVersion

structure AssertionSpec where
  assertionId : String
  kind : String
  required : Bool
  weight : ℚ
  expected : Option Term
  deriving DecidableEq

def AssertionSpec.valid (a : AssertionSpec) : Bool :=
  isStableId a.assertionId && isStableId a.kind && validWeight a.weight

structure FunctionalCase (D : Type) where
  caseId : String
  driver : String
  inputRef : FileRef D
  assertions : List AssertionSpec
  deriving DecidableEq

def FunctionalCase.valid (c : FunctionalCase D) : Bool :=
  isStableId c.caseId && isStableId c.driver && c.inputRef.valid && !c.assertions.isEmpty &&
    c.assertions.all (·.valid)

structure SemanticObligation where
  obligationId : String
  kind : String
  description : String
  required : Bool
  deriving DecidableEq

def SemanticObligation.valid (o : SemanticObligation) : Bool :=
  isStableId o.obligationId && isStableId o.kind && lengthWithin 1 1024 o.description

inductive ControlKind where
  | noOp | deleteOperation | hardcode | zeroWork | other
  deriving DecidableEq

structure NegativeControl (D : Type) where
  controlId : String
  kind : ControlKind
  source : FileRef D
  expectedFirstFailure : Stage
  deriving DecidableEq

def NegativeControl.valid (c : NegativeControl D) : Bool := isStableId c.controlId && c.source.valid

structure PrivateGrader (D : Type) where
  taskId : String
  taskVersion : String
  split : Split
  rootCause : Option String
  contaminationGroup : String
  provenance : Provenance D
  mutation : Option MutationRecord
  referenceSource : FileRef D
  validAlternatives : List (FileRef D)
  qualificationPartialFixes : List (FileRef D)
  functionalCases : List (FunctionalCase D)
  semanticObligations : List SemanticObligation
  negativeControls : List (NegativeControl D)
  deriving DecidableEq

def PrivateGrader.validate (g : PrivateGrader D) : Except String Unit :=
  refuse [
    (!isStableId g.taskId, "task_id"),
    (!isStableId g.taskVersion, "task_version"),
    (!g.rootCause.all isStableId, "root_cause"),
    (!isStableId g.contaminationGroup, "contamination_group"),
    (!g.provenance.valid, "provenance"),
    (!g.mutation.all (·.valid), "mutation"),
    (!g.referenceSource.valid, "reference_source"),
    (g.validAlternatives.isEmpty || !g.validAlternatives.all (·.valid), "valid_alternatives"),
    (!(decide (g.qualificationPartialFixes.length ≤ 16) &&
      g.qualificationPartialFixes.all (·.valid)), "qualification_partial_fixes"),
    (g.functionalCases.isEmpty || !g.functionalCases.all (·.valid), "functional_cases"),
    (g.semanticObligations.isEmpty || !g.semanticObligations.all (·.valid),
      "semantic_obligations"),
    (!(decide (4 ≤ g.negativeControls.length) && g.negativeControls.all (·.valid)),
      "negative_controls"),
    (!decide (g.negativeControls.map (·.controlId)).Nodup,
      "negative control IDs must be unique")]

/-- `TaskBundle`, without the root and the artifact bytes, which nothing here
reads. -/
structure TaskBundle (D : Type) where
  publicTask : PublicTask D
  privateGrader : PrivateGrader D
  publicSha256 : D
  privateSha256 : D
  bundleSha256 : D
  deriving DecidableEq

/-! ## Evaluation plans -/

structure EvaluationFunctionalCase (D : Type) where
  caseId : String
  input : ArtifactRef D
  assertions : List AssertionSpec
  deriving DecidableEq

/-- The fields, and `assertion_ids_are_unique`. -/
def EvaluationFunctionalCase.validate (c : EvaluationFunctionalCase D) : Except String Unit :=
  refuse [
    (!isStableId c.caseId, "case_id"),
    (!c.input.valid, "input"),
    (!(decide (1 ≤ c.assertions.length) && decide (c.assertions.length ≤ 256) &&
      c.assertions.all (·.valid)), "assertions"),
    (!decide (c.assertions.map (·.assertionId)).Nodup,
      "functional assertion IDs must be unique within a case")]

structure EvaluationPlan (D : Type) where
  taskId : String
  taskVersion : String
  family : Family
  publicTaskSha256 : D
  privateGraderSha256 : D
  taskBundleSha256 : D
  environmentId : String
  candidateContract : CandidateContract
  program : ProgramContract
  publicSdkId : String
  maxAttempts : Nat
  wholeAttemptTimeoutSeconds : Nat
  functionalCases : List (EvaluationFunctionalCase D)
  semanticObligations : List SemanticObligation
  deriving DecidableEq

/-- `sha256_json` of the projections of a task and of the record that binds them. -/
structure Digests (D : Type) extends Grading.Digests D where
  publicTask : PublicTask D → D
  privateGrader : PrivateGrader D → D
  taskBundle (publicSha256 privateSha256 : D) : D

def ProgramContract.isXdp (p : ProgramContract) : Bool :=
  p.programType == "xdp" && p.sectionName == "xdp" && p.maxPrograms == 1

/-- The fields, and `identities_are_unique`. -/
def EvaluationPlan.validate [DecidableEq D] (K : Digests D) (p : EvaluationPlan D) :
    Except String Unit := do
  refuse [
    (!isStableId p.taskId, "task_id"),
    (!isStableId p.taskVersion, "task_version"),
    (!isStableId p.environmentId, "environment_id"),
    (!p.candidateContract.valid, "candidate_contract"),
    (!p.program.valid, "program"),
    (!isStableId p.publicSdkId, "public_sdk_id"),
    (!(decide (1 ≤ p.maxAttempts) && decide (p.maxAttempts ≤ 16)), "max_attempts"),
    (!(decide (1 ≤ p.wholeAttemptTimeoutSeconds) && decide (p.wholeAttemptTimeoutSeconds ≤ 600)),
      "whole_attempt_timeout_seconds"),
    (!(decide (1 ≤ p.functionalCases.length) && decide (p.functionalCases.length ≤ 256)),
      "functional_cases"),
    (!(decide (1 ≤ p.semanticObligations.length) && decide (p.semanticObligations.length ≤ 1024) &&
      p.semanticObligations.all (·.valid)), "semantic_obligations")]
  p.functionalCases.forM (·.validate)
  refuse [
    (!p.program.isXdp, "evaluation-plan v1 supports exactly one XDP program"),
    (p.candidateContract.allowMarkdownFence,
      "evaluation-plan candidates must be post-extraction plain C source"),
    (!decide (p.taskBundleSha256 = K.taskBundle p.publicTaskSha256 p.privateGraderSha256),
      "evaluation-plan task bundle digest is inconsistent"),
    (!decide (p.functionalCases.map (·.caseId)).Nodup,
      "evaluation-plan functional case IDs must be unique"),
    (!decide (p.semanticObligations.map (·.obligationId)).Nodup,
      "evaluation-plan semantic obligation IDs must be unique")]

end Bpe.Task
