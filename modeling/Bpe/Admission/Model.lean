import Mathlib.Data.Prod.Lex
import Mathlib.Data.String.Basic
import Bpe.Replay.Manifest
import Bpe.Grading.Score
import Bpe.Task.Contract

/-!
# Task admission

`admission.py`: the plan of a repair task's role matrix, the role-labelled
attempts, and `admit_task`, which checks the attempts against the plan and the
plan against the task. The records carry the fields that their code reads; those
with one literal value are left out.
-/

namespace Bpe.Admission

open Models Grading Bpe.Task Replay

variable {D : Type}

inductive AdmissionRole where
  | original | revert | alternative | publicMutant | negativeControl
  deriving DecidableEq

namespace AdmissionRole

def value : AdmissionRole → String
  | .original => "original"
  | .revert => "revert"
  | .alternative => "alternative"
  | .publicMutant => "public_mutant"
  | .negativeControl => "negative_control"

def name : AdmissionRole → String
  | .original => "ORIGINAL"
  | .revert => "REVERT"
  | .alternative => "ALTERNATIVE"
  | .publicMutant => "PUBLIC_MUTANT"
  | .negativeControl => "NEGATIVE_CONTROL"

def all : List AdmissionRole := [.original, .revert, .alternative, .publicMutant, .negativeControl]

end AdmissionRole

structure CandidateIdentity (D : Type) where
  sha256 : D
  sizeBytes : Nat
  deriving DecidableEq

structure PlannedNegativeControl (D : Type) where
  controlId : String
  candidate : CandidateIdentity D
  expectedFirstFailure : Stage

def behaviorStage (s : Stage) : Bool := [.functional, .semantics].contains s

def PlannedNegativeControl.valid (c : PlannedNegativeControl D) : Bool :=
  isStableId c.controlId && behaviorStage c.expectedFirstFailure

structure AdmissionPlan (D : Type) where
  taskId : String
  taskVersion : String
  taskBundleSha256 : D
  scoringContractSha256 : D
  rewardPolicyId : String
  rewardPolicySha256 : D
  environmentId : String
  environmentSha256 : D
  graderId : D
  harnessCommit : String
  originalRepeats : Nat
  referenceCandidate : CandidateIdentity D
  publicMutantCandidate : CandidateIdentity D
  alternativeCandidates : List (CandidateIdentity D)
  negativeControls : List (PlannedNegativeControl D)

/-- The fields, and `role_matrix_is_unique`. -/
def AdmissionPlan.validate [DecidableEq D] (p : AdmissionPlan D) : Except String Unit :=
  let controls := p.negativeControls.map (·.candidate)
  refuse [
    (!isStableId p.taskId, "task_id"),
    (!isStableId p.taskVersion, "task_version"),
    (!isStableId p.rewardPolicyId, "reward_policy_id"),
    (!isStableId p.environmentId, "environment_id"),
    (!isCommit p.harnessCommit, "harness_commit"),
    (!(decide (2 ≤ p.originalRepeats) && decide (p.originalRepeats ≤ 64)), "original_repeats"),
    (!(decide (1 ≤ p.alternativeCandidates.length) &&
      decide (p.alternativeCandidates.length ≤ 1024)), "alternative_candidates"),
    (!(decide (1 ≤ p.negativeControls.length) && decide (p.negativeControls.length ≤ 1024) &&
      p.negativeControls.all (·.valid)), "negative_controls"),
    (!decide p.alternativeCandidates.Nodup, "planned alternative candidates must be unique"),
    (!decide (p.negativeControls.map (·.controlId)).Nodup,
      "planned negative-control IDs must be unique"),
    (!decide controls.Nodup, "planned negative-control candidates must be unique"),
    (!decide (p.referenceCandidate :: p.publicMutantCandidate ::
        (p.alternativeCandidates ++ controls)).Nodup,
      "candidate identities may only repeat across original and revert roles")]

structure AdmissionAttempt (D : Type) where
  role : AdmissionRole
  controlId : Option String
  evidence : EvaluationEvidence D
  grade : Grade D
  manifest : ReplayManifest D
  anchor : ReplayAnchor D

/-- The fields, and `control_identity_matches_role`. -/
def AdmissionAttempt.validate [DecidableEq D] (K : Grading.Digests D) (a : AdmissionAttempt D) :
    Except String Unit := do
  refuse [(!a.controlId.all isStableId, "control_id")]
  a.evidence.validate K
  a.grade.validate
  a.manifest.validate
  refuse [
    (a.role == .negativeControl && a.controlId.isNone,
      "negative-control attempts require control_id"),
    (a.role != .negativeControl && a.controlId.isSome,
      "only negative-control attempts may carry control_id")]

structure AdmissionReplayDigest (D : Type) where
  role : AdmissionRole
  controlId : Option String
  requestId : String
  candidateSha256 : D
  evidenceSha256 : D
  gradeSha256 : D
  replayManifestSha256 : D

structure AdmissionReport (D : Type) where
  planSha256 : D
  taskId : String
  taskVersion : String
  publicTaskSha256 : D
  privateGraderSha256 : D
  taskBundleSha256 : D
  scoringContractSha256 : D
  rewardPolicyId : String
  rewardPolicySha256 : D
  environmentId : String
  environmentSha256 : D
  graderId : D
  harnessCommit : String
  referenceBehaviorSha256 : D
  attemptSetSha256 : D
  replays : List (AdmissionReplayDigest D)

/-! ## Behavior -/

structure CheckBehavior (D : Type) where
  checkId : String
  outcome : Outcome
  required : Bool
  weight : ℚ
  reasonCode : String
  facts : Term
  artifacts : Dict String (ArtifactRef D)

structure StageBehavior (D : Type) where
  stage : Stage
  outcome : Outcome
  reasonCode : String
  exitCode : Option Int
  facts : Term
  artifacts : Dict String (ArtifactRef D)
  checks : List (CheckBehavior D)

structure BehaviorProjection (D : Type) where
  functional : StageBehavior D
  semantics : StageBehavior D

def checkBehavior (k : CheckEvidence D) : CheckBehavior D :=
  ⟨k.checkId, k.outcome, k.required, k.weight, k.reasonCode, k.facts, k.artifacts⟩

def stageBehaviorProjection (e : EvaluationEvidence D) (stage : Stage) :
    Except String (StageBehavior D) :=
  match stageOf e stage with
  | none => .error "StopIteration"
  | some s => .ok ⟨s.stage, s.outcome, s.reasonCode, s.exitCode, s.facts, s.artifacts,
      s.checks.map checkBehavior⟩

def behaviorProjection (e : EvaluationEvidence D) : Except String (BehaviorProjection D) := do
  let functional ← stageBehaviorProjection e .functional
  let semantics ← stageBehaviorProjection e .semantics
  pure ⟨functional, semantics⟩

/-- The digests of a plan, of a behavior and of the ordered attempts. -/
structure Digests (D : Type) extends toReplay : Replay.Digests D where
  plan : AdmissionPlan D → D
  behavior : BehaviorProjection D → D
  attempts : List (AdmissionAttempt D) → D

/-! ## Checks -/

def candidateIdentity (source : FileRef D) : CandidateIdentity D :=
  ⟨source.sha256, source.sizeBytes⟩

def AdmissionAttempt.candidate (a : AdmissionAttempt D) : CandidateIdentity D :=
  ⟨a.evidence.request.candidate.sha256, a.evidence.request.candidate.sizeBytes⟩

def AdmissionAttempt.outcome (a : AdmissionAttempt D) (stage : Stage) : Option Outcome :=
  (stageOf a.evidence stage).map (·.outcome)

section Checks

variable [DecidableEq D]

def frozenBundle (K : Task.Digests D) (b : TaskBundle D) : Except String Unit := do
  b.publicTask.validate
  b.privateGrader.validate
  let mutated := b.privateGrader.rootCause.isSome && b.privateGrader.mutation.isSome
  let unmutated := b.privateGrader.rootCause.isNone && b.privateGrader.mutation.isNone
  refuse [
    (!(decide (b.publicTask.taskId = b.privateGrader.taskId) &&
      decide (b.publicTask.version = b.privateGrader.taskVersion)),
      "public and private task identities differ"),
    (b.publicTask.family == .repair && !mutated,
      "repair task admission requires mutation metadata"),
    (b.publicTask.family == .generation && !unmutated,
      "generation task cannot carry repair mutation metadata"),
    (!(decide (K.publicTask b.publicTask = b.publicSha256) &&
      decide (K.privateGrader b.privateGrader = b.privateSha256) &&
      decide (K.taskBundle (K.publicTask b.publicTask) (K.privateGrader b.privateGrader) =
        b.bundleSha256)),
      "task bundle metadata does not match its content digests")]

/-- The declared controls, as the dictionary by their distinct IDs has them. -/
def expectedControls (b : TaskBundle D) : List (String × CandidateIdentity D × Stage) :=
  b.privateGrader.negativeControls.map fun c =>
    (c.controlId, candidateIdentity c.source, c.expectedFirstFailure)

def plannedControls (plan : AdmissionPlan D) : List (String × CandidateIdentity D × Stage) :=
  plan.negativeControls.map fun c => (c.controlId, c.candidate, c.expectedFirstFailure)

def validatePlan (K : Grading.Digests D) (plan : AdmissionPlan D) (b : TaskBundle D)
    (c : ScoringContract D) (p : RewardPolicy) : Except String Unit :=
  refuse [
    (b.publicTask.family != .repair || b.publicTask.starterSource.isNone,
      "generation-family dynamic admission is not implemented"),
    (!(decide (plan.taskId = b.publicTask.taskId) &&
      decide (plan.taskVersion = b.publicTask.version) &&
      decide (plan.taskBundleSha256 = b.bundleSha256)),
      "admission plan does not bind the task bundle"),
    (!(decide (plan.scoringContractSha256 = K.sha256Json (.contract c)) &&
      decide (plan.rewardPolicyId = p.policyId) &&
      decide (plan.rewardPolicySha256 = K.sha256Json (.policy p))),
      "admission plan does not bind the contract and reward policy"),
    (!decide (plan.environmentId = b.publicTask.environmentId),
      "admission plan uses the wrong task environment"),
    (!decide (plan.referenceCandidate = candidateIdentity b.privateGrader.referenceSource),
      "admission plan has the wrong reference candidate"),
    (!decide (some plan.publicMutantCandidate = b.publicTask.starterSource.map candidateIdentity),
      "admission plan has the wrong public mutant candidate"),
    (!sameSet plan.alternativeCandidates
        (b.privateGrader.validAlternatives.map candidateIdentity),
      "admission plan must contain every declared alternative"),
    (!sameSet (plannedControls plan) (expectedControls b),
      "admission plan does not exactly match declared negative controls"),
    (!(expectedControls b).all (fun control => behaviorStage control.2.2),
      "Phase 0 negative controls must target functional or semantic behavior")]

/-- One turn of `_validate_shared_identity`. -/
def validateSharedIdentity (K : Digests D) (plan : AdmissionPlan D) (b : TaskBundle D)
    (c : ScoringContract D) (p : RewardPolicy) (a : AdmissionAttempt D) : Except String Unit := do
  let e := a.evidence
  let request := e.request
  refuse [
    (e.origin != .microvm || e.environment.isolation != .microvm,
      "dynamic admission requires microVM-shaped evidence"),
    (!(decide (request.taskId = b.publicTask.taskId) &&
      decide (request.taskVersion = b.publicTask.version) &&
      decide (request.taskBundleSha256 = b.bundleSha256)),
      "admission evidence does not match the task bundle"),
    (!(decide (request.environmentId = plan.environmentId) &&
      decide (K.sha256Json (.environment e.environment) = plan.environmentSha256) &&
      decide (e.graderId = plan.graderId) && decide (e.harnessCommit = plan.harnessCommit)),
      "admission evidence does not match the frozen worker identity")]
  let expected ← scoreEvidence K.toReplay.toTask.toDigests e c p
  refuse [
    (!decide (a.grade = expected), "admission grade is not the deterministic score of evidence"),
    (!bindsGraded K.toReplay a.manifest a.anchor e a.grade c p,
      "admission replay manifest and anchor do not bind exact graded inputs")]

/-! ## Roles -/

def byRole (attempts : List (AdmissionAttempt D)) (role : AdmissionRole) :
    List (AdmissionAttempt D) :=
  attempts.filter fun a => a.role = role

def AdmissionPlan.expectedCount (plan : AdmissionPlan D) : AdmissionRole → Nat
  | .original => plan.originalRepeats
  | .revert => 1
  | .alternative => plan.alternativeCandidates.length
  | .publicMutant => 1
  | .negativeControl => plan.negativeControls.length

def countsText (counts : List (AdmissionRole × Nat)) : String :=
  "\x7b" ++ String.intercalate ", " (counts.map fun entry =>
    "<AdmissionRole." ++ entry.1.name ++ ": '" ++ entry.1.value ++ "'>: " ++ toString entry.2) ++
    "\x7d"

/-- The roles in the order in which the attempts first show them. -/
def actualCounts (attempts : List (AdmissionAttempt D)) : List (AdmissionRole × Nat) :=
  (attempts.map (·.role)).eraseDups.map fun role => (role, (byRole attempts role).length)

def requirePass (a : AdmissionAttempt D) (label : String) : Except String Unit :=
  refuse [(a.grade.strictSuccess != some true, label ++ " must pass every strict scoring stage")]

def validateReference (plan : AdmissionPlan D) (a : AdmissionAttempt D) : Except String Unit := do
  refuse [(!decide (a.candidate = plan.referenceCandidate),
    "original and revert runs must use the reference candidate")]
  requirePass a a.role.value

/-- The alternative runs, with the candidates seen so far. -/
def validateAlternatives (plan : AdmissionPlan D) :
    List (CandidateIdentity D) → List (AdmissionAttempt D) →
      Except String (List (CandidateIdentity D))
  | seen, [] => .ok seen
  | seen, a :: rest => do
    refuse [
      (!plan.alternativeCandidates.contains a.candidate,
        "alternative run uses an undeclared candidate"),
      (seen.contains a.candidate, "each declared alternative must appear exactly once")]
    requirePass a "alternative"
    validateAlternatives plan (a.candidate :: seen) rest

/-- A key that is missing fails the check here; a validated evidence has every
stage. -/
def validateMutant (plan : AdmissionPlan D) (a : AdmissionAttempt D) : Except String Unit :=
  refuse [
    (!decide (a.candidate = plan.publicMutantCandidate),
      "public-mutant run uses the wrong candidate"),
    (a.grade.firstFailure != some .verifier ||
      [Stage.ingest, .compile, .objectPolicy].any (fun s => a.outcome s != some .pass) ||
      a.outcome .verifier != some .fail,
      "public mutant must pass ingest, compile, and object policy, then fail verifier")]

/-- The stages before the one a control is to fail. -/
def priorStages (target : Stage) : List Stage :=
  (stageOrder.filter (· ≠ target)).take target.index

def validateControl (plan : AdmissionPlan D) (a : AdmissionAttempt D) : Except String Unit :=
  match plan.negativeControls.find? fun c => some c.controlId = a.controlId with
  | none => .error "KeyError"
  | some control =>
    let target := control.expectedFirstFailure
    refuse [
      (!decide (a.candidate = control.candidate),
        "negative control " ++ control.controlId ++ " uses the wrong candidate"),
      (!(priorStages target).all (fun s => a.outcome s == some .pass) ||
        a.outcome target != some .fail || a.grade.comparable != true ||
        a.grade.strictSuccess != some false || a.grade.firstFailure != some target,
        "negative control " ++ control.controlId ++ " did not reach and fail " ++ target.value)]

def idsText (ids : List String) : String :=
  "[" ++ String.intercalate ", " ((sortOn id ids).map fun i => "'" ++ i ++ "'") ++ "]"

/-- The supplied controls are the planned ones, each once. -/
def validateControlSet (plan : AdmissionPlan D) (supplied : List (AdmissionAttempt D)) :
    Except String Unit :=
  let planned := plan.negativeControls.map (·.controlId)
  let ids := supplied.filterMap (·.controlId)
  let distinct := ids.eraseDups
  refuse [
    (supplied.any (·.controlId.isNone), "negative-control attempt is missing its control ID"),
    (!sameSet ids planned,
      "negative-control set differs from plan: missing=" ++
        idsText (planned.filter fun i => !distinct.contains i) ++ ", unexpected=" ++
        idsText (distinct.filter fun i => !planned.contains i)),
    (!decide ids.Nodup,
      "negative controls must appear exactly once: " ++
        idsText (distinct.filter fun i => ids.count i ≠ 1))]

def behaviorDigest (K : Digests D) (a : AdmissionAttempt D) : Except String D :=
  K.behavior <$> behaviorProjection a.evidence

/-- The one digest of the originals' behavior, which the revert runs repeat. -/
def referenceBehavior (K : Digests D) (originals reverts : List (AdmissionAttempt D)) :
    Except String D := do
  let digests ← originals.mapM (behaviorDigest K)
  match digests.eraseDups with
  | [reference] =>
    reverts.forM fun a => do
      let digest ← behaviorDigest K a
      refuse [(!decide (digest = reference),
        "revert behavior differs from the reference projection")]
    pure reference
  | _ => .error "repeated reference runs produced nondeterministic behavior"

def validatePublicMutant (plan : AdmissionPlan D) : List (AdmissionAttempt D) → Except String Unit
  | [] => .error "IndexError"
  | mutant :: _ => validateMutant plan mutant

def validateRoles (K : Digests D) (plan : AdmissionPlan D) (attempts : List (AdmissionAttempt D)) :
    Except String D := do
  refuse [(AdmissionRole.all.any (fun r => (byRole attempts r).length != plan.expectedCount r),
    "attempt role matrix differs from plan: expected=" ++
      countsText (AdmissionRole.all.map fun r => (r, plan.expectedCount r)) ++ ", actual=" ++
      countsText (actualCounts attempts))]
  (byRole attempts .original ++ byRole attempts .revert).forM (validateReference plan)
  let seen ← validateAlternatives plan [] (byRole attempts .alternative)
  refuse [(!sameSet seen plan.alternativeCandidates,
    "every declared alternative must be executed")]
  validatePublicMutant plan (byRole attempts .publicMutant)
  validateControlSet plan (byRole attempts .negativeControl)
  (byRole attempts .negativeControl).forM (validateControl plan)
  referenceBehavior K (byRole attempts .original) (byRole attempts .revert)

end Checks

/-! ## Admission -/

section Admit

variable [LinearOrder D]

def sortKey (a : AdmissionAttempt D) : String ×ₗ String ×ₗ D ×ₗ String :=
  toLex (a.role.value, toLex (a.controlId.getD "",
    toLex (a.evidence.request.candidate.sha256, a.evidence.request.requestId)))

def replayDigest (K : Digests D) (a : AdmissionAttempt D) : AdmissionReplayDigest D :=
  { role := a.role
    controlId := a.controlId
    requestId := a.evidence.request.requestId
    candidateSha256 := a.evidence.request.candidate.sha256
    evidenceSha256 := K.sha256Json (.evidence a.evidence)
    gradeSha256 := K.sha256Json (.grade a.grade)
    replayManifestSha256 := a.anchor.manifestSha256 }

def report (K : Digests D) (b : TaskBundle D) (c : ScoringContract D) (p : RewardPolicy)
    (plan : AdmissionPlan D) (referenceBehaviorSha256 : D) (ordered : List (AdmissionAttempt D)) :
    AdmissionReport D :=
  { planSha256 := K.plan plan
    taskId := b.publicTask.taskId
    taskVersion := b.publicTask.version
    publicTaskSha256 := b.publicSha256
    privateGraderSha256 := b.privateSha256
    taskBundleSha256 := b.bundleSha256
    scoringContractSha256 := K.sha256Json (.contract c)
    rewardPolicyId := p.policyId
    rewardPolicySha256 := K.sha256Json (.policy p)
    environmentId := plan.environmentId
    environmentSha256 := plan.environmentSha256
    graderId := plan.graderId
    harnessCommit := plan.harnessCommit
    referenceBehaviorSha256
    attemptSetSha256 := K.attempts ordered
    replays := ordered.map (replayDigest K) }

def validateIndependence (attempts : List (AdmissionAttempt D)) : Except String Unit :=
  refuse [
    (attempts.isEmpty, "dynamic admission requires role-labelled attempts"),
    (!decide (attempts.map (·.evidence.request.requestId)).Nodup,
      "admission attempts must have distinct request IDs"),
    (!decide (attempts.map (·.anchor.manifestSha256)).Nodup,
      "admission attempts must have distinct replay manifest IDs"),
    (!decide (attempts.map (·.evidence.request.episodeId)).Nodup,
      "admission attempts must be distinct episodes"),
    (attempts.any (fun a => a.evidence.request.attemptIndex != 0 ||
      a.evidence.request.parentRequestId.isSome),
      "admission attempts must be independent turn-zero runs")]

def admitTask (K : Digests D) (b : TaskBundle D) (c : ScoringContract D) (p : RewardPolicy)
    (plan : AdmissionPlan D) (attempts : List (AdmissionAttempt D)) :
    Except String (AdmissionReport D) := do
  frozenBundle K.toReplay.toTask b
  c.validate
  p.validate
  plan.validate
  let derived ← buildScoringContract b
  refuse [(!decide (c = derived), "scoring contract is not exactly derived from the task")]
  validatePlan K.toReplay.toTask.toDigests plan b c p
  attempts.forM (·.validate K.toReplay.toTask.toDigests)
  validateIndependence attempts
  attempts.forM (validateSharedIdentity K plan b c p)
  let behavior ← validateRoles K plan attempts
  pure (report K b c p plan behavior (sortOn sortKey attempts))

end Admit

end Bpe.Admission
