import Bpe.Admission.Model
import Bpe.Job.Model
import Bpe.Lib.Kahn

/-!
# Qualification plans

`qualification.py`: the plan of an adversarial matrix of anchors over the tasks
of two partitions, with the checks of its validators. A plan is read from a
file, so its own checks see digests as texts; `hex` prints one.
-/

namespace Bpe.Qualification

open Models Grading Bpe.Task Replay Admission Experiment Job

variable {D : Type}

inductive AnchorPartition where
  | calibration | validation
  deriving DecidableEq

def AnchorPartition.value : AnchorPartition → String
  | .calibration => "calibration"
  | .validation => "validation"

def AnchorPartition.name : AnchorPartition → String
  | .calibration => "CALIBRATION"
  | .validation => "VALIDATION"

inductive AnchorRole where
  | mutant | noOp | deleteOperation | hardcode | zeroWork | partialFix | reference | alternative
  deriving DecidableEq

namespace AnchorRole

def value : AnchorRole → String
  | .mutant => "mutant"
  | .noOp => "no_op"
  | .deleteOperation => "delete_operation"
  | .hardcode => "hardcode"
  | .zeroWork => "zero_work"
  | .partialFix => "partial_fix"
  | .reference => "reference"
  | .alternative => "alternative"

/-- `_REQUIRED_ROLES` -/
def all : List AnchorRole :=
  [.mutant, .noOp, .deleteOperation, .hardcode, .zeroWork, .partialFix, .reference, .alternative]

/-- `_FULL_SOLUTION_ROLES` -/
def fullSolution (r : AnchorRole) : Bool := [.reference, .alternative].contains r

/-- `_BEHAVIOR_BASELINE_ROLES` -/
def behaviorBaselines : List AnchorRole := [.noOp, .deleteOperation, .hardcode, .zeroWork]

end AnchorRole

structure CheckIdentity where
  stage : Stage
  checkId : String
  deriving DecidableEq

def CheckIdentity.valid (c : CheckIdentity) : Bool := behaviorStage c.stage && isStableId c.checkId

structure TaskKey (D : Type) where
  taskId : String
  taskVersion : String
  taskBundleSha256 : D
  deriving DecidableEq

structure QualificationWitness (D : Type) where
  partition : AnchorPartition
  task : TaskKey D
  check : CheckIdentity

def TaskKey.valid (t : TaskKey D) : Bool := isStableId t.taskId && isStableId t.taskVersion

structure QualificationJobPlan (D : Type) where
  repeatIndex : Nat
  jobManifestSha256 : D

/-- A planned anchor; `task` holds its three task fields. -/
structure QualificationAnchorPlan (D : Type) where
  anchorId : String
  partition : AnchorPartition
  role : AnchorRole
  task : TaskKey D
  evaluationPlanSha256 : D
  scoringContractSha256 : D
  candidate : CandidateIdentity D
  expectedFirstFailure : Option Stage
  expectedFailureReason : Option String
  expectedFailedChecks : List CheckIdentity
  jobs : List (QualificationJobPlan D)

namespace QualificationAnchorPlan

/-- The expectation of an anchor by its role. -/
def checkExpectation (a : QualificationAnchorPlan D) : Except String Unit :=
  if a.role.fullSolution then
    refuse [(a.expectedFirstFailure.isSome || a.expectedFailureReason.isSome ||
      !a.expectedFailedChecks.isEmpty,
      "full-solution anchors must be strict-success expectations")]
  else if a.role = .mutant then
    refuse [
      (a.expectedFirstFailure != some .verifier,
        "mutant anchors must be rejected by the verifier"),
      (a.expectedFailureReason.isNone, "mutant anchors require an expected verifier reason"),
      (!a.expectedFailedChecks.isEmpty,
        "verifier-rejected mutants cannot claim behavior checks")]
  else
    refuse [
      (!(a.expectedFirstFailure == some .functional || a.expectedFirstFailure == some .semantics),
        "behavior anchors must fail functional or semantic checks"),
      (a.expectedFailedChecks.isEmpty, "behavior anchors require at least one killed witness"),
      (a.expectedFailureReason.isNone, "behavior anchors require an expected failure reason"),
      (a.expectedFailedChecks.any (fun c => some c.stage != a.expectedFirstFailure),
        "killed witnesses must belong to the first failing stage")]

/-- The fields, and `expectation_matches_role`. -/
def validate [DecidableEq D] (a : QualificationAnchorPlan D) : Except String Unit := do
  refuse [
    (!isStableId a.anchorId, "anchor_id"),
    (!a.task.valid, "task_id"),
    (!a.expectedFirstFailure.all ([Stage.verifier, .functional, .semantics].contains ·),
      "expected_first_failure"),
    (!a.expectedFailureReason.all isStableId, "expected_failure_reason"),
    (!(decide (a.expectedFailedChecks.length ≤ 8192) && a.expectedFailedChecks.all (·.valid)),
      "expected_failed_checks"),
    (!(decide (2 ≤ a.jobs.length) && decide (a.jobs.length ≤ 16) &&
      a.jobs.all (fun j => decide (j.repeatIndex ≤ 15))), "jobs"),
    (!decide a.expectedFailedChecks.Nodup, "expected failed-check identities must be unique"),
    (a.jobs.map (·.repeatIndex) != List.range a.jobs.length,
      "qualification jobs must use canonical repeat indexes"),
    (!decide (a.jobs.map (·.jobManifestSha256)).Nodup,
      "qualification job manifests must be unique per anchor")]
  a.checkExpectation

end QualificationAnchorPlan

structure RewardOrderingConstraint where
  betterAnchorId : String
  worseAnchorId : String
  minimumMargin : ℚ

/-- The fields, and `anchors_are_distinct`. -/
def RewardOrderingConstraint.validate (o : RewardOrderingConstraint) : Except String Unit :=
  refuse [
    (!isStableId o.betterAnchorId, "better_anchor_id"),
    (!isStableId o.worseAnchorId, "worse_anchor_id"),
    (!RewardPolicy.within 0 2 o.minimumMargin, "minimum_margin"),
    (o.betterAnchorId == o.worseAnchorId, "reward ordering requires two distinct anchors")]

structure GraderQualificationPlan (D : Type) where
  qualificationId : String
  suiteId : String
  suiteManifestSha256 : D
  rewardPolicyId : String
  rewardPolicySha256 : D
  environmentId : String
  environmentSha256 : D
  graderId : D
  harnessCommit : String
  anchors : List (QualificationAnchorPlan D)
  witnesses : List (QualificationWitness D)
  rewardOrderings : List RewardOrderingConstraint

/-! ## The order of the anchors -/

/-- `_validate_acyclic_ordering` keeps the ends of an anchor's relations in a set: `order` is
the order in which the loop goes through each. -/
def validateAcyclicOrderingIn (order : String → List String → List String)
    (anchorIds : List String) (relations : List (String × String)) : Except String Unit :=
  let indegree := anchorIds.map fun id => (id, (relations.filter (·.2 = id)).length)
  let ready := (indegree.filter (·.2 = 0)).map (·.1)
  let visited :=
    Kahn.visit order relations (anchorIds.length + relations.length + 1) indegree ready 0
  refuse [(visited != anchorIds.length, "reward-ordering constraints must be acyclic")]

/-- The ends of an anchor's relations in the order they were declared. -/
def validateAcyclicOrdering : List String → List (String × String) → Except String Unit :=
  validateAcyclicOrderingIn fun _ ends => ends

namespace GraderQualificationPlan

section Validate

variable [DecidableEq D] (p : GraderQualificationPlan D)

def jobDigests : List D := p.anchors.flatMap fun a => a.jobs.map (·.jobManifestSha256)

def taskAnchors (key : AnchorPartition × TaskKey D) : List (QualificationAnchorPlan D) :=
  p.anchors.filter fun a => (a.partition, a.task) = key

def partitionTasks : List (AnchorPartition × TaskKey D) :=
  p.anchors.map fun a => (a.partition, a.task)

def anchor? (id : String) : Option (QualificationAnchorPlan D) :=
  p.anchors.find? fun a => a.anchorId = id

def relations : List (String × String) :=
  p.rewardOrderings.map fun o => (o.betterAnchorId, o.worseAnchorId)

def keyText (hex : D → String) (key : AnchorPartition × TaskKey D) : String :=
  "(<AnchorPartition." ++ key.1.name ++ ": '" ++ key.1.value ++ "'>, '" ++ key.2.taskId ++ "', '" ++
    key.2.taskVersion ++ "', '" ++ hex key.2.taskBundleSha256 ++ "')"

def rolesText (roles : List AnchorRole) : String := idsText (roles.map (·.value))

/-- One anchor of each role. -/
def checkTaskRoles (hex : D → String) (key : AnchorPartition × TaskKey D) : Except String Unit :=
  let roles := (p.taskAnchors key).map (·.role)
  refuse [
    (!sameSet roles AnchorRole.all,
      "qualification task " ++ keyText hex key ++ " does not cover every required role: " ++
        rolesText (AnchorRole.all.filter fun r => !roles.contains r)),
    ((p.taskAnchors key).length != AnchorRole.all.length,
      "qualification task " ++ keyText hex key ++ " must contain exactly one " ++
        "anchor for every required role")]

def bundlesOf (partition : AnchorPartition) : List D :=
  (p.anchors.filter fun a => a.partition = partition).map (·.task.taskBundleSha256)

def checkPartition (partition : AnchorPartition) : Except String Unit :=
  refuse [(decide (((p.anchors.filter fun a => a.partition = partition).map
      (·.task)).dedup.length < 2),
    partition.value ++ " requires at least 2 distinct tasks")]

def witnessKeys : List (AnchorPartition × TaskKey D × CheckIdentity) :=
  p.witnesses.map fun w => (w.partition, w.task, w.check)

/-- The checks that the plan expects to fail, each with its task. -/
def coveredByPlan : List (AnchorPartition × TaskKey D × CheckIdentity) :=
  p.anchors.flatMap fun a => a.expectedFailedChecks.map fun c => (a.partition, a.task, c)

/-- The part of the validator that separates the partitions. -/
def checkSeparation (hex : D → String) : Except String Unit := do
  refuse [
    (!decide (p.anchors.map (·.anchorId)).Nodup, "qualification anchor IDs must be unique"),
    (!decide (p.anchors.map (·.candidate.sha256)).Nodup,
      "qualification candidate digests must be globally unique"),
    (!decide p.jobDigests.Nodup, "qualification job manifests must be globally unique")]
  p.partitionTasks.eraseDups.forM (p.checkTaskRoles hex)
  [AnchorPartition.calibration, .validation].forM p.checkPartition
  refuse [
    ((p.bundlesOf .calibration).any ((p.bundlesOf .validation).contains ·),
      "calibration and validation task bundles must be disjoint"),
    (p.anchors.any (fun a => p.anchors.any fun b =>
        decide (a.task = b.task) && !decide (a.scoringContractSha256 = b.scoringContractSha256)),
      "one task bundle cannot be paired with multiple contracts"),
    (p.anchors.any (fun a => p.anchors.any fun b =>
        decide (a.task.taskBundleSha256 = b.task.taskBundleSha256) &&
        !(decide (a.task = b.task) && decide (a.scoringContractSha256 = b.scoringContractSha256))),
      "one task-bundle digest cannot be relabeled or rebound")]

/-- The part that closes the kill matrix. -/
def checkWitnesses : Except String Unit :=
  refuse [
    (!decide p.witnessKeys.Nodup, "qualification witnesses must be unique"),
    (p.witnesses.any (fun w => !p.partitionTasks.contains (w.partition, w.task)),
      "every witness must belong to a planned partition task"),
    (p.coveredByPlan.any (fun key => !p.witnessKeys.contains key),
      "every required killed check must be a declared witness"),
    (!sameSet p.coveredByPlan p.witnessKeys,
      "the planned kill matrix must cover every declared witness")]

def checkRelation (o : RewardOrderingConstraint) : Except String Unit :=
  match p.anchor? o.betterAnchorId, p.anchor? o.worseAnchorId with
  | some better, some worse =>
    refuse [
      (better.partition != worse.partition,
        "reward orderings cannot cross calibration and validation"),
      (!decide (better.task = worse.task), "reward orderings must stay within one task bundle")]
  | _, _ => .error "reward ordering references an unknown anchor"

/-- The anchors ranked above, or below, one of its task. -/
def rankedAbove (a : QualificationAnchorPlan D) : List (QualificationAnchorPlan D) :=
  ((p.relations.filter (·.2 = a.anchorId)).filterMap fun r => p.anchor? r.1).filter
    fun b => b.task = a.task

def rankedBelow (a : QualificationAnchorPlan D) : List (QualificationAnchorPlan D) :=
  ((p.relations.filter (·.1 = a.anchorId)).filterMap fun r => p.anchor? r.2).filter
    fun b => b.task = a.task

def checkRanking (a : QualificationAnchorPlan D) : Except String Unit :=
  let missing := AnchorRole.behaviorBaselines.filter fun r =>
    !((p.rankedBelow a).map (·.role)).contains r
  if a.role.fullSolution then .ok ()
  else
    refuse [
      (!(p.rankedAbove a).any (·.role.fullSolution),
        "invalid anchor " ++ a.anchorId ++ " must rank below a full solution"),
      (a.role == .partialFix && !missing.isEmpty,
        "each partial fix must rank above every behavior baseline: " ++ rolesText missing)]

/-- The part that orders the anchors. -/
def checkOrderings : Except String Unit := do
  refuse [(!decide p.relations.Nodup, "reward-ordering constraints must be unique")]
  p.rewardOrderings.forM p.checkRelation
  validateAcyclicOrdering (p.anchors.map (·.anchorId)) p.relations
  p.anchors.forM p.checkRanking

/-- The fields, and `matrix_is_closed_and_separated`. -/
def validate (hex : D → String) : Except String Unit := do
  refuse [
    (!isStableId p.qualificationId, "qualification_id"),
    (!isStableId p.suiteId, "suite_id"),
    (!isStableId p.rewardPolicyId, "reward_policy_id"),
    (!isStableId p.environmentId, "environment_id"),
    (!isCommit p.harnessCommit, "harness_commit"),
    (!(decide (32 ≤ p.anchors.length) && decide (p.anchors.length ≤ 4096)), "anchors"),
    (!(decide (2 ≤ p.witnesses.length) && decide (p.witnesses.length ≤ 65536) &&
      p.witnesses.all (fun w => w.task.valid && w.check.valid)), "witnesses"),
    (!(decide (40 ≤ p.rewardOrderings.length) && decide (p.rewardOrderings.length ≤ 65536)),
      "reward_orderings")]
  p.anchors.forM (·.validate)
  p.rewardOrderings.forM (·.validate)
  p.checkSeparation hex
  p.checkWitnesses
  p.checkOrderings

end Validate

end GraderQualificationPlan

/-! ## Attempts and reports -/

structure GraderQualificationAttempt (D : Type) where
  anchorId : String
  repeatIndex : Nat
  job : EvaluationJobManifest D
  evidence : EvaluationEvidence D
  grade : Grade D
  manifest : ReplayManifest D
  replayAnchor : ReplayAnchor D

structure QualificationReplayDigest (D : Type) where
  repeatIndex : Nat
  requestId : String
  evaluationJobManifestSha256 : D
  restoreNonce : D
  evidenceSha256 : D
  gradeSha256 : D
  replayManifestSha256 : D

structure AnchorQualificationResult (D : Type) where
  anchorId : String
  partition : AnchorPartition
  role : AnchorRole
  task : TaskKey D
  candidate : CandidateIdentity D
  strictSuccess : Bool
  firstFailure : Option Stage
  trainingReward : ℚ
  failedChecks : List CheckIdentity
  behaviorSha256 : D
  replays : List (QualificationReplayDigest D)

structure WitnessCoverage (D : Type) where
  witness : QualificationWitness D
  killedByAnchorIds : List String

structure RewardOrderingResult where
  partition : AnchorPartition
  betterAnchorId : String
  worseAnchorId : String
  betterReward : ℚ
  worseReward : ℚ
  observedMargin : ℚ
  requiredMinimumMargin : ℚ

structure GraderQualificationReport (D : Type) where
  qualificationId : String
  planSha256 : D
  suiteId : String
  suiteManifestSha256 : D
  rewardPolicyId : String
  rewardPolicySha256 : D
  environmentId : String
  environmentSha256 : D
  graderId : D
  harnessCommit : String
  calibrationTaskBundles : List D
  validationTaskBundles : List D
  anchorResults : List (AnchorQualificationResult D)
  witnessCoverage : List (WitnessCoverage D)
  rewardOrderings : List RewardOrderingResult
  attemptSetSha256 : D

/-- The whole of an evidence that repeats must agree on. -/
structure BehaviorProjection (D : Type) where
  observationArtifacts : Dict String (ArtifactRef D)
  stages : List (StageBehavior D)

def behaviorProjection (e : EvaluationEvidence D) : BehaviorProjection D :=
  ⟨e.observationArtifacts, e.stages.map fun s =>
    ⟨s.stage, s.outcome, s.reasonCode, s.exitCode, s.facts, s.artifacts,
      s.checks.map checkBehavior⟩⟩

/-- The digests of sealed bytes, of a plan, of a behavior and of the ordered
attempts, and the text of a reward. -/
structure Digests (D : Type) extends toJob : Job.Digests D where
  bytes : List UInt8 → D
  plan : GraderQualificationPlan D → D
  behavior : BehaviorProjection D → D
  attempts : List (GraderQualificationAttempt D) → D
  rewardText : ℚ → String

end Bpe.Qualification
