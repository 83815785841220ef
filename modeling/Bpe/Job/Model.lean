import Bpe.Experiment.Model
import Bpe.Replay.Manifest
import Bpe.Task.Contract

/-!
# Evaluation jobs

`EvaluationJobManifest` of `job.py`: a request with the suite, the experiment,
the environment, the policy, the plan and the contract that it is evaluated
under, and the table of the blobs it needs.
-/

namespace Bpe.Job

open Models Grading Bpe.Task Experiment

variable {D : Type}

structure JobBlobRef (D : Type) where
  sha256 : D
  sizeBytes : Nat
  deriving DecidableEq

def maxJobBlobBytes : Nat := 16 * 1024 * 1024
def maxJobTotalBlobBytes : Nat := 128 * 1024 * 1024

def JobBlobRef.valid (b : JobBlobRef D) : Bool :=
  decide (1 ≤ b.sizeBytes) && decide (b.sizeBytes ≤ maxJobBlobBytes)

structure EvaluationJobManifest (D : Type) where
  request : EvaluationRequest D
  requestSha256 : D
  suite : SuiteManifest D
  suiteSha256 : D
  experiment : ExperimentManifest D
  experimentSha256 : D
  environment : EnvironmentFingerprint D
  environmentSha256 : D
  rewardPolicy : RewardPolicy
  rewardPolicySha256 : D
  harnessCommit : String
  expectedGraderId : D
  restoreNonce : D
  plan : EvaluationPlan D
  planSha256 : D
  contract : ScoringContract D
  contractSha256 : D
  blobs : List (JobBlobRef D)
  totalBlobBytes : Nat

/-- The digests of what a job embeds and of the job, and the all-zero nonce. -/
structure Digests (D : Type) extends toReplay : Replay.Digests D where
  request : EvaluationRequest D → D
  suite : SuiteManifest D → D
  experiment : ExperimentManifest D → D
  evaluationPlan : EvaluationPlan D → D
  job : EvaluationJobManifest D → D
  zero : D

section Validate

variable [LinearOrder D]

/-- The sizes by digest, in the order of the first references. -/
def blobSizes : List (D × Nat) → List (ArtifactRef D) → Except String (List (D × Nat))
  | sizes, [] => .ok sizes
  | sizes, r :: rest =>
    match sizes.lookup r.sha256 with
    | none => blobSizes (sizes ++ [(r.sha256, r.sizeBytes)]) rest
    | some size =>
      if size ≠ r.sizeBytes then .error "one blob digest is paired with inconsistent sizes"
      else blobSizes sizes rest

def physicalBlobTable (references : List (ArtifactRef D)) :
    Except String (List (JobBlobRef D)) := do
  let sizes ← blobSizes [] references
  let blobs := (sortOn (·.1) sizes).map fun entry => (⟨entry.1, entry.2⟩ : JobBlobRef D)
  refuse [(!blobs.all (·.valid), "size_bytes")]
  pure blobs

namespace EvaluationJobManifest

variable (j : EvaluationJobManifest D)

/-- The fields in their order. -/
def validateFields (K : Digests D) : Except String Unit := do
  j.request.validate
  j.suite.validate
  j.experiment.validate
  j.environment.validate
  j.rewardPolicy.validate
  refuse [(!isCommit j.harnessCommit, "harness_commit")]
  j.plan.validate K.toReplay.toTask
  j.contract.validate
  refuse [
    (!(decide (1 ≤ j.blobs.length) && decide (j.blobs.length ≤ 256) && j.blobs.all (·.valid)),
      "blobs"),
    (!(decide (1 ≤ j.totalBlobBytes) && decide (j.totalBlobBytes ≤ maxJobTotalBlobBytes)),
      "total_blob_bytes")]

/-- The identities that a job binds before its experiment. -/
def checkTask (K : Digests D) : Except String Unit := do
  refuse [
    (j.environment.isolation != .microvm,
      "evaluation job preparation requires a microVM environment"),
    (decide (j.restoreNonce = K.zero), "restore nonce cannot use the all-zero placeholder"),
    (!decide (j.request.environmentId = j.environment.environmentId),
      "job request and environment IDs differ"),
    (!decide (j.plan.environmentId = j.environment.environmentId),
      "job plan and environment IDs differ"),
    (j.request.diagnosticCondition == .bpfix && j.environment.bpfixCommit.isNone,
      "bpfix evaluation jobs require a pinned bpfix commit"),
    (!(decide (j.request.taskId = j.plan.taskId) &&
      decide (j.request.taskVersion = j.plan.taskVersion) &&
      decide (j.request.taskBundleSha256 = j.plan.taskBundleSha256) &&
      decide (j.request.taskId = j.contract.taskId) &&
      decide (j.request.taskVersion = j.contract.taskVersion) &&
      decide (j.request.taskBundleSha256 = j.contract.taskBundleSha256)),
      "job request, plan, and scoring-contract task identities differ")]
  let derived ← scoringContractForPlan j.plan
  refuse [
    (!decide (j.contract = derived),
      "job scoring contract is not exactly derived from its plan"),
    (j.request.candidate.mediaType != "text/x-c",
      "evaluation candidate must use the text/x-c media type"),
    (decide (j.request.candidate.sizeBytes > j.plan.candidateContract.maxResponseBytes),
      "evaluation candidate exceeds the task candidate byte limit")]

def digestError (label : String) : String :=
  "job " ++ label ++ " digest does not match its embedded value"

/-- The embedded digests, and the experiment that the request belongs to. -/
def checkExperiment (K : Digests D) : Except String Unit :=
  refuse [
    (!decide (j.requestSha256 = K.request j.request), digestError "request"),
    (!decide (j.suiteSha256 = K.suite j.suite), digestError "suite"),
    (!decide (j.experimentSha256 = K.experiment j.experiment), digestError "experiment"),
    (!decide (j.environmentSha256 = K.sha256Json (.environment j.environment)),
      digestError "environment"),
    (!decide (j.rewardPolicySha256 = K.sha256Json (.policy j.rewardPolicy)),
      digestError "reward policy"),
    (!decide (j.planSha256 = K.evaluationPlan j.plan), digestError "plan"),
    (!decide (j.contractSha256 = K.sha256Json (.contract j.contract)), digestError "contract"),
    (!(decide (j.request.experimentId = j.experiment.experimentId) &&
      decide (j.request.experimentManifestSha256 = j.experimentSha256)),
      "job request does not bind the embedded experiment"),
    (!(decide (j.request.suiteId = j.suite.suiteId) &&
      decide (j.request.suiteManifestSha256 = j.suiteSha256) &&
      decide (j.experiment.suiteId = j.suite.suiteId) &&
      decide (j.experiment.suiteManifestSha256 = j.suiteSha256)),
      "job request and experiment do not bind the embedded suite"),
    (!(decide (j.request.modelId = j.experiment.modelId) &&
      decide (j.request.modelArtifactSha256 = j.experiment.modelArtifactSha256) &&
      decide (j.request.samplingConfigSha256 = j.experiment.samplingConfigSha256) &&
      decide (j.request.diagnosticCondition = j.experiment.diagnosticCondition)),
      "job request generation configuration differs from experiment"),
    (!(decide (j.experiment.environmentSha256 = j.environmentSha256) &&
      decide (j.suite.environmentId = j.environment.environmentId)),
      "job experiment or suite does not bind the environment"),
    (!(decide (j.experiment.rewardPolicyId = j.rewardPolicy.policyId) &&
      decide (j.experiment.rewardPolicySha256 = j.rewardPolicySha256)),
      "job reward or strict scoring policy identity differs"),
    (!(decide (j.harnessCommit = j.experiment.harnessCommit) &&
      decide (j.expectedGraderId = j.experiment.expectedGraderId)),
      "job harness or grader identity differs from experiment"),
    (!decide (j.expectedGraderId = graderIdFor K.toReplay.toTask.toDigests j.request j.environment
        j.harnessCommit),
      "job grader identity does not bind request and environment")]

/-- The seeds of the request are those of the experiment's plan. -/
def checkSeeds : Except String Unit :=
  match j.experiment.seedPlans.find? fun p => p.trainingSeed = j.request.trainingSeed with
  | none => .error "job request uses a training seed outside the experiment"
  | some seedPlan =>
    refuse [
      (!(decide (j.request.checkpointId = seedPlan.checkpointId) &&
        decide (j.request.checkpointArtifactSha256 = seedPlan.checkpointArtifactSha256)),
        "job request checkpoint differs from its training seed plan"),
      (decide (j.request.sampleIndex ≥ seedPlan.generationSeeds.length),
        "job request sample index is outside the experiment"),
      (!decide (seedPlan.generationSeeds[j.request.sampleIndex]? = some j.request.generationSeed),
        "job request generation seed differs from the experiment"),
      (decide (j.request.attemptIndex ≥ j.plan.maxAttempts),
        "job request attempt index exceeds the task limit"),
      (decide (j.request.attemptIndex = 0) != j.request.parentRequestId.isNone,
        "job request parent linkage does not match its attempt index")]

/-- The task of the request is in the suite, once and as planned. -/
def checkSuite : Except String Unit :=
  match j.suite.tasks.filter fun t => t.taskId = j.request.taskId with
  | [task] =>
    refuse [(!(decide (task.taskVersion = j.plan.taskVersion) &&
      decide (task.taskBundleSha256 = j.plan.taskBundleSha256) &&
      decide (task.evaluationPlanSha256 = j.planSha256) &&
      decide (task.scoringContractSha256 = j.contractSha256) &&
      decide (task.family = j.plan.family) &&
      decide (task.programType = j.plan.program.programType)),
      "job task plan or contract differs from the frozen suite")]
  | _ => .error "job request task is not uniquely present in the suite"

def checkBlobs : Except String Unit := do
  let expected ← physicalBlobTable (j.request.candidate :: j.plan.functionalCases.map (·.input))
  refuse [
    (!decide (j.blobs = expected),
      "job blob table must exactly cover candidate and functional inputs"),
    (!decide (j.totalBlobBytes = (expected.map (·.sizeBytes)).sum),
      "job total blob bytes do not match the exact blob table")]

/-- The fields, and `all_embedded_identities_are_cross_bound`. -/
def validate (K : Digests D) : Except String Unit := do
  j.validateFields K
  j.checkTask K
  j.checkExperiment K
  j.checkSeeds
  j.checkSuite
  j.checkBlobs

end EvaluationJobManifest

end Validate

end Bpe.Job
