import Bpe.Lib.Except
import Bpe.Lib.Dict
import Bpe.Models.Text
import Bpe.Models.Digest

/-!
# Evidence, contracts, policies and grades

The models of `models.py` that scoring reads and returns, with their
validators. A `validate` refuses a field by its name and a record by the message
of its model validator. Weights and rewards are rationals; `facts` are JSON
documents, which no code looks into.
-/

namespace Bpe.Grading

open Models

inductive Stage where
  | ingest | compile | objectPolicy | verifier | functional | semantics
  deriving DecidableEq

def Stage.value : Stage → String
  | .ingest => "ingest"
  | .compile => "compile"
  | .objectPolicy => "object_policy"
  | .verifier => "verifier"
  | .functional => "functional"
  | .semantics => "semantics"

def stageOrder : List Stage :=
  [.ingest, .compile, .objectPolicy, .verifier, .functional, .semantics]

instance Stage.fintype : Fintype Stage :=
  ⟨⟨stageOrder, by decide⟩, fun s => by cases s <;> decide⟩

/-- The place of a stage in the pipeline. -/
def Stage.index : Stage → Nat
  | .ingest => 0
  | .compile => 1
  | .objectPolicy => 2
  | .verifier => 3
  | .functional => 4
  | .semantics => 5

inductive Outcome where
  | pass | fail | timeout | skipped | infraError | unsupported
  deriving DecidableEq

inductive Origin where
  | microvm | nativeLinux | recorded | synthetic
  deriving DecidableEq

inductive Isolation where
  | microvm | nativeLinux | synthetic
  deriving DecidableEq

inductive DiagnosticCondition where
  | none | raw | bpfix
  deriving DecidableEq

/-- The text has at least that many and at most that many characters. -/
def lengthWithin (least most : Nat) (s : String) : Bool := least ≤ s.length && s.length ≤ most

/-- `^[0-9a-f]{40}$` -/
def isCommit (s : String) : Bool :=
  s.length == 40 && s.toList.all fun c => c.isDigit || ('a' ≤ c && c ≤ 'f')

structure ArtifactRef (D : Type) where
  sha256 : D
  sizeBytes : Nat
  mediaType : String
  deriving DecidableEq

def ArtifactRef.valid {D : Type} (a : ArtifactRef D) : Bool := lengthWithin 1 127 a.mediaType

/-! ## Evidence -/

structure CheckEvidence (D : Type) where
  checkId : String
  outcome : Outcome
  required : Bool
  weight : ℚ
  reasonCode : String
  message : String
  facts : Term
  artifacts : Dict String (ArtifactRef D)

def validWeight (w : ℚ) : Bool := decide (0 < w) && decide (w ≤ 1000000)

def CheckEvidence.validate {D : Type} (c : CheckEvidence D) : Except String Unit :=
  refuse [
    (!isStableId c.checkId, "check_id"),
    (!([.pass, .fail, .timeout].contains c.outcome), "outcome"),
    (!validWeight c.weight, "weight"),
    (!isStableId c.reasonCode, "reason_code"),
    (!lengthWithin 0 4096 c.message, "message"),
    (!c.artifacts.values.all (·.valid), "artifacts")]

structure StageEvidence (D : Type) where
  stage : Stage
  outcome : Outcome
  reasonCode : String
  message : String
  durationMs : Nat
  exitCode : Option Int
  checks : List (CheckEvidence D)
  facts : Term
  artifacts : Dict String (ArtifactRef D)

namespace StageEvidence

variable {D : Type} (s : StageEvidence D)

def required : List (CheckEvidence D) := s.checks.filter (·.required)

def failed : List (CheckEvidence D) := s.required.filter fun c => c.outcome ≠ .pass

def checksMustAgreeWithStage : Except String Unit :=
  refuse [
    (!decide (s.checks.map (·.checkId)).Nodup, "check IDs must be unique within a stage"),
    (s.outcome == .pass && [.objectPolicy, .functional, .semantics].contains s.stage
        && s.required.isEmpty,
      "a passing " ++ s.stage.value ++ " stage requires evidence checks"),
    (s.outcome == .pass && !s.failed.isEmpty,
      "a passing stage cannot contain a failed required check"),
    (s.outcome == .fail && !s.required.isEmpty && s.failed.isEmpty,
      "a failed checked stage needs a failed required check"),
    (s.outcome == .skipped && (!s.checks.isEmpty || !s.artifacts.entries.isEmpty),
      "a skipped stage cannot claim checks or artifacts")]

def validate : Except String Unit := do
  refuse [
    (!isStableId s.reasonCode, "reason_code"),
    (!lengthWithin 0 4096 s.message, "message"),
    (!decide (s.checks.length ≤ 4096), "checks"),
    (!s.artifacts.values.all (·.valid), "artifacts")]
  s.checks.forM (·.validate)
  s.checksMustAgreeWithStage

def requiredFraction : ℚ :=
  if s.required.isEmpty then if s.outcome = .pass then 1 else 0
  else ((s.required.filter fun c => c.outcome = .pass).map (·.weight)).sum /
    (s.required.map (·.weight)).sum

end StageEvidence

structure EnvironmentFingerprint (D : Type) where
  environmentId : String
  isolation : Isolation
  architecture : String
  kernelRelease : String
  kernelImageSha256 : D
  kernelConfigSha256 : D
  kernelBtfSha256 : D
  rootfsSha256 : D
  snapshotSha256 : Option D
  clangVersion : String
  clangSha256 : D
  libbpfVersion : String
  libbpfCommit : String
  bpfixCommit : Option String
  runnerSha256 : D
  compileRecipeSha256 : D
  normalizerVersion : String
  normalizerSha256 : D
  publicSdkSha256 : D
  resourceLimitsSha256 : D
  deriving DecidableEq

def EnvironmentFingerprint.validate {D : Type} (e : EnvironmentFingerprint D) :
    Except String Unit :=
  refuse [
    (!isStableId e.environmentId, "environment_id"),
    (!isStableId e.architecture, "architecture"),
    (!lengthWithin 1 256 e.kernelRelease, "kernel_release"),
    (!lengthWithin 1 256 e.clangVersion, "clang_version"),
    (!lengthWithin 1 128 e.libbpfVersion, "libbpf_version"),
    (!isCommit e.libbpfCommit, "libbpf_commit"),
    (!e.bpfixCommit.all isCommit, "bpfix_commit"),
    (!isStableId e.normalizerVersion, "normalizer_version"),
    (e.isolation == .microvm && e.snapshotSha256.isNone,
      "microVM environments require a snapshot digest")]

structure EvaluationRequest (D : Type) where
  requestId : String
  experimentId : String
  experimentManifestSha256 : D
  modelId : String
  modelArtifactSha256 : D
  checkpointId : String
  checkpointArtifactSha256 : D
  samplingConfigSha256 : D
  episodeId : String
  suiteId : String
  suiteManifestSha256 : D
  taskId : String
  taskVersion : String
  taskBundleSha256 : D
  candidate : ArtifactRef D
  environmentId : String
  trainingSeed : Nat
  sampleIndex : Nat
  generationSeed : Nat
  attemptIndex : Nat
  diagnosticCondition : DiagnosticCondition
  parentRequestId : Option String
  deriving DecidableEq

def EvaluationRequest.validate {D : Type} (r : EvaluationRequest D) : Except String Unit :=
  refuse [
    (!isStableId r.requestId, "request_id"),
    (!isStableId r.experimentId, "experiment_id"),
    (!isStableId r.modelId, "model_id"),
    (!isStableId r.checkpointId, "checkpoint_id"),
    (!isStableId r.episodeId, "episode_id"),
    (!isStableId r.suiteId, "suite_id"),
    (!isStableId r.taskId, "task_id"),
    (!isStableId r.taskVersion, "task_version"),
    (!r.candidate.valid, "candidate"),
    (!isStableId r.environmentId, "environment_id"),
    (!r.parentRequestId.all isStableId, "parent_request_id")]

structure EvaluationEvidence (D : Type) where
  origin : Origin
  request : EvaluationRequest D
  environment : EnvironmentFingerprint D
  harnessCommit : String
  graderId : D
  stages : List (StageEvidence D)
  observationArtifacts : Dict String (ArtifactRef D)

/-! ## Contracts, policies and grades -/

structure ExpectedCheck (D : Type) where
  stage : Stage
  checkId : String
  required : Bool
  weight : ℚ
  inputArtifacts : Dict String (ArtifactRef D)
  deriving DecidableEq

def ExpectedCheck.validate {D : Type} (c : ExpectedCheck D) : Except String Unit :=
  refuse [
    (!([.objectPolicy, .functional, .semantics].contains c.stage), "stage"),
    (!isStableId c.checkId, "check_id"),
    (!validWeight c.weight, "weight"),
    (!c.inputArtifacts.entries.all (fun e => isStableId e.1 && e.2.valid), "input_artifacts")]

structure ScoringContract (D : Type) where
  taskId : String
  taskVersion : String
  taskBundleSha256 : D
  checks : List (ExpectedCheck D)
  deriving DecidableEq

namespace ScoringContract

variable {D : Type} (c : ScoringContract D)

def checkManifestIsCompleteAndUnique : Except String Unit := do
  refuse [
    (!decide (c.checks.map fun k => (k.stage, k.checkId)).Nodup,
      "scoring-contract check identities must be unique")]
  [Stage.objectPolicy, .functional, .semantics].forM fun stage =>
    refuse [
      (!c.checks.any (fun k => k.stage == stage && k.required),
        "scoring contract requires a required " ++ stage.value ++ " check")]

def validate : Except String Unit := do
  refuse [
    (!isStableId c.taskId, "task_id"),
    (!isStableId c.taskVersion, "task_version"),
    (!(decide (3 ≤ c.checks.length) && decide (c.checks.length ≤ 8192)), "checks")]
  c.checks.forM (·.validate)
  c.checkManifestIsCompleteAndUnique

end ScoringContract

structure RewardPolicy where
  policyId : String
  description : String
  ingestFailureReward : ℚ
  compileFailureReward : ℚ
  objectPolicyFailureReward : ℚ
  verifierFailureReward : ℚ
  functionalRewardCap : ℚ
  semanticsRewardCap : ℚ
  successReward : ℚ
  explicitHackReward : ℚ
  explicitHackReasonPrefix : String
  deriving DecidableEq

namespace RewardPolicy

variable (p : RewardPolicy)

def sequence : List ℚ :=
  [p.ingestFailureReward, p.compileFailureReward, p.objectPolicyFailureReward,
    p.verifierFailureReward, p.functionalRewardCap, p.semanticsRewardCap, p.successReward]

def within (least most x : ℚ) : Bool := decide (least ≤ x) && decide (x ≤ most)

/-- The fields, and `rewards_must_be_monotonic`. -/
def validate : Except String Unit :=
  refuse [
    (!isStableId p.policyId, "policy_id"),
    (!lengthWithin 1 1024 p.description, "description"),
    (!within (-1) 1 p.ingestFailureReward, "ingest_failure_reward"),
    (!within (-1) 1 p.compileFailureReward, "compile_failure_reward"),
    (!within (-1) 1 p.objectPolicyFailureReward, "object_policy_failure_reward"),
    (!within (-1) 1 p.verifierFailureReward, "verifier_failure_reward"),
    (!within 0 1 p.functionalRewardCap, "functional_reward_cap"),
    (!within 0 1 p.semanticsRewardCap, "semantics_reward_cap"),
    (!within 0 1 p.successReward, "success_reward"),
    (!within (-1) 0 p.explicitHackReward, "explicit_hack_reward"),
    (!isStableId p.explicitHackReasonPrefix, "explicit_hack_reason_prefix"),
    ((p.sequence.zip p.sequence.tail).any (fun pair => decide (pair.1 > pair.2)),
      "stage rewards must be monotonically non-decreasing")]

end RewardPolicy

structure Grade (D : Type) where
  policyId : String
  graderId : D
  taskId : String
  candidateSha256 : D
  evidenceSha256 : D
  contractSha256 : D
  comparable : Bool
  strictSuccess : Option Bool
  benchmarkScore : Option ℚ
  trainingReward : Option ℚ
  firstFailure : Option Stage
  failureReason : Option String
  /-- The outcome that the dictionary gives a stage. -/
  stageOutcomes : Stage → Option Outcome
  deriving DecidableEq

namespace Grade

variable {D : Type} (g : Grade D)

def firstNonPass : Option Stage := stageOrder.find? fun s => g.stageOutcomes s ≠ some .pass

def infraOutcome : Option Outcome → Bool
  | some .infraError | some .unsupported => true
  | _ => false

def comparableFieldsAreConsistent : Except String Unit := do
  refuse [
    (stageOrder.any (fun s => (g.stageOutcomes s).isNone),
      "grade must include every canonical stage outcome"),
    (g.comparable && (g.strictSuccess.isNone || g.benchmarkScore.isNone || g.trainingReward.isNone),
      "comparable grades require success, benchmark, and reward values"),
    (!g.comparable && (g.strictSuccess.isSome || g.benchmarkScore.isSome ||
      g.trainingReward.isSome), "incomparable grades cannot carry score values"),
    (g.strictSuccess == some true && g.benchmarkScore != some 1,
      "strict success must have benchmark score 1"),
    (g.strictSuccess == some false && g.benchmarkScore != some 0,
      "strict failure must have benchmark score 0")]
  if g.strictSuccess = some true then
    refuse [
      (g.firstNonPass.isSome || g.firstFailure.isSome || g.failureReason.isSome,
        "strict success cannot contain failure fields")]
  else
    match g.firstNonPass with
    | none => .error "non-success grade requires a non-passing stage"
    | some first =>
      refuse [
        (g.firstFailure != some first || g.failureReason.isNone,
          "failure fields must identify the earliest non-passing stage"),
        (g.comparable && infraOutcome (g.stageOutcomes first),
          "infrastructure outcomes are not comparable"),
        (!g.comparable && !infraOutcome (g.stageOutcomes first),
          "incomparable grade requires an infrastructure outcome")]

def validate : Except String Unit := do
  refuse [
    (!isStableId g.policyId, "policy_id"),
    (!isStableId g.taskId, "task_id"),
    (!g.benchmarkScore.all (RewardPolicy.within 0 1), "benchmark_score"),
    (!g.trainingReward.all (RewardPolicy.within (-1) 1), "training_reward"),
    (!g.failureReason.all isStableId, "failure_reason")]
  g.comparableFieldsAreConsistent

end Grade

/-! ## Digests -/

/-- What `sha256_json` is applied to. -/
inductive Document (D : Type) where
  | environment (e : EnvironmentFingerprint D)
  | graderId (suiteId : String) (suiteManifestSha256 environmentSha256 : D) (harnessCommit : String)
  | evidence (e : EvaluationEvidence D)
  | contract (c : ScoringContract D)
  | policy (p : RewardPolicy)
  | grade (g : Grade D)

structure Digests (D : Type) where
  sha256Json : Document D → D

variable {D : Type}

def graderIdFor (K : Digests D) (r : EvaluationRequest D) (e : EnvironmentFingerprint D)
    (harnessCommit : String) : D :=
  K.sha256Json (.graderId r.suiteId r.suiteManifestSha256 (K.sha256Json (.environment e))
    harnessCommit)

namespace EvaluationEvidence

/-- The stages up to the first that did not pass ran; those behind it are
skipped. -/
def pipelineChecks : Bool → List (StageEvidence D) → Except String Unit
  | _, [] => .ok ()
  | stopped, s :: rest =>
    if stopped ∧ s.outcome ≠ .skipped then
      .error "stages after the first non-pass result must be skipped"
    else if ¬ stopped ∧ s.outcome = .skipped then
      .error "a stage cannot be skipped before the pipeline stops"
    else pipelineChecks (stopped || s.outcome != .pass) rest

def validatePipeline [DecidableEq D] (K : Digests D) (e : EvaluationEvidence D) :
    Except String Unit := do
  refuse [
    (!decide (e.request.environmentId = e.environment.environmentId),
      "request and evidence environment IDs differ"),
    (e.request.diagnosticCondition == .bpfix && e.environment.bpfixCommit.isNone,
      "bpfix diagnostic evidence requires a pinned bpfix commit"),
    (e.stages.map (·.stage) != stageOrder,
      "evidence must contain every stage in canonical order"),
    (e.origin == .microvm && e.environment.isolation != .microvm,
      "microVM evidence requires a microVM fingerprint"),
    (e.origin == .synthetic && e.environment.isolation != .synthetic,
      "synthetic evidence requires a synthetic fingerprint"),
    (e.origin == .nativeLinux && e.environment.isolation != .nativeLinux,
      "native Linux evidence requires a native Linux fingerprint"),
    (!decide (e.graderId = graderIdFor K e.request e.environment e.harnessCommit),
      "grader_id does not bind this task, harness, and environment")]
  pipelineChecks false e.stages

def validate [DecidableEq D] (K : Digests D) (e : EvaluationEvidence D) : Except String Unit := do
  e.request.validate
  e.environment.validate
  refuse [(!isCommit e.harnessCommit, "harness_commit")]
  e.stages.forM (·.validate)
  refuse [(!e.observationArtifacts.values.all (·.valid), "observation_artifacts")]
  e.validatePipeline K

end EvaluationEvidence

/-! ## Samples -/

section Sample

def sampleId : String := "s"

def sampleCheck (outcome : Outcome) (reason : String) : CheckEvidence D :=
  { checkId := sampleId, outcome, required := true, weight := 1, reasonCode := reason
    message := "", facts := .num 0, artifacts := .empty }

/-- The stages whose success takes evidence. -/
def Stage.checked : Stage → Bool
  | .objectPolicy | .functional | .semantics => true
  | _ => false

def sampleStage (stage : Stage) (outcome : Outcome) (reason : String)
    (checks : List (CheckEvidence D)) : StageEvidence D :=
  { stage, outcome, reasonCode := reason, message := "", durationMs := 0, exitCode := none
    checks, facts := .num 0, artifacts := .empty }

def sampleChecks (stage : Stage) (outcome : Outcome) (reason : String) : List (CheckEvidence D) :=
  if stage.checked then [sampleCheck outcome reason] else []

/-- The checks of a contract at a stage, with that outcome. -/
def observedChecks (c : ScoringContract D) (stage : Stage) (outcome : Outcome) (reason : String) :
    List (CheckEvidence D) :=
  (c.checks.filter (·.stage = stage)).map fun k =>
    { checkId := k.checkId, outcome, required := k.required, weight := k.weight
      reasonCode := reason, message := "", facts := .num 0, artifacts := k.inputArtifacts }

/-- A stage of a pipeline that stopped at another for a reason, or at none. -/
def stoppedStage (checks : Stage → Outcome → String → List (CheckEvidence D))
    (stop : Option (Stage × String)) (stage : Stage) : StageEvidence D :=
  let result := fun outcome reason => sampleStage stage outcome reason (checks stage outcome reason)
  match stop with
  | none => result .pass sampleId
  | some (stop, reason) =>
    if stage.index < stop.index then result .pass sampleId
    else if stage = stop then result .fail reason
    else sampleStage stage .skipped sampleId []

def stageAt (stop : Stage) (reason : String) : Stage → StageEvidence D :=
  stoppedStage sampleChecks (some (stop, reason))

variable [Inhabited D]

def sampleRequest : EvaluationRequest D :=
  { requestId := sampleId, experimentId := sampleId, experimentManifestSha256 := default
    modelId := sampleId, modelArtifactSha256 := default, checkpointId := sampleId
    checkpointArtifactSha256 := default, samplingConfigSha256 := default, episodeId := sampleId
    suiteId := sampleId, suiteManifestSha256 := default, taskId := sampleId
    taskVersion := sampleId, taskBundleSha256 := default
    candidate := ⟨default, 0, sampleId⟩, environmentId := sampleId, trainingSeed := 0
    sampleIndex := 0, generationSeed := 0, attemptIndex := 0, diagnosticCondition := .none
    parentRequestId := none }

def sampleCommit : String := "0000000000000000000000000000000000000000"

def sampleEnvironment : EnvironmentFingerprint D :=
  { environmentId := sampleId, isolation := .synthetic, architecture := sampleId
    kernelRelease := sampleId, kernelImageSha256 := default, kernelConfigSha256 := default
    kernelBtfSha256 := default, rootfsSha256 := default, snapshotSha256 := none
    clangVersion := sampleId, clangSha256 := default, libbpfVersion := sampleId
    libbpfCommit := sampleCommit, bpfixCommit := none, runnerSha256 := default
    compileRecipeSha256 := default, normalizerVersion := sampleId, normalizerSha256 := default
    publicSdkSha256 := default, resourceLimitsSha256 := default }

def failedAt (K : Digests D) (stop : Stage) (reason : String) : EvaluationEvidence D :=
  { origin := .synthetic, request := sampleRequest, environment := sampleEnvironment
    harnessCommit := sampleCommit
    graderId := graderIdFor K sampleRequest sampleEnvironment sampleCommit
    stages := stageOrder.map (stageAt stop reason), observationArtifacts := .empty }

def sampleContract : ScoringContract D :=
  { taskId := sampleId, taskVersion := sampleId, taskBundleSha256 := default
    checks := [⟨.objectPolicy, sampleId, true, 1, .empty⟩, ⟨.functional, sampleId, true, 1, .empty⟩,
      ⟨.semantics, sampleId, true, 1, .empty⟩] }

def passed (K : Digests D) : EvaluationEvidence D :=
  { failedAt K .semantics sampleId with
    stages := stageOrder.map (stoppedStage sampleChecks none) }

def sampleMicrovm : EnvironmentFingerprint D :=
  { sampleEnvironment (D := D) with isolation := .microvm, snapshotSha256 := some default }

/-- A run on the task of a contract that stopped there; its first stage lasted `n`. -/
def sampleRun (c : ScoringContract D) (id : String) (candidate : ArtifactRef D)
    (stop : Option (Stage × String)) (n : Nat) : EvaluationEvidence D :=
  { origin := .microvm
    request :=
      { sampleRequest (D := D) with
        requestId := id, episodeId := id, taskId := c.taskId, taskVersion := c.taskVersion
        taskBundleSha256 := c.taskBundleSha256, candidate }
    environment := sampleMicrovm
    harnessCommit := sampleCommit
    graderId := default
    stages := stageOrder.map fun stage =>
      { stoppedStage (observedChecks c) stop stage with
        durationMs := if stage = .ingest then n else 0 }
    observationArtifacts := .empty }

end Sample

/-- `reward-v1.json` -/
def rewardV1 : RewardPolicy :=
  { policyId := "reward-v1"
    description := "Phase 0 shaping: behavior and anti-hack semantics dominate; " ++
      "benchmark success remains binary."
    ingestFailureReward := -1, compileFailureReward := -1 / 2, objectPolicyFailureReward := -1 / 4
    verifierFailureReward := 0, functionalRewardCap := 1 / 10, semanticsRewardCap := 3 / 5
    successReward := 1, explicitHackReward := -1, explicitHackReasonPrefix := "HACK_" }

def constantDigests : Digests Unit := ⟨fun _ => ()⟩

end Bpe.Grading
