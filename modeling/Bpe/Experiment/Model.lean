import Bpe.Task.Model
import Bpe.Lib.Collect

/-!
# Suites and experiments

`SuiteManifest` and `ExperimentManifest` of `models.py` with their validators.
Literal fields are left out.
-/

namespace Bpe.Experiment

open Models Grading Bpe.Task

variable {D : Type}

structure SuiteTask (D : Type) where
  taskId : String
  taskVersion : String
  taskBundleSha256 : D
  evaluationPlanSha256 : D
  scoringContractSha256 : D
  family : Family
  rootCause : Option String
  programType : String
  clusterId : String
  deriving DecidableEq

def SuiteTask.valid (t : SuiteTask D) : Bool :=
  isStableId t.taskId && isStableId t.taskVersion && t.rootCause.all isStableId &&
    isStableId t.programType && isStableId t.clusterId

structure SuiteManifest (D : Type) where
  suiteId : String
  environmentId : String
  family : Family
  rootCauseTaxonomy : List String
  tasks : List (SuiteTask D)
  deriving DecidableEq

/-- The turn of the loop over the tasks of a suite. -/
def SuiteManifest.checkTask (s : SuiteManifest D) (t : SuiteTask D) : Except String Unit :=
  refuse [
    (t.family != s.family, "suite cannot mix benchmark families"),
    (t.family == .repair && t.rootCause.isNone, "repair suite tasks require a root cause"),
    (t.family == .generation && t.rootCause.isSome,
      "generation suite tasks cannot claim a repair root cause")]

/-- The fields, and `task_identities_are_unique`. -/
def SuiteManifest.validate (s : SuiteManifest D) : Except String Unit := do
  refuse [
    (!isStableId s.suiteId, "suite_id"),
    (!isStableId s.environmentId, "environment_id"),
    (!s.rootCauseTaxonomy.all isStableId, "root_cause_taxonomy"),
    (!(decide (1 ≤ s.tasks.length) && decide (s.tasks.length ≤ 100000) &&
      s.tasks.all (·.valid)), "tasks"),
    (!decide (s.tasks.map (·.taskId)).Nodup, "suite task identities must be unique"),
    (!decide s.rootCauseTaxonomy.Nodup, "suite root-cause taxonomy must be unique")]
  s.tasks.forM s.checkTask
  refuse [
    (s.family == .repair && !sameSet (s.tasks.filterMap (·.rootCause)) s.rootCauseTaxonomy,
      "repair suite tasks must cover the frozen root-cause taxonomy"),
    (s.family == .generation && !s.rootCauseTaxonomy.isEmpty,
      "generation suites cannot declare a repair root-cause taxonomy")]

structure SeedPlan (D : Type) where
  trainingSeed : Nat
  checkpointId : String
  checkpointArtifactSha256 : D
  generationSeeds : List Nat

/-- The fields, and `generation_seeds_are_unique`. -/
def SeedPlan.valid (p : SeedPlan D) : Bool :=
  isStableId p.checkpointId && !p.generationSeeds.isEmpty && decide p.generationSeeds.Nodup

structure ExperimentManifest (D : Type) where
  experimentId : String
  suiteId : String
  suiteManifestSha256 : D
  modelId : String
  modelArtifactSha256 : D
  samplingConfigSha256 : D
  diagnosticCondition : DiagnosticCondition
  rewardPolicyId : String
  rewardPolicySha256 : D
  environmentSha256 : D
  harnessCommit : String
  expectedGraderId : D
  seedPlans : List (SeedPlan D)
  reportedK : List Nat

def ExperimentManifest.samplesPerTaskSeed (e : ExperimentManifest D) : Nat :=
  match e.seedPlans with
  | [] => 0
  | plan :: _ => plan.generationSeeds.length

/-- The fields, and `sampling_design_is_well_formed`. -/
def ExperimentManifest.validate [DecidableEq D] (e : ExperimentManifest D) : Except String Unit :=
  refuse [
    (!isStableId e.experimentId, "experiment_id"),
    (!isStableId e.suiteId, "suite_id"),
    (!isStableId e.modelId, "model_id"),
    (!isStableId e.rewardPolicyId, "reward_policy_id"),
    (!isCommit e.harnessCommit, "harness_commit"),
    (e.seedPlans.isEmpty || !e.seedPlans.all (·.valid), "seed_plans"),
    (e.reportedK.isEmpty || !e.reportedK.all (fun k => decide (1 ≤ k)), "reported_k"),
    (!decide (e.seedPlans.map (·.trainingSeed)).Nodup, "experiment training seeds must be unique"),
    (!(decide (e.seedPlans.map (·.checkpointId)).Nodup &&
      decide (e.seedPlans.map (·.checkpointArtifactSha256)).Nodup),
      "training seeds must use distinct checkpoint artifacts"),
    (!e.seedPlans.all (fun p => p.generationSeeds.length == e.samplesPerTaskSeed),
      "every training seed must predeclare the same sample count"),
    (!decide e.reportedK.Nodup, "reported k values must be unique"),
    (e.reportedK.any (fun k => decide (k > e.samplesPerTaskSeed)),
      "reported k cannot exceed the predeclared sample count")]

end Bpe.Experiment
