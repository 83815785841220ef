import Bpe.Qualification.Model

/-!
# The authority of a qualification

`_freeze_task_bundle` and `_validate_authority`: the supplied suite and task
bundles are those of the plan, sealed with their bytes, and the two partitions
share nothing. How a repository locator is normalized is a parameter.
-/

namespace Bpe.Qualification

open Models Grading Bpe.Task Replay Admission Experiment Job

variable {D : Type}

/-- A task bundle with the bytes of its files, under `public` or `grader`. -/
structure SealedBundle (D : Type) where
  bundle : TaskBundle D
  artifactBytes : List ((String × String) × List UInt8)

def publicFiles (t : PublicTask D) : List (FileRef D) := t.prompt :: t.starterSource.toList

def privateFiles (g : PrivateGrader D) : List (FileRef D) :=
  g.referenceSource :: g.validAlternatives ++ g.qualificationPartialFixes ++
    g.functionalCases.map (·.inputRef) ++ g.negativeControls.map (·.source)

def bundleFileDigests (b : TaskBundle D) : List D :=
  (publicFiles b.publicTask ++ privateFiles b.privateGrader).map (·.sha256)

def maxTaskArtifacts : Nat := 256
def maxTaskArtifactBytes : Nat := 16 * 1024 * 1024
def maxTaskTotalArtifactBytes : Nat := 128 * 1024 * 1024

/-- `_bounded_snapshot` of a list. -/
def boundedSnapshot {α : Type} (values : List α) (expectedCount : Nat) (label : String) :
    Except String (List α) :=
  let snapshot := values.take (expectedCount + 1)
  if snapshot.length ≠ expectedCount then
    .error ("qualification received "
      ++ (if snapshot.length > expectedCount then "more" else "fewer")
      ++ " " ++ label ++ " than the frozen plan requires")
  else .ok snapshot

def artifactText (key : String × String) : String := key.1 ++ "/" ++ key.2

section Seal

variable [DecidableEq D]

/-- The files of a projection by their paths. -/
def expectProjection (projection : String) (expected : List ((String × String) × FileRef D))
    (references : List (FileRef D)) : Except String (List ((String × String) × FileRef D)) := do
  refuse [(decide (references.length > maxTaskArtifacts),
    "qualification task " ++ projection ++ " projection exceeds the sealed-artifact limit")]
  references.foldlM (fun expected r =>
    match expected.lookup (projection, r.path) with
    | none => .ok (expected ++ [((projection, r.path), r)])
    | some previous =>
      if previous ≠ r then
        .error "qualification task reuses an artifact path with inconsistent identity"
      else .ok expected) expected

/-- One sealed item, with the bytes counted so far. -/
def sealItem (state : List ((String × String) × List UInt8) × Nat)
    (item : (String × String) × List UInt8) :
    Except String (List ((String × String) × List UInt8) × Nat) := do
  refuse [
    (!(["public", "grader"].contains item.1.1),
      "qualification task has a malformed sealed artifact"),
    ((state.1.lookup item.1).isSome, "qualification task has duplicate sealed artifacts"),
    (decide (item.2.length > maxTaskArtifactBytes),
      "qualification task has an oversized sealed artifact"),
    (decide (state.2 + item.2.length > maxTaskTotalArtifactBytes),
      "qualification task sealed artifacts exceed the byte limit")]
  pure (state.1 ++ [item], state.2 + item.2.length)

def sealedArtifactSnapshot (K : Digests D) (b : SealedBundle D) :
    Except String (List ((String × String) × List UInt8)) := do
  let publicExpected ← expectProjection "public" [] (publicFiles b.bundle.publicTask)
  let expected ← expectProjection "grader" publicExpected (privateFiles b.bundle.privateGrader)
  refuse [
    (decide (expected.length > maxTaskArtifacts * 2),
      "qualification task exceeds the sealed-artifact limit"),
    (decide (b.artifactBytes.length > expected.length),
      "qualification task exceeds its sealed-artifact count limit")]
  let (contents, _) ← b.artifactBytes.foldlM sealItem ([], 0)
  let sealedKeys := contents.map (·.1)
  let expectedKeys := expected.map (·.1)
  refuse [(!sameSet sealedKeys expectedKeys,
    "qualification task sealed-artifact set is not closed: missing=" ++
      idsText ((expectedKeys.filter fun k => !sealedKeys.contains k).map artifactText) ++
      ", unexpected=" ++
      idsText ((sealedKeys.filter fun k => !expectedKeys.contains k).map artifactText))]
  expected.forM fun entry =>
    refuse [(!decide ((contents.lookup entry.1).map (fun bytes => (K.bytes bytes, bytes.length)) =
        some (entry.2.sha256, entry.2.sizeBytes)),
      "qualification task sealed artifact does not match its FileRef: " ++ artifactText entry.1)]
  pure (sortOn (fun item => toLex item.1) contents)

def freezeTaskBundle (K : Digests D) (b : SealedBundle D) : Except String (SealedBundle D) := do
  let task := b.bundle.publicTask
  let grader := b.bundle.privateGrader
  task.validate
  grader.validate
  refuse [
    (!(decide (task.taskId = grader.taskId) && decide (task.version = grader.taskVersion)),
      "qualification task public/private identities differ"),
    (task.family != .repair || grader.rootCause.isNone || grader.mutation.isNone,
      "grader qualification currently requires repair tasks"),
    (!decide (grader.provenance.originalSha256 = grader.referenceSource.sha256),
      "repair qualification provenance must bind the sealed reference source"),
    (!(decide (K.publicTask task = b.bundle.publicSha256) &&
      decide (K.privateGrader grader = b.bundle.privateSha256) &&
      decide (K.taskBundle (K.publicTask task) (K.privateGrader grader) = b.bundle.bundleSha256)),
      "qualification task bundle digests are inconsistent")]
  let artifactBytes ← sealedArtifactSnapshot K b
  pure { b with artifactBytes }

end Seal

/-! ## Authority -/

structure TaskAuthority (D : Type) where
  bundle : TaskBundle D
  suiteTask : SuiteTask D
  evaluationPlan : EvaluationPlan D
  contract : ScoringContract D
  deriving DecidableEq

def ControlKind.value : ControlKind → String
  | .noOp => "no_op"
  | .deleteOperation => "delete_operation"
  | .hardcode => "hardcode"
  | .zeroWork => "zero_work"
  | .other => "other"

/-- `AnchorPartition(split)` -/
def partitionOfSplit : Split → Option AnchorPartition
  | .calibration => some .calibration
  | .validation => some .validation
  | _ => none

def controlsOf (b : TaskBundle D) (role : AnchorRole) : List (NegativeControl D) :=
  b.privateGrader.negativeControls.filter fun c => ControlKind.value c.kind = role.value

section Authority

variable [LinearOrder D] (K : Digests D)

def digestsText (digests : List D) : String := idsText (digests.map K.hex)

def checkSuiteBinding (plan : GraderQualificationPlan D) (suite : SuiteManifest D) :
    Except String Unit := do
  suite.validate
  refuse [(!(decide (suite.suiteId = plan.suiteId) &&
    decide (K.suite suite = plan.suiteManifestSha256) &&
    decide (suite.environmentId = plan.environmentId) && suite.family == .repair),
    "qualification plan does not bind the supplied repair suite")]

def requiredBundles (plan : GraderQualificationPlan D) : List D :=
  (plan.anchors.map (·.task.taskBundleSha256)).dedup

/-- The first digest that was seen before. -/
def firstRepeat : List D → List D → Option D
  | _, [] => none
  | seen, d :: rest => if seen.contains d then some d else firstRepeat (d :: seen) rest

/-- The frozen bundles are those that the plan requires, each once. -/
def collectBundles (plan : GraderQualificationPlan D) (bundles : List (SealedBundle D)) :
    Except String (List (TaskBundle D)) := do
  let required := requiredBundles plan
  let supplied ← boundedSnapshot bundles required.length "task bundles"
  let frozen ← supplied.mapM (freezeTaskBundle K)
  let digests := frozen.map (·.bundle.bundleSha256)
  refuse [
    (!decide digests.Nodup,
      "duplicate task bundle: " ++ ((firstRepeat [] digests).map K.hex).getD ""),
    (!sameSet digests required,
      "qualification task-bundle set differs from plan: missing=" ++
        digestsText K (required.filter fun d => !digests.contains d) ++ ", unexpected=" ++
        digestsText K (digests.filter fun d => !required.contains d))]
  pure (frozen.map (·.bundle))

def checkSuiteTasks (plan : GraderQualificationPlan D) (suite : SuiteManifest D) :
    Except String Unit :=
  let required := requiredBundles plan
  let digests := suite.tasks.map (·.taskBundleSha256)
  refuse [
    (!decide digests.Nodup, "suite task-bundle digests must be unique"),
    (!sameSet digests required,
      "qualification suite task set differs from the plan: missing=" ++
        digestsText K (required.filter fun d => !digests.contains d) ++ ", unexpected=" ++
        digestsText K (digests.filter fun d => !required.contains d))]

/-- The authority of one bundle: what the task derives, as the suite lists it. -/
def taskAuthority (plan : GraderQualificationPlan D) (suite : SuiteManifest D) (b : TaskBundle D) :
    Except String (TaskAuthority D) := do
  let task := b.publicTask
  match suite.tasks.find? fun t => t.taskBundleSha256 = b.bundleSha256 with
  | none => .error "qualification task bundle is not a suite member"
  | some suiteTask => do
    let cannot := fun e => "cannot derive qualification authority for " ++ task.taskId ++ ": " ++ e
    let evaluationPlan ← (buildEvaluationPlan K.toJob.toReplay.toTask b).mapError cannot
    let contract ← (buildScoringContract b).mapError cannot
    refuse [
      (!(decide (suiteTask.taskId = task.taskId) && decide (suiteTask.taskVersion = task.version) &&
        decide (suiteTask.evaluationPlanSha256 = K.evaluationPlan evaluationPlan) &&
        decide (suiteTask.scoringContractSha256 = K.sha256Json (.contract contract)) &&
        decide (suiteTask.family = task.family) &&
        decide (suiteTask.rootCause = b.privateGrader.rootCause) &&
        decide (suiteTask.programType = task.program.programType)),
        "suite membership does not bind task " ++ task.taskId),
      (!decide (task.environmentId = plan.environmentId),
        "qualification task uses the wrong environment"),
      (b.privateGrader.negativeControls.any (fun c => c.kind == .other) ||
        AnchorRole.behaviorBaselines.any (fun r => (controlsOf b r).length != 1),
        "qualification task " ++ task.taskId ++ " must seal exactly one " ++
          "control for every required behavior-baseline role"),
      (b.privateGrader.validAlternatives.length != 1,
        "qualification task " ++ task.taskId ++ " must seal exactly one valid alternative"),
      (b.privateGrader.qualificationPartialFixes.length != 1,
        "qualification task " ++ task.taskId ++ " must seal exactly one partial-fix anchor")]
    pure ⟨b, suiteTask, evaluationPlan, contract⟩

def TaskAuthority.partition (a : TaskAuthority D) : Except String AnchorPartition :=
  match partitionOfSplit a.bundle.privateGrader.split with
  | none => .error "qualification tasks must come from calibration or validation splits"
  | some partition => .ok partition

/-- What a task of a partition may not share with another task. -/
structure Footprint (D : Type) where
  partition : AnchorPartition
  group : String
  original : D
  repository : String
  cluster : String
  files : List D

/-- The turn of the loop that keeps the tasks of a partition apart. -/
def recordFootprint (normalize : String → Except String String) (seen : List (Footprint D))
    (a : TaskAuthority D) : Except String (List (Footprint D)) := do
  let partition ← a.partition
  let grader := a.bundle.privateGrader
  let same := seen.filter fun f => f.partition = partition
  refuse [
    (same.any (·.group = grader.contaminationGroup),
      "qualification tasks reuse a contamination group"),
    (same.any (·.original = grader.provenance.originalSha256),
      "qualification tasks reuse an original program")]
  let repository ← (normalize grader.provenance.repository).mapError fun e =>
    "qualification task " ++ grader.taskId ++ " has invalid repository provenance: " ++ e
  let files := bundleFileDigests a.bundle
  refuse [
    (same.any (·.repository = repository), "qualification tasks must use distinct repositories"),
    (same.any (·.cluster = a.suiteTask.clusterId), "qualification tasks reuse a suite cluster"),
    (same.any (fun f => f.files.any files.contains),
      "qualification tasks reuse an artifact digest within one partition")]
  pure (seen ++ [⟨partition, grader.contaminationGroup, grader.provenance.originalSha256,
    repository, a.suiteTask.clusterId, files⟩])

/-- The two partitions have no value of the footprints in common. -/
def crosses {α : Type} [DecidableEq α] (footprints : List (Footprint D))
    (values : Footprint D → List α) : Bool :=
  (footprints.filter (·.partition = .calibration)).any fun f =>
    (footprints.filter (·.partition = .validation)).any fun g => (values f).any (values g).contains

def checkDisjoint (footprints : List (Footprint D)) : Except String Unit :=
  refuse [
    (crosses footprints (fun f => [f.group]),
      "calibration and validation reuse a contamination group"),
    (crosses footprints (fun f => [f.original]),
      "calibration and validation reuse an original program"),
    (crosses footprints (fun f => [f.repository]), "calibration and validation reuse a repository"),
    (crosses footprints (fun f => [f.cluster]), "calibration and validation reuse a suite cluster"),
    (crosses footprints (·.files), "calibration and validation reuse an artifact digest")]

/-- The candidates that the sealed sources of a role allow. -/
def expectedCandidates (b : TaskBundle D) (anchor : QualificationAnchorPlan D) :
    Except String (List (CandidateIdentity D)) :=
  match anchor.role with
  | .reference => .ok [candidateIdentity b.privateGrader.referenceSource]
  | .alternative => .ok (b.privateGrader.validAlternatives.map candidateIdentity)
  | .mutant =>
    match b.publicTask.starterSource with
    | none => .error "repair qualification requires a public mutant"
    | some starter => .ok [candidateIdentity starter]
  | .partialFix =>
    match b.privateGrader.qualificationPartialFixes with
    | [] => .error "IndexError"
    | fix :: _ => .ok [candidateIdentity fix]
  | role =>
    let controls := controlsOf b role
    let candidates := controls.map (candidateIdentity ·.source)
    if candidates.isEmpty then
      .error ("task " ++ b.publicTask.taskId ++ " lacks a declared " ++ role.value ++ " control")
    else
      match controls.find? fun c => candidateIdentity c.source = anchor.candidate with
      | none => .error ("anchor " ++ anchor.anchorId ++ " does not match its declared control")
      | some control =>
        if some control.expectedFirstFailure ≠ anchor.expectedFirstFailure then
          .error ("anchor " ++ anchor.anchorId ++ " does not match its declared control")
        else .ok candidates

/-- The required checks of a contract that behavior is held to. -/
def contractChecks (c : ScoringContract D) : List CheckIdentity :=
  (c.checks.filter fun k => k.required && behaviorStage k.stage).map fun k => ⟨k.stage, k.checkId⟩

def plannedChecks (plan : GraderQualificationPlan D) (task : TaskKey D) : List CheckIdentity :=
  (plan.witnesses.filter fun w => w.task = task).map (·.check)

def authorityOf (authorities : List (TaskAuthority D)) (digest : D) : Option (TaskAuthority D) :=
  authorities.find? fun a => a.bundle.bundleSha256 = digest

/-- The turn of the loop over the anchors. -/
def checkAnchor (plan : GraderQualificationPlan D) (authorities : List (TaskAuthority D))
    (anchor : QualificationAnchorPlan D) : Except String Unit :=
  match authorityOf authorities anchor.task.taskBundleSha256 with
  | none => .error "KeyError"
  | some authority => do
    let contract := authority.contract
    let partition ← authority.partition
    refuse [
      (anchor.partition != partition, "anchor " ++ anchor.anchorId ++ " relabels the task split"),
      (!decide (anchor.task = ⟨contract.taskId, contract.taskVersion, contract.taskBundleSha256⟩),
        "anchor " ++ anchor.anchorId ++ " does not bind its scoring contract"),
      (!(decide (anchor.evaluationPlanSha256 = K.evaluationPlan authority.evaluationPlan) &&
        decide (anchor.scoringContractSha256 = K.sha256Json (.contract contract))),
        "anchor " ++ anchor.anchorId ++ " does not bind the derived plan and contract")]
    let candidates ← expectedCandidates authority.bundle anchor
    refuse [
      (!candidates.contains anchor.candidate,
        "anchor " ++ anchor.anchorId ++ " candidate does not match its sealed role"),
      ((plannedChecks plan anchor.task).any (fun k => !(contractChecks contract).contains k),
        "planned witnesses are absent from required contract checks for " ++ anchor.task.taskId)]

def validateAuthority (normalize : String → Except String String) (plan : GraderQualificationPlan D)
    (suite : SuiteManifest D) (bundles : List (SealedBundle D)) :
    Except String (List (TaskAuthority D)) := do
  checkSuiteBinding K plan suite
  let frozen ← collectBundles K plan bundles
  checkSuiteTasks K plan suite
  let authorities ← frozen.mapM (taskAuthority K plan suite)
  authorities.forM fun a => do
    let _ ← a.partition
    pure ()
  let footprints ← authorities.foldlM (recordFootprint normalize) []
  checkDisjoint footprints
  plan.anchors.forM (checkAnchor K plan authorities)
  pure authorities

end Authority

end Bpe.Qualification
