import Bpe.Qualification.Authority

/-!
# Qualifying a grader

`_validate_attempt_binding`, `_validate_anchor_outcome` and `qualify_grader`.
The bounds of the reported records repeat bounds that their sources have.
-/

namespace Bpe.Qualification

open Models Grading Bpe.Task Replay Admission Experiment Job

variable {D : Type}

def failedBehaviorChecks (e : EvaluationEvidence D) : List CheckIdentity :=
  ((e.stages.filter fun s => behaviorStage s.stage).flatMap fun s =>
    (s.checks.filter fun k => k.required && k.outcome == .fail).map fun k =>
      ⟨s.stage, k.checkId⟩).dedup

def checkText (c : CheckIdentity) : String := c.stage.value ++ "/" ++ c.checkId

def checksText (checks : List CheckIdentity) : String := idsText (checks.map checkText)

/-- A stage or a check ended by its time limit. -/
def timedOut (e : EvaluationEvidence D) : Bool :=
  e.stages.any fun s => s.outcome == .timeout || s.checks.any (·.outcome == .timeout)

/-- The attempt is of the hack class of the policy. -/
def explicitClassification (p : RewardPolicy) (a : GraderQualificationAttempt D) : Bool :=
  a.grade.failureReason.any (hackReason p) || explicitHack a.evidence p

section Qualify

variable [LinearOrder D] (K : Digests D)

def GraderQualificationAttempt.validate (a : GraderQualificationAttempt D) :
    Except String Unit := do
  refuse [
    (!isStableId a.anchorId, "anchor_id"),
    (!decide (a.repeatIndex ≤ 15), "repeat_index")]
  a.job.validate K.toJob
  a.evidence.validate K.toJob.toReplay.toTask.toDigests
  a.grade.validate
  a.manifest.validate

def validateAttemptBinding (plan : GraderQualificationPlan D) (suite : SuiteManifest D)
    (policy : RewardPolicy) (anchor : QualificationAnchorPlan D) (authority : TaskAuthority D)
    (a : GraderQualificationAttempt D) : Except String Unit := do
  let job := a.job
  let e := a.evidence
  let request := e.request
  job.validate K.toJob
  let attemptFor := "attempt for " ++ anchor.anchorId
  match anchor.jobs[a.repeatIndex]? with
  | none => .error "IndexError"
  | some planned => do
    refuse [
      (!(decide (planned.repeatIndex = a.repeatIndex) &&
        decide (planned.jobManifestSha256 = K.job job) && decide (job.suite = suite) &&
        decide (job.plan = authority.evaluationPlan) &&
        decide (job.contract = authority.contract) &&
        decide (job.rewardPolicy = policy) && decide (job.request = request) &&
        decide (job.environment = e.environment) &&
        decide (job.harnessCommit = plan.harnessCommit) &&
        decide (job.expectedGraderId = plan.graderId)),
        attemptFor ++ " does not bind its precommitted evaluation job"),
      (e.origin != .microvm || e.environment.isolation != .microvm,
        "grader qualification requires microVM-shaped evidence"),
      (!(decide (request.suiteId = plan.suiteId) &&
        decide (request.suiteManifestSha256 = plan.suiteManifestSha256) &&
        decide ((⟨request.taskId, request.taskVersion, request.taskBundleSha256⟩ : TaskKey D) =
          anchor.task)),
        attemptFor ++ " does not bind the planned suite and task"),
      (!(decide (request.environmentId = plan.environmentId) &&
        decide (K.sha256Json (.environment e.environment) = plan.environmentSha256) &&
        decide (e.graderId = plan.graderId) && decide (e.harnessCommit = plan.harnessCommit)),
        attemptFor ++ " does not bind the frozen grader identity"),
      (!decide ((⟨request.candidate.sha256, request.candidate.sizeBytes⟩ : CandidateIdentity D) =
          anchor.candidate),
        attemptFor ++ " uses the wrong candidate")]
    let expected ← (scoreEvidence K.toJob.toReplay.toTask.toDigests e authority.contract
      policy).mapError fun error =>
        attemptFor ++ " is not scoreable under its frozen contract: " ++ error
    refuse [(!decide (a.grade = expected), attemptFor ++ " has a forged or stale grade")]
    (validateReplayManifest K.toJob.toReplay a.manifest).mapError fun error =>
      attemptFor ++ " has an invalid replay manifest: " ++ error
    refuse [
      (!(bindsGraded K.toJob.toReplay a.manifest a.replayAnchor e a.grade
        authority.contract policy &&
        decide (a.manifest.events = eventsArtifact K.toJob.toReplay e)),
        attemptFor ++ " is not bound to its replay manifest and anchor")]

/-! ## Outcomes -/

/-- The scores and the failed checks agree. -/
def sameScoring (a b : GraderQualificationAttempt D) : Bool :=
  decide (a.grade.comparable = b.grade.comparable) &&
    decide (a.grade.strictSuccess = b.grade.strictSuccess) &&
    decide (a.grade.firstFailure = b.grade.firstFailure) &&
    decide (a.grade.trainingReward = b.grade.trainingReward) &&
    sameSet (failedBehaviorChecks a.evidence) (failedBehaviorChecks b.evidence)

def behaviorDigest (a : GraderQualificationAttempt D) : D :=
  K.behavior (behaviorProjection a.evidence)

def checkFullSolution (policy : RewardPolicy) (anchor : QualificationAnchorPlan D)
    (first : GraderQualificationAttempt D) (success : Bool) (reward : ℚ) : Except String Unit :=
  refuse [
    (!success || first.grade.firstFailure.isSome || !decide (reward = policy.successReward),
      "full-solution anchor " ++ anchor.anchorId ++ " must pass with full reward"),
    (!(failedBehaviorChecks first.evidence).isEmpty,
      "full-solution anchor " ++ anchor.anchorId ++ " cannot kill a witness")]

/-- The attempt failed where its anchor is to fail. -/
def failsAsPlanned (anchor : QualificationAnchorPlan D) (a : GraderQualificationAttempt D) : Bool :=
  decide (a.grade.failureReason = anchor.expectedFailureReason) &&
    anchor.expectedFirstFailure.any fun s => decide (a.grade.stageOutcomes s = some .fail)

def checkFlawed (policy : RewardPolicy) (anchor : QualificationAnchorPlan D)
    (attempts : List (GraderQualificationAttempt D)) (first : GraderQualificationAttempt D)
    (success : Bool) (reward : ℚ) : Except String Unit :=
  let failed := failedBehaviorChecks first.evidence
  let expected := anchor.expectedFailedChecks
  refuse [
    (success || !decide (first.grade.firstFailure = anchor.expectedFirstFailure) ||
      anchor.expectedFirstFailure.isNone || !attempts.all (failsAsPlanned anchor),
      "anchor " ++ anchor.anchorId ++ " did not fail at its predeclared stage"),
    (anchor.role == .mutant && !decide (reward = policy.verifierFailureReward),
      "mutant reward differs from the verifier-failure policy"),
    (anchor.role == .mutant && attempts.any (explicitClassification policy),
      "mutant " ++ anchor.anchorId ++ " was explicitly hack-classified"),
    (AnchorRole.behaviorBaselines.contains anchor.role &&
      (!attempts.all (explicitClassification policy) ||
        !decide (reward = policy.explicitHackReward)),
      "behavior baseline " ++ anchor.anchorId ++
        " was not explicitly hack-classified and penalized"),
    (anchor.role == .partialFix && attempts.any (explicitClassification policy),
      "partial fix " ++ anchor.anchorId ++ " was explicitly hack-classified"),
    (anchor.role == .partialFix &&
      !(decide (policy.verifierFailureReward < reward) && decide (reward < policy.successReward)),
      "partial fix " ++ anchor.anchorId ++ " lacks an intermediate reward"),
    (!sameSet expected failed,
      "anchor " ++ anchor.anchorId ++ " kill matrix differs from plan: missing=" ++
        checksText (expected.filter fun c => !failed.contains c) ++ ", extra=" ++
        checksText (failed.filter fun c => !expected.contains c))]

def checkRole (policy : RewardPolicy) (anchor : QualificationAnchorPlan D)
    (attempts : List (GraderQualificationAttempt D)) (first : GraderQualificationAttempt D)
    (success : Bool) (reward : ℚ) : Except String Unit :=
  if anchor.role.fullSolution then checkFullSolution policy anchor first success reward
  else checkFlawed policy anchor attempts first success reward

def validateAnchorOutcome (policy : RewardPolicy) (anchor : QualificationAnchorPlan D)
    (attempts : List (GraderQualificationAttempt D)) (declared : List CheckIdentity) :
    Except String (List CheckIdentity × D × ℚ) :=
  let named := "anchor " ++ anchor.anchorId
  match attempts with
  | [] => .error (named ++ " produced nondeterministic repeated behavior")
  | first :: _ => do
    refuse [
      (!attempts.all (fun a => decide (behaviorDigest K a = behaviorDigest K first)),
        named ++ " produced nondeterministic repeated behavior"),
      (!attempts.all (sameScoring first), named ++ " produced nondeterministic repeated scoring"),
      (!first.grade.comparable, named ++ " is not comparable")]
    match first.grade.strictSuccess, first.grade.trainingReward with
    | some success, some reward => do
      let failed := failedBehaviorChecks first.evidence
      refuse [(attempts.any (fun a => timedOut a.evidence),
        named ++ " cannot qualify through a timeout")]
      checkRole policy anchor attempts first success reward
      refuse [(failed.any (fun c => !declared.contains c),
        named ++ " killed undeclared witnesses: " ++
          checksText (failed.filter fun c => !declared.contains c))]
      pure (failed, behaviorDigest K first, reward)
    | _, _ => .error (named ++ " is not comparable")

/-! ## The whole matrix -/

def replayDigest (a : GraderQualificationAttempt D) : QualificationReplayDigest D :=
  { repeatIndex := a.repeatIndex
    requestId := a.evidence.request.requestId
    evaluationJobManifestSha256 := K.job a.job
    restoreNonce := a.job.restoreNonce
    evidenceSha256 := K.sha256Json (.evidence a.evidence)
    gradeSha256 := K.sha256Json (.grade a.grade)
    replayManifestSha256 := a.replayAnchor.manifestSha256 }

def checkKey (c : CheckIdentity) : String ×ₗ String := toLex (c.stage.value, c.checkId)

/-- The witnesses that a task declares. -/
def declaredChecks (plan : GraderQualificationPlan D) (key : AnchorPartition × TaskKey D) :
    List CheckIdentity :=
  (plan.witnesses.filter fun w => (w.partition, w.task) = key).map (·.check)

def attemptsOf (attempts : List (GraderQualificationAttempt D)) (id : String) :
    List (GraderQualificationAttempt D) :=
  attempts.filter fun a => a.anchorId = id

/-- The turn of the loop over the planned anchors. -/
def qualifyAnchor (plan : GraderQualificationPlan D) (suite : SuiteManifest D)
    (policy : RewardPolicy) (authorities : List (TaskAuthority D))
    (attempts : List (GraderQualificationAttempt D)) (anchor : QualificationAnchorPlan D) :
    Except String (AnchorQualificationResult D) := do
  let mine := attemptsOf attempts anchor.anchorId
  refuse [(!((mine.map (·.repeatIndex)).isPerm (List.range anchor.jobs.length)),
    "anchor " ++ anchor.anchorId ++ " repeat matrix differs from plan")]
  let ordered := sortOn (·.repeatIndex) mine
  match authorityOf authorities anchor.task.taskBundleSha256 with
  | none => .error "KeyError"
  | some authority => do
    ordered.forM (validateAttemptBinding K plan suite policy anchor authority)
    let (failed, behavior, reward) ← validateAnchorOutcome K policy anchor ordered
      (declaredChecks plan (anchor.partition, anchor.task))
    match ordered with
    | [] => .error "IndexError"
    | first :: _ =>
      match first.grade.strictSuccess with
      | none => .error "AssertionError"
      | some strictSuccess =>
        pure
          { anchorId := anchor.anchorId
            partition := anchor.partition
            role := anchor.role
            task := anchor.task
            candidate := anchor.candidate
            strictSuccess
            firstFailure := first.grade.firstFailure
            trainingReward := reward
            failedChecks := sortOn checkKey failed
            behaviorSha256 := behavior
            replays := ordered.map (replayDigest K) }

/-- The anchors of the witness's task that failed its check. -/
def killers (results : List (AnchorQualificationResult D)) (w : QualificationWitness D) :
    List String :=
  (results.filter fun r => decide ((r.partition, r.task) = (w.partition, w.task)) &&
    r.failedChecks.contains w.check).map (·.anchorId)

def coverWitness (results : List (AnchorQualificationResult D)) (w : QualificationWitness D) :
    Except String (WitnessCoverage D) := do
  let killedBy := sortOn id (killers results w)
  refuse [(killedBy.isEmpty, "witness " ++ w.check.checkId ++ " has no observed control kill")]
  pure ⟨w, killedBy⟩

def result? (results : List (AnchorQualificationResult D)) (id : String) :
    Option (AnchorQualificationResult D) :=
  results.find? fun r => r.anchorId = id

def checkOrdering (results : List (AnchorQualificationResult D)) (o : RewardOrderingConstraint) :
    Except String RewardOrderingResult :=
  match result? results o.betterAnchorId, result? results o.worseAnchorId with
  | some better, some worse => do
    let margin := better.trainingReward - worse.trainingReward
    refuse [(decide (margin ≤ 0) || decide (margin < o.minimumMargin),
      "reward ordering failed: " ++ better.anchorId ++ " (" ++ K.rewardText better.trainingReward ++
        ") must outrank " ++ worse.anchorId ++ " (" ++ K.rewardText worse.trainingReward ++
        ") by at least " ++ K.rewardText o.minimumMargin)]
    pure
      { partition := better.partition
        betterAnchorId := better.anchorId
        worseAnchorId := worse.anchorId
        betterReward := better.trainingReward
        worseReward := worse.trainingReward
        observedMargin := margin
        requiredMinimumMargin := o.minimumMargin }
  | _, _ => .error "KeyError"

def checkAttempts (attempts : List (GraderQualificationAttempt D)) : Except String Unit :=
  refuse [
    (!decide (attempts.map (·.evidence.request.requestId)).Nodup,
      "qualification attempts must have distinct request IDs"),
    (!decide (attempts.map (·.evidence.request.episodeId)).Nodup,
      "qualification attempts must have distinct episodes"),
    (!decide (attempts.map (·.replayAnchor.manifestSha256)).Nodup,
      "qualification attempts must have distinct replay manifests"),
    (!decide (attempts.map fun a => K.job a.job).Nodup,
      "qualification attempts must have distinct evaluation jobs"),
    (!decide (attempts.map (·.job.restoreNonce)).Nodup,
      "qualification attempts must have distinct restore nonces"),
    (attempts.any (fun a => a.evidence.request.attemptIndex != 0 ||
      a.evidence.request.parentRequestId.isSome),
      "qualification attempts must be independent turn-zero runs")]

def checkAnchorSet (plan : GraderQualificationPlan D)
    (attempts : List (GraderQualificationAttempt D)) : Except String Unit :=
  let planned := plan.anchors.map (·.anchorId)
  let supplied := (attempts.map (·.anchorId)).eraseDups
  refuse [(!sameSet supplied planned,
    "qualification attempt anchors differ from plan: missing=" ++
      idsText (planned.filter fun i => !supplied.contains i) ++ ", unexpected=" ++
      idsText (supplied.filter fun i => !planned.contains i))]

def taskBundles (plan : GraderQualificationPlan D) (partition : AnchorPartition) : List D :=
  sortOn id (plan.bundlesOf partition).dedup

def qualifyGrader (normalize : String → Except String String) (plan : GraderQualificationPlan D)
    (suite : SuiteManifest D) (bundles : List (SealedBundle D)) (policy : RewardPolicy)
    (attempts : List (GraderQualificationAttempt D)) :
    Except String (GraderQualificationReport D) := do
  plan.validate K.hex
  policy.validate
  refuse [(!(decide (plan.rewardPolicyId = policy.policyId) &&
    decide (plan.rewardPolicySha256 = K.sha256Json (.policy policy))),
    "qualification plan does not bind the reward policy")]
  let authorities ← validateAuthority K normalize plan suite bundles
  let frozen ← boundedSnapshot attempts (plan.anchors.map (·.jobs.length)).sum "attempts"
  frozen.forM (·.validate K)
  checkAttempts K frozen
  checkAnchorSet plan frozen
  let results ← plan.anchors.mapM (qualifyAnchor K plan suite policy authorities frozen)
  let coverage ← plan.witnesses.mapM (coverWitness results)
  let orderings ← plan.rewardOrderings.mapM (checkOrdering K results)
  let ordered := sortOn (fun a => toLex (a.anchorId, a.repeatIndex)) frozen
  pure
    { qualificationId := plan.qualificationId
      planSha256 := K.plan plan
      suiteId := plan.suiteId
      suiteManifestSha256 := plan.suiteManifestSha256
      rewardPolicyId := policy.policyId
      rewardPolicySha256 := K.sha256Json (.policy policy)
      environmentId := plan.environmentId
      environmentSha256 := plan.environmentSha256
      graderId := plan.graderId
      harnessCommit := plan.harnessCommit
      calibrationTaskBundles := taskBundles plan .calibration
      validationTaskBundles := taskBundles plan .validation
      anchorResults := results
      witnessCoverage := coverage
      rewardOrderings := orderings
      attemptSetSha256 := K.attempts ordered }

end Qualify

end Bpe.Qualification
