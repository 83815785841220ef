import Bpe.Grading.Model

/-!
# Scoring stored evidence

`grading.py`: the match of evidence against its contract, the training reward
and `score_evidence`. A scored evidence gives the grade `grade` of its first
stage that did not pass; that grade always passes its validator.
-/

namespace Bpe.Grading

open Models List

variable {D : Type}

def firstNonPass (e : EvaluationEvidence D) : Option (StageEvidence D) :=
  e.stages.find? fun s => s.outcome ≠ .pass

def startsWith (s start : String) : Bool := start.toList.isPrefixOf s.toList

def hackReason (p : RewardPolicy) (reason : String) : Bool :=
  startsWith reason p.explicitHackReasonPrefix

/-- The stage of that name; the code's `next` finds it or stops the iteration. -/
def stageOf (e : EvaluationEvidence D) (stage : Stage) : Option (StageEvidence D) :=
  e.stages.find? fun s => s.stage = stage

/-- What a failed functional or semantic stage earns for the checks it passed. -/
def partialReward (p : RewardPolicy) (stage : Stage) (fraction : ℚ) : ℚ :=
  if stage = .functional then p.functionalRewardCap * fraction
  else p.functionalRewardCap + (p.semanticsRewardCap - p.functionalRewardCap) * fraction

def trainingReward (e : EvaluationEvidence D) (p : RewardPolicy) (firstFailureStage : Option Stage)
    (firstFailureReason : Option String) (explicitHack : Bool) : Except String ℚ :=
  match firstFailureStage with
  | none => .ok p.successReward
  | some stage =>
    if explicitHack || firstFailureReason.any (fun r => r != "" && hackReason p r) then
      .ok p.explicitHackReward
    else
      match stage with
      | .ingest => .ok p.ingestFailureReward
      | .compile => .ok p.compileFailureReward
      | .objectPolicy => .ok p.objectPolicyFailureReward
      | .verifier => .ok p.verifierFailureReward
      | .functional | .semantics =>
        match stageOf e stage with
        | none => .error "StopIteration"
        | some failed => .ok (partialReward p stage failed.requiredFraction)

/-- A required check that did not pass has a reason of the policy's hack class. -/
def explicitHack (e : EvaluationEvidence D) (p : RewardPolicy) : Bool :=
  e.stages.any fun s => s.checks.any fun c =>
    c.required && c.outcome != .pass && hackReason p c.reasonCode

def grade (K : Digests D) (e : EvaluationEvidence D) (c : ScoringContract D) (p : RewardPolicy)
    (comparable : Bool) (strictSuccess : Option Bool) (benchmarkScore trainingReward : Option ℚ) :
    Grade D :=
  { policyId := p.policyId
    graderId := e.graderId
    taskId := e.request.taskId
    candidateSha256 := e.request.candidate.sha256
    evidenceSha256 := K.sha256Json (.evidence e)
    contractSha256 := K.sha256Json (.contract c)
    comparable, strictSuccess, benchmarkScore, trainingReward
    firstFailure := (firstNonPass e).map (·.stage)
    failureReason := (firstNonPass e).map (·.reasonCode)
    stageOutcomes := fun stage => (stageOf e stage).map (·.outcome) }

/-- The construction of a grade runs its validator. -/
def construct (g : Grade D) : Except String (Grade D) := do
  g.validate
  pure g

def infra (s : StageEvidence D) : Bool := s.outcome == .infraError || s.outcome == .unsupported

section Contract

variable [DecidableEq D]

def sameMembers (a b : List String) : Bool := a.all b.contains && b.all a.contains

/-- A check of the evidence against the one of its name in the contract. -/
def matchCheck (expected : ExpectedCheck D) (actual : CheckEvidence D) : Except String Unit :=
  if actual.required ≠ expected.required ∨ actual.weight ≠ expected.weight then
    .error ("check metadata differs from contract: " ++ expected.checkId)
  else expected.inputArtifacts.entries.forM fun entry =>
    if actual.artifacts.get? entry.1 ≠ some entry.2 then
      .error ("check input artifact differs from contract: " ++ expected.checkId ++ "/" ++ entry.1)
    else .ok ()

def expectedChecks (c : ScoringContract D) (stage : Stage) : List (ExpectedCheck D) :=
  c.checks.filter fun k => k.stage = stage

def matchStage (c : ScoringContract D) (s : StageEvidence D) : Except String Unit :=
  if s.outcome = .skipped then .ok ()
  else if (s.outcome = .infraError ∨ s.outcome = .unsupported) ∧ s.checks.isEmpty then .ok ()
  else if ¬ sameMembers (s.checks.map (·.checkId))
      ((expectedChecks c s.stage).map (·.checkId)) then
    .error (s.stage.value ++ " evidence check set does not match contract")
  else (expectedChecks c s.stage).forM fun expected =>
    match s.checks.find? fun k => k.checkId = expected.checkId with
    | none => .error "KeyError"
    | some actual => matchCheck expected actual

def validateContract (e : EvaluationEvidence D) (c : ScoringContract D) : Except String Unit :=
  if ¬ (e.request.taskId = c.taskId ∧ e.request.taskVersion = c.taskVersion ∧
      e.request.taskBundleSha256 = c.taskBundleSha256) then
    .error "scoring contract does not match the evidence task identity"
  else e.stages.forM (matchStage c)

def scoreEvidence (K : Digests D) (e : EvaluationEvidence D) (c : ScoringContract D)
    (p : RewardPolicy) : Except String (Grade D) := do
  e.validate K
  c.validate
  p.validate
  validateContract e c
  if (firstNonPass e).any infra then construct (grade K e c p false none none none)
  else do
    let reward ← trainingReward e p ((firstNonPass e).map (·.stage))
      ((firstNonPass e).map (·.reasonCode)) (explicitHack e p)
    let success := (firstNonPass e).isNone
    construct (grade K e c p true (some success) (some (if success then 1 else 0)) (some reward))

end Contract

/-! ## What a valid evidence is -/

section Valid

variable {e : EvaluationEvidence D}

/-- What the validators of an evidence leave to know. -/
structure EvaluationEvidence.Valid (e : EvaluationEvidence D) : Prop where
  order : e.stages.map (·.stage) = stageOrder
  stage : ∀ s ∈ e.stages, s.validate = .ok ()
  task : isStableId e.request.taskId

theorem EvaluationEvidence.valid_of_validate [DecidableEq D] {K : Digests D}
    (he : e.validate K = .ok ()) : e.Valid := by
  unfold EvaluationEvidence.validate at he
  rw [seq_eq_ok, seq_eq_ok, seq_eq_ok, seq_eq_ok, seq_eq_ok] at he
  obtain ⟨hrequest, -, -, hstages, -, hpipeline⟩ := he
  unfold EvaluationEvidence.validatePipeline at hpipeline
  rw [seq_eq_ok] at hpipeline
  refine ⟨?_, forM_eq_ok.1 hstages, ?_⟩
  · simpa using refuse_at hpipeline.1 2 rfl
  · simpa using refuse_at hrequest 6 rfl

theorem EvaluationEvidence.Valid.nodup (he : e.Valid) : (e.stages.map (·.stage)).Nodup := by
  rw [he.order]
  decide

variable {s : StageEvidence D}

theorem EvaluationEvidence.Valid.stageOf_eq (he : e.Valid) (hs : s ∈ e.stages) :
    stageOf e s.stage = some s := find?_key he.nodup hs

theorem EvaluationEvidence.Valid.exists_stage (he : e.Valid) (stage : Stage) :
    ∃ s ∈ e.stages, s.stage = stage := by
  have hmem : stage ∈ e.stages.map (·.stage) := by
    rw [he.order]
    cases stage <;> decide
  exact mem_map.1 hmem

theorem StageEvidence.validate_checks (hs : s.validate = .ok ()) :
    isStableId s.reasonCode ∧ (∀ c ∈ s.checks, c.validate = .ok ()) ∧
      s.checksMustAgreeWithStage = .ok () := by
  unfold StageEvidence.validate at hs
  rw [seq_eq_ok, seq_eq_ok] at hs
  refine ⟨?_, forM_eq_ok.1 hs.2.1, hs.2.2⟩
  simpa using refuse_at hs.1 0 rfl

theorem CheckEvidence.validate_weight {c : CheckEvidence D} (hc : c.validate = .ok ()) :
    0 < c.weight := by
  have hweight := refuse_at hc 2 rfl
  simp only [Bool.not_eq_false', validWeight, Bool.and_eq_true, decide_eq_true_eq] at hweight
  exact hweight.1

theorem StageEvidence.requiredFraction_bounds (hs : s.validate = .ok ()) :
    0 ≤ s.requiredFraction ∧ s.requiredFraction ≤ 1 := by
  have hweights : ∀ w ∈ s.required.map (·.weight), 0 ≤ w := by
    intro w hw
    obtain ⟨c, hc, rfl⟩ := mem_map.1 hw
    exact (CheckEvidence.validate_weight
      ((validate_checks hs).2.1 c (mem_of_mem_filter hc))).le
  have hsub : ((s.required.filter fun c => c.outcome = .pass).map (·.weight)).Sublist
      (s.required.map (·.weight)) := filter_sublist.map _
  have htotal := sum_nonneg hweights
  have hpassed := sum_nonneg fun w hw => hweights w (hsub.subset hw)
  unfold requiredFraction
  split
  · split <;> norm_num
  · exact ⟨div_nonneg hpassed htotal, div_le_one_of_le₀ (hsub.sum_le_sum hweights) htotal⟩

def EvaluationEvidence.checks (e : EvaluationEvidence D) : List (Stage × CheckEvidence D) :=
  e.stages.flatMap fun s => s.checks.map fun k => (s.stage, k)

theorem StageEvidence.checkIds_nodup (hs : s.validate = .ok ()) :
    (s.checks.map (·.checkId)).Nodup := by
  have := refuse_at (validate_checks hs).2.2 0 rfl
  simpa using this

/-- No two checks of the evidence share stage and name. -/
theorem EvaluationEvidence.Valid.identities_nodup (he : e.Valid) :
    (e.checks.map fun k => (k.1, k.2.checkId)).Nodup := by
  unfold EvaluationEvidence.checks
  rw [map_flatMap, nodup_flatMap]
  refine ⟨fun s hs => ?_, ?_⟩
  · have hids := StageEvidence.checkIds_nodup (he.stage s hs)
    rw [map_map]
    refine List.Nodup.of_map Prod.snd ?_
    rw [map_map]
    exact hids
  · refine (pairwise_map.1 he.nodup).imp fun {s t} hne => ?_
    rw [Function.onFun, disjoint_left]
    intro k hk hk'
    simp only [map_map, mem_map] at hk hk'
    obtain ⟨_, -, rfl⟩ := hk
    obtain ⟨_, -, heq⟩ := hk'
    exact hne (congrArg Prod.fst heq).symm

theorem EvaluationEvidence.mem_checks {k : Stage × CheckEvidence D} :
    k ∈ e.checks ↔ ∃ s ∈ e.stages, s.stage = k.1 ∧ k.2 ∈ s.checks := by
  unfold EvaluationEvidence.checks
  simp only [mem_flatMap, mem_map]
  constructor
  · rintro ⟨s, hs, k', hk', rfl⟩
    exact ⟨s, hs, rfl, hk'⟩
  · rintro ⟨s, hs, hstage, hk⟩
    exact ⟨s, hs, k.2, hk, by rw [hstage]⟩

/-- A passing stage passed every check that its contract requires. -/
theorem StageEvidence.outcome_pass (hs : s.validate = .ok ()) (hpass : s.outcome = .pass)
    {k : CheckEvidence D} (hk : k ∈ s.checks) (hrequired : k.required) :
    k.outcome = .pass := by
  have hfailed := refuse_at (validate_checks hs).2.2 2 rfl
  simp only [hpass, beq_self_eq_true, Bool.true_and, Bool.not_eq_false', List.isEmpty_iff]
    at hfailed
  by_contra hne
  have hmem : k ∈ s.failed :=
    mem_filter.2 ⟨mem_filter.2 ⟨hk, hrequired⟩, by simpa using hne⟩
  rw [hfailed] at hmem
  cases hmem

theorem firstNonPass_eq_none : firstNonPass e = none ↔ ∀ s ∈ e.stages, s.outcome = .pass := by
  unfold firstNonPass
  rw [find?_eq_none]
  simp

end Valid

/-! ## The grade -/

section Grade

/-- The evidence is of the hack class under the policy. -/
def hackClassified (e : EvaluationEvidence D) (p : RewardPolicy) : Bool :=
  explicitHack e p || (firstNonPass e).any fun s => s.reasonCode != "" && hackReason p s.reasonCode

/-- What a failed stage earns outside the hack class. -/
def failureReward (p : RewardPolicy) (s : StageEvidence D) : ℚ :=
  match s.stage with
  | .ingest => p.ingestFailureReward
  | .compile => p.compileFailureReward
  | .objectPolicy => p.objectPolicyFailureReward
  | .verifier => p.verifierFailureReward
  | .functional => partialReward p .functional s.requiredFraction
  | .semantics => partialReward p .semantics s.requiredFraction

def reward (e : EvaluationEvidence D) (p : RewardPolicy) : ℚ :=
  match firstNonPass e with
  | none => p.successReward
  | some s => if hackClassified e p then p.explicitHackReward else failureReward p s

def scored (K : Digests D) (e : EvaluationEvidence D) (c : ScoringContract D) (p : RewardPolicy) :
    Grade D :=
  if (firstNonPass e).any infra then grade K e c p false none none none
  else
    let success := (firstNonPass e).isNone
    grade K e c p true (some success) (some (if success then 1 else 0)) (some (reward e p))

variable {K : Digests D} {e : EvaluationEvidence D} {c : ScoringContract D} {p : RewardPolicy}
  {g : Grade D}

theorem trainingReward_eq (he : e.Valid) :
    trainingReward e p ((firstNonPass e).map (·.stage)) ((firstNonPass e).map (·.reasonCode))
      (explicitHack e p) = .ok (reward e p) := by
  unfold reward hackClassified
  cases hfirst : firstNonPass e with
  | none => rfl
  | some s =>
    have hs : stageOf e s.stage = some s := he.stageOf_eq (mem_of_find?_eq_some hfirst)
    simp only [trainingReward, Option.map_some, Option.any_some]
    split
    · rfl
    · unfold failureReward
      cases hstage : s.stage <;> rw [hstage] at hs <;> simp only [hs]

theorem Grade.firstNonPass_eq (he : e.Valid) {comparable : Bool} {strictSuccess : Option Bool}
    {benchmarkScore trainingReward : Option ℚ} :
    (grade K e c p comparable strictSuccess benchmarkScore trainingReward).firstNonPass =
      (Grading.firstNonPass e).map (·.stage) := by
  unfold Grade.firstNonPass
  rw [← he.order, find?_map]
  congr 1
  refine find?_congr fun s hs => ?_
  simp [grade, he.stageOf_eq hs]

/-- What the validator of a policy leaves to know. -/
structure RewardPolicy.Valid (p : RewardPolicy) : Prop where
  policyId : isStableId p.policyId
  hackPrefix : isStableId p.explicitHackReasonPrefix
  ingest : -1 ≤ p.ingestFailureReward
  compile : p.ingestFailureReward ≤ p.compileFailureReward
  objectPolicy : p.compileFailureReward ≤ p.objectPolicyFailureReward
  verifier : p.objectPolicyFailureReward ≤ p.verifierFailureReward
  functional : p.verifierFailureReward ≤ p.functionalRewardCap
  functional_nonneg : 0 ≤ p.functionalRewardCap
  semantics : p.functionalRewardCap ≤ p.semanticsRewardCap
  success : p.semanticsRewardCap ≤ p.successReward
  success_le : p.successReward ≤ 1
  hack : -1 ≤ p.explicitHackReward
  hack_le : p.explicitHackReward ≤ 0

theorem RewardPolicy.valid_of_validate (hp : p.validate = .ok ()) : p.Valid := by
  have hrange : ∀ {a b x : ℚ}, (!within a b x) = false → a ≤ x ∧ x ≤ b := by
    intro a b x h
    simpa [within] using h
  have hsequence := refuse_at hp 11 rfl
  simp only [sequence, tail_cons, zip_cons_cons, zip_nil_right, any_cons,
    any_nil, Bool.or_false, Bool.or_eq_false_iff, decide_eq_false_iff_not, gt_iff_lt,
    not_lt] at hsequence
  obtain ⟨h₁, h₂, h₃, h₄, h₅, h₆⟩ := hsequence
  have hfunctional := hrange (refuse_at hp 6 rfl)
  have hhack := hrange (refuse_at hp 9 rfl)
  exact ⟨by simpa using refuse_at hp 0 rfl, by simpa using refuse_at hp 10 rfl,
    (hrange (refuse_at hp 2 rfl)).1, h₁, h₂, h₃, h₄, hfunctional.1, h₅, h₆,
    (hrange (refuse_at hp 8 rfl)).2, hhack.1, hhack.2⟩

/-- A partial reward lies between the ends of its stage's range. -/
theorem partialReward_functional (hp : p.Valid) {x : ℚ} (hx : 0 ≤ x ∧ x ≤ 1) :
    0 ≤ partialReward p .functional x ∧
      partialReward p .functional x ≤ p.functionalRewardCap := by
  unfold partialReward
  rw [if_pos rfl]
  exact ⟨mul_nonneg hp.functional_nonneg hx.1,
    mul_le_of_le_one_right hp.functional_nonneg hx.2⟩

theorem partialReward_semantics (hp : p.Valid) {x : ℚ} (hx : 0 ≤ x ∧ x ≤ 1) :
    p.functionalRewardCap ≤ partialReward p .semantics x ∧
      partialReward p .semantics x ≤ p.semanticsRewardCap := by
  have hspan : 0 ≤ p.semanticsRewardCap - p.functionalRewardCap := by
    linarith [hp.semantics]
  have hleast := mul_nonneg hspan hx.1
  have hmost := mul_le_of_le_one_right hspan hx.2
  unfold partialReward
  rw [if_neg (by decide)]
  exact ⟨by linarith, by linarith⟩

theorem failureReward_bounds (hp : p.Valid) {s : StageEvidence D} (hs : s.validate = .ok ()) :
    min p.ingestFailureReward 0 ≤ failureReward p s ∧ failureReward p s ≤ p.semanticsRewardCap := by
  have hingest := min_le_left p.ingestFailureReward 0
  have hzero := min_le_right p.ingestFailureReward 0
  have hfraction := StageEvidence.requiredFraction_bounds hs
  have hfunctional := partialReward_functional hp hfraction
  have hsemantics := partialReward_semantics hp hfraction
  have h₁ := hp.compile
  have h₂ := hp.objectPolicy
  have h₃ := hp.verifier
  have h₄ := hp.functional_nonneg
  have h₅ := hp.functional
  have h₆ := hp.semantics
  unfold failureReward
  cases s.stage <;> simp only <;> constructor <;> linarith

theorem reward_bounds (he : e.Valid) (hp : p.Valid) : -1 ≤ reward e p ∧ reward e p ≤ 1 := by
  have hsuccess := hp.success
  have hle := hp.success_le
  have hnonneg := hp.functional_nonneg
  have hcaps := hp.semantics
  unfold reward
  cases hfirst : firstNonPass e with
  | none => exact ⟨by simp only; linarith, hle⟩
  | some s =>
    have hs := he.stage s (mem_of_find?_eq_some hfirst)
    obtain ⟨hleast, hmost⟩ := failureReward_bounds hp hs
    simp only
    split
    · exact ⟨hp.hack, by linarith [hp.hack_le]⟩
    · exact ⟨(le_min hp.ingest (by norm_num)).trans hleast, by linarith⟩

theorem grade_validate (he : e.Valid) (hp : p.Valid) {comparable : Bool}
    {strictSuccess : Option Bool} {benchmarkScore trainingReward : Option ℚ}
    (hscore : benchmarkScore.all (RewardPolicy.within 0 1))
    (hreward : trainingReward.all (RewardPolicy.within (-1) 1)) :
    (grade K e c p comparable strictSuccess benchmarkScore trainingReward).validate =
      (grade K e c p comparable strictSuccess benchmarkScore
        trainingReward).comparableFieldsAreConsistent := by
  have hreason : ((firstNonPass e).map (·.reasonCode)).all isStableId := by
    cases hfirst : firstNonPass e with
    | none => rfl
    | some s =>
      exact (StageEvidence.validate_checks (he.stage s (mem_of_find?_eq_some hfirst))).1
  unfold Grade.validate
  simp [grade, refuse, hp.policyId, he.task, hscore, hreward, hreason, bind, Except.bind]

theorem infraOutcome_eq (s : StageEvidence D) : Grade.infraOutcome (some s.outcome) = infra s := by
  unfold Grade.infraOutcome infra
  cases s.outcome <;> rfl

theorem scored_validate (he : e.Valid) (hp : p.Valid) : (scored K e c p).validate = .ok () := by
  have houtcomes : ∀ stage, ((stageOf e stage).map (·.outcome)).isNone = false := by
    intro stage
    obtain ⟨s, hs, rfl⟩ := he.exists_stage stage
    rw [he.stageOf_eq hs]
    rfl
  have hbounds : (some (reward e p)).all (RewardPolicy.within (-1) 1) := by
    simpa [RewardPolicy.within] using reward_bounds he hp
  have hone : (some (1 : ℚ)).all (RewardPolicy.within 0 1) := by simp [RewardPolicy.within]
  have hzero : (some (0 : ℚ)).all (RewardPolicy.within 0 1) := by simp [RewardPolicy.within]
  unfold scored
  cases hfirst : firstNonPass e with
  | none =>
    simp only [Option.any_none, Bool.false_eq_true, if_false, Option.isNone_none, if_true]
    rw [grade_validate he hp hone hbounds]
    unfold Grade.comparableFieldsAreConsistent
    rw [seq_eq_ok, Grade.firstNonPass_eq he, hfirst]
    simp [grade, refuse, houtcomes, hfirst]
  | some s =>
    have hs : stageOf e s.stage = some s := he.stageOf_eq (mem_of_find?_eq_some hfirst)
    simp only [Option.any_some]
    cases hinfra : infra s with
    | true =>
      rw [if_pos rfl, grade_validate he hp rfl rfl]
      unfold Grade.comparableFieldsAreConsistent
      rw [seq_eq_ok, Grade.firstNonPass_eq he, hfirst]
      simp [grade, refuse, houtcomes, hfirst, hs, infraOutcome_eq, hinfra]
    | false =>
      rw [if_neg (by simp), Option.isNone_some, if_neg (by simp),
        grade_validate he hp hzero hbounds]
      unfold Grade.comparableFieldsAreConsistent
      rw [seq_eq_ok, Grade.firstNonPass_eq he, hfirst]
      simp [grade, refuse, houtcomes, hfirst, hs, infraOutcome_eq, hinfra]

theorem scored_strictSuccess :
    (scored K e c p).strictSuccess = some true ↔ ∀ s ∈ e.stages, s.outcome = .pass := by
  rw [← firstNonPass_eq_none]
  unfold scored
  cases hfirst : firstNonPass e with
  | none => simp [grade]
  | some s => by_cases hinfra : infra s <;> simp [grade, hinfra]

theorem scored_firstFailure :
    (scored K e c p).firstFailure = (firstNonPass e).map (·.stage) := by
  unfold scored
  split <;> rfl

theorem scored_comparable :
    (scored K e c p).comparable = false ↔
      ∃ s, firstNonPass e = some s ∧ (s.outcome = .infraError ∨ s.outcome = .unsupported) := by
  unfold scored
  cases hfirst : firstNonPass e with
  | none => simp [grade]
  | some s => by_cases hinfra : infra s <;> simp_all [grade, infra]

end Grade

/-! ## What scoring returns -/

section Returns

variable [DecidableEq D] {K : Digests D} {e : EvaluationEvidence D} {c : ScoringContract D}
  {p : RewardPolicy} {g : Grade D}

/-- The inputs that `score_evidence` accepts. -/
structure Accepted (K : Digests D) (e : EvaluationEvidence D) (c : ScoringContract D)
    (p : RewardPolicy) : Prop where
  evidence : e.validate K = .ok ()
  contract : c.validate = .ok ()
  policy : p.validate = .ok ()
  contracted : validateContract e c = .ok ()

theorem Accepted.valid (h : Accepted K e c p) : e.Valid :=
  EvaluationEvidence.valid_of_validate h.evidence

/-- Scoring returns on the accepted inputs, and then the grade of the evidence. -/
theorem scoreEvidence_eq_ok :
    scoreEvidence K e c p = .ok g ↔ Accepted K e c p ∧ g = scored K e c p := by
  have hconstruct : ∀ {g' : Grade D}, g'.validate = .ok () → (construct g' = .ok g ↔ g = g') := by
    intro g' hg'
    unfold construct
    rw [seq_eq_ok]
    simp [hg', pure, Except.pure, eq_comm]
  have hscored : Accepted K e c p → ((if (firstNonPass e).any infra then
        construct (grade K e c p false none none none)
      else do
        let reward ← trainingReward e p ((firstNonPass e).map (·.stage))
          ((firstNonPass e).map (·.reasonCode)) (explicitHack e p)
        let success := (firstNonPass e).isNone
        construct (grade K e c p true (some success) (some (if success then 1 else 0))
          (some reward))) = .ok g ↔ g = scored K e c p) := by
    intro h
    have hvalid := scored_validate (K := K) (c := c) h.valid
      (RewardPolicy.valid_of_validate h.policy)
    unfold scored at hvalid ⊢
    by_cases hinfra : (firstNonPass e).any infra
    · rw [if_pos hinfra] at hvalid ⊢
      rw [if_pos hinfra]
      exact hconstruct hvalid
    · rw [if_neg hinfra] at hvalid ⊢
      rw [if_neg hinfra, trainingReward_eq h.valid]
      exact hconstruct hvalid
  unfold scoreEvidence
  rw [seq_eq_ok, seq_eq_ok, seq_eq_ok, seq_eq_ok]
  constructor
  · rintro ⟨h₁, h₂, h₃, h₄, h₅⟩
    exact ⟨⟨h₁, h₂, h₃, h₄⟩, (hscored ⟨h₁, h₂, h₃, h₄⟩).1 h₅⟩
  · rintro ⟨h, hg⟩
    exact ⟨h.evidence, h.contract, h.policy, h.contracted, (hscored h).2 hg⟩

theorem matchStage_pass {s : StageEvidence D} (hmatch : matchStage c s = .ok ())
    (hpass : s.outcome = .pass) {x : ExpectedCheck D}
    (hx : x ∈ c.checks) (hstage : x.stage = s.stage) :
    ∃ k ∈ s.checks, k.checkId = x.checkId ∧ k.required = x.required ∧ k.weight = x.weight ∧
      ∀ name ref, x.inputArtifacts.get? name = some ref → k.artifacts.get? name = some ref := by
  unfold matchStage at hmatch
  rw [if_neg (by simp [hpass]), if_neg (by simp [hpass]), ite_error_eq_ok, forM_eq_ok] at hmatch
  have hcheck := hmatch.2 x (mem_filter.2 ⟨hx, by simpa using hstage⟩)
  split at hcheck
  · cases hcheck
  · next k hk =>
    unfold matchCheck at hcheck
    rw [ite_error_eq_ok, forM_eq_ok] at hcheck
    obtain ⟨hmeta, hartifacts⟩ := hcheck
    rw [not_or, not_not, not_not] at hmeta
    refine ⟨k, mem_of_find?_eq_some hk, by simpa using find?_some hk, hmeta.1,
      hmeta.2, fun name ref href => ?_⟩
    have := hartifacts (name, ref) (Dict.get?_eq_some.1 href)
    rw [ite_error_eq_ok, not_not] at this
    exact this.1

/-- A grade is sound: strict success is success of every stage, and then every
required check of the contract was passed once, as the contract has it; only an
infrastructure outcome is incomparable; and no policy changes these fields. -/
theorem scoreEvidence_sound (h : scoreEvidence K e c p = .ok g) :
    (g.strictSuccess = some true ↔ ∀ s ∈ e.stages, s.outcome = .pass) ∧
    (g.strictSuccess = some true → ∀ x ∈ c.checks, x.required →
      e.checks.countP (fun k => k.1 = x.stage ∧ k.2.checkId = x.checkId) = 1 ∧
      ∀ k ∈ e.checks, k.1 = x.stage → k.2.checkId = x.checkId →
        k.2.outcome = .pass ∧ k.2.required ∧ k.2.weight = x.weight ∧
        ∀ name ref, x.inputArtifacts.get? name = some ref →
          k.2.artifacts.get? name = some ref) ∧
    (g.comparable = false ↔
      ∃ s, firstNonPass e = some s ∧ (s.outcome = .infraError ∨ s.outcome = .unsupported)) ∧
    (∀ p' g', scoreEvidence K e c p' = .ok g' → g'.strictSuccess = g.strictSuccess ∧
      g'.comparable = g.comparable ∧ g'.benchmarkScore = g.benchmarkScore ∧
      g'.firstFailure = g.firstFailure) ∧
    g.validate = .ok () := by
  obtain ⟨hacc, rfl⟩ := scoreEvidence_eq_ok.1 h
  have he := hacc.valid
  refine ⟨scored_strictSuccess, fun hsuccess x hx hrequired => ?_, scored_comparable,
    fun p' g' h' => ?_, scored_validate he (RewardPolicy.valid_of_validate hacc.policy)⟩
  · have hpass := scored_strictSuccess.1 hsuccess
    obtain ⟨s, hs, hstage⟩ := he.exists_stage x.stage
    have hmatch : ∀ s ∈ e.stages, matchStage c s = .ok () := by
      have hcontracted := hacc.contracted
      unfold validateContract at hcontracted
      rw [ite_error_eq_ok, forM_eq_ok] at hcontracted
      exact hcontracted.2
    obtain ⟨k, hk, hid, hreq, hweight, hartifacts⟩ :=
      matchStage_pass (hmatch s hs) (hpass s hs) hx hstage.symm
    have hmem : (x.stage, k) ∈ e.checks := EvaluationEvidence.mem_checks.2 ⟨s, hs, hstage, hk⟩
    have hkey : (x.stage, x.checkId) ∈ e.checks.map fun k => (k.1, k.2.checkId) :=
      mem_map.2 ⟨_, hmem, by rw [hid]⟩
    refine ⟨?_, fun k' hk' hstage' hid' => ?_⟩
    · have hcount := count_eq_one_of_mem he.identities_nodup hkey
      rw [count_eq_countP, countP_map] at hcount
      rw [← hcount]
      refine countP_congr fun k _ => ?_
      simp [Prod.ext_iff]
    · have hsame : k' = (x.stage, k) :=
        inj_on_of_nodup_map he.identities_nodup hk' hmem (by rw [hstage', hid', hid])
      rw [hsame]
      have hk₀ : k.required := hreq.trans hrequired
      exact ⟨StageEvidence.outcome_pass (he.stage s hs) (hpass s hs) hk hk₀, hk₀, hweight,
        hartifacts⟩
  · obtain ⟨-, rfl⟩ := scoreEvidence_eq_ok.1 h'
    unfold scored
    by_cases hinfra : (firstNonPass e).any infra <;> simp [hinfra, grade]

theorem scoreEvidence_sound_passed :
    scoreEvidence constantDigests (passed constantDigests) sampleContract rewardV1 =
      .ok (scored constantDigests (passed constantDigests) sampleContract rewardV1) ∧
    (scored constantDigests (passed constantDigests) sampleContract rewardV1).validate =
      .ok () := by
  have h : scoreEvidence constantDigests (passed constantDigests) sampleContract rewardV1 =
      .ok (scored constantDigests (passed constantDigests) sampleContract rewardV1) := by
    decide +kernel
  exact ⟨h, (scoreEvidence_sound h).2.2.2.2⟩

end Returns

end Bpe.Grading
