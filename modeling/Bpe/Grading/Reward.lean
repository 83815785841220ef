import Bpe.Grading.Score

/-!
# Orders on training rewards

Two laws on the rewards of two evidences under one policy: later failure earns
no less, and the hack class earns no more. Neither follows from the order that
`rewards_must_be_monotonic` checks, and for each the policies that have it are
characterised. `failedAt` is an evidence that stops at a given stage.
-/

namespace Bpe.Grading

open Models List Bool Option

variable {D : Type}

/-! ## Evidence that stops at a stage -/

section SampleFacts

theorem isStableId_sampleId : isStableId sampleId := by decide

theorem isCommit_sampleCommit : isCommit sampleCommit := rfl

theorem lengthWithin_sampleId : lengthWithin 1 127 sampleId ∧ lengthWithin 1 128 sampleId ∧
    lengthWithin 1 256 sampleId := by decide

theorem validWeight_one : validWeight 1 := by norm_num [validWeight]

variable {reason : String}

theorem sampleCheck_validate {outcome : Outcome} (houtcome : outcome = .pass ∨ outcome = .fail)
    (hreason : isStableId reason) :
    (sampleCheck outcome reason : CheckEvidence D).validate = .ok () := by
  rcases houtcome with rfl | rfl <;>
    simp [sampleCheck, CheckEvidence.validate, refuse, hreason, validWeight_one, lengthWithin,
      Dict.values, Dict.empty, isStableId_sampleId]

theorem sampleStage_validate (stage : Stage) {outcome : Outcome}
    (houtcome : outcome = .pass ∨ outcome = .fail) (hreason : isStableId reason) :
    (sampleStage stage outcome reason (sampleChecks stage outcome reason) :
      StageEvidence D).validate = .ok () := by
  unfold StageEvidence.validate
  rw [seq_eq_ok, seq_eq_ok]
  have hchecks : (sampleChecks stage outcome reason : List (CheckEvidence D)).length ≤ 4096 := by
    unfold sampleChecks
    split <;> simp
  refine ⟨?_, forM_eq_ok.2 fun k hk => ?_, ?_⟩
  · simp [sampleStage, refuse, hreason, lengthWithin, Dict.values, Dict.empty]
    exact decide_eq_true hchecks
  · simp only [sampleStage, sampleChecks] at hk
    split at hk
    · rw [mem_singleton.1 hk]
      exact sampleCheck_validate houtcome hreason
    · cases hk
  · rcases houtcome with rfl | rfl <;> cases stage <;>
      simp [StageEvidence.checksMustAgreeWithStage, refuse, sampleStage, sampleChecks,
        Stage.checked, StageEvidence.required, StageEvidence.failed, sampleCheck]

theorem stageAt_validate (stop stage : Stage) (hreason : isStableId reason) :
    (stageAt stop reason stage : StageEvidence D).validate = .ok () := by
  unfold stageAt stoppedStage
  dsimp only
  split
  · exact sampleStage_validate stage (.inl rfl) isStableId_sampleId
  · split
    · exact sampleStage_validate stage (.inr rfl) hreason
    · simp [StageEvidence.validate, StageEvidence.checksMustAgreeWithStage, refuse, sampleStage,
        lengthWithin, Dict.values, Dict.empty, isStableId_sampleId,
        StageEvidence.required, StageEvidence.failed, bind, Except.bind, pure, Except.pure]

variable [Inhabited D] {K : Digests D}

theorem failedAt_firstNonPass (stop : Stage) (reason : String) :
    firstNonPass (failedAt K stop reason) = some (stageAt stop reason stop) := by
  cases stop <;> simp [firstNonPass, failedAt, stageOrder, stageAt, stoppedStage, Stage.index,
    sampleStage]

theorem sampleContract_validate : (sampleContract : ScoringContract D).validate = .ok () := by
  simp [sampleContract, ScoringContract.validate, refuse, ExpectedCheck.validate,
    ScoringContract.checkManifestIsCompleteAndUnique, validWeight_one, isStableId_sampleId,
    List.forM, bind, Except.bind, pure, Except.pure, Dict.empty]

variable [DecidableEq D]

theorem failedAt_validate (stop : Stage) (hreason : isStableId reason) :
    (failedAt K stop reason).validate K = .ok () := by
  unfold EvaluationEvidence.validate
  rw [seq_eq_ok, seq_eq_ok, seq_eq_ok, seq_eq_ok, seq_eq_ok]
  refine ⟨?_, ?_, ?_, forM_eq_ok.2 fun s hs => ?_, rfl, ?_⟩
  · simp [failedAt, sampleRequest, EvaluationRequest.validate, refuse, isStableId_sampleId,
      ArtifactRef.valid, lengthWithin_sampleId]
  · simp [failedAt, sampleEnvironment, EnvironmentFingerprint.validate, refuse,
      isStableId_sampleId, isCommit_sampleCommit, lengthWithin_sampleId]
  · simp [failedAt, isCommit_sampleCommit, refuse]
  · obtain ⟨stage, -, rfl⟩ := mem_map.1 hs
    exact stageAt_validate stop stage hreason
  · unfold EvaluationEvidence.validatePipeline
    rw [seq_eq_ok]
    refine ⟨?_, ?_⟩
    · have horder : (failedAt K stop reason).stages.map (·.stage) = stageOrder := by
        cases stop <;> rfl
      simp [refuse, horder]
      simp [failedAt, sampleRequest, sampleEnvironment]
    · cases stop <;> rfl

theorem failedAt_contract (stop : Stage) (reason : String) :
    validateContract (failedAt K stop reason) sampleContract = .ok () := by
  unfold validateContract
  rw [if_neg (by simp [failedAt, sampleRequest, sampleContract]), forM_eq_ok]
  intro s hs
  obtain ⟨stage, -, rfl⟩ := mem_map.1 hs
  cases stop <;> cases stage <;> rfl

end SampleFacts

section Laws

theorem hackClassified_failedAt [Inhabited D] (K : Digests D) (p : RewardPolicy) (stop : Stage)
    {reason : String} (hreason : isStableId reason) :
    hackClassified (failedAt K stop reason) p = hackReason p reason := by
  have hne : reason ≠ "" := by
    rintro rfl
    cases hreason
  unfold hackClassified
  rw [failedAt_firstNonPass]
  cases hhack : hackReason p reason <;> cases stop <;>
    simp [explicitHack, failedAt, stageOrder, stageAt, stoppedStage, Stage.index, sampleStage,
      sampleChecks, Stage.checked, sampleCheck, hhack, hne]

/-- A reason outside the hack class of the policy. -/
def plainReason (p : RewardPolicy) : String :=
  if p.explicitHackReasonPrefix.toList.head? = some 'a' then "b" else "a"

theorem plainReason_plain {p : RewardPolicy} (hp : p.Valid) :
    isStableId (plainReason p) ∧ hackReason p (plainReason p) = false := by
  have hfront := hp.hackPrefix
  unfold isStableId at hfront
  unfold hackReason startsWith plainReason
  cases hlist : p.explicitHackReasonPrefix.toList with
  | nil =>
    rw [hlist] at hfront
    cases hfront
  | cons c cs =>
    by_cases hc : c = 'a'
    · simp [hc, isPrefixOf]
      decide
    · simp [hc, isPrefixOf]
      decide

/-- The order of two failures, where a failed verifier earns nothing. -/
theorem failureReward_mono {p : RewardPolicy} (hp : p.Valid)
    (hverifier : p.verifierFailureReward ≤ 0) {s t : StageEvidence D}
    (hs : s.validate = .ok ()) (ht : t.validate = .ok ())
    (hlt : s.stage.index < t.stage.index) : failureReward p s ≤ failureReward p t := by
  have hs' := partialReward_functional hp (StageEvidence.requiredFraction_bounds hs)
  have ht' := partialReward_functional hp (StageEvidence.requiredFraction_bounds ht)
  have ht'' := partialReward_semantics hp (StageEvidence.requiredFraction_bounds ht)
  have h₁ := hp.compile
  have h₂ := hp.objectPolicy
  have h₃ := hp.verifier
  have h₄ := hp.functional
  unfold failureReward
  cases hstage : s.stage <;> cases hstage' : t.stage <;> rw [hstage, hstage'] at hlt <;>
    simp only [Stage.index] at hlt ⊢ <;> first | omega | linarith

/-- The evidence with its reason codes taken out. -/
def EvaluationEvidence.withoutReasons (e : EvaluationEvidence D) : EvaluationEvidence D :=
  { e with
    stages := e.stages.map fun s =>
      { s with reasonCode := "", checks := s.checks.map fun k => { k with reasonCode := "" } } }

theorem outcomes_withoutReasons (e : EvaluationEvidence D) :
    e.withoutReasons.stages.map (·.outcome) = e.stages.map (·.outcome) := by
  simp [EvaluationEvidence.withoutReasons]

/-- Evidences that differ in their reasons only succeed together. -/
theorem firstNonPass_none_of_withoutReasons {e₁ e₂ : EvaluationEvidence D}
    (h : e₁.withoutReasons = e₂.withoutReasons) (hnone : firstNonPass e₂ = none) :
    firstNonPass e₁ = none := by
  have houtcomes : e₁.stages.map (·.outcome) = e₂.stages.map (·.outcome) := by
    rw [← outcomes_withoutReasons, h, outcomes_withoutReasons]
  rw [firstNonPass_eq_none] at hnone ⊢
  intro s hs
  have hmem : s.outcome ∈ e₂.stages.map (·.outcome) := by
    rw [← houtcomes]
    exact mem_map_of_mem hs
  obtain ⟨t, ht, heq⟩ := mem_map.1 hmem
  rw [← heq]
  exact hnone t ht

theorem withoutReasons_failedAt [Inhabited D] (K : Digests D) (reason reason' : String) :
    (failedAt K .ingest reason).withoutReasons = (failedAt K .ingest reason').withoutReasons := rfl

variable [DecidableEq D] {K : Digests D} {e e₁ e₂ : EvaluationEvidence D}
  {c c₁ c₂ : ScoringContract D} {p : RewardPolicy} {g g₁ g₂ : Grade D} {r r₁ r₂ : ℚ}

theorem trainingReward_of_score (h : scoreEvidence K e c p = .ok g)
    (hr : g.trainingReward = some r) : r = reward e p := by
  obtain ⟨-, rfl⟩ := scoreEvidence_eq_ok.1 h
  unfold scored at hr
  split at hr
  · cases hr
  · exact (some.inj hr).symm

theorem score_failedAt [Inhabited D] (hp : p.validate = .ok ()) (stop : Stage) {reason : String}
    (hreason : isStableId reason) :
    ∃ g, scoreEvidence K (failedAt K stop reason) sampleContract p = .ok g ∧ g.comparable ∧
      g.firstFailure = some stop ∧
      g.trainingReward = some (reward (failedAt K stop reason) p) := by
  refine ⟨_, scoreEvidence_eq_ok.2 ⟨⟨failedAt_validate stop hreason, sampleContract_validate, hp,
    failedAt_contract stop reason⟩, rfl⟩, ?_⟩
  have hinfra : infra (stageAt stop reason stop : StageEvidence D) = false := by
    cases stop <;> rfl
  have hstage : (stageAt stop reason stop : StageEvidence D).stage = stop := by
    cases stop <;> rfl
  simp [scored, failedAt_firstNonPass, hinfra, hstage, grade]

/-! ## Later failure earns no less -/

/-- Two comparable evidences outside the hack class: a later first failure, and a
success, earns no less. -/
def ProgressEarns (K : Digests D) (p : RewardPolicy) : Prop :=
  ∀ e₁ c₁ g₁ e₂ c₂ g₂ r₁ r₂, scoreEvidence K e₁ c₁ p = .ok g₁ → scoreEvidence K e₂ c₂ p = .ok g₂ →
    g₁.comparable → g₂.comparable → hackClassified e₁ p = false → hackClassified e₂ p = false →
    ((∃ s₁ s₂, g₁.firstFailure = some s₁ ∧ g₂.firstFailure = some s₂ ∧ s₁.index < s₂.index) ∨
      g₂.strictSuccess = some true) →
    g₁.trainingReward = some r₁ → g₂.trainingReward = some r₂ → r₁ ≤ r₂

theorem progressEarns_of_verifier (hp : p.validate = .ok ())
    (hverifier : p.verifierFailureReward ≤ 0) : ProgressEarns K p := by
  intro e₁ c₁ g₁ e₂ c₂ g₂ r₁ r₂ h₁ h₂ _ _ hhack₁ hhack₂ hlater hr₁ hr₂
  have hp' := RewardPolicy.valid_of_validate hp
  rw [trainingReward_of_score h₁ hr₁, trainingReward_of_score h₂ hr₂]
  obtain ⟨hacc₁, rfl⟩ := scoreEvidence_eq_ok.1 h₁
  obtain ⟨hacc₂, rfl⟩ := scoreEvidence_eq_ok.1 h₂
  have hvalid₁ : ∀ s, firstNonPass e₁ = some s → s.validate = .ok () := fun s hs =>
    hacc₁.valid.stage s (mem_of_find?_eq_some hs)
  have hvalid₂ : ∀ s, firstNonPass e₂ = some s → s.validate = .ok () := fun s hs =>
    hacc₂.valid.stage s (mem_of_find?_eq_some hs)
  rcases hlater with ⟨s₁, s₂, hs₁, hs₂, hlt⟩ | hsuccess
  · rw [scored_firstFailure] at hs₁ hs₂
    obtain ⟨t₁, ht₁, rfl⟩ := map_eq_some_iff.1 hs₁
    obtain ⟨t₂, ht₂, rfl⟩ := map_eq_some_iff.1 hs₂
    unfold reward
    rw [ht₁, ht₂, hhack₁, hhack₂]
    exact failureReward_mono hp' hverifier (hvalid₁ t₁ ht₁) (hvalid₂ t₂ ht₂) hlt
  · have hnone := firstNonPass_eq_none.2 (scored_strictSuccess.1 hsuccess)
    unfold reward
    rw [hnone, hhack₁]
    cases hfirst : firstNonPass e₁ with
    | none => exact le_refl _
    | some t => exact (failureReward_bounds hp' (hvalid₁ t hfirst)).2.trans hp'.success

/-- A failed verifier that is paid outpays a functional stage that passed no
check. -/
theorem verifier_outpays [Inhabited D] (hp : p.validate = .ok ())
    (hverifier : 0 < p.verifierFailureReward) : ¬ ProgressEarns K p := by
  have hp' := RewardPolicy.valid_of_validate hp
  obtain ⟨hstable, hplain⟩ := plainReason_plain hp'
  intro hlaw
  obtain ⟨g₁, h₁, hcomp₁, hfirst₁, hr₁⟩ := score_failedAt (K := K) hp .verifier hstable
  obtain ⟨g₂, h₂, hcomp₂, hfirst₂, hr₂⟩ := score_failedAt (K := K) hp .functional hstable
  have hhack : ∀ stop, hackClassified (failedAt K stop (plainReason p)) p = false := fun stop =>
    (hackClassified_failedAt K p stop hstable).trans hplain
  have hle := hlaw _ _ _ _ _ _ _ _ h₁ h₂ hcomp₁ hcomp₂ (hhack _) (hhack _)
    (.inl ⟨_, _, hfirst₁, hfirst₂, by decide⟩) hr₁ hr₂
  unfold reward at hle
  rw [failedAt_firstNonPass, failedAt_firstNonPass, hhack, hhack] at hle
  have hfraction : (stageAt .functional (plainReason p) .functional :
      StageEvidence D).requiredFraction = 0 := by
    simp [stageAt, stoppedStage, sampleStage, sampleChecks, Stage.checked, sampleCheck,
      StageEvidence.requiredFraction, StageEvidence.required]
  have hpaid : failureReward p (stageAt .functional (plainReason p) .functional :
      StageEvidence D) = 0 := by
    rw [show failureReward p (stageAt .functional (plainReason p) .functional :
      StageEvidence D) = partialReward p .functional _ from rfl, hfraction]
    simp [partialReward]
  have hverified : failureReward p (stageAt .verifier (plainReason p) .verifier :
      StageEvidence D) = p.verifierFailureReward := rfl
  simp only [false_eq_true, if_false] at hle
  rw [hpaid, hverified] at hle
  linarith

/-- Under a valid policy progress earns exactly where a failed verifier earns
nothing. -/
theorem progressEarns_iff [Inhabited D] (K : Digests D) (p : RewardPolicy)
    (hp : p.validate = .ok ()) : ProgressEarns K p ↔ p.verifierFailureReward ≤ 0 := by
  constructor
  · intro hlaw
    by_contra hverifier
    exact verifier_outpays hp (not_le.1 hverifier) hlaw
  · exact progressEarns_of_verifier hp

theorem rewardV1_validate : rewardV1.validate = .ok () := by decide +kernel

theorem progressEarns_rewardV1 : ProgressEarns constantDigests rewardV1 :=
  (progressEarns_iff constantDigests rewardV1 rewardV1_validate).2 le_rfl

def payingPolicy : RewardPolicy := { rewardV1 with verifierFailureReward := 1 / 20 }

theorem payingPolicy_outpays :
    payingPolicy.validate = .ok () ∧ ¬ ProgressEarns constantDigests payingPolicy ∧
    reward (failedAt constantDigests .verifier "FAIL") payingPolicy = 1 / 20 ∧
    reward (failedAt constantDigests .functional "FAIL") payingPolicy = 0 := by
  have hvalid : payingPolicy.validate = .ok () := by decide +kernel
  refine ⟨hvalid, verifier_outpays hvalid (by norm_num [payingPolicy]), ?_, ?_⟩
  · decide +kernel
  · decide +kernel

/-! ## The hack class earns no more -/

/-- Two comparable evidences that differ in their reasons only: the one in the
hack class earns no more than the one outside. -/
def HackNeverPays (K : Digests D) (p : RewardPolicy) : Prop :=
  ∀ e₁ c₁ g₁ e₂ c₂ g₂ r₁ r₂, scoreEvidence K e₁ c₁ p = .ok g₁ → scoreEvidence K e₂ c₂ p = .ok g₂ →
    g₁.comparable → g₂.comparable → e₁.withoutReasons = e₂.withoutReasons →
    hackClassified e₁ p → hackClassified e₂ p = false →
    g₁.trainingReward = some r₁ → g₂.trainingReward = some r₂ → r₁ ≤ r₂

theorem hackNeverPays_of_ingest (hp : p.validate = .ok ())
    (hingest : p.explicitHackReward ≤ p.ingestFailureReward) : HackNeverPays K p := by
  intro e₁ c₁ g₁ e₂ c₂ g₂ r₁ r₂ h₁ h₂ _ _ hsame hhack₁ hhack₂ hr₁ hr₂
  have hp' := RewardPolicy.valid_of_validate hp
  rw [trainingReward_of_score h₁ hr₁, trainingReward_of_score h₂ hr₂]
  obtain ⟨hacc₂, rfl⟩ := scoreEvidence_eq_ok.1 h₂
  unfold reward
  cases hfirst₂ : firstNonPass e₂ with
  | none =>
    rw [firstNonPass_none_of_withoutReasons hsame hfirst₂]
  | some t =>
    cases hfirst₁ : firstNonPass e₁ with
    | none =>
      rw [firstNonPass_none_of_withoutReasons hsame.symm hfirst₁] at hfirst₂
      cases hfirst₂
    | some s =>
      simp only [hhack₁, hhack₂, if_true, false_eq_true, if_false]
      exact (le_min hingest hp'.hack_le).trans
        (failureReward_bounds hp' (hacc₂.valid.stage t (mem_of_find?_eq_some hfirst₂))).1

theorem hack_pays [Inhabited D] (hp : p.validate = .ok ())
    (hingest : p.ingestFailureReward < p.explicitHackReward) : ¬ HackNeverPays K p := by
  have hp' := RewardPolicy.valid_of_validate hp
  obtain ⟨hstable, hplain⟩ := plainReason_plain hp'
  have hself : hackReason p p.explicitHackReasonPrefix := by
    unfold hackReason startsWith
    exact isPrefixOf_iff_prefix.2 (prefix_refl _)
  intro hlaw
  obtain ⟨g₁, h₁, hcomp₁, -, hr₁⟩ := score_failedAt (K := K) hp .ingest hp'.hackPrefix
  obtain ⟨g₂, h₂, hcomp₂, -, hr₂⟩ := score_failedAt (K := K) hp .ingest hstable
  have hhack₁ : hackClassified (failedAt K .ingest p.explicitHackReasonPrefix) p = true :=
    (hackClassified_failedAt K p .ingest hp'.hackPrefix).trans hself
  have hhack₂ : hackClassified (failedAt K .ingest (plainReason p)) p = false :=
    (hackClassified_failedAt K p .ingest hstable).trans hplain
  have hle := hlaw _ _ _ _ _ _ _ _ h₁ h₂ hcomp₁ hcomp₂ (withoutReasons_failedAt K _ _) hhack₁
    hhack₂ hr₁ hr₂
  unfold reward at hle
  rw [failedAt_firstNonPass, failedAt_firstNonPass, hhack₁, hhack₂] at hle
  have hingested : failureReward p (stageAt .ingest (plainReason p) .ingest : StageEvidence D) =
      p.ingestFailureReward := rfl
  simp only [if_true, false_eq_true, if_false] at hle
  rw [hingested] at hle
  linarith

/-- Under a valid policy the hack class never pays exactly where its reward is at
most that of a malformed answer. -/
theorem hackNeverPays_iff [Inhabited D] (K : Digests D) (p : RewardPolicy)
    (hp : p.validate = .ok ()) :
    HackNeverPays K p ↔ p.explicitHackReward ≤ p.ingestFailureReward := by
  constructor
  · intro hlaw
    by_contra hingest
    exact hack_pays hp (not_le.1 hingest) hlaw
  · exact hackNeverPays_of_ingest hp

theorem hackNeverPays_rewardV1 : HackNeverPays constantDigests rewardV1 :=
  (hackNeverPays_iff constantDigests rewardV1 rewardV1_validate).2 le_rfl

/-- A policy whose hack class earns what a failed verifier earns. -/
def mildPolicy : RewardPolicy := { rewardV1 with explicitHackReward := 0 }

theorem mildPolicy_pays :
    mildPolicy.validate = .ok () ∧ ¬ HackNeverPays constantDigests mildPolicy ∧
    reward (failedAt constantDigests .ingest "HACK_INPUT") mildPolicy = 0 ∧
    reward (failedAt constantDigests .ingest "MALFORMED") mildPolicy = -1 := by
  have hvalid : mildPolicy.validate = .ok () := by decide +kernel
  refine ⟨hvalid, hack_pays hvalid (by norm_num [mildPolicy, rewardV1]), ?_, ?_⟩
  · decide +kernel
  · decide +kernel

end Laws

end Bpe.Grading
