import Bpe.Qualification.Qualify
import Bpe.Qualification.Separate

/-!
# Outcomes of an anchor

What the accepted attempts of one anchor have in common, and which checks a
scored evidence failed: a stage before the first failure passed, so that the
failed checks that the code collects from the behavior stages are all of them.
-/

namespace Bpe.Qualification

open Models Grading Bpe.Task Replay Admission Experiment Job List

variable {D : Type}

/-! ## Failed checks -/

/-- A required check of that name did not pass. -/
def FailsCheck (e : EvaluationEvidence D) (c : CheckIdentity) : Prop :=
  ∃ s ∈ e.stages, s.stage = c.stage ∧
    ∃ k ∈ s.checks, k.checkId = c.checkId ∧ k.required ∧ k.outcome ≠ .pass

theorem mem_failedBehaviorChecks {e : EvaluationEvidence D} {c : CheckIdentity} :
    c ∈ failedBehaviorChecks e ↔ behaviorStage c.stage ∧ ∃ s ∈ e.stages, s.stage = c.stage ∧
      ∃ k ∈ s.checks, k.checkId = c.checkId ∧ k.required ∧ k.outcome = .fail := by
  unfold failedBehaviorChecks
  simp only [mem_dedup, mem_flatMap, mem_filter, mem_map, Bool.and_eq_true,
    beq_iff_eq]
  constructor
  · rintro ⟨s, ⟨hs, hstage⟩, k, ⟨hk, hrequired, hfail⟩, rfl⟩
    exact ⟨hstage, s, hs, rfl, k, hk, rfl, hrequired, hfail⟩
  · rintro ⟨hstage, s, hs, hsame, k, hk, hid, hrequired, hfail⟩
    exact ⟨s, ⟨hs, hsame ▸ hstage⟩, k, ⟨hk, hrequired, hfail⟩, by rw [hsame, hid]⟩

theorem stageOrder_index {as bs : List Stage} {s : Stage} (h : stageOrder = as ++ s :: bs) :
    (∀ t ∈ as, t.index < s.index) ∧ ∀ t ∈ bs, s.index < t.index := by
  have hsorted : stageOrder.Pairwise fun a b => a.index < b.index := by decide
  rw [h, pairwise_append] at hsorted
  exact ⟨fun t ht => hsorted.2.2 t ht s mem_cons_self,
    fun t ht => rel_of_pairwise_cons hsorted.2.1 ht⟩

/-- Every stage before the first that did not pass, passed. -/
theorem pass_before {e : EvaluationEvidence D} (he : e.Valid) {first s : StageEvidence D}
    (hfirst : firstNonPass e = some first) (hs : s ∈ e.stages)
    (hbefore : s.stage.index < first.stage.index) : s.outcome = .pass := by
  obtain ⟨-, as, bs, hsplit, hpass⟩ := find?_eq_some_iff_append.1 hfirst
  have horder := he.order
  rw [hsplit, map_append, map_cons] at horder
  have hafter := (stageOrder_index horder.symm).2
  rw [hsplit] at hs
  rcases mem_append.1 hs with hmem | hmem
  · simpa using hpass s hmem
  · rcases mem_cons.1 hmem with rfl | hmem
    · omega
    · have := hafter s.stage (mem_map_of_mem hmem)
      omega

section Contract

variable [DecidableEq D] {K : Grading.Digests D} {e : EvaluationEvidence D} {c : ScoringContract D}
  {p : RewardPolicy}

theorem checked_stage (h : Grading.Accepted K e c p) {s : StageEvidence D} (hs : s ∈ e.stages)
    {k : CheckEvidence D} (hk : k ∈ s.checks) :
    s.stage = .objectPolicy ∨ behaviorStage s.stage := by
  have hcontracted := h.contracted
  unfold validateContract at hcontracted
  rw [ite_error_eq_ok, forM_eq_ok] at hcontracted
  have hmatch := hcontracted.2 s hs
  have hne : s.checks ≠ [] := ne_nil_of_mem hk
  unfold matchStage at hmatch
  by_cases hskipped : s.outcome = .skipped
  · have hempty := refuse_at (StageEvidence.validate_checks (h.valid.stage s hs)).2.2 4 rfl
    simp [hskipped, hne] at hempty
  · rw [if_neg hskipped, if_neg (by simp [hne]), ite_error_eq_ok, not_not] at hmatch
    have hids := hmatch.1
    simp only [sameMembers, Bool.and_eq_true, all_eq_true, contains_iff_mem] at hids
    obtain ⟨x, hx, -⟩ := mem_map.1 (hids.1 k.checkId (mem_map_of_mem hk))
    obtain ⟨hmem, hstage⟩ := mem_filter.1 hx
    have hcontract := h.contract
    unfold ScoringContract.validate at hcontract
    rw [seq_eq_ok, seq_eq_ok, forM_eq_ok] at hcontract
    have hvalid := refuse_at (hcontract.2.1 x hmem) 0 rfl
    simp only [decide_eq_true_eq] at hstage
    rw [Bool.not_eq_false', contains_iff_mem, hstage] at hvalid
    simp only [mem_cons, not_mem_nil, or_false] at hvalid
    simpa [behaviorStage] using hvalid

/-- Where the pipeline stopped at none of the stages up to the object policy, and
nothing timed out, the collected checks are all that failed. -/
theorem failsCheck_iff (h : Grading.Accepted K e c p) (htime : timedOut e = false)
    (hfirst : ∀ s, firstNonPass e = some s → Stage.objectPolicy.index < s.stage.index)
    (check : CheckIdentity) : FailsCheck e check ↔ check ∈ failedBehaviorChecks e := by
  rw [mem_failedBehaviorChecks]
  constructor
  · rintro ⟨s, hs, hstage, k, hk, hid, hrequired, hfailed⟩
    have hvalid := h.valid.stage s hs
    have hchecks := StageEvidence.validate_checks hvalid
    have houtcome := refuse_at (hchecks.2.1 k hk) 1 rfl
    have hnotime : k.outcome ≠ .timeout := by
      intro htimeout
      unfold timedOut at htime
      rw [any_eq_false] at htime
      have := htime s hs
      simp only [Bool.or_eq_true, not_or, any_eq_true, beq_iff_eq, not_exists, not_and] at this
      exact this.2 k hk htimeout
    have hfail : k.outcome = .fail := by
      simp only [Bool.not_eq_false', contains_iff_mem, mem_cons, not_mem_nil,
        or_false] at houtcome
      tauto
    rcases checked_stage h hs hk with hobject | hbehavior
    · -- The object policy passed, so its required checks did.
      have hpass : s.outcome = .pass := by
        cases hnone : firstNonPass e with
        | none => exact firstNonPass_eq_none.1 hnone s hs
        | some first => exact pass_before h.valid hnone hs (hobject ▸ hfirst first hnone)
      exact absurd (StageEvidence.outcome_pass hvalid hpass hk hrequired) hfailed
    · exact ⟨hstage ▸ hbehavior, s, hs, hstage, k, hk, hid, hrequired, hfail⟩
  · rintro ⟨-, s, hs, hstage, k, hk, hid, hrequired, hfail⟩
    exact ⟨s, hs, hstage, k, hk, hid, hrequired, by simp [hfail]⟩

end Contract

/-! ## The outcome of an anchor -/

section Outcome

variable [LinearOrder D] {K : Digests D} {policy : RewardPolicy}
  {anchor : QualificationAnchorPlan D} {attempts : List (GraderQualificationAttempt D)}
  {declared failed : List CheckIdentity} {digest : D} {reward : ℚ}

/-- What the attempts of an anchor have in common. -/
structure AnchorOutcome (policy : RewardPolicy) (anchor : QualificationAnchorPlan D)
    (attempts : List (GraderQualificationAttempt D)) (failed : List CheckIdentity) (reward : ℚ) :
    Prop where
  rewarded : ∀ a ∈ attempts, a.grade.trainingReward = some reward
  failing : ∀ a ∈ attempts, ∀ c, c ∈ failedBehaviorChecks a.evidence ↔ c ∈ failed
  time : ∀ a ∈ attempts, timedOut a.evidence = false
  full : anchor.role.fullSolution → reward = policy.successReward ∧
    ∀ a ∈ attempts, a.grade.strictSuccess = some true ∧ a.grade.firstFailure = none
  flawed : anchor.role.fullSolution = false → ∀ a ∈ attempts, a.grade.strictSuccess = some false ∧
    a.grade.firstFailure = anchor.expectedFirstFailure ∧
    a.grade.failureReason = anchor.expectedFailureReason ∧
    ∃ s, anchor.expectedFirstFailure = some s ∧ a.grade.stageOutcomes s = some .fail
  killed : anchor.role.fullSolution = false →
    ∀ c, c ∈ failed ↔ c ∈ anchor.expectedFailedChecks

theorem anchorOutcome_of_validate
    (h : validateAnchorOutcome K policy anchor attempts declared = .ok (failed, digest, reward)) :
    AnchorOutcome policy anchor attempts failed reward := by
  unfold validateAnchorOutcome at h
  split at h
  · cases h
  · next first rest =>
    obtain ⟨hsame, h⟩ := seq_eq_ok.1 h
    split at h
    · next success r hsuccess hreward =>
      obtain ⟨htime, h⟩ := seq_eq_ok.1 h
      obtain ⟨hrole, h⟩ := seq_eq_ok.1 h
      obtain ⟨-, h⟩ := seq_eq_ok.1 h
      cases h
      have hscoring := refuse_at hsame 1 rfl
      rw [Bool.not_eq_false', all_eq_true] at hscoring
      have hagree : ∀ a ∈ first :: rest, a.grade.strictSuccess = some success ∧
          a.grade.firstFailure = first.grade.firstFailure ∧
          a.grade.trainingReward = some reward ∧
          ∀ c, c ∈ failedBehaviorChecks a.evidence ↔ c ∈ failedBehaviorChecks first.evidence := by
        intro a ha
        have := hscoring a ha
        simp only [sameScoring, Bool.and_eq_true, decide_eq_true_eq] at this
        exact ⟨this.1.1.1.2 ▸ hsuccess, this.1.1.2.symm, this.1.2 ▸ hreward,
          fun c => (sameSet_iff.1 this.2 c).symm⟩
      have htimes := refuse_at htime 0 rfl
      rw [any_eq_false] at htimes
      unfold checkRole at hrole
      refine ⟨fun a ha => (hagree a ha).2.2.1, fun a ha => (hagree a ha).2.2.2,
        fun a ha => by simpa using htimes a ha, fun hfull => ?_, fun hflawed a ha => ?_,
        fun hflawed c => ?_⟩
      · rw [if_pos hfull] at hrole
        have hpass := refuse_at hrole 0 rfl
        simp only [Bool.or_eq_false_iff, Bool.not_eq_false', decide_eq_true_eq,
          Option.isSome_eq_false_iff, Option.isNone_iff_eq_none] at hpass
        obtain ⟨⟨rfl, hnone⟩, hsuccessReward⟩ := hpass
        exact ⟨hsuccessReward, fun a ha => ⟨(hagree a ha).1, (hagree a ha).2.1.trans hnone⟩⟩
      · rw [if_neg (by simp [hflawed])] at hrole
        have hplanned := refuse_at hrole 0 rfl
        simp only [Bool.or_eq_false_iff, Bool.not_eq_false', decide_eq_true_eq, all_eq_true]
          at hplanned
        obtain ⟨⟨⟨rfl, hstage⟩, -⟩, hall⟩ := hplanned
        have hfails := hall a ha
        simp only [failsAsPlanned, Bool.and_eq_true, decide_eq_true_eq,
          Option.any_eq_true] at hfails
        exact ⟨(hagree a ha).1, (hagree a ha).2.1.trans hstage, hfails.1, hfails.2⟩
      · rw [if_neg (by simp [hflawed])] at hrole
        have hkill := refuse_at hrole 6 rfl
        rw [Bool.not_eq_false', sameSet_iff] at hkill
        exact (hkill c).symm
    · cases h

end Outcome

end Bpe.Qualification
