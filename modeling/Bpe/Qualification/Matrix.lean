import Bpe.Corpus.Repository
import Bpe.Grading.Reward
import Bpe.Qualification.Outcome

/-!
# What a qualification report means

`qualify_grader` loops over the planned anchors, witnesses and orderings;
`Qualified` says what the whole matrix is when every turn succeeded.
-/

namespace Bpe.Qualification

open Models Grading Bpe.Task Replay Admission Experiment Job List

variable {D : Type} {attempts : List (GraderQualificationAttempt D)}

variable {a : GraderQualificationAttempt D}

theorem mem_attemptsOf {id : String} :
    a ∈ attemptsOf attempts id ↔ a ∈ attempts ∧ a.anchorId = id := by
  simp [attemptsOf]

variable {r : AnchorQualificationResult D}

theorem result?_spec {results : List (AnchorQualificationResult D)} {id : String}
    (h : result? results id = some r) : r ∈ results ∧ r.anchorId = id :=
  ⟨mem_of_find?_eq_some h, by simpa using find?_some h⟩

variable [LinearOrder D] {K : Digests D} {normalize : String → Except String String}
  {plan : GraderQualificationPlan D} {suite : SuiteManifest D} {bundles : List (SealedBundle D)}
  {policy : RewardPolicy} {authorities : List (TaskAuthority D)}

/-! ## One anchor -/

variable {anchor : QualificationAnchorPlan D}

theorem validateAttemptBinding_score {authority : TaskAuthority D}
    (h : validateAttemptBinding K plan suite policy anchor authority a = .ok ()) :
    scoreEvidence K.toJob.toReplay.toTask.toDigests a.evidence authority.contract policy =
      .ok a.grade := by
  unfold validateAttemptBinding at h
  obtain ⟨-, h⟩ := seq_eq_ok.1 h
  split at h
  · cases h
  · obtain ⟨-, h⟩ := seq_eq_ok.1 h
    obtain ⟨expected, hscore, h⟩ := bind_eq_ok.1 h
    obtain ⟨hgrade, -⟩ := seq_eq_ok.1 h
    have hgrade := refuse_at hgrade 0 rfl
    simp only [Bool.not_eq_false', decide_eq_true_eq] at hgrade
    rw [hgrade]
    exact mapError_eq_ok.1 hscore

/-- What a turn over the planned anchors leaves to know. -/
structure AnchorResult (K : Digests D) (policy : RewardPolicy)
    (authorities : List (TaskAuthority D))
    (attempts : List (GraderQualificationAttempt D)) (anchor : QualificationAnchorPlan D)
    (r : AnchorQualificationResult D) : Prop where
  id : r.anchorId = anchor.anchorId
  key : (r.partition, r.task) = (anchor.partition, anchor.task)
  repeats : ((attemptsOf attempts anchor.anchorId).map (·.repeatIndex)).Perm
    (range anchor.jobs.length)
  graded : ∃ authority, authorityOf authorities anchor.task.taskBundleSha256 = some authority ∧
    ∀ a ∈ attemptsOf attempts anchor.anchorId,
      scoreEvidence K.toJob.toReplay.toTask.toDigests a.evidence authority.contract policy =
        .ok a.grade
  outcome : AnchorOutcome policy anchor (attemptsOf attempts anchor.anchorId) r.failedChecks
    r.trainingReward

theorem anchorResult_of_qualify
    (h : qualifyAnchor K plan suite policy authorities attempts anchor = .ok r) :
    AnchorResult K policy authorities attempts anchor r := by
  unfold qualifyAnchor at h
  obtain ⟨hrepeats, h⟩ := seq_eq_ok.1 h
  have hrepeats := refuse_at hrepeats 0 rfl
  rw [Bool.not_eq_false', isPerm_iff] at hrepeats
  split at h
  · cases h
  · next authority hauthority =>
    obtain ⟨hbound, h⟩ := seq_eq_ok.1 h
    obtain ⟨⟨failed, digest, reward⟩, houtcome, h⟩ := bind_eq_ok.1 h
    have hmem : ∀ a, a ∈ attemptsOf attempts anchor.anchorId ↔
        a ∈ sortOn (·.repeatIndex) (attemptsOf attempts anchor.anchorId) := fun a =>
      (perm_sortOn _ _).mem_iff.symm
    have hout := anchorOutcome_of_validate houtcome
    have hscored : ∀ a ∈ attemptsOf attempts anchor.anchorId,
        scoreEvidence K.toJob.toReplay.toTask.toDigests a.evidence authority.contract policy =
          .ok a.grade := fun a ha =>
      validateAttemptBinding_score (forM_eq_ok.1 hbound a ((hmem a).1 ha))
    simp only at h
    split at h
    · cases h
    · split at h
      · cases h
      · cases h
        refine ⟨rfl, rfl, hrepeats, ⟨authority, hauthority, hscored⟩, ?_⟩
        have hfailed : ∀ c, c ∈ sortOn checkKey failed ↔ c ∈ failed := fun c =>
          (perm_sortOn _ _).mem_iff
        exact
          { rewarded := fun a ha => hout.rewarded a ((hmem a).1 ha)
            failing := fun a ha c => by rw [hfailed, hout.failing a ((hmem a).1 ha) c]
            time := fun a ha => hout.time a ((hmem a).1 ha)
            full := fun hfull => ⟨(hout.full hfull).1,
              fun a ha => (hout.full hfull).2 a ((hmem a).1 ha)⟩
            flawed := fun hflawed a ha => hout.flawed hflawed a ((hmem a).1 ha)
            killed := fun hflawed c => by rw [hfailed, hout.killed hflawed c] }

/-- The collected failed checks of an accepted attempt are all that failed. -/
theorem AnchorResult.failsCheck (h : AnchorResult K policy authorities attempts anchor r)
    (hanchor : anchor.validate = .ok ()) (ha : a ∈ attemptsOf attempts anchor.anchorId)
    (c : CheckIdentity) :
    FailsCheck a.evidence c ↔ c ∈ r.failedChecks := by
  obtain ⟨authority, -, hscored⟩ := h.graded
  obtain ⟨haccepted, hgrade⟩ := scoreEvidence_eq_ok.1 (hscored a ha)
  rw [failsCheck_iff haccepted (h.outcome.time a ha) _ c, h.outcome.failing a ha c]
  intro s hfirst
  have hstage : a.grade.firstFailure = some s.stage := by
    rw [hgrade, scored_firstFailure, hfirst, Option.map_some]
  cases hfull : anchor.role.fullSolution with
  | true =>
    rw [((h.outcome.full hfull).2 a ha).2] at hstage
    cases hstage
  | false =>
    rw [(h.outcome.flawed hfull a ha).2.1] at hstage
    unfold QualificationAnchorPlan.validate at hanchor
    have hplanned := refuse_at (seq_eq_ok.1 hanchor).1 2 rfl
    rw [hstage, Bool.not_eq_false', Option.all_some, contains_iff_mem] at hplanned
    simp only [mem_cons, not_mem_nil, or_false] at hplanned
    rcases hplanned with hs | hs | hs <;> rw [hs] <;> decide

/-! ## The loops -/

/-- What `qualify_grader` checked, loop by loop. -/
structure Checked (K : Digests D) (normalize : String → Except String String)
    (plan : GraderQualificationPlan D) (suite : SuiteManifest D) (bundles : List (SealedBundle D))
    (policy : RewardPolicy) (attempts : List (GraderQualificationAttempt D))
    (authorities : List (TaskAuthority D)) (report : GraderQualificationReport D) : Prop where
  valid : plan.Valid
  authority : Authorities K normalize plan suite bundles authorities
  anchors : ∀ id, id ∈ attempts.map (·.anchorId) ↔ id ∈ plan.anchors.map (·.anchorId)
  results : plan.anchors.mapM (qualifyAnchor K plan suite policy authorities attempts) =
    .ok report.anchorResults
  coverage : plan.witnesses.mapM (coverWitness report.anchorResults) = .ok report.witnessCoverage
  orderings : plan.rewardOrderings.mapM (checkOrdering K report.anchorResults) =
    .ok report.rewardOrderings

theorem checked_of_qualify {report : GraderQualificationReport D}
    (h : qualifyGrader K normalize plan suite bundles policy attempts = .ok report) :
    ∃ authorities, Checked K normalize plan suite bundles policy attempts authorities report := by
  unfold qualifyGrader at h
  obtain ⟨hplan, h⟩ := seq_eq_ok.1 h
  obtain ⟨-, h⟩ := seq_eq_ok.1 h
  obtain ⟨-, h⟩ := seq_eq_ok.1 h
  obtain ⟨authorities, hauthorities, h⟩ := bind_eq_ok.1 h
  obtain ⟨frozen, hfrozen, hrest⟩ := bind_eq_ok.1 h
  obtain ⟨-, rfl⟩ := boundedSnapshot_eq_ok.1 hfrozen
  rw [seq_eq_ok, seq_eq_ok, seq_eq_ok, bind_eq_ok] at hrest
  obtain ⟨-, -, hset, results, hresults, hrest⟩ := hrest
  obtain ⟨coverage, hcoverage, hrest⟩ := bind_eq_ok.1 hrest
  obtain ⟨orderings, horderings, hrest⟩ := bind_eq_ok.1 hrest
  cases hrest
  have hset := refuse_at hset 0 rfl
  rw [Bool.not_eq_false', sameSet_iff] at hset
  exact ⟨authorities, GraderQualificationPlan.valid_of_validate hplan,
    authorities_of_validateAuthority hauthorities,
    fun id => by rw [← hset id, mem_eraseDups], hresults, hcoverage, horderings⟩

/-- The pairs of an anchor and a repeat that a plan asks for. -/
def GraderQualificationPlan.slots (plan : GraderQualificationPlan D) : List (String × Nat) :=
  plan.anchors.flatMap fun a => (range a.jobs.length).map fun i => (a.anchorId, i)

theorem slots_nodup (h : plan.Valid) : plan.slots.Nodup := by
  unfold GraderQualificationPlan.slots
  rw [nodup_flatMap]
  refine ⟨fun a _ => nodup_range.map fun i j hij => (Prod.mk.inj hij).2, ?_⟩
  refine (pairwise_map.1 h.ids).imp fun {a b} hne => ?_
  rw [Function.onFun, disjoint_left]
  intro x hx hx'
  obtain ⟨i, -, rfl⟩ := mem_map.1 hx
  obtain ⟨j, -, heq⟩ := mem_map.1 hx'
  exact hne (Prod.mk.inj heq).1.symm

section Checked

variable {report : GraderQualificationReport D}
  (h : Checked K normalize plan suite bundles policy attempts authorities report)

include h

theorem Checked.result {r : AnchorQualificationResult D} (hr : r ∈ report.anchorResults) :
    ∃ anchor ∈ plan.anchors, AnchorResult K policy authorities attempts anchor r := by
  obtain ⟨anchor, hanchor, hqualify⟩ := exists_of_mapM h.results hr
  exact ⟨anchor, hanchor, anchorResult_of_qualify hqualify⟩

theorem Checked.of_anchor {anchor : QualificationAnchorPlan D}
    (hanchor : anchor ∈ plan.anchors) :
    ∃ r ∈ report.anchorResults, AnchorResult K policy authorities attempts anchor r := by
  have hmap := mapM_eq_ok.1 h.results
  have hmem : qualifyAnchor K plan suite policy authorities attempts anchor ∈
      report.anchorResults.map Except.ok := hmap ▸ mem_map_of_mem hanchor
  obtain ⟨r, hr, heq⟩ := mem_map.1 hmem
  exact ⟨r, hr, anchorResult_of_qualify heq.symm⟩

theorem Checked.of_attempt {a : GraderQualificationAttempt D} (ha : a ∈ attempts) :
    ∃ anchor ∈ plan.anchors, a ∈ attemptsOf attempts anchor.anchorId := by
  obtain ⟨anchor, hanchor, hid⟩ :=
    mem_map.1 ((h.anchors a.anchorId).1 (mem_map_of_mem ha))
  exact ⟨anchor, hanchor, mem_attemptsOf.2 ⟨ha, hid.symm⟩⟩

theorem Checked.slots :
    (attempts.map fun a => (a.anchorId, a.repeatIndex)).Perm plan.slots := by
  have hgroups := perm_flatMap_filter GraderQualificationAttempt.anchorId h.valid.ids fun a ha =>
    (h.anchors a.anchorId).1 (mem_map_of_mem ha)
  rw [flatMap_map] at hgroups
  refine (hgroups.map _).symm.trans ?_
  rw [map_flatMap]
  refine List.Perm.flatMap_left _ fun anchor hanchor => ?_
  obtain ⟨r, -, hr⟩ := h.of_anchor hanchor
  have hpairs : ((attemptsOf attempts anchor.anchorId).map fun a => (a.anchorId, a.repeatIndex)) =
      ((attemptsOf attempts anchor.anchorId).map (·.repeatIndex)).map
        fun i => (anchor.anchorId, i) := by
    rw [map_map]
    refine map_congr_left fun a ha => ?_
    rw [(mem_attemptsOf.1 ha).2]
    rfl
  show ((attemptsOf attempts anchor.anchorId).map fun a => (a.anchorId, a.repeatIndex)).Perm _
  rw [hpairs]
  exact hr.repeats.map _

/-- The reward of an anchor's result is that of each of its attempts. -/
theorem Checked.reward {r : AnchorQualificationResult D} (hr : r ∈ report.anchorResults)
    {a : GraderQualificationAttempt D} (ha : a ∈ attempts) (hid : a.anchorId = r.anchorId) :
    a.grade.trainingReward = some r.trainingReward := by
  obtain ⟨anchor, -, hresult⟩ := h.result hr
  exact hresult.outcome.rewarded a (mem_attemptsOf.2 ⟨ha, hid.trans hresult.id⟩)

/-- The results rank the anchors of an ordering by its margin. -/
theorem Checked.ordering {o : RewardOrderingConstraint} (ho : o ∈ plan.rewardOrderings) :
    ∃ better worse, result? report.anchorResults o.betterAnchorId = some better ∧
      result? report.anchorResults o.worseAnchorId = some worse ∧
      worse.trainingReward < better.trainingReward ∧
      o.minimumMargin ≤ better.trainingReward - worse.trainingReward := by
  have hmap := mapM_eq_ok.1 h.orderings
  have hmem : checkOrdering K report.anchorResults o ∈ report.rewardOrderings.map Except.ok :=
    hmap ▸ mem_map_of_mem ho
  obtain ⟨x, -, heq⟩ := mem_map.1 hmem
  unfold checkOrdering at heq
  split at heq
  · next better worse hbetter hworse =>
    obtain ⟨hmargin, -⟩ := seq_eq_ok.1 heq.symm
    have hmargin := refuse_at hmargin 0 rfl
    simp only [Bool.or_eq_false_iff, decide_eq_false_iff_not, not_le, not_lt, sub_pos] at hmargin
    exact ⟨better, worse, hbetter, hworse, hmargin.1, hmargin.2⟩
  · cases heq

theorem Checked.path {i j : String}
    (hpath : Relation.TransGen (fun i j => (i, j) ∈ plan.relations) i j) :
    ∃ better worse, result? report.anchorResults i = some better ∧
      result? report.anchorResults j = some worse ∧
      worse.trainingReward < better.trainingReward := by
  have hedge : ∀ {i j : String}, (i, j) ∈ plan.relations →
      ∃ better worse, result? report.anchorResults i = some better ∧
        result? report.anchorResults j = some worse ∧
        worse.trainingReward < better.trainingReward := by
    intro i j hij
    obtain ⟨o, ho, heq⟩ := mem_map.1 hij
    obtain ⟨rfl, rfl⟩ := Prod.mk.inj heq
    obtain ⟨better, worse, hbetter, hworse, hlt, -⟩ := h.ordering ho
    exact ⟨better, worse, hbetter, hworse, hlt⟩
  induction hpath with
  | single hij => exact hedge hij
  | tail _ hij ih =>
    obtain ⟨top, middle, htop, hmiddle, hlt⟩ := ih
    obtain ⟨middle', bottom, hmiddle', hbottom, hlt'⟩ := hedge hij
    rw [hmiddle] at hmiddle'
    cases hmiddle'
    exact ⟨top, bottom, htop, hbottom, hlt'.trans hlt⟩

/-- The reported killers of a witness are the anchors of its task that failed its
check. -/
theorem Checked.killers {w : WitnessCoverage D} (hw : w ∈ report.witnessCoverage) :
    w.killedByAnchorIds ≠ [] ∧ ∀ id, id ∈ w.killedByAnchorIds ↔ ∃ anchor ∈ plan.anchors,
      anchor.anchorId = id ∧
      (anchor.partition, anchor.task) = (w.witness.partition, w.witness.task) ∧
      ∃ a ∈ attempts, a.anchorId = id ∧ FailsCheck a.evidence w.witness.check := by
  obtain ⟨witness, -, hcover⟩ := exists_of_mapM h.coverage hw
  unfold coverWitness at hcover
  obtain ⟨hnonempty, heq⟩ := seq_eq_ok.1 hcover
  cases heq
  have hnonempty := refuse_at hnonempty 0 rfl
  rw [isEmpty_eq_false_iff] at hnonempty
  refine ⟨hnonempty, fun id => ?_⟩
  rw [(perm_sortOn _ _).mem_iff]
  unfold Qualification.killers
  simp only [mem_map, mem_filter, Bool.and_eq_true, decide_eq_true_eq,
    contains_iff_mem]
  constructor
  · rintro ⟨r, ⟨hr, hkey, hfailed⟩, rfl⟩
    obtain ⟨anchor, hanchor, hresult⟩ := h.result hr
    obtain ⟨a, ha, hid⟩ := mem_map.1 ((h.anchors anchor.anchorId).2 (mem_map_of_mem hanchor))
    refine ⟨anchor, hanchor, hresult.id.symm, hresult.key ▸ hkey, a, ha,
      hid.trans hresult.id.symm, ?_⟩
    exact (hresult.failsCheck (h.valid.anchor anchor hanchor)
      (mem_attemptsOf.2 ⟨ha, hid⟩) _).2 hfailed
  · rintro ⟨anchor, hanchor, rfl, hkey, a, ha, hid, hfails⟩
    obtain ⟨r, hr, hresult⟩ := h.of_anchor hanchor
    refine ⟨r, ⟨hr, hresult.key.trans hkey, ?_⟩, hresult.id⟩
    exact (hresult.failsCheck (h.valid.anchor anchor hanchor)
      (mem_attemptsOf.2 ⟨ha, hid⟩) _).1 hfails

theorem Checked.witnesses :
    report.witnessCoverage.map (·.witness) = plan.witnesses := by
  have hmap : report.witnessCoverage.map (·.witness) = plan.witnesses.map id :=
    map_of_mapM h.coverage fun w c hc => by
      unfold coverWitness at hc
      obtain ⟨-, heq⟩ := seq_eq_ok.1 hc
      cases heq
      rfl
  rwa [map_id] at hmap

/-- The authority of an anchor's task, and the supplied bundle that it is of. -/
theorem Checked.authority_of {anchor : QualificationAnchorPlan D} {authority : TaskAuthority D}
    (hauthority : authorityOf authorities anchor.task.taskBundleSha256 = some authority) :
    ∃ b ∈ bundles, b.bundle.bundleSha256 = anchor.task.taskBundleSha256 ∧
      b.bundle = authority.bundle ∧ buildScoringContract b.bundle = .ok authority.contract := by
  have hmem := mem_of_find?_eq_some hauthority
  have hdigest : authority.bundle.bundleSha256 = anchor.task.taskBundleSha256 := by
    simpa using find?_some hauthority
  have hsame : authority.bundle ∈ bundles.map (·.bundle) :=
    h.authority.same ▸ mem_map_of_mem hmem
  obtain ⟨b, hb, heq⟩ := mem_map.1 hsame
  exact ⟨b, hb, heq ▸ hdigest, heq, heq ▸ h.authority.contract authority hmem⟩

theorem Checked.split {anchor : QualificationAnchorPlan D} (hanchor : anchor ∈ plan.anchors) :
    ∃ b ∈ bundles, b.bundle.bundleSha256 = anchor.task.taskBundleSha256 ∧
      partitionOfSplit b.bundle.privateGrader.split = some anchor.partition := by
  have hcheck := h.authority.anchor anchor hanchor
  unfold checkAnchor at hcheck
  split at hcheck
  · cases hcheck
  · next authority hauthority =>
    obtain ⟨b, hb, hdigest, hbundle, -⟩ := h.authority_of hauthority
    obtain ⟨partition, hpartition, hcheck⟩ := bind_eq_ok.1 hcheck
    have hsame := refuse_at (seq_eq_ok.1 hcheck).1 0 rfl
    rw [bne_eq_false_iff_eq] at hsame
    refine ⟨b, hb, hdigest, ?_⟩
    unfold TaskAuthority.partition at hpartition
    rw [← hbundle] at hpartition
    split at hpartition
    · cases hpartition
    · next heq =>
      cases hpartition
      rw [heq, hsame]

end Checked

/-! ## The whole matrix -/

/-- The matrix that a report stands for. -/
structure Qualified (K : Digests D) (normalize : String → Except String String)
    (plan : GraderQualificationPlan D) (suite : SuiteManifest D) (bundles : List (SealedBundle D))
    (policy : RewardPolicy) (attempts : List (GraderQualificationAttempt D))
    (report : GraderQualificationReport D) : Prop where
  slots : (attempts.map fun a => (a.anchorId, a.repeatIndex)).Perm plan.slots
  slots_nodup : plan.slots.Nodup
  graded : ∀ a ∈ attempts, ∃ anchor ∈ plan.anchors, ∃ b ∈ bundles, ∃ c,
    a.anchorId = anchor.anchorId ∧ b.bundle.bundleSha256 = anchor.task.taskBundleSha256 ∧
    buildScoringContract b.bundle = .ok c ∧
    scoreEvidence K.toJob.toReplay.toTask.toDigests a.evidence c policy = .ok a.grade
  roles : ∀ a ∈ plan.anchors,
    ((plan.taskAnchors (a.partition, a.task)).map (·.role)).Perm AnchorRole.all
  full : ∀ anchor ∈ plan.anchors, anchor.role.fullSolution →
    ∀ a ∈ attempts, a.anchorId = anchor.anchorId →
      a.grade.strictSuccess = some true ∧ a.grade.trainingReward = some policy.successReward
  flawed : ∀ anchor ∈ plan.anchors, anchor.role.fullSolution = false →
    ∀ a ∈ attempts, a.anchorId = anchor.anchorId →
      a.grade.strictSuccess = some false ∧ a.grade.firstFailure = anchor.expectedFirstFailure ∧
      (∃ s, anchor.expectedFirstFailure = some s ∧ a.grade.stageOutcomes s = some .fail) ∧
      a.grade.failureReason = anchor.expectedFailureReason ∧
      ∀ c, FailsCheck a.evidence c ↔ c ∈ anchor.expectedFailedChecks
  repeats : ∀ a ∈ attempts, ∀ b ∈ attempts, a.anchorId = b.anchorId →
    ∀ c, FailsCheck a.evidence c ↔ FailsCheck b.evidence c
  witnesses : report.witnessCoverage.map (·.witness) = plan.witnesses
  killers : ∀ w ∈ report.witnessCoverage, w.killedByAnchorIds ≠ [] ∧
    ∀ id, id ∈ w.killedByAnchorIds ↔ ∃ anchor ∈ plan.anchors, anchor.anchorId = id ∧
      (anchor.partition, anchor.task) = (w.witness.partition, w.witness.task) ∧
      ∃ a ∈ attempts, a.anchorId = id ∧ FailsCheck a.evidence w.witness.check
  path : ∀ i j, Relation.TransGen (fun i j => (i, j) ∈ plan.relations) i j →
    ∀ a ∈ attempts, ∀ b ∈ attempts, a.anchorId = i → b.anchorId = j →
      ∃ x y, a.grade.trainingReward = some x ∧ b.grade.trainingReward = some y ∧ y < x
  margin : ∀ o ∈ plan.rewardOrderings, ∀ a ∈ attempts, ∀ b ∈ attempts,
    a.anchorId = o.betterAnchorId → b.anchorId = o.worseAnchorId →
      ∃ x y, a.grade.trainingReward = some x ∧ b.grade.trainingReward = some y ∧ y < x ∧
        o.minimumMargin ≤ x - y
  splits : ∀ anchor ∈ plan.anchors, ∃ b ∈ bundles,
    b.bundle.bundleSha256 = anchor.task.taskBundleSha256 ∧
    partitionOfSplit b.bundle.privateGrader.split = some anchor.partition
  separated : ∀ b ∈ bundles, ∀ b' ∈ bundles, b.bundle.privateGrader.split = .calibration →
    b'.bundle.privateGrader.split = .validation → Separated normalize suite b.bundle b'.bundle

/-- A report means that the whole matrix held. -/
theorem qualifyGrader_matrix (K : Digests D) (normalize : String → Except String String)
    (plan : GraderQualificationPlan D) (suite : SuiteManifest D) (bundles : List (SealedBundle D))
    (policy : RewardPolicy) (attempts : List (GraderQualificationAttempt D))
    (report : GraderQualificationReport D)
    (h : qualifyGrader K normalize plan suite bundles policy attempts = .ok report) :
    Qualified K normalize plan suite bundles policy attempts report := by
  obtain ⟨authorities, hchecked⟩ := checked_of_qualify h
  refine
    { slots := hchecked.slots
      slots_nodup := slots_nodup hchecked.valid
      graded := fun a ha => ?_
      roles := hchecked.valid.roles
      full := fun anchor hanchor hfull a ha hid => ?_
      flawed := fun anchor hanchor hflawed a ha hid => ?_
      repeats := fun a ha b hb hid c => ?_
      witnesses := hchecked.witnesses
      killers := fun w hw => hchecked.killers hw
      path := fun i j hpath a ha b hb hi hj => ?_
      margin := fun o ho a ha b hb hbetter hworse => ?_
      splits := fun anchor hanchor => hchecked.split hanchor
      separated := fun b hb b' hb' => hchecked.authority.separated hb hb' }
  · obtain ⟨anchor, hanchor, hmine⟩ := hchecked.of_attempt ha
    obtain ⟨r, -, hresult⟩ := hchecked.of_anchor hanchor
    obtain ⟨authority, hauthority, hscored⟩ := hresult.graded
    obtain ⟨b, hb, hdigest, -, hcontract⟩ := hchecked.authority_of hauthority
    exact ⟨anchor, hanchor, b, hb, authority.contract, (mem_attemptsOf.1 hmine).2, hdigest,
      hcontract, hscored a hmine⟩
  · obtain ⟨r, -, hresult⟩ := hchecked.of_anchor hanchor
    have hmine := mem_attemptsOf.2 ⟨ha, hid⟩
    obtain ⟨hreward, hsuccess⟩ := hresult.outcome.full hfull
    exact ⟨(hsuccess a hmine).1, hreward ▸ hresult.outcome.rewarded a hmine⟩
  · obtain ⟨r, -, hresult⟩ := hchecked.of_anchor hanchor
    have hmine := mem_attemptsOf.2 ⟨ha, hid⟩
    obtain ⟨hsuccess, hfirst, hreason, hstage⟩ := hresult.outcome.flawed hflawed a hmine
    refine ⟨hsuccess, hfirst, hstage, hreason, fun c => ?_⟩
    rw [hresult.failsCheck (hchecked.valid.anchor anchor hanchor) hmine,
      hresult.outcome.killed hflawed]
  · obtain ⟨anchor, hanchor, hmine⟩ := hchecked.of_attempt ha
    obtain ⟨r, -, hresult⟩ := hchecked.of_anchor hanchor
    have hvalid := hchecked.valid.anchor anchor hanchor
    have hother : b ∈ attemptsOf attempts anchor.anchorId :=
      mem_attemptsOf.2 ⟨hb, hid.symm.trans (mem_attemptsOf.1 hmine).2⟩
    rw [hresult.failsCheck hvalid hmine, hresult.failsCheck hvalid hother]
  · obtain ⟨better, worse, hbetter, hworse, hlt⟩ := hchecked.path hpath
    obtain ⟨hb₁, hb₂⟩ := result?_spec hbetter
    obtain ⟨hw₁, hw₂⟩ := result?_spec hworse
    exact ⟨_, _, hchecked.reward hb₁ ha (hi.trans hb₂.symm),
      hchecked.reward hw₁ hb (hj.trans hw₂.symm), hlt⟩
  · obtain ⟨better, worse, hbetter', hworse', hlt, hmargin⟩ := hchecked.ordering ho
    obtain ⟨hb₁, hb₂⟩ := result?_spec hbetter'
    obtain ⟨hw₁, hw₂⟩ := result?_spec hworse'
    exact ⟨_, _, hchecked.reward hb₁ ha (hbetter.trans hb₂.symm),
      hchecked.reward hw₁ hb (hworse.trans hw₂.symm), hlt, hmargin⟩

/-! ## A complete qualification

Four repair tasks, two in each partition, with one anchor of each role and two
runs of each anchor. Files are told apart by two bytes, which their digest
spells. The validators are evaluated once for each task and each planned
failure; what tells the runs of an anchor apart, a name and a number, stays a
variable.
-/

/-- Digests that tell sealed bytes, bundles, evidence and jobs apart. -/
def numeric : Digests ℕ where
  sha256Json
    | .evidence e => (e.stages.map (·.durationMs)).sum
    | _ => 0
  publicTask t := t.prompt.sha256
  privateGrader g := g.referenceSource.sha256
  taskBundle a _ := a
  jsonSize _ := 0
  manifest m := m.evidence.sha256
  manifestSize _ := 0
  events _ := 1
  eventsSize _ := 0
  hex _ := ""
  request _ := 0
  suite _ := 0
  experiment _ := 0
  evaluationPlan _ := 0
  job j := j.restoreNonce
  zero := 0
  bytes
    | [a, b] => 16 * a.toNat + b.toNat
    | _ => 0
  plan _ := 0
  behavior _ := 0
  attempts _ := 0
  rewardText _ := ""

/-- `normalize_repository_identity` on texts. -/
def normalizeRepository (L : Corpus.Library) (repository : String) : Except String String :=
  (Corpus.normalizeRepositoryIdentity L repository.toList).map String.ofList

instance : Fintype AnchorRole := .ofList AnchorRole.all fun r => by cases r <;> decide

instance : Fintype Stage := .ofList stageOrder fun s => by cases s <;> decide

def sampleTasks : List (Fin 4) := [0, 1, 2, 3]

section Sample

variable (t : Fin 4) (r : AnchorRole) (i : Fin 2)

def letter (n : ℕ) : String := ["p", "a", "b", "c", "d", "e", "f", "g", "h", "i"].getD n ""

/-- The place of a role among the files of a repair task. -/
def AnchorRole.place : ℕ := AnchorRole.all.idxOf r + 1

def sourceFile (n : ℕ) : FileRef ℕ :=
  { path := letter n, sha256 := 16 * (t + 1) + n, sizeBytes := 2 }

def sampleTask : TaskBundle ℕ :=
  repairTask (letter (t + 1)) (if t < 2 then .calibration else .validation) (sourceFile t)
    [("c", "a")] fun _ => .functional

/-- The two bytes of the file in that place. -/
def sealedFile (projection : String) (n : ℕ) : (String × String) × List UInt8 :=
  ((projection, letter n), [UInt8.ofNat (t + 1), UInt8.ofNat n])

def sampleSealed : SealedBundle ℕ :=
  ⟨sampleTask t, [sealedFile t "public" 0, sealedFile t "public" 1] ++
    [2, 3, 4, 5, 6, 7, 8, 9].map (sealedFile t "grader")⟩

def sampleTaskContract : ScoringContract ℕ := (sampleTask t).plan.contract

def taskKey : TaskKey ℕ := ⟨letter (t + 1), "v", (sourceFile t 0).sha256⟩

def sampleAuthority : TaskAuthority ℕ :=
  { bundle := sampleTask t
    suiteTask :=
      { taskId := letter (t + 1), taskVersion := "v", taskBundleSha256 := (sourceFile t 0).sha256
        evaluationPlanSha256 := 0, scoringContractSha256 := 0, family := .repair
        rootCause := some "r", programType := "xdp", clusterId := letter (t + 1) }
    evaluationPlan := (sampleTask t).plan
    contract := sampleTaskContract t }

def sampleSuite : SuiteManifest ℕ :=
  { suiteId := sampleId, environmentId := sampleId, family := .repair, rootCauseTaxonomy := ["r"]
    tasks := sampleTasks.map fun t => (sampleAuthority t).suiteTask }

/-! ### Anchors -/

def functionalIdentity : CheckIdentity := ⟨.functional, "functional/c/a"⟩

def semanticIdentity : CheckIdentity := ⟨.semantics, "semantics/o"⟩

/-- Where the solution of a role fails, and for which reason. -/
def plannedFailure : AnchorRole → Option (Stage × String)
  | .mutant => some (.verifier, sampleId)
  | .partialFix => some (.semantics, sampleId)
  | .reference | .alternative => none
  | _ => some (.functional, "HACK_")

/-- The checks that the solution of a role fails. -/
def sampleFailedChecks : AnchorRole → List CheckIdentity
  | .mutant | .reference | .alternative => []
  | .partialFix => [semanticIdentity]
  | _ => [functionalIdentity]

/-- What each role earns. -/
def sampleReward : AnchorRole → ℚ
  | .mutant => 0
  | .partialFix => 1 / 10
  | .reference | .alternative => 1
  | _ => -1

def samplePartition : AnchorPartition := if t < 2 then .calibration else .validation

def sampleAnchorId : String := letter (t + 1) ++ letter r.place

/-- The nonce of a run, which tells it from all others. -/
def runNumber : ℕ := 32 * (t + 1) + 2 * r.place + i

def sampleAnchor : QualificationAnchorPlan ℕ :=
  { anchorId := sampleAnchorId t r
    partition := samplePartition t
    role := r
    task := taskKey t
    evaluationPlanSha256 := 0
    scoringContractSha256 := 0
    candidate := candidateIdentity (sourceFile t r.place)
    expectedFirstFailure := (plannedFailure r).map (·.1)
    expectedFailureReason := (plannedFailure r).map (·.2)
    expectedFailedChecks := sampleFailedChecks r
    jobs := [⟨0, runNumber t r 0⟩, ⟨1, runNumber t r 1⟩] }

def sampleOrderings : List RewardOrderingConstraint :=
  ((AnchorRole.all.filter fun r => !r.fullSolution).map fun r =>
    ⟨sampleAnchorId t .reference, sampleAnchorId t r, 0⟩) ++
  AnchorRole.behaviorBaselines.map fun r =>
    ⟨sampleAnchorId t .partialFix, sampleAnchorId t r, 0⟩

def sampleAnchors : List (Fin 4 × AnchorRole) :=
  sampleTasks.flatMap fun t => AnchorRole.all.map fun r => (t, r)

def samplePlan : GraderQualificationPlan ℕ :=
  { qualificationId := sampleId, suiteId := sampleId, suiteManifestSha256 := 0
    rewardPolicyId := rewardV1.policyId, rewardPolicySha256 := 0, environmentId := sampleId
    environmentSha256 := 0, graderId := 0, harnessCommit := sampleCommit
    anchors := sampleAnchors.map fun x => sampleAnchor x.1 x.2
    witnesses := sampleTasks.flatMap fun t =>
      [⟨samplePartition t, taskKey t, functionalIdentity⟩,
        ⟨samplePartition t, taskKey t, semanticIdentity⟩]
    rewardOrderings := sampleTasks.flatMap sampleOrderings }

/-! ### Attempts -/

def sampleExperiment : ExperimentManifest ℕ :=
  { experimentId := sampleId, suiteId := sampleId, suiteManifestSha256 := 0, modelId := sampleId
    modelArtifactSha256 := 0, samplingConfigSha256 := 0, diagnosticCondition := .none
    rewardPolicyId := rewardV1.policyId, rewardPolicySha256 := 0, environmentSha256 := 0
    harnessCommit := sampleCommit, expectedGraderId := 0
    seedPlans := [⟨0, sampleId, 0, [0]⟩], reportedK := [1] }

section Run

variable (n : ℕ) (id : String)

def sampleRunEvidence : EvaluationEvidence ℕ :=
  sampleRun (sampleTaskContract t) id ⟨(sourceFile t r.place).sha256, 2, "text/x-c"⟩
    (plannedFailure r) n

def sampleJob : EvaluationJobManifest ℕ :=
  { request := (sampleRunEvidence t r n id).request, requestSha256 := 0
    suite := sampleSuite, suiteSha256 := 0
    experiment := sampleExperiment, experimentSha256 := 0, environment := sampleMicrovm
    environmentSha256 := 0, rewardPolicy := rewardV1, rewardPolicySha256 := 0
    harnessCommit := sampleCommit, expectedGraderId := 0, restoreNonce := n
    plan := (sampleTask t).plan, planSha256 := 0, contract := sampleTaskContract t
    contractSha256 := 0
    blobs := [⟨(sourceFile t r.place).sha256, 2⟩, ⟨(sourceFile t 9).sha256, 2⟩]
    totalBlobBytes := 4 }

end Run

def runId : String := sampleAnchorId t r ++ letter (i + 1)

def sampleAttempt : GraderQualificationAttempt ℕ :=
  let n := runNumber t r i
  let e := sampleRunEvidence t r n (runId t r i)
  { anchorId := sampleAnchorId t r
    repeatIndex := i
    job := sampleJob t r n (runId t r i)
    evidence := e
    grade := scored numeric.toJob.toReplay.toTask.toDigests e (sampleTaskContract t) rewardV1
    manifest :=
      { evidence := ⟨n, 0, "application/json"⟩
        grade := ⟨0, 0, "application/json"⟩
        contract := ⟨0, 0, "application/json"⟩
        events := ⟨1, 0, "application/x-ndjson"⟩
        policy := ⟨0, 0, "application/json"⟩
        artifacts := runArtifacts e.request.candidate (sourceFile t 9).artifact }
    replayAnchor := ⟨n, n, 0, 0, 0⟩ }

def sampleRuns : List (GraderQualificationAttempt ℕ) := [sampleAttempt t r 0, sampleAttempt t r 1]

def sampleAttempts : List (GraderQualificationAttempt ℕ) :=
  sampleAnchors.flatMap fun x => sampleRuns x.1 x.2

/-! ### Jobs and evidence -/

theorem sampleMicrovm_validate : (sampleMicrovm : EnvironmentFingerprint ℕ).validate = .ok () :=
  rfl

theorem isStableId_runId : isStableId (runId t r i) := by
  fin_cases t <;> fin_cases i <;> cases r <;> rfl

theorem isStableId_letter : isStableId (letter (t + 1)) := by fin_cases t <;> rfl

theorem sampleTaskContract_validate : (sampleTaskContract t).validate = .ok () := by
  fin_cases t <;> rfl

theorem plannedFailure_mem :
    plannedFailure r ∈ [AnchorRole.mutant, .noOp, .partialFix, .reference].map plannedFailure := by
  cases r <;> decide

/-- The stages of a run, evaluated for each planned failure. -/
theorem stage_accepted (stage : Stage) :
    let s := stoppedStage (observedChecks (sampleTaskContract t)) (plannedFailure r) stage
    s.validate = .ok () ∧ matchStage (sampleTaskContract t) s = .ok () := by
  have hstages : ∀ t, ∀ failure ∈ [AnchorRole.mutant, .noOp, .partialFix, .reference].map
      plannedFailure, ∀ stage,
      (stoppedStage (observedChecks (sampleTaskContract t)) failure stage).validate = .ok () ∧
      matchStage (sampleTaskContract t)
        (stoppedStage (observedChecks (sampleTaskContract t)) failure stage) = .ok () := by
    decide +kernel
  exact hstages t _ (plannedFailure_mem r) stage

variable {n : ℕ} {id : String} (hid : isStableId id)

theorem sampleRunRequest_validate (n : ℕ) (hid : isStableId id) :
    (sampleRunEvidence t r n id).request.validate = .ok () := by
  have hletter : isStableId (letter (t + 1)) := isStableId_letter t
  have hversion : isStableId "v" := by decide
  have hmedia : lengthWithin 1 127 "text/x-c" := by decide
  simp [sampleRunEvidence, sampleRun, sampleRequest, EvaluationRequest.validate, refuse, hid,
    hletter, hversion, isStableId_sampleId, ArtifactRef.valid, hmedia, sampleTaskContract,
    EvaluationPlan.contract, TaskBundle.plan, sampleTask, repairTask]

theorem accepted_sample (n : ℕ) (hid : isStableId id) :
    Accepted numeric.toJob.toReplay.toTask.toDigests (sampleRunEvidence t r n id)
      (sampleTaskContract t) rewardV1 := by
  -- No check reads how long a stage lasted.
  have hstage : ∀ s ∈ (sampleRunEvidence t r n id).stages,
      s.validate = .ok () ∧ matchStage (sampleTaskContract t) s = .ok () := by
    intro s hs
    obtain ⟨stage, -, rfl⟩ := mem_map.1 hs
    exact stage_accepted t r stage
  refine ⟨?_, sampleTaskContract_validate t, rewardV1_validate, ?_⟩
  · unfold EvaluationEvidence.validate
    rw [seq_eq_ok, seq_eq_ok, seq_eq_ok, seq_eq_ok, seq_eq_ok]
    refine ⟨sampleRunRequest_validate t r n hid, sampleMicrovm_validate, ?_,
      forM_eq_ok.2 fun s hs => (hstage s hs).1, rfl, ?_⟩
    · simp [sampleRunEvidence, sampleRun, isCommit_sampleCommit, refuse]
    · cases r <;> rfl
  · unfold validateContract
    rw [if_neg (not_not_intro ⟨rfl, rfl, rfl⟩), forM_eq_ok]
    exact fun s hs => (hstage s hs).2

theorem sampleJob_validate (hn : n ≠ 0) (hid : isStableId id) :
    (sampleJob t r n id).validate numeric.toJob = .ok () := by
  have hplan : (sampleTask t).plan.validate numeric.toJob.toReplay.toTask = .ok () := by
    fin_cases t <;> rfl
  have hsuite : sampleSuite.validate = .ok () := rfl
  have hexperiment : sampleExperiment.validate = .ok () := rfl
  have hderived : scoringContractForPlan (sampleTask t).plan = .ok (sampleTaskContract t) :=
    constructContract_eq_ok.2 ⟨sampleTaskContract_validate t, rfl⟩
  unfold EvaluationJobManifest.validate
  rw [seq_eq_ok, seq_eq_ok, seq_eq_ok, seq_eq_ok, seq_eq_ok]
  refine ⟨?_, ?_, ?_, rfl, ?_, ?_⟩
  · unfold EvaluationJobManifest.validateFields
    simp only [seq_eq_ok]
    refine ⟨sampleRunRequest_validate t r n hid, hsuite, hexperiment, sampleMicrovm_validate,
      rewardV1_validate, ?_, hplan, sampleTaskContract_validate t, rfl⟩
    simp [sampleJob, isCommit_sampleCommit, refuse]
  · unfold EvaluationJobManifest.checkTask
    rw [seq_eq_ok, bind_eq_ok]
    refine ⟨?_, _, hderived, ?_⟩
    · simp [refuse, sampleJob, sampleMicrovm, sampleRunEvidence, sampleRun, sampleRequest,
        sampleEnvironment, numeric, hn, sampleTaskContract, EvaluationPlan.contract,
        TaskBundle.plan, sampleTask, repairTask]
    · simp [refuse, sampleJob, sampleRunEvidence, sampleRun, TaskBundle.plan, sampleTask,
        repairTask, sampleTaskContract, EvaluationPlan.contract]
  · simp [EvaluationJobManifest.checkExperiment, refuse, sampleJob, sampleMicrovm,
      sampleRunEvidence, sampleRun, sampleRequest, sampleEnvironment, numeric, sampleExperiment,
      sampleSuite, graderIdFor]
  · fin_cases t <;> rfl
  · fin_cases t <;> cases r <;> rfl

theorem sampleAttempt_job :
    (sampleAttempt t r i).job.validate numeric.toJob = .ok () :=
  sampleJob_validate t r (by unfold runNumber; omega) (isStableId_runId t r i)

theorem sampleAttempt_manifest : (sampleAttempt t r i).manifest.validate = .ok () := by
  have hmedia : ∀ media ∈ ["application/json", "application/x-ndjson", "text/x-c", octetStream],
      lengthWithin 1 127 media := by decide
  simp only [forall_mem_cons] at hmedia
  simp [ReplayManifest.validate, refuse, sampleAttempt, ArtifactRef.valid, hmedia, Dict.values,
    runArtifacts, FileRef.artifact, sampleRunEvidence, sampleRun]

theorem sampleAttempt_binds :
    bindsGraded numeric.toJob.toReplay (sampleAttempt t r i).manifest
      (sampleAttempt t r i).replayAnchor (sampleAttempt t r i).evidence (sampleAttempt t r i).grade
      (sampleTaskContract t) rewardV1 := by
  have hsum : ((sampleAttempt t r i).evidence.stages.map (·.durationMs)).sum = runNumber t r i := by
    simp [sampleAttempt, sampleRunEvidence, sampleRun, stageOrder]
  have hartifacts : (evidenceArtifacts (sampleAttempt t r i).evidence).all
      ((sampleAttempt t r i).manifest.artifacts.values.contains ·) := by
    fin_cases t <;> fin_cases i <;> cases r <;> rfl
  simp only [bindsGraded, hartifacts, modelArtifact, numeric, hsum]
  simp [sampleAttempt, sampleRunEvidence, sampleRun, runArtifacts, Dict.get?]

theorem sampleAttempt_validate : (sampleAttempt t r i).validate numeric = .ok () := by
  have hanchor : isStableId (sampleAnchorId t r) := by fin_cases t <;> cases r <;> rfl
  have haccepted := accepted_sample t r (runNumber t r i) (isStableId_runId t r i)
  unfold GraderQualificationAttempt.validate
  rw [seq_eq_ok, seq_eq_ok, seq_eq_ok, seq_eq_ok]
  refine ⟨?_, sampleAttempt_job t r i, haccepted.evidence,
    scored_validate haccepted.valid (RewardPolicy.valid_of_validate haccepted.policy),
    sampleAttempt_manifest t r i⟩
  have hrepeat : (i : ℕ) ≤ 15 := by omega
  simp [refuse, sampleAttempt, hanchor, hrepeat]

theorem sampleAttempt_binding :
    validateAttemptBinding numeric samplePlan sampleSuite rewardV1 (sampleAnchor t r)
      (sampleAuthority t) (sampleAttempt t r i) = .ok () := by
  have hjob : (sampleAnchor t r).jobs[(sampleAttempt t r i).repeatIndex]? =
      some ⟨i, runNumber t r i⟩ := by
    match i with
    | 0 => rfl
    | 1 => rfl
  have hbounds : validateManifestBounds numeric.toJob.toReplay (sampleAttempt t r i).manifest 0 =
      .ok () := by
    fin_cases t <;> fin_cases i <;> cases r <;> rfl
  unfold validateAttemptBinding
  simp only [hjob]
  rw [seq_eq_ok, seq_eq_ok, bind_eq_ok]
  refine ⟨sampleAttempt_job t r i, ?_, _, mapError_eq_ok.2 (scoreEvidence_eq_ok.2
    ⟨accepted_sample t r _ (isStableId_runId t r i), rfl⟩), ?_⟩
  · simp [refuse, sampleAttempt, sampleJob, sampleRunEvidence, sampleRun, sampleAnchor, samplePlan,
      sampleRequest, numeric, sampleAuthority, taskKey, candidateIdentity, sourceFile,
      sampleMicrovm, sampleTaskContract, EvaluationPlan.contract, TaskBundle.plan, sampleTask,
      repairTask]
  · rw [seq_eq_ok, seq_eq_ok, mapError_eq_ok]
    refine ⟨?_, ?_, ?_⟩
    · simp [refuse, sampleAttempt, sampleAuthority]
    · unfold validateReplayManifest
      rw [seq_eq_ok, mapError_eq_ok]
      exact ⟨sampleAttempt_manifest t r i, hbounds⟩
    · have hevents : (sampleAttempt t r i).manifest.events =
          eventsArtifact numeric.toJob.toReplay (sampleAttempt t r i).evidence := rfl
      simp [refuse, sampleAuthority, sampleAttempt_binds t r i, hevents]

theorem attemptsOf_sampleAttempts :
    attemptsOf sampleAttempts (sampleAnchorId t r) = sampleRuns t r := by
  fin_cases t <;> cases r <;> rfl

theorem authorityOf_sampleTasks :
    authorityOf (sampleTasks.map sampleAuthority) (taskKey t).taskBundleSha256 =
      some (sampleAuthority t) := by
  fin_cases t <;> rfl

def sampleResult : AnchorQualificationResult ℕ :=
  { anchorId := sampleAnchorId t r
    partition := samplePartition t
    role := r
    task := taskKey t
    candidate := candidateIdentity (sourceFile t r.place)
    strictSuccess := (plannedFailure r).isNone
    firstFailure := (plannedFailure r).map (·.1)
    trainingReward := sampleReward r
    failedChecks := sampleFailedChecks r
    behaviorSha256 := 0
    replays := (sampleRuns t r).map (replayDigest numeric) }

theorem sampleAnchor_outcome :
    validateAnchorOutcome numeric rewardV1 (sampleAnchor t r) (sampleRuns t r)
        (declaredChecks samplePlan (samplePartition t, taskKey t)) =
      .ok (sampleFailedChecks r, 0, sampleReward r) := by
  decide +kernel +revert

theorem sampleAnchor_qualify :
    qualifyAnchor numeric samplePlan sampleSuite rewardV1 (sampleTasks.map sampleAuthority)
      sampleAttempts (sampleAnchor t r) = .ok (sampleResult t r) := by
  have hmine : attemptsOf sampleAttempts (sampleAnchor t r).anchorId = sampleRuns t r :=
    attemptsOf_sampleAttempts t r
  have hsorted : sortOn (·.repeatIndex) (sampleRuns t r) = sampleRuns t r := by
    cases r <;> rfl
  have hauthority : authorityOf (sampleTasks.map sampleAuthority)
      (sampleAnchor t r).task.taskBundleSha256 = some (sampleAuthority t) :=
    authorityOf_sampleTasks t
  have hgrade : (sampleAttempt t r 0).grade.strictSuccess = some (plannedFailure r).isNone ∧
      (sampleAttempt t r 0).grade.firstFailure = (plannedFailure r).map (·.1) := by
    cases r <;> exact ⟨rfl, rfl⟩
  have hchecks : sortOn checkKey (sampleFailedChecks r) = sampleFailedChecks r := by
    cases r <;> rfl
  unfold qualifyAnchor
  simp only [hmine, hsorted, hauthority]
  rw [seq_eq_ok, seq_eq_ok, bind_eq_ok]
  refine ⟨rfl, forM_eq_ok.2 fun a ha => ?_, _, sampleAnchor_outcome t r, ?_⟩
  · rcases mem_pair.1 ha with rfl | rfl <;> exact sampleAttempt_binding t r _
  · simp only [sampleRuns, hgrade, hchecks]
    rfl

end Sample

theorem mem_sampleAttempts {a : GraderQualificationAttempt ℕ} (ha : a ∈ sampleAttempts) :
    ∃ t r i, a = sampleAttempt t r i := by
  obtain ⟨x, -, hx⟩ := mem_flatMap.1 ha
  rcases mem_pair.1 hx with rfl | rfl
  · exact ⟨_, _, _, rfl⟩
  · exact ⟨_, _, _, rfl⟩

def sampleResults : List (AnchorQualificationResult ℕ) :=
  sampleAnchors.map fun x => sampleResult x.1 x.2

theorem sampleQualification_ok : ∃ report,
    qualifyGrader numeric (normalizeRepository Corpus.asciiLibrary) samplePlan sampleSuite
      (sampleTasks.map sampleSealed) rewardV1 sampleAttempts = .ok report := by
  have hplan : samplePlan.validate numeric.hex = .ok () := by decide +kernel
  have hauthority : validateAuthority numeric (normalizeRepository Corpus.asciiLibrary) samplePlan
      sampleSuite (sampleTasks.map sampleSealed) = .ok (sampleTasks.map sampleAuthority) := by
    decide +kernel
  have hattempts : checkAttempts numeric sampleAttempts = .ok () := by decide +kernel
  have hset : checkAnchorSet samplePlan sampleAttempts = .ok () := by decide +kernel
  have hresults : samplePlan.anchors.mapM (qualifyAnchor numeric samplePlan sampleSuite rewardV1
      (sampleTasks.map sampleAuthority) sampleAttempts) = .ok sampleResults := by
    rw [mapM_eq_ok, samplePlan, sampleResults, map_map, map_map]
    exact map_congr_left fun x _ => sampleAnchor_qualify x.1 x.2
  have hcovered : (samplePlan.witnesses.mapM (coverWitness sampleResults)).toOption.isSome := by
    decide +kernel
  have hordered :
      (samplePlan.rewardOrderings.mapM (checkOrdering numeric sampleResults)).toOption.isSome := by
    decide +kernel
  obtain ⟨coverage, hcoverage⟩ := exists_ok_of_isSome hcovered
  obtain ⟨orderings, horderings⟩ := exists_ok_of_isSome hordered
  unfold qualifyGrader
  simp only [bind_eq_ok]
  refine ⟨_, (), hplan, (), rewardV1_validate, (), rfl, _, hauthority, _,
    boundedSnapshot_eq_ok.2 ⟨rfl, rfl⟩, (), forM_eq_ok.2 fun a ha => ?_, (), hattempts, (), hset, _,
    hresults, _, hcoverage, _, horderings, rfl⟩
  obtain ⟨t, r, i, rfl⟩ := mem_sampleAttempts ha
  exact sampleAttempt_validate t r i

theorem qualification_matrix : ∃ report,
    qualifyGrader numeric (normalizeRepository Corpus.asciiLibrary) samplePlan sampleSuite
      (sampleTasks.map sampleSealed) rewardV1 sampleAttempts = .ok report ∧
    Qualified numeric (normalizeRepository Corpus.asciiLibrary) samplePlan sampleSuite
      (sampleTasks.map sampleSealed) rewardV1 sampleAttempts report := by
  obtain ⟨report, hreport⟩ := sampleQualification_ok
  exact ⟨report, hreport, qualifyGrader_matrix _ _ _ _ _ _ _ report hreport⟩

end Bpe.Qualification
