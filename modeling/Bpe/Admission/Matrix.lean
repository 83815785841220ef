import Bpe.Admission.Symbolic

/-!
# What an admission report means

The checks of `admit_task` that look at more than one attempt are counts, sets
and lists without repetition, so `Accepted` and `Roles` say what they leave to
know without the order of the attempts. `RoleMatrix` is that knowledge in terms
of the task bundle.
-/

namespace Bpe.Admission

open Models Grading Bpe.Task Replay List

variable {D : Type} {attempts attempts' : List (AdmissionAttempt D)}

variable {a : AdmissionAttempt D}

theorem mem_byRole [DecidableEq D] {role : AdmissionRole} :
    a ∈ byRole attempts role ↔ a ∈ attempts ∧ a.role = role := by
  simp [byRole]

theorem perm_byRole [DecidableEq D] (h : attempts.Perm attempts') (role : AdmissionRole) :
    (byRole attempts role).Perm (byRole attempts' role) := h.filter _

def AdmissionAttempt.isReference (a : AdmissionAttempt D) : Prop :=
  a.role = .original ∨ a.role = .revert

theorem mem_reference [DecidableEq D] :
    a ∈ byRole attempts .original ++ byRole attempts .revert ↔ a ∈ attempts ∧ a.isReference := by
  simp only [mem_append, mem_byRole, AdmissionAttempt.isReference]
  tauto

/-! ## The checks of the roles -/

theorem requirePass_eq_ok {label : String} :
    requirePass a label = .ok () ↔ a.grade.strictSuccess = some true := by
  simp [requirePass, refuse_eq_ok]

theorem validateControlSet_eq_ok {plan : AdmissionPlan D} {supplied : List (AdmissionAttempt D)} :
    validateControlSet plan supplied = .ok () ↔
      (∀ a ∈ supplied, a.controlId.isSome) ∧
      sameSet (supplied.filterMap (·.controlId)) (plan.negativeControls.map (·.controlId)) ∧
      (supplied.filterMap (·.controlId)).Nodup := by
  simp [validateControlSet, refuse_eq_ok, Option.isSome_iff_ne_none]

theorem behaviorDigest_eq_ok {K : Digests D} {d : D} (h : behaviorDigest K a = .ok d) :
    ∃ projection, behaviorProjection a.evidence = .ok projection ∧ K.behavior projection = d := by
  unfold behaviorDigest at h
  cases hprojection : behaviorProjection a.evidence with
  | error e => rw [hprojection] at h; cases h
  | ok projection =>
    rw [hprojection] at h
    cases h
    exact ⟨projection, rfl, rfl⟩

section Checks

variable [DecidableEq D] {plan : AdmissionPlan D} {K : Digests D}

theorem validateReference_eq_ok {a : AdmissionAttempt D} :
    validateReference plan a = .ok () ↔
      a.candidate = plan.referenceCandidate ∧ a.grade.strictSuccess = some true := by
  unfold validateReference
  rw [seq_eq_ok, requirePass_eq_ok]
  simp [refuse_eq_ok]

theorem validateAlternatives_eq_ok {seen seen' : List (CandidateIdentity D)}
    {l : List (AdmissionAttempt D)} :
    validateAlternatives plan seen l = .ok seen' ↔
      seen' = (l.map (·.candidate)).reverse ++ seen ∧
      (∀ a ∈ l, a.candidate ∈ plan.alternativeCandidates ∧ a.grade.strictSuccess = some true) ∧
      (l.map (·.candidate)).Nodup ∧ ∀ a ∈ l, a.candidate ∉ seen := by
  induction l generalizing seen with
  | nil => simp [validateAlternatives, eq_comm]
  | cons a l ih =>
    rw [validateAlternatives, seq_eq_ok, seq_eq_ok, requirePass_eq_ok, ih]
    simp only [refuse_eq_ok, mem_cons, not_mem_nil, or_false, forall_eq_or_imp, forall_eq,
      Bool.not_eq_false', map_cons, nodup_cons, reverse_cons,
      append_assoc, cons_append, nil_append, mem_map, not_or, not_exists,
      not_and, contains_eq_mem, decide_eq_false_iff_not, decide_eq_true_eq]
    constructor
    · rintro ⟨⟨hplanned, hnew⟩, hpass, rfl, hl, hnodup, hfresh⟩
      exact ⟨rfl, ⟨⟨hplanned, hpass⟩, hl⟩, ⟨fun x hx => (hfresh x hx).1, hnodup⟩, hnew,
        fun x hx => (hfresh x hx).2⟩
    · rintro ⟨rfl, ⟨⟨hplanned, hpass⟩, hl⟩, ⟨hhead, hnodup⟩, hnew, hfresh⟩
      exact ⟨⟨hplanned, hnew⟩, hpass, rfl, hl, hnodup, fun x hx => ⟨hhead x hx, hfresh x hx⟩⟩

theorem referenceBehavior_eq_ok {originals reverts : List (AdmissionAttempt D)} {d : D} :
    referenceBehavior K originals reverts = .ok d ↔
      originals ≠ [] ∧ ∀ a, a ∈ originals ∨ a ∈ reverts → behaviorDigest K a = .ok d := by
  have hrevert : ∀ a : AdmissionAttempt D, (do
      let digest ← behaviorDigest K a
      refuse [(!decide (digest = d),
        "revert behavior differs from the reference projection")] : Except String Unit) = .ok () ↔
      behaviorDigest K a = .ok d := by
    intro a
    rw [bind_eq_ok]
    constructor
    · rintro ⟨digest, hdigest, hsame⟩
      have := refuse_at hsame 0 rfl
      simp only [Bool.not_eq_false', decide_eq_true_eq] at this
      rw [hdigest, this]
    · intro h
      exact ⟨d, h, by simp [refuse_eq_ok]⟩
  unfold referenceBehavior
  rw [bind_eq_ok]
  constructor
  · rintro ⟨digests, hdigests, hrest⟩
    rw [mapM_eq_ok] at hdigests
    split at hrest
    · next reference herase =>
      obtain ⟨hreverts, href⟩ := seq_eq_ok.1 hrest
      cases href
      obtain ⟨hne, hsame⟩ := eraseDups_eq_singleton.1 herase
      refine ⟨?_, fun a ha => ?_⟩
      · rintro rfl
        exact hne (map_eq_nil_iff.1 hdigests.symm)
      · rcases ha with ha | ha
        · have hmem : behaviorDigest K a ∈ digests.map Except.ok :=
            hdigests ▸ mem_map_of_mem ha
          obtain ⟨digest, hdigest, heq⟩ := mem_map.1 hmem
          rw [← heq, hsame digest hdigest]
        · exact (hrevert a).1 (forM_eq_ok.1 hreverts a ha)
    · cases hrest
  · rintro ⟨hne, hall⟩
    refine ⟨originals.map fun _ => d, ?_, ?_⟩
    · rw [mapM_eq_ok, map_map]
      exact map_congr_left fun a ha => hall a (.inl ha)
    · have hone : (originals.map fun _ => d).eraseDups = [d] :=
        eraseDups_eq_singleton.2 ⟨by simpa using hne, by simp⟩
      simp only [hone]
      exact seq_eq_ok.2 ⟨forM_eq_ok.2 fun a ha => (hrevert a).2 (hall a (.inr ha)), rfl⟩

/-- What the checks of the roles leave to know. -/
structure Roles (K : Digests D) (plan : AdmissionPlan D) (attempts : List (AdmissionAttempt D))
    (behavior : D) : Prop where
  counts : ∀ role, (byRole attempts role).length = plan.expectedCount role
  reference : ∀ a ∈ attempts, a.isReference →
    a.candidate = plan.referenceCandidate ∧ a.grade.strictSuccess = some true
  alternative : ∀ a ∈ byRole attempts .alternative, a.grade.strictSuccess = some true
  alternatives_nodup : ((byRole attempts .alternative).map (·.candidate)).Nodup
  alternatives : sameSet ((byRole attempts .alternative).map (·.candidate))
    plan.alternativeCandidates
  mutant : ∀ a ∈ byRole attempts .publicMutant, validateMutant plan a = .ok ()
  control_some : ∀ a ∈ byRole attempts .negativeControl, a.controlId.isSome
  controls_nodup : ((byRole attempts .negativeControl).filterMap (·.controlId)).Nodup
  controls : sameSet ((byRole attempts .negativeControl).filterMap (·.controlId))
    (plan.negativeControls.map (·.controlId))
  control : ∀ a ∈ byRole attempts .negativeControl, validateControl plan a = .ok ()
  originals : byRole attempts .original ≠ []
  behavior : ∀ a ∈ attempts, a.isReference → behaviorDigest K a = .ok behavior

theorem validatePublicMutant_eq_ok {l : List (AdmissionAttempt D)} (hl : l.length = 1) :
    validatePublicMutant plan l = .ok () ↔ ∀ a ∈ l, validateMutant plan a = .ok () := by
  obtain ⟨a, rfl⟩ := length_eq_one_iff.1 hl
  simp [validatePublicMutant]

theorem validateRoles_eq_ok {d : D} :
    validateRoles K plan attempts = .ok d ↔ Roles K plan attempts d := by
  have hcounts : AdmissionRole.all.any
      (fun r => (byRole attempts r).length != plan.expectedCount r) = false ↔
      ∀ role, (byRole attempts role).length = plan.expectedCount role := by
    rw [any_eq_false]
    simp only [bne_iff_ne, ne_eq, not_not]
    exact ⟨fun h role => h role (by cases role <;> decide), fun h role _ => h role⟩
  unfold validateRoles
  rw [seq_eq_ok, seq_eq_ok, bind_eq_ok, forM_eq_ok]
  constructor
  · rintro ⟨hcount, href, seen, hseen, hrest⟩
    rw [seq_eq_ok, seq_eq_ok, seq_eq_ok, seq_eq_ok] at hrest
    obtain ⟨hset, hmutant, hcontrols, hcontrol, hbehavior⟩ := hrest
    have hcount := hcounts.1 (refuse_at hcount 0 rfl)
    obtain ⟨rfl, halt, hnodup, -⟩ := validateAlternatives_eq_ok.1 hseen
    obtain ⟨hsome, hsame, honce⟩ := validateControlSet_eq_ok.1 hcontrols
    obtain ⟨horiginals, hbehavior⟩ := referenceBehavior_eq_ok.1 hbehavior
    have hset := refuse_at hset 0 rfl
    simp only [Bool.not_eq_false', append_nil] at hset
    exact
      { counts := hcount
        reference := fun a ha hrole =>
          validateReference_eq_ok.1 (href a (mem_reference.2 ⟨ha, hrole⟩))
        alternative := fun a ha => (halt a ha).2
        alternatives_nodup := hnodup
        alternatives := sameSet_iff.2 fun x => by
          rw [← sameSet_iff.1 hset x, mem_reverse]
        mutant := (validatePublicMutant_eq_ok (hcount .publicMutant)).1 hmutant
        control_some := hsome
        controls_nodup := honce
        controls := hsame
        control := forM_eq_ok.1 hcontrol
        originals := horiginals
        behavior := fun a ha hrole =>
          hbehavior a (mem_append.1 (mem_reference.2 ⟨ha, hrole⟩)) }
  · intro h
    refine ⟨refuse_eq_ok.2 fun c hc => ?_, fun a ha => ?_, _,
      validateAlternatives_eq_ok.2 ⟨rfl, fun a ha => ⟨?_, h.alternative a ha⟩, h.alternatives_nodup,
        fun a _ => by simp⟩, ?_⟩
    · rw [mem_singleton.1 hc]
      exact hcounts.2 h.counts
    · exact validateReference_eq_ok.2 (h.reference a (mem_reference.1 ha).1 (mem_reference.1 ha).2)
    · exact (sameSet_iff.1 h.alternatives _).1 (mem_map_of_mem ha)
    · rw [seq_eq_ok, seq_eq_ok, seq_eq_ok, seq_eq_ok]
      refine ⟨refuse_eq_ok.2 fun c hc => ?_, (validatePublicMutant_eq_ok (h.counts _)).2 h.mutant,
        validateControlSet_eq_ok.2 ⟨h.control_some, h.controls, h.controls_nodup⟩,
        forM_eq_ok.2 h.control, referenceBehavior_eq_ok.2 ⟨h.originals, fun a ha => ?_⟩⟩
      · rw [mem_singleton.1 hc, Bool.not_eq_false', sameSet_iff]
        intro x
        rw [append_nil, mem_reverse]
        exact sameSet_iff.1 h.alternatives x
      · obtain ⟨hmem, hrole⟩ := mem_reference.1 (mem_append.2 ha)
        exact h.behavior a hmem hrole

/-- The roles do not depend on the order of the attempts. -/
theorem Roles.perm {d : D} (h : Roles K plan attempts d) (hperm : attempts.Perm attempts') :
    Roles K plan attempts' d := by
  have hrole := perm_byRole hperm
  have hmem : ∀ {role : AdmissionRole} {a : AdmissionAttempt D},
      a ∈ byRole attempts' role → a ∈ byRole attempts role :=
    fun {role} {a} ha => (hrole role).symm.subset ha
  exact
    { counts := fun role => (hrole role).length_eq ▸ h.counts role
      reference := fun a ha => h.reference a (hperm.symm.subset ha)
      alternative := fun a ha => h.alternative a (hmem ha)
      alternatives_nodup := ((hrole _).map _).nodup_iff.1 h.alternatives_nodup
      alternatives := sameSet_iff.2 fun x => by
        rw [← sameSet_iff.1 h.alternatives x, ((hrole _).map _).mem_iff]
      mutant := fun a ha => h.mutant a (hmem ha)
      control_some := fun a ha => h.control_some a (hmem ha)
      controls_nodup := ((hrole _).filterMap _).nodup_iff.1 h.controls_nodup
      controls := sameSet_iff.2 fun x => by
        rw [← sameSet_iff.1 h.controls x, ((hrole _).filterMap _).mem_iff]
      control := fun a ha => h.control a (hmem ha)
      originals := fun hnil => h.originals (perm_nil.1 (hnil ▸ hrole .original))
      behavior := fun a ha => h.behavior a (hperm.symm.subset ha) }

end Checks

/-! ## The whole admission -/

section Admit

variable [LinearOrder D] {K : Digests D} {b : TaskBundle D} {c : ScoringContract D}
  {p : RewardPolicy} {plan : AdmissionPlan D} {r : AdmissionReport D}

/-- What the checks before those of the roles leave to know. -/
structure Accepted (K : Digests D) (b : TaskBundle D) (c : ScoringContract D) (p : RewardPolicy)
    (plan : AdmissionPlan D) (attempts : List (AdmissionAttempt D)) : Prop where
  bundle : frozenBundle K.toReplay.toTask b = .ok ()
  contract : c.validate = .ok ()
  policy : p.validate = .ok ()
  planned : plan.validate = .ok ()
  derived : buildScoringContract b = .ok c
  binds : validatePlan K.toReplay.toTask.toDigests plan b c p = .ok ()
  attempt : ∀ a ∈ attempts, a.validate K.toReplay.toTask.toDigests = .ok ()
  nonempty : attempts ≠ []
  requests : (attempts.map (·.evidence.request.requestId)).Nodup
  manifests : (attempts.map (·.anchor.manifestSha256)).Nodup
  episodes : (attempts.map (·.evidence.request.episodeId)).Nodup
  turn : ∀ a ∈ attempts, a.evidence.request.attemptIndex = 0 ∧
    a.evidence.request.parentRequestId = none
  shared : ∀ a ∈ attempts, validateSharedIdentity K plan b c p a = .ok ()

theorem validateIndependence_eq_ok : validateIndependence attempts = .ok () ↔
    attempts ≠ [] ∧ (attempts.map (·.evidence.request.requestId)).Nodup ∧
    (attempts.map (·.anchor.manifestSha256)).Nodup ∧
    (attempts.map (·.evidence.request.episodeId)).Nodup ∧
    ∀ a ∈ attempts, a.evidence.request.attemptIndex = 0 ∧
      a.evidence.request.parentRequestId = none := by
  simp [validateIndependence, refuse_eq_ok]

theorem admitTask_eq_ok :
    admitTask K b c p plan attempts = .ok r ↔
      Accepted K b c p plan attempts ∧
      ∃ d, Roles K plan attempts d ∧ r = report K b c p plan d (sortOn sortKey attempts) := by
  unfold admitTask
  rw [seq_eq_ok, seq_eq_ok, seq_eq_ok, seq_eq_ok, bind_eq_ok]
  constructor
  · rintro ⟨hbundle, hcontract, hpolicy, hplanned, derived, hderived, hrest⟩
    rw [seq_eq_ok, seq_eq_ok, seq_eq_ok, seq_eq_ok, seq_eq_ok, bind_eq_ok] at hrest
    obtain ⟨hsame, hplan, hattempts, hindependent, hshared, d, hroles, hreport⟩ := hrest
    have hsame := refuse_at hsame 0 rfl
    simp only [Bool.not_eq_false', decide_eq_true_eq] at hsame
    subst hsame
    obtain ⟨hne, hrequests, hmanifests, hepisodes, hturn⟩ :=
      validateIndependence_eq_ok.1 hindependent
    cases hreport
    exact ⟨⟨hbundle, hcontract, hpolicy, hplanned, hderived, hplan, forM_eq_ok.1 hattempts, hne,
      hrequests, hmanifests, hepisodes, hturn, forM_eq_ok.1 hshared⟩, d,
      validateRoles_eq_ok.1 hroles, rfl⟩
  · rintro ⟨h, d, hroles, rfl⟩
    refine ⟨h.bundle, h.contract, h.policy, h.planned, c, h.derived, ?_⟩
    rw [seq_eq_ok, seq_eq_ok, seq_eq_ok, seq_eq_ok, seq_eq_ok, bind_eq_ok]
    exact ⟨by simp [refuse_eq_ok], h.binds, forM_eq_ok.2 h.attempt,
      validateIndependence_eq_ok.2 ⟨h.nonempty, h.requests, h.manifests, h.episodes, h.turn⟩,
      forM_eq_ok.2 h.shared, d, validateRoles_eq_ok.2 hroles, rfl⟩

theorem Accepted.perm (h : Accepted K b c p plan attempts) (hperm : attempts.Perm attempts') :
    Accepted K b c p plan attempts' :=
  { h with
    attempt := fun a ha => h.attempt a (hperm.symm.subset ha)
    nonempty := fun hnil => h.nonempty (perm_nil.1 (hnil ▸ hperm))
    requests := (hperm.map _).nodup_iff.1 h.requests
    manifests := (hperm.map _).nodup_iff.1 h.manifests
    episodes := (hperm.map _).nodup_iff.1 h.episodes
    turn := fun a ha => h.turn a (hperm.symm.subset ha)
    shared := fun a ha => h.shared a (hperm.symm.subset ha) }

/-- No two attempts of an admission sort alike, since they differ in the request. -/
theorem Accepted.sortKey_nodup (h : Accepted K b c p plan attempts) :
    (attempts.map sortKey).Nodup := by
  let request : String ×ₗ String ×ₗ D ×ₗ String → String :=
    fun k => (ofLex (ofLex (ofLex k).2).2).2
  apply List.Nodup.of_map request
  rw [map_map]
  exact h.requests

theorem admitTask_perm (h : admitTask K b c p plan attempts = .ok r)
    (hperm : attempts.Perm attempts') : admitTask K b c p plan attempts' = .ok r := by
  obtain ⟨haccepted, d, hroles, rfl⟩ := admitTask_eq_ok.1 h
  refine admitTask_eq_ok.2 ⟨haccepted.perm hperm, d, hroles.perm hperm, ?_⟩
  rw [sortOn_eq_of_perm haccepted.sortKey_nodup hperm]

theorem Accepted.grade (h : Accepted K b c p plan attempts) {a : AdmissionAttempt D}
    (ha : a ∈ attempts) :
    scoreEvidence K.toReplay.toTask.toDigests a.evidence c p = .ok a.grade := by
  have hshared := h.shared a ha
  unfold validateSharedIdentity at hshared
  rw [seq_eq_ok, bind_eq_ok] at hshared
  obtain ⟨-, expected, hscore, hgrade⟩ := hshared
  have hgrade := refuse_at hgrade 0 rfl
  simp only [Bool.not_eq_false', decide_eq_true_eq] at hgrade
  rw [hscore, hgrade]

/-! ## The matrix -/

/-- The exact matrix of roles over the sources of a task bundle. Roles are the
five of `AdmissionRole`, so that no attempt stands outside it. -/
structure RoleMatrix (b : TaskBundle D) (originalRepeats : Nat)
    (attempts : List (AdmissionAttempt D)) : Prop where
  originals : (byRole attempts .original).length = originalRepeats
  revert : (byRole attempts .revert).length = 1
  reference : ∀ a ∈ attempts, a.isReference →
    a.candidate = candidateIdentity b.privateGrader.referenceSource ∧
    a.grade.strictSuccess = some true
  behavior : ∃ projection, ∀ a ∈ attempts, a.isReference →
    behaviorProjection a.evidence = .ok projection
  alternatives : ((byRole attempts .alternative).map (·.candidate)).Perm
    (b.privateGrader.validAlternatives.map candidateIdentity).dedup
  alternative : ∀ a ∈ byRole attempts .alternative, a.grade.strictSuccess = some true
  mutant : ∃ a, byRole attempts .publicMutant = [a] ∧
    b.publicTask.starterSource.map candidateIdentity = some a.candidate ∧
    a.outcome .ingest = some .pass ∧ a.outcome .compile = some .pass ∧
    a.outcome .objectPolicy = some .pass ∧ a.outcome .verifier = some .fail
  controls : ((byRole attempts .negativeControl).map (·.controlId)).Perm
    (b.privateGrader.negativeControls.map fun k => some k.controlId)
  control : ∀ a ∈ byRole attempts .negativeControl, ∀ k ∈ b.privateGrader.negativeControls,
    a.controlId = some k.controlId → a.candidate = candidateIdentity k.source ∧
      (∀ s : Stage, s.index < k.expectedFirstFailure.index → a.outcome s = some .pass) ∧
      a.outcome k.expectedFirstFailure = some .fail
  distinct : ∀ a ∈ attempts, ∀ a' ∈ attempts, a.candidate = a'.candidate →
    a.role = a'.role ∨ a.isReference ∧ a'.isReference

/-- What `_validate_plan` says of the sources. -/
structure PlanMatches (plan : AdmissionPlan D) (b : TaskBundle D) : Prop where
  reference : plan.referenceCandidate = candidateIdentity b.privateGrader.referenceSource
  mutant : some plan.publicMutantCandidate = b.publicTask.starterSource.map candidateIdentity
  alternatives : sameSet plan.alternativeCandidates
    (b.privateGrader.validAlternatives.map candidateIdentity)
  controls : sameSet (plannedControls plan) (expectedControls b)

theorem planMatches_of_validatePlan {K : Grading.Digests D}
    (h : validatePlan K plan b c p = .ok ()) : PlanMatches plan b :=
  ⟨by simpa using refuse_at h 4 rfl, by simpa using refuse_at h 5 rfl,
    by simpa using refuse_at h 6 rfl, by simpa using refuse_at h 7 rfl⟩

theorem mem_priorStages {target s : Stage} (h : s.index < target.index) :
    s ∈ priorStages target := by
  revert h
  cases target <;> cases s <;> decide

/-- One digest of all the behaviors is one behavior, as no two share a digest. -/
theorem Roles.projection (hK : Function.Injective K.behavior) {d : D}
    (h : Roles K plan attempts d) : ∃ projection, ∀ a ∈ attempts, a.isReference →
      behaviorProjection a.evidence = .ok projection := by
  obtain ⟨first, hfirst⟩ := exists_mem_of_ne_nil _ h.originals
  obtain ⟨hmem, hrole⟩ := mem_byRole.1 hfirst
  obtain ⟨projection, -, hdigest⟩ := behaviorDigest_eq_ok (h.behavior first hmem (.inl hrole))
  refine ⟨projection, fun a ha hrole => ?_⟩
  obtain ⟨other, hother, hsame⟩ := behaviorDigest_eq_ok (h.behavior a ha hrole)
  rw [hother, hK (hsame.trans hdigest.symm)]

theorem validateMutant_outcomes {a : AdmissionAttempt D} (h : validateMutant plan a = .ok ()) :
    a.candidate = plan.publicMutantCandidate ∧ a.outcome .ingest = some .pass ∧
      a.outcome .compile = some .pass ∧ a.outcome .objectPolicy = some .pass ∧
      a.outcome .verifier = some .fail := by
  have hcandidate := refuse_at h 0 rfl
  have houtcomes := refuse_at h 1 rfl
  simp only [Bool.not_eq_false', decide_eq_true_eq] at hcandidate
  simp only [Bool.or_eq_false_iff, bne_eq_false_iff_eq, any_cons, any_nil,
    Bool.or_false] at houtcomes
  exact ⟨hcandidate, houtcomes.1.2.1, houtcomes.1.2.2.1, houtcomes.1.2.2.2, houtcomes.2⟩

/-- A control run is one of a planned control, and failed where that control is
to fail. -/
theorem validateControl_outcomes {a : AdmissionAttempt D} (h : validateControl plan a = .ok ()) :
    ∃ k ∈ plan.negativeControls, a.controlId = some k.controlId ∧ a.candidate = k.candidate ∧
      (∀ s : Stage, s.index < k.expectedFirstFailure.index → a.outcome s = some .pass) ∧
      a.outcome k.expectedFirstFailure = some .fail := by
  unfold validateControl at h
  split at h
  · cases h
  · next k hk =>
    have hid := find?_some hk
    have hcandidate := refuse_at h 0 rfl
    have houtcomes := refuse_at h 1 rfl
    simp only [decide_eq_true_eq] at hid
    simp only [Bool.not_eq_false', decide_eq_true_eq] at hcandidate
    simp only [Bool.or_eq_false_iff, bne_eq_false_iff_eq, Bool.not_eq_false', all_eq_true,
      beq_iff_eq] at houtcomes
    exact ⟨k, mem_of_find?_eq_some hk, hid.symm, hcandidate,
      fun s hs => houtcomes.1.1.1.1 s (mem_priorStages hs), houtcomes.1.1.1.2⟩

theorem Accepted.control_ids_nodup (h : Accepted K b c p plan attempts) :
    (b.privateGrader.negativeControls.map (·.controlId)).Nodup := by
  have hbundle := h.bundle
  unfold frozenBundle at hbundle
  rw [seq_eq_ok, seq_eq_ok] at hbundle
  simpa using refuse_at hbundle.2.1 12 rfl

theorem PlanMatches.control_ids (h : PlanMatches plan b) (x : String) :
    x ∈ plan.negativeControls.map (·.controlId) ↔
      x ∈ b.privateGrader.negativeControls.map (·.controlId) := by
  have hplanned : (plannedControls plan).map (·.1) = plan.negativeControls.map (·.controlId) :=
    map_map
  have hexpected : (expectedControls b).map (·.1) =
      b.privateGrader.negativeControls.map (·.controlId) := map_map
  rw [← hplanned, ← hexpected, mem_map, mem_map]
  simp only [sameSet_iff.1 h.controls]

theorem Roles.controls_perm {d : D} (h : Roles K plan attempts d)
    (haccepted : Accepted K b c p plan attempts) (hplan : PlanMatches plan b) :
    ((byRole attempts .negativeControl).map (·.controlId)).Perm
      (b.privateGrader.negativeControls.map fun k => some k.controlId) := by
  have hids : ((byRole attempts .negativeControl).filterMap (·.controlId)).Perm
      (b.privateGrader.negativeControls.map (·.controlId)) := by
    refine perm_of_sameSet h.controls_nodup haccepted.control_ids_nodup (sameSet_iff.2 fun x => ?_)
    rw [sameSet_iff.1 h.controls x, hplan.control_ids x]
  rw [map_eq_map_some h.control_some]
  have := hids.map some
  rwa [map_map] at this

theorem PlanMatches.control (h : PlanMatches plan b)
    (hids : (b.privateGrader.negativeControls.map (·.controlId)).Nodup)
    {planned : PlannedNegativeControl D} (hplanned : planned ∈ plan.negativeControls)
    {k : NegativeControl D} (hk : k ∈ b.privateGrader.negativeControls)
    (hid : planned.controlId = k.controlId) :
    planned.candidate = candidateIdentity k.source ∧
      planned.expectedFirstFailure = k.expectedFirstFailure := by
  have hmem : (planned.controlId, planned.candidate, planned.expectedFirstFailure) ∈
      expectedControls b := (sameSet_iff.1 h.controls _).1 (mem_map_of_mem hplanned)
  obtain ⟨declared, hdeclared, heq⟩ := mem_map.1 hmem
  simp only [Prod.mk.injEq] at heq
  have hsame : declared = k := inj_on_of_nodup_map hids hdeclared hk (heq.1.trans hid)
  subst hsame
  exact ⟨heq.2.1.symm, heq.2.2.symm⟩

/-- The candidates that a plan has for a role. -/
def AdmissionPlan.candidates (plan : AdmissionPlan D) : AdmissionRole → List (CandidateIdentity D)
  | .original | .revert => [plan.referenceCandidate]
  | .alternative => plan.alternativeCandidates
  | .publicMutant => [plan.publicMutantCandidate]
  | .negativeControl => plan.negativeControls.map (·.candidate)

theorem Roles.planned {d : D} (h : Roles K plan attempts d) {a : AdmissionAttempt D}
    (ha : a ∈ attempts) : a.candidate ∈ plan.candidates a.role := by
  cases hrole : a.role with
  | original => exact mem_singleton.2 (h.reference a ha (.inl hrole)).1
  | revert => exact mem_singleton.2 (h.reference a ha (.inr hrole)).1
  | alternative =>
    exact (sameSet_iff.1 h.alternatives _).1 (mem_map_of_mem (mem_byRole.2 ⟨ha, hrole⟩))
  | publicMutant =>
    exact mem_singleton.2 (validateMutant_outcomes (h.mutant a (mem_byRole.2 ⟨ha, hrole⟩))).1
  | negativeControl =>
    obtain ⟨k, hk, -, hcandidate, -⟩ :=
      validateControl_outcomes (h.control a (mem_byRole.2 ⟨ha, hrole⟩))
    exact mem_map.2 ⟨k, hk, hcandidate.symm⟩

/-- Only the original and the revert runs share a candidate with another role. -/
theorem AdmissionPlan.role_of_candidate (h : plan.validate = .ok ()) {x : CandidateIdentity D}
    {role role' : AdmissionRole} (hx : x ∈ plan.candidates role) (hx' : x ∈ plan.candidates role') :
    role = role' ∨ role ∈ [.original, .revert] ∧ role' ∈ [.original, .revert] := by
  have hnodup : (plan.referenceCandidate :: plan.publicMutantCandidate ::
      (plan.alternativeCandidates ++ plan.negativeControls.map (·.candidate))).Nodup := by
    simpa only [Bool.not_eq_false', decide_eq_true_eq] using refuse_at h 11 rfl
  simp only [nodup_cons, nodup_append, mem_cons, mem_append, not_or] at hnodup
  obtain ⟨⟨hmutant, hreference⟩, ⟨halternative, hcontrol⟩, -, -, hapart⟩ := hnodup
  cases role <;> cases role' <;> simp only [candidates, mem_singleton] at hx hx' <;> grind

theorem roleMatrix_of_accepted (hK : Function.Injective K.behavior) {d : D}
    (haccepted : Accepted K b c p plan attempts) (h : Roles K plan attempts d) :
    RoleMatrix b plan.originalRepeats attempts := by
  have hplan := planMatches_of_validatePlan haccepted.binds
  refine
    { originals := h.counts .original
      revert := h.counts .revert
      reference := fun a ha hrole => hplan.reference ▸ h.reference a ha hrole
      behavior := h.projection hK
      alternatives := ?_
      alternative := h.alternative
      mutant := ?_
      controls := h.controls_perm haccepted hplan
      control := ?_
      distinct := ?_ }
  · refine perm_of_sameSet h.alternatives_nodup (nodup_dedup _) (sameSet_iff.2 fun x => ?_)
    rw [mem_dedup, ← sameSet_iff.1 hplan.alternatives x, sameSet_iff.1 h.alternatives x]
  · obtain ⟨a, ha⟩ := length_eq_one_iff.1 (h.counts .publicMutant)
    obtain ⟨hcandidate, houtcomes⟩ :=
      validateMutant_outcomes (h.mutant a (ha ▸ mem_singleton_self a))
    exact ⟨a, ha, hcandidate ▸ hplan.mutant.symm, houtcomes⟩
  · intro a ha k hk hid
    obtain ⟨planned, hplanned, hplannedId, hcandidate, hprior, hfail⟩ :=
      validateControl_outcomes (h.control a ha)
    have hsame : planned.controlId = k.controlId := by
      rw [hplannedId] at hid
      exact Option.some.inj hid
    obtain ⟨hsource, hstage⟩ := hplan.control haccepted.control_ids_nodup hplanned hk hsame
    rw [← hsource, ← hstage]
    exact ⟨hcandidate, hprior, hfail⟩
  · intro a ha a' ha' hsame
    simpa [AdmissionAttempt.isReference] using
      plan.role_of_candidate haccepted.planned (h.planned ha) (hsame ▸ h.planned ha')

/-- A report means that the exact matrix of roles held: the attempts play the
roles of the bundle's sources and no others, their grades are the scores of
their evidence under the contract of the task, they are separate runs, and no
order of them gives another report. -/
theorem admitTask_matrix (K : Digests D) (hK : Function.Injective K.behavior) (b : TaskBundle D)
    (c : ScoringContract D) (p : RewardPolicy) (plan : AdmissionPlan D)
    (attempts : List (AdmissionAttempt D)) (r : AdmissionReport D)
    (h : admitTask K b c p plan attempts = .ok r) :
    RoleMatrix b plan.originalRepeats attempts ∧
    (∃ derived, buildScoringContract b = .ok derived ∧ ∀ a ∈ attempts,
      scoreEvidence K.toReplay.toTask.toDigests a.evidence derived p = .ok a.grade) ∧
    (attempts.map (·.evidence.request.requestId)).Nodup ∧
    (attempts.map (·.evidence.request.episodeId)).Nodup ∧
    (attempts.map (·.anchor.manifestSha256)).Nodup ∧
    ∀ attempts', attempts.Perm attempts' → admitTask K b c p plan attempts' = .ok r := by
  obtain ⟨haccepted, d, hroles, -⟩ := admitTask_eq_ok.1 h
  exact ⟨roleMatrix_of_accepted hK haccepted hroles,
    ⟨c, haccepted.derived, fun a ha => haccepted.grade ha⟩, haccepted.requests,
    haccepted.episodes, haccepted.manifests, fun _ hperm => admitTask_perm h hperm⟩

end Admit

/-! ## A complete matrix -/

/-- Digests that tell evidence apart by its request, and behaviors by what they
are. -/
def symbolic : Digests Term where
  sha256Json
    | .evidence e => .text e.request.requestId
    | _ => .num 0
  publicTask _ := .num 0
  privateGrader _ := .num 0
  taskBundle _ _ := .num 0
  jsonSize _ := 0
  manifest m := m.evidence.sha256
  manifestSize _ := 0
  events _ := .num 0
  eventsSize _ := 0
  hex _ := ""
  plan _ := .num 0
  behavior := BehaviorProjection.term
  attempts _ := .num 0

def sampleFile (size : Nat) : FileRef Term := { path := "f", sha256 := .num 0, sizeBytes := size }

def controlFailure : ControlKind → Stage
  | .noOp | .deleteOperation => .functional
  | _ => .semantics

/-- A repair task; its sources differ in their sizes. -/
def matrixBundle : TaskBundle Term := repairTask "t" .train sampleFile [("c", "a")] controlFailure

def matrixContract : ScoringContract Term := matrixBundle.plan.contract

def matrixAttempt (role : AdmissionRole) (controlId : Option String) (id : String) (size : Nat)
    (stop : Option Stage) : AdmissionAttempt Term :=
  let e := sampleRun matrixContract id ⟨.num 0, size, octetStream⟩ (stop.map (·, sampleId)) 0
  let g := scored symbolic.toReplay.toTask.toDigests e matrixContract rewardV1
  let m : ReplayManifest Term :=
    { evidence := modelArtifact symbolic.toReplay (.evidence e)
      grade := modelArtifact symbolic.toReplay (.grade g)
      contract := modelArtifact symbolic.toReplay (.contract matrixContract)
      events := eventsArtifact symbolic.toReplay e
      policy := modelArtifact symbolic.toReplay (.policy rewardV1)
      artifacts := runArtifacts e.request.candidate (sampleFile 9).artifact }
  { role, controlId, evidence := e, grade := g, manifest := m
    anchor := ⟨.text id, .text id, .num 0, .num 0, .num 0⟩ }

def matrixAttempts : List (AdmissionAttempt Term) :=
  [matrixAttempt .original none "o1" 7 none, matrixAttempt .original none "o2" 7 none,
    matrixAttempt .revert none "r" 7 none, matrixAttempt .alternative none "a" 8 none,
    matrixAttempt .publicMutant none "m" 1 (some .verifier)] ++
  matrixBundle.privateGrader.negativeControls.map fun k =>
    matrixAttempt .negativeControl (some k.controlId) k.controlId k.source.sizeBytes
      (some k.expectedFirstFailure)

def matrixPlan : AdmissionPlan Term where
  taskId := "t"
  taskVersion := "v"
  taskBundleSha256 := .num 0
  scoringContractSha256 := .num 0
  rewardPolicyId := rewardV1.policyId
  rewardPolicySha256 := .num 0
  environmentId := sampleId
  environmentSha256 := .num 0
  graderId := .num 0
  harnessCommit := sampleCommit
  originalRepeats := 2
  referenceCandidate := ⟨.num 0, 7⟩
  publicMutantCandidate := ⟨.num 0, 1⟩
  alternativeCandidates := [⟨.num 0, 8⟩]
  negativeControls := matrixBundle.privateGrader.negativeControls.map fun k =>
    ⟨k.controlId, ⟨.num 0, k.source.sizeBytes⟩, k.expectedFirstFailure⟩

theorem matrix_admission : ∃ r, admitTask symbolic matrixBundle matrixContract rewardV1 matrixPlan
    matrixAttempts = .ok r ∧ RoleMatrix matrixBundle 2 matrixAttempts := by
  have hadmitted : (admitTask symbolic matrixBundle matrixContract rewardV1 matrixPlan
      matrixAttempts).toOption.isSome := by decide +kernel
  obtain ⟨r, h⟩ := exists_ok_of_isSome hadmitted
  have hK : Function.Injective symbolic.behavior := BehaviorProjection.term_inj
  exact ⟨r, h, (admitTask_matrix symbolic hK _ _ _ _ _ r h).1⟩

end Bpe.Admission
