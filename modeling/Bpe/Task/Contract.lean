import Bpe.Task.Model

/-!
# Scoring contracts of a task

`build_evaluation_plan`, and the two derivations of a scoring contract: from the
bundle and from its plan. A check is named by joining a case and an assertion
with the separator `/`, which both identifiers may contain themselves, and the
name has to be an identifier again. `NamesFit` is what that takes.
-/

namespace Bpe.Task

open Models Grading List Bool

variable {D : Type}

def octetStream : String := "application/octet-stream"

def FileRef.artifact (f : FileRef D) : ArtifactRef D := ⟨f.sha256, f.sizeBytes, octetStream⟩

def planCase (case : FunctionalCase D) : EvaluationFunctionalCase D :=
  { caseId := case.caseId, input := case.inputRef.artifact, assertions := case.assertions }

def xdpDriver : String := "bpf_prog_run/xdp@1"

/-- The record that `build_evaluation_plan` validates. -/
def TaskBundle.plan (b : TaskBundle D) : EvaluationPlan D :=
  { taskId := b.publicTask.taskId
    taskVersion := b.publicTask.version
    family := b.publicTask.family
    publicTaskSha256 := b.publicSha256
    privateGraderSha256 := b.privateSha256
    taskBundleSha256 := b.bundleSha256
    environmentId := b.publicTask.environmentId
    candidateContract := { b.publicTask.candidateContract with allowMarkdownFence := false }
    program := b.publicTask.program
    publicSdkId := b.publicTask.publicSdkId
    maxAttempts := b.publicTask.maxAttempts
    wholeAttemptTimeoutSeconds := b.publicTask.wholeAttemptTimeoutSeconds
    functionalCases := b.privateGrader.functionalCases.map planCase
    semanticObligations := b.privateGrader.semanticObligations }

def buildEvaluationPlan [DecidableEq D] (K : Digests D) (b : TaskBundle D) :
    Except String (EvaluationPlan D) := do
  refuse [(!b.publicTask.program.isXdp, "evaluation-plan v1 supports exactly one XDP program")]
  let unsupported := (b.privateGrader.functionalCases.map (·.driver)).filter (· ≠ xdpDriver)
  refuse [(!unsupported.isEmpty,
    "evaluation-plan v1 does not support task drivers: " ++
      ", ".intercalate (unsupported.dedup.mergeSort (· ≤ ·)))]
  b.plan.validate K
  pure b.plan

def objectCheck (name : String) : ExpectedCheck D :=
  { stage := .objectPolicy, checkId := name, required := true, weight := 1
    inputArtifacts := .empty }

def objectChecks : List (ExpectedCheck D) :=
  ["object/entrypoint", "object/program-type", "object/section", "object/program-count"].map
    objectCheck

/-- The name of a check without its stage. -/
def joined (caseId assertionId : String) : String := caseId ++ "/" ++ assertionId

def functionalCheck (pair : EvaluationFunctionalCase D × AssertionSpec) : ExpectedCheck D :=
  { stage := .functional
    checkId := "functional/" ++ joined pair.1.caseId pair.2.assertionId
    required := pair.2.required
    weight := pair.2.weight
    inputArtifacts := .single "input" pair.1.input }

def semanticCheck (o : SemanticObligation) : ExpectedCheck D :=
  { stage := .semantics, checkId := "semantics/" ++ o.obligationId, required := o.required
    weight := 1, inputArtifacts := .empty }

/-- The cases of the plan with each of their assertions. -/
def EvaluationPlan.pairs (p : EvaluationPlan D) :
    List (EvaluationFunctionalCase D × AssertionSpec) :=
  p.functionalCases.flatMap fun case => case.assertions.map fun a => (case, a)

def constructContract (c : ScoringContract D) : Except String (ScoringContract D) := do
  c.validate
  pure c

def scoringContractForPlan (p : EvaluationPlan D) : Except String (ScoringContract D) :=
  constructContract
    { taskId := p.taskId
      taskVersion := p.taskVersion
      taskBundleSha256 := p.taskBundleSha256
      checks := objectChecks ++ p.pairs.map functionalCheck ++
        p.semanticObligations.map semanticCheck }

def buildScoringContract (b : TaskBundle D) : Except String (ScoringContract D) :=
  constructContract
    { taskId := b.publicTask.taskId
      taskVersion := b.publicTask.version
      taskBundleSha256 := b.bundleSha256
      checks := objectChecks ++
        (b.privateGrader.functionalCases.flatMap fun case => case.assertions.map fun a =>
          { stage := .functional
            checkId := "functional/" ++ joined case.caseId a.assertionId
            required := a.required
            weight := a.weight
            inputArtifacts := .single "input"
              ⟨case.inputRef.sha256, case.inputRef.sizeBytes, octetStream⟩ }) ++
        b.privateGrader.semanticObligations.map semanticCheck }

/-! ## Names of checks -/

theorem stableIdChar_of_isStableId {s : String} (hs : isStableId s) :
    s.toList.all stableIdChar := by
  unfold isStableId at hs
  split at hs
  · cases hs
  · next c cs hlist =>
    simp only [and_eq_true] at hs
    rw [hlist, all_cons, and_eq_true]
    refine ⟨?_, hs.2⟩
    simp [stableIdChar, hs.1.1]

/-- A text of identifier characters behind a letter is an identifier if it is
short enough. -/
theorem isStableId_iff_length {s : String} {c : Char} {cs : List Char} (hs : s.toList = c :: cs)
    (hc : c.isAlphanum) (hcs : cs.all stableIdChar) : isStableId s ↔ s.length ≤ 128 := by
  unfold isStableId
  rw [hs, ← String.length_toList, hs]
  simp [hc, hcs, Nat.lt_succ_iff]

theorem isStableId_functional {caseId assertionId : String} (hcase : isStableId caseId)
    (hassertion : isStableId assertionId) :
    isStableId ("functional/" ++ joined caseId assertionId) ↔
      caseId.length + assertionId.length ≤ 116 := by
  have hlist : ("functional/" ++ joined caseId assertionId).toList =
      'f' :: ("unctional/".toList ++ (caseId.toList ++ ('/' :: assertionId.toList))) := by
    simp [joined, String.toList_append]
  rw [isStableId_iff_length hlist (by decide)]
  · have hjoined : ("functional/" ++ joined caseId assertionId).length =
        11 + (caseId.length + 1 + assertionId.length) := by
      simp only [joined, String.length_append]
      rfl
    omega
  · have h₁ := stableIdChar_of_isStableId hcase
    have h₂ := stableIdChar_of_isStableId hassertion
    simp only [all_append, all_cons, h₁, h₂]
    decide

theorem isStableId_semantics {id : String} (hid : isStableId id) :
    isStableId ("semantics/" ++ id) ↔ id.length ≤ 118 := by
  have hlist : ("semantics/" ++ id).toList = 's' :: ("emantics/".toList ++ id.toList) := by
    simp [String.toList_append]
  rw [isStableId_iff_length hlist (by decide)]
  · have hlength : ("semantics/" ++ id).length = 10 + id.length := by
      simp only [String.length_append]
      rfl
    omega
  · simp only [all_append, stableIdChar_of_isStableId hid]
    decide

/-! ## What a contract takes -/

/-- What the names and the number of the checks of a plan have to be. -/
structure NamesFit (cases : List (EvaluationFunctionalCase D × AssertionSpec))
    (obligations : List SemanticObligation) : Prop where
  functional : ∀ pair ∈ cases, pair.1.caseId.length + pair.2.assertionId.length ≤ 116
  semantic : ∀ o ∈ obligations, o.obligationId.length ≤ 118
  distinct : (cases.map fun pair => joined pair.1.caseId pair.2.assertionId).Nodup
  count : 4 + cases.length + obligations.length ≤ 8192

/-- What the validator of a plan leaves to know. -/
structure EvaluationPlan.Valid (p : EvaluationPlan D) : Prop where
  task : isStableId p.taskId ∧ isStableId p.taskVersion
  pair : ∀ pair ∈ p.pairs, isStableId pair.1.caseId ∧ pair.1.input.valid ∧ pair.2.valid
  obligation : ∀ o ∈ p.semanticObligations, o.valid
  obligations_nodup : (p.semanticObligations.map (·.obligationId)).Nodup

theorem EvaluationPlan.mem_pairs {p : EvaluationPlan D}
    {pair : EvaluationFunctionalCase D × AssertionSpec} :
    pair ∈ p.pairs ↔ pair.1 ∈ p.functionalCases ∧ pair.2 ∈ pair.1.assertions := by
  unfold EvaluationPlan.pairs
  simp only [mem_flatMap, mem_map]
  constructor
  · rintro ⟨case, hcase, a, ha, rfl⟩
    exact ⟨hcase, ha⟩
  · rintro ⟨hcase, ha⟩
    exact ⟨pair.1, hcase, pair.2, ha, rfl⟩

theorem EvaluationPlan.valid_of_validate [DecidableEq D] {K : Digests D} {p : EvaluationPlan D}
    (hp : p.validate K = .ok ()) : p.Valid := by
  unfold EvaluationPlan.validate at hp
  rw [seq_eq_ok, seq_eq_ok, forM_eq_ok] at hp
  obtain ⟨hfields, hcases, hunique⟩ := hp
  have hobligations := refuse_at hfields 9 rfl
  simp only [not_eq_false', and_eq_true, all_eq_true] at hobligations
  refine ⟨⟨by simpa using refuse_at hfields 0 rfl, by simpa using refuse_at hfields 1 rfl⟩,
    fun pair hpair => ?_, hobligations.2, by simpa using refuse_at hunique 4 rfl⟩
  obtain ⟨hcase, ha⟩ := EvaluationPlan.mem_pairs.1 hpair
  have hvalid := hcases _ hcase
  have hassertions := refuse_at hvalid 2 rfl
  simp only [not_eq_false', and_eq_true, all_eq_true] at hassertions
  exact ⟨by simpa using refuse_at hvalid 0 rfl, by simpa using refuse_at hvalid 1 rfl,
    hassertions.2 _ ha⟩

def EvaluationPlan.checks (p : EvaluationPlan D) : List (ExpectedCheck D) :=
  objectChecks ++ p.pairs.map functionalCheck ++ p.semanticObligations.map semanticCheck

section Validate

variable {p : EvaluationPlan D}

theorem validWeight_one : validWeight 1 := by norm_num [validWeight]

theorem objectChecks_validate : ∀ k ∈ (objectChecks : List (ExpectedCheck D)),
    k.validate = .ok () := by
  have hids : ∀ name ∈ ["object/entrypoint", "object/program-type", "object/section",
      "object/program-count"], isStableId name := by decide
  intro k hk
  obtain ⟨name, hname, rfl⟩ := mem_map.1 hk
  simp [objectCheck, ExpectedCheck.validate, refuse, hids name hname, validWeight_one, Dict.empty]

theorem functionalCheck_validate (hp : p.Valid) {pair : EvaluationFunctionalCase D × AssertionSpec}
    (hpair : pair ∈ p.pairs) : (functionalCheck pair).validate = .ok () ↔
      pair.1.caseId.length + pair.2.assertionId.length ≤ 116 := by
  obtain ⟨hcase, hinput, ha⟩ := hp.pair pair hpair
  simp only [AssertionSpec.valid, and_eq_true] at ha
  rw [← isStableId_functional hcase ha.1.1]
  simp [functionalCheck, ExpectedCheck.validate, refuse_eq_ok, ha.2, hinput, Dict.single,
    show isStableId "input" = true by decide]

theorem semanticCheck_validate {o : SemanticObligation} (ho : o.valid) :
    (semanticCheck o : ExpectedCheck D).validate = .ok () ↔ o.obligationId.length ≤ 118 := by
  simp only [SemanticObligation.valid, and_eq_true] at ho
  rw [← isStableId_semantics ho.1.1]
  simp [semanticCheck, ExpectedCheck.validate, refuse_eq_ok, validWeight_one, Dict.empty]

theorem checks_validate (hp : p.Valid) : (∀ k ∈ p.checks, k.validate = .ok ()) ↔
    (∀ pair ∈ p.pairs, pair.1.caseId.length + pair.2.assertionId.length ≤ 116) ∧
      ∀ o ∈ p.semanticObligations, o.obligationId.length ≤ 118 := by
  unfold EvaluationPlan.checks
  simp only [forall_mem_append, forall_mem_map]
  constructor
  · rintro ⟨⟨-, hpairs⟩, hobligations⟩
    exact ⟨fun pair h => (functionalCheck_validate hp h).1 (hpairs pair h),
      fun o h => (semanticCheck_validate (hp.obligation o h)).1 (hobligations o h)⟩
  · rintro ⟨hpairs, hobligations⟩
    exact ⟨⟨objectChecks_validate,
      fun pair h => (functionalCheck_validate hp h).2 (hpairs pair h)⟩,
      fun o h => (semanticCheck_validate (hp.obligation o h)).2 (hobligations o h)⟩

/-- The identities of the checks are distinct exactly where the joined names are. -/
theorem identities_nodup (hp : p.Valid) :
    (p.checks.map fun k => (k.stage, k.checkId)).Nodup ↔
      (p.pairs.map fun pair => joined pair.1.caseId pair.2.assertionId).Nodup := by
  have hobjects : ((objectChecks : List (ExpectedCheck D)).map fun k =>
      (k.stage, k.checkId)).Nodup := by
    simp [objectChecks, objectCheck]
  have hfunctional : (p.pairs.map fun pair => ((functionalCheck pair).stage,
      (functionalCheck pair).checkId)).Nodup ↔
      (p.pairs.map fun pair => joined pair.1.caseId pair.2.assertionId).Nodup := by
    have hinj : Function.Injective fun name => (Stage.functional, "functional/" ++ name) :=
      fun a b h => (String.append_right_inj _).1 (congrArg Prod.snd h)
    rw [← nodup_map_iff hinj, map_map]
    rfl
  have hsemantic : (p.semanticObligations.map fun o => ((semanticCheck o : ExpectedCheck D).stage,
      (semanticCheck o : ExpectedCheck D).checkId)).Nodup := by
    have hinj : Function.Injective fun name => (Stage.semantics, "semantics/" ++ name) :=
      fun a b h => (String.append_right_inj _).1 (congrArg Prod.snd h)
    have := (nodup_map_iff hinj).2 hp.obligations_nodup
    rwa [map_map] at this
  have hstages : ∀ k ∈ (objectChecks : List (ExpectedCheck D)), k.stage = .objectPolicy := by
    simp [objectChecks, objectCheck]
  unfold EvaluationPlan.checks
  rw [map_append, map_append, nodup_append, nodup_append, map_map,
    map_map]
  constructor
  · rintro ⟨⟨-, hpairs, -⟩, -, -⟩
    exact hfunctional.1 hpairs
  · intro hpairs
    refine ⟨⟨hobjects, hfunctional.2 hpairs, ?_⟩, hsemantic, ?_⟩
    · intro a ha b hb
      obtain ⟨k, hk, rfl⟩ := mem_map.1 ha
      obtain ⟨pair, -, rfl⟩ := mem_map.1 hb
      simp [hstages k hk, functionalCheck]
    · intro a ha b hb
      obtain ⟨o, -, rfl⟩ := mem_map.1 hb
      rcases mem_append.1 ha with ha | ha
      · obtain ⟨k, hk, rfl⟩ := mem_map.1 ha
        simp [hstages k hk, semanticCheck]
      · obtain ⟨pair, -, rfl⟩ := mem_map.1 ha
        simp [functionalCheck, semanticCheck]

/-- The record that `scoring_contract_for_plan` validates. -/
def EvaluationPlan.contract (p : EvaluationPlan D) : ScoringContract D :=
  { taskId := p.taskId, taskVersion := p.taskVersion, taskBundleSha256 := p.taskBundleSha256
    checks := p.checks }

theorem contract_validate (hp : p.Valid) (hassertion : ∃ pair ∈ p.pairs, pair.2.required)
    (hobligation : ∃ o ∈ p.semanticObligations, o.required) :
    p.contract.validate = .ok () ↔ NamesFit p.pairs p.semanticObligations := by
  have hlength : p.checks.length = 4 + p.pairs.length + p.semanticObligations.length := by
    simp [EvaluationPlan.checks, objectChecks]
    omega
  have hcomplete : ∀ stage ∈ [Stage.objectPolicy, .functional, .semantics],
      p.checks.any (fun k => k.stage == stage && k.required) := by
    obtain ⟨pair, hpair, hrequired⟩ := hassertion
    obtain ⟨o, ho, hrequired'⟩ := hobligation
    simp only [forall_mem_cons, any_eq_true]
    refine ⟨⟨objectCheck "object/section", ?_, by simp [objectCheck]⟩,
      ⟨functionalCheck pair, ?_, by simp [functionalCheck, hrequired]⟩,
      ⟨semanticCheck o, ?_, by simp [semanticCheck, hrequired']⟩, by simp⟩
    · simp [EvaluationPlan.checks, objectChecks]
    · exact mem_append_left _ (mem_append_right _ (mem_map_of_mem hpair))
    · exact mem_append_right _ (mem_map_of_mem ho)
  unfold ScoringContract.validate ScoringContract.checkManifestIsCompleteAndUnique
  rw [seq_eq_ok, seq_eq_ok, seq_eq_ok, forM_eq_ok, forM_eq_ok]
  have hcompleted : ∀ stage ∈ [Stage.objectPolicy, .functional, .semantics],
      refuse [(!p.contract.checks.any (fun k => k.stage == stage && k.required),
        "scoring contract requires a required " ++ stage.value ++ " check")] = .ok () := by
    intro stage hstage
    simp [refuse, EvaluationPlan.contract, hcomplete stage hstage]
  constructor
  · rintro ⟨hfields, hchecks, hunique, -⟩
    obtain ⟨hfunctional, hsemantic⟩ := (checks_validate hp).1 hchecks
    have hcount := refuse_at hfields 2 rfl
    simp only [EvaluationPlan.contract, hlength, not_eq_false', and_eq_true,
      decide_eq_true_eq] at hcount
    have hnodup := refuse_at hunique 0 rfl
    rw [not_eq_false'] at hnodup
    exact ⟨hfunctional, hsemantic, (identities_nodup hp).1 (of_decide_eq_true hnodup), hcount.2⟩
  · intro h
    have hcount := h.count
    refine ⟨?_, (checks_validate hp).2 ⟨h.functional, h.semantic⟩, ?_, hcompleted⟩
    · simp [EvaluationPlan.contract, refuse, hp.task.1, hp.task.2, hlength]
      omega
    · simp [EvaluationPlan.contract, refuse, (identities_nodup hp).2 h.distinct]

end Validate

/-! ## Both derivations -/

/-- The contract from the bundle and the contract from the plan are one, with one
check for each assertion of each case, which carries its data, and one for each
obligation. -/
structure ContractsAgree (b : TaskBundle D) (p : EvaluationPlan D) (c : ScoringContract D) :
    Prop where
  bundle : buildScoringContract b = .ok c
  plan : scoringContractForPlan p = .ok c
  functional : Set.BijOn functionalCheck {pair | pair ∈ p.pairs}
    {k | k ∈ c.checks ∧ k.stage = .functional}
  carried : ∀ pair ∈ p.pairs, (functionalCheck pair).required = pair.2.required ∧
    (functionalCheck pair).weight = pair.2.weight ∧
    (functionalCheck pair).inputArtifacts.get? "input" = some pair.1.input
  semantic : Set.BijOn semanticCheck {o | o ∈ p.semanticObligations}
    {k | k ∈ c.checks ∧ k.stage = .semantics}
  once : c.checks.Nodup

section Agree

variable {b : TaskBundle D} {p : EvaluationPlan D}

theorem constructContract_eq_ok {c c' : ScoringContract D} :
    constructContract c = .ok c' ↔ c.validate = .ok () ∧ c = c' := by
  unfold constructContract
  rw [seq_eq_ok]
  simp [pure, Except.pure]

theorem buildEvaluationPlan_eq_ok [DecidableEq D] {K : Digests D}
    (h : buildEvaluationPlan K b = .ok p) :
    p.Valid ∧ buildScoringContract b = scoringContractForPlan p := by
  unfold buildEvaluationPlan at h
  rw [seq_eq_ok, seq_eq_ok, seq_eq_ok] at h
  obtain ⟨-, -, hvalid, hp⟩ := h
  cases hp
  refine ⟨EvaluationPlan.valid_of_validate hvalid, ?_⟩
  unfold buildScoringContract scoringContractForPlan EvaluationPlan.pairs TaskBundle.plan
  simp only [flatMap_map, map_flatMap, map_map]
  rfl

theorem mem_checks_functional {k : ExpectedCheck D} :
    k ∈ p.checks ∧ k.stage = .functional ↔ ∃ pair ∈ p.pairs, functionalCheck pair = k := by
  unfold EvaluationPlan.checks
  rw [mem_append, mem_append, mem_map, mem_map]
  constructor
  · rintro ⟨(hk | hk) | ⟨o, -, rfl⟩, hstage⟩
    · obtain ⟨name, -, rfl⟩ := mem_map.1 hk
      cases hstage
    · exact hk
    · cases hstage
  · rintro ⟨pair, hpair, rfl⟩
    exact ⟨.inl (.inr ⟨pair, hpair, rfl⟩), rfl⟩

theorem mem_checks_semantics {k : ExpectedCheck D} :
    k ∈ p.checks ∧ k.stage = .semantics ↔ ∃ o ∈ p.semanticObligations, semanticCheck o = k := by
  unfold EvaluationPlan.checks
  rw [mem_append, mem_append, mem_map, mem_map]
  constructor
  · rintro ⟨(hk | ⟨pair, -, rfl⟩) | hk, hstage⟩
    · obtain ⟨name, -, rfl⟩ := mem_map.1 hk
      cases hstage
    · cases hstage
    · exact hk
  · rintro ⟨o, ho, rfl⟩
    exact ⟨.inr ⟨o, ho, rfl⟩, rfl⟩

theorem contractsAgree_of_validate (hp : p.Valid)
    (hsame : buildScoringContract b = scoringContractForPlan p)
    (hvalid : p.contract.validate = .ok ()) (hfit : NamesFit p.pairs p.semanticObligations) :
    ContractsAgree b p p.contract := by
  have hplan : scoringContractForPlan p = .ok p.contract :=
    constructContract_eq_ok.2 ⟨hvalid, rfl⟩
  refine ⟨hsame.trans hplan, hplan, ⟨fun pair hpair => ?_, fun x hx y hy hxy => ?_,
    fun k hk => ?_⟩, fun pair _ => ⟨rfl, rfl, ?_⟩, ⟨fun o ho => ?_, fun x hx y hy hxy => ?_,
    fun k hk => ?_⟩, ((identities_nodup hp).2 hfit.distinct).of_map⟩
  · exact mem_checks_functional.2 ⟨pair, hpair, rfl⟩
  · refine inj_on_of_nodup_map hfit.distinct hx hy ?_
    exact (String.append_right_inj _).1 (congrArg (·.checkId) hxy)
  · exact mem_checks_functional.1 hk
  · simp [functionalCheck, Dict.get?, Dict.single]
  · exact mem_checks_semantics.2 ⟨o, ho, rfl⟩
  · refine inj_on_of_nodup_map hp.obligations_nodup hx hy ?_
    exact (String.append_right_inj _).1 (congrArg (·.checkId) hxy)
  · exact mem_checks_semantics.1 hk

/-- The two derivations succeed, agree and check everything once exactly where the
names of the checks fit. -/
theorem contractsAgree_iff [DecidableEq D] (K : Digests D) (b : TaskBundle D)
    (p : EvaluationPlan D) (hplan : buildEvaluationPlan K b = .ok p)
    (hassertion : ∃ pair ∈ p.pairs, pair.2.required)
    (hobligation : ∃ o ∈ p.semanticObligations, o.required) :
    (∃ c, ContractsAgree b p c) ↔ NamesFit p.pairs p.semanticObligations := by
  obtain ⟨hp, hsame⟩ := buildEvaluationPlan_eq_ok hplan
  rw [← contract_validate hp hassertion hobligation]
  constructor
  · rintro ⟨c, hc⟩
    exact (constructContract_eq_ok.1 hc.plan).1
  · intro hvalid
    exact ⟨p.contract, contractsAgree_of_validate hp hsame hvalid
      ((contract_validate hp hassertion hobligation).1 hvalid)⟩

/-- A repair task over numbered files, with one required assertion for each pair of
names and one control of each kind. -/
def repairTask {D : Type} (id : String) (split : Split) (file : ℕ → FileRef D)
    (names : List (String × String)) (failure : ControlKind → Stage) : TaskBundle D where
  publicTask :=
    { taskId := id, version := "v", family := .repair, prompt := file 0
      starterSource := some (file 1)
      candidateContract := { maxResponseBytes := 65536, allowMarkdownFence := true }
      program := { programType := "xdp", sectionName := "xdp", entrypoint := "m", maxPrograms := 1 }
      publicSdkId := sampleId, environmentId := sampleId, maxAttempts := 3
      wholeAttemptTimeoutSeconds := 30 }
  privateGrader :=
    { taskId := id, taskVersion := "v", split, rootCause := some "r", contaminationGroup := id
      provenance := { repository := id ++ "/r", commit := sampleCommit, sourcePath := "s"
                      license := "l", originalSha256 := (file 7).sha256 }
      mutation := some { operator := "o", operatorVersion := "1", seed := 0, parameters := .num 0 }
      referenceSource := file 7, validAlternatives := [file 8]
      qualificationPartialFixes := [file 6]
      functionalCases := names.map fun name =>
        { caseId := name.1, driver := xdpDriver, inputRef := file 9
          assertions := [{ assertionId := name.2, kind := "retval", required := true, weight := 1
                           expected := none }] }
      semanticObligations := [{ obligationId := "o", kind := "k", description := "d"
                                required := true }]
      negativeControls := [("c1", .noOp, 2), ("c2", .deleteOperation, 3), ("c3", .hardcode, 4),
          ("c4", .zeroWork, 5)].map fun (controlId, kind, n) =>
        { controlId, kind, source := file n, expectedFirstFailure := failure kind } }
  publicSha256 := (file 0).sha256
  privateSha256 := (file 7).sha256
  bundleSha256 := (file 0).sha256

def sampleBundle (names : List (String × String)) : TaskBundle Unit :=
  repairTask "t" .train (fun _ => { path := "f", sha256 := (), sizeBytes := 1 }) names
    fun _ => .functional

theorem candidate_lt_input : "candidate.c" < "input" := by decide +kernel

/-- What a run on a repair task read. -/
def runArtifacts {D : Type} (candidate input : ArtifactRef D) : Dict String (ArtifactRef D) :=
  ⟨[("candidate.c", candidate), ("input", input)], pairwise_pair.2 candidate_lt_input⟩

def constantTaskDigests : Digests Unit :=
  { constantDigests with publicTask := fun _ => (), privateGrader := fun _ => ()
                         taskBundle := fun _ _ => () }

theorem contractsAgree_sample :
    ∃ c, ContractsAgree (sampleBundle [("case", "assertion")])
      (sampleBundle [("case", "assertion")]).plan c := by
  refine (contractsAgree_iff constantTaskDigests _ _ (by decide +kernel) ?_ ?_).2 ?_
  · exact ⟨_, mem_singleton_self _, rfl⟩
  · exact ⟨_, mem_singleton_self _, rfl⟩
  · exact ⟨by decide +kernel, by decide +kernel, by decide +kernel, by decide +kernel⟩

/-- Two cases whose assertions get one name. -/
def ambiguousBundle : TaskBundle Unit := sampleBundle [("a/b", "c"), ("a", "b/c")]

theorem ambiguousBundle_refused :
    ambiguousBundle.publicTask.validate = .ok () ∧ ambiguousBundle.privateGrader.validate = .ok () ∧
    buildEvaluationPlan constantTaskDigests ambiguousBundle = .ok ambiguousBundle.plan ∧
    buildScoringContract ambiguousBundle =
      .error "scoring-contract check identities must be unique" ∧
    scoringContractForPlan ambiguousBundle.plan =
      .error "scoring-contract check identities must be unique" := by
  decide +kernel

end Agree

end Bpe.Task
