import Bpe.Qualification.Authority

/-!
# What plan and authority checks leave to know

A validated plan has one anchor of each role for every task, and the validated
authority derives the contract of each task bundle and keeps the partitions
apart.
-/

namespace Bpe.Qualification

open Models Grading Bpe.Task Replay Admission Experiment Job List

variable {D : Type}

theorem boundedSnapshot_eq_ok {α : Type} {l l' : List α} {n : Nat} {label : String} :
    boundedSnapshot l n label = .ok l' ↔ l.length = n ∧ l' = l := by
  unfold boundedSnapshot
  rw [ite_error_eq_ok, not_not, length_take, Except.ok.injEq]
  constructor
  · rintro ⟨hlength, rfl⟩
    have hl : l.length = n := by omega
    exact ⟨hl, take_of_length_le (by omega)⟩
  · rintro ⟨hlength, rfl⟩
    exact ⟨by omega, take_of_length_le (by omega)⟩

/-! ## Plans -/

section Plan

variable [DecidableEq D] {p : GraderQualificationPlan D} {hex : D → String}

/-- What the validator of a plan leaves to know. -/
structure GraderQualificationPlan.Valid (p : GraderQualificationPlan D) : Prop where
  anchor : ∀ a ∈ p.anchors, a.validate = .ok ()
  ids : (p.anchors.map (·.anchorId)).Nodup
  roles : ∀ a ∈ p.anchors, ((p.taskAnchors (a.partition, a.task)).map (·.role)).Perm AnchorRole.all

/-- A task that covers the roles with as many anchors has one of each. -/
theorem perm_roles {roles : List AnchorRole} (h : sameSet roles AnchorRole.all)
    (hlength : roles.length = AnchorRole.all.length) : roles.Perm AnchorRole.all := by
  have hsubset : AnchorRole.all ⊆ roles := fun r hr => (sameSet_iff.1 h r).2 hr
  have hnodup : AnchorRole.all.Nodup := by decide
  exact ((subperm_of_subset hnodup hsubset).perm_of_length_le hlength.le).symm

theorem GraderQualificationPlan.valid_of_validate (h : p.validate hex = .ok ()) : p.Valid := by
  unfold GraderQualificationPlan.validate at h
  rw [seq_eq_ok, seq_eq_ok, seq_eq_ok, seq_eq_ok, seq_eq_ok] at h
  obtain ⟨-, hanchors, -, hseparation, -⟩ := h
  unfold GraderQualificationPlan.checkSeparation at hseparation
  rw [seq_eq_ok, seq_eq_ok, seq_eq_ok, forM_eq_ok] at hseparation
  obtain ⟨hids, hroles, -, -⟩ := hseparation
  refine ⟨forM_eq_ok.1 hanchors, by simpa using refuse_at hids 0 rfl, fun a ha => ?_⟩
  have hkey : (a.partition, a.task) ∈ p.partitionTasks.eraseDups :=
    mem_eraseDups.2 (mem_map_of_mem ha)
  have hcheck := hroles _ hkey
  unfold GraderQualificationPlan.checkTaskRoles at hcheck
  have hcover := refuse_at hcheck 0 rfl
  have hcount := refuse_at hcheck 1 rfl
  simp only [Bool.not_eq_false'] at hcover
  simp only [bne_eq_false_iff_eq] at hcount
  exact perm_roles hcover (by rw [length_map]; exact hcount)

end Plan

/-! ## Authority -/

theorem disjoint_of_crosses {α : Type} [DecidableEq α] {footprints : List (Footprint D)}
    {values : Footprint D → List α} (h : crosses footprints values = false) {f g : Footprint D}
    (hf : f ∈ footprints) (hg : g ∈ footprints) (hcalibration : f.partition = .calibration)
    (hvalidation : g.partition = .validation) : ∀ x ∈ values f, x ∉ values g := by
  intro x hx hx'
  unfold crosses at h
  rw [any_eq_false] at h
  have hf' := h f (mem_filter.2 ⟨hf, by simpa using hcalibration⟩)
  rw [Bool.not_eq_true, any_eq_false] at hf'
  have hg' := hf' g (mem_filter.2 ⟨hg, by simpa using hvalidation⟩)
  rw [Bool.not_eq_true, any_eq_false] at hg'
  exact hg' x hx (contains_iff_mem.2 hx')

theorem TaskAuthority.partition_of_split {a : TaskAuthority D} {partition split}
    (hsplit : a.bundle.privateGrader.split = split)
    (hpartition : partitionOfSplit split = some partition) : a.partition = .ok partition := by
  unfold TaskAuthority.partition
  rw [hsplit, hpartition]

section Authority

variable [LinearOrder D] {K : Digests D} {normalize : String → Except String String}
  {plan : GraderQualificationPlan D} {suite : SuiteManifest D} {bundles : List (SealedBundle D)}
  {authorities : List (TaskAuthority D)}

theorem freezeTaskBundle_bundle {b b' : SealedBundle D} (h : freezeTaskBundle K b = .ok b') :
    b'.bundle = b.bundle := by
  unfold freezeTaskBundle at h
  rw [seq_eq_ok, seq_eq_ok, seq_eq_ok, bind_eq_ok] at h
  obtain ⟨-, -, -, artifactBytes, -, heq⟩ := h
  cases heq
  rfl

/-- The frozen bundles are the supplied ones, and no two share a digest. -/
theorem collectBundles_eq_ok {frozen : List (TaskBundle D)}
    (h : collectBundles K plan bundles = .ok frozen) :
    frozen = bundles.map (·.bundle) ∧ (frozen.map (·.bundleSha256)).Nodup := by
  unfold collectBundles at h
  rw [bind_eq_ok] at h
  obtain ⟨supplied, hsupplied, h⟩ := h
  obtain ⟨-, rfl⟩ := boundedSnapshot_eq_ok.1 hsupplied
  obtain ⟨sealedBundles, hsealed, h⟩ := bind_eq_ok.1 h
  rw [seq_eq_ok] at h
  obtain ⟨hchecks, heq⟩ := h
  cases heq
  have hsame : sealedBundles.map (·.bundle) = supplied.map (·.bundle) :=
    map_of_mapM hsealed fun _ _ hfrozen => freezeTaskBundle_bundle hfrozen
  have hnodup := refuse_at hchecks 0 rfl
  simp only [Bool.not_eq_false', decide_eq_true_eq] at hnodup
  refine ⟨hsame, ?_⟩
  rw [map_map]
  exact hnodup

theorem taskAuthority_eq_ok {b : TaskBundle D} {a : TaskAuthority D}
    (h : taskAuthority K plan suite b = .ok a) :
    a.bundle = b ∧ buildScoringContract b = .ok a.contract ∧ a.suiteTask ∈ suite.tasks ∧
      a.suiteTask.taskBundleSha256 = b.bundleSha256 := by
  unfold taskAuthority at h
  split at h
  · cases h
  · next suiteTask hsuite =>
    obtain ⟨evaluationPlan, -, h⟩ := bind_eq_ok.1 h
    obtain ⟨contract, hcontract, h⟩ := bind_eq_ok.1 h
    obtain ⟨-, heq⟩ := seq_eq_ok.1 h
    cases heq
    exact ⟨rfl, mapError_eq_ok.1 hcontract, mem_of_find?_eq_some hsuite,
      by simpa using find?_some hsuite⟩

/-- The footprint that a task leaves. -/
structure FootprintOf (normalize : String → Except String String) (a : TaskAuthority D)
    (f : Footprint D) : Prop where
  partition : a.partition = .ok f.partition
  group : f.group = a.bundle.privateGrader.contaminationGroup
  original : f.original = a.bundle.privateGrader.provenance.originalSha256
  repository : normalize a.bundle.privateGrader.provenance.repository = .ok f.repository
  cluster : f.cluster = a.suiteTask.clusterId
  files : f.files = bundleFileDigests a.bundle

theorem recordFootprint_eq_ok {seen seen' : List (Footprint D)} {a : TaskAuthority D}
    (h : recordFootprint normalize seen a = .ok seen') :
    ∃ f, FootprintOf normalize a f ∧ seen' = seen ++ [f] := by
  unfold recordFootprint at h
  obtain ⟨partition, hpartition, h⟩ := bind_eq_ok.1 h
  obtain ⟨-, h⟩ := seq_eq_ok.1 h
  obtain ⟨repository, hrepository, h⟩ := bind_eq_ok.1 h
  obtain ⟨-, heq⟩ := seq_eq_ok.1 h
  cases heq
  exact ⟨_, ⟨hpartition, rfl, rfl, mapError_eq_ok.1 hrepository, rfl, rfl⟩, rfl⟩

/-- The loop leaves every footprint that was there and one for each task. -/
theorem footprint_of_foldlM {seen footprints : List (Footprint D)}
    (h : authorities.foldlM (recordFootprint normalize) seen = .ok footprints) :
    (∀ f ∈ seen, f ∈ footprints) ∧
      ∀ a ∈ authorities, ∃ f ∈ footprints, FootprintOf normalize a f := by
  induction authorities generalizing seen with
  | nil =>
    rw [foldlM_nil] at h
    cases h
    exact ⟨fun f hf => hf, fun a ha => by cases ha⟩
  | cons a rest ih =>
    rw [foldlM_cons, bind_eq_ok] at h
    obtain ⟨next, hnext, h⟩ := h
    obtain ⟨f, hf, rfl⟩ := recordFootprint_eq_ok hnext
    obtain ⟨hkeep, hrest⟩ := ih h
    refine ⟨fun g hg => hkeep g (mem_append_left _ hg), fun x hx => ?_⟩
    rcases mem_cons.1 hx with rfl | hx
    · exact ⟨f, hkeep f (by simp), hf⟩
    · exact hrest x hx

/-- What the validated authority leaves to know. -/
structure Authorities (K : Digests D) (normalize : String → Except String String)
    (plan : GraderQualificationPlan D) (suite : SuiteManifest D) (bundles : List (SealedBundle D))
    (authorities : List (TaskAuthority D)) : Prop where
  same : authorities.map (·.bundle) = bundles.map (·.bundle)
  digests : (bundles.map (·.bundle.bundleSha256)).Nodup
  contract : ∀ a ∈ authorities, buildScoringContract a.bundle = .ok a.contract
  suiteTask : ∀ a ∈ authorities, a.suiteTask ∈ suite.tasks ∧
    a.suiteTask.taskBundleSha256 = a.bundle.bundleSha256
  suiteDigests : (suite.tasks.map (·.taskBundleSha256)).Nodup
  disjoint : ∃ footprints, (∀ a ∈ authorities, ∃ f ∈ footprints, FootprintOf normalize a f) ∧
    checkDisjoint footprints = .ok ()
  anchor : ∀ x ∈ plan.anchors, checkAnchor K plan authorities x = .ok ()

theorem authorities_of_validateAuthority
    (h : validateAuthority K normalize plan suite bundles = .ok authorities) :
    Authorities K normalize plan suite bundles authorities := by
  unfold validateAuthority at h
  obtain ⟨-, h⟩ := seq_eq_ok.1 h
  obtain ⟨frozen, hfrozen, h⟩ := bind_eq_ok.1 h
  obtain ⟨rfl, hdigests⟩ := collectBundles_eq_ok hfrozen
  obtain ⟨hsuite, h⟩ := seq_eq_ok.1 h
  obtain ⟨found, hfound, h⟩ := bind_eq_ok.1 h
  obtain ⟨-, h⟩ := seq_eq_ok.1 h
  obtain ⟨footprints, hfootprints, h⟩ := bind_eq_ok.1 h
  obtain ⟨hdisjoint, h⟩ := seq_eq_ok.1 h
  obtain ⟨hanchors, heq⟩ := seq_eq_ok.1 h
  cases heq
  have hmem : ∀ a ∈ authorities, ∃ b ∈ bundles.map (·.bundle),
      taskAuthority K plan suite b = .ok a :=
    fun a ha => exists_of_mapM hfound ha
  refine
    { same := ?_
      digests := by rw [map_map] at hdigests; exact hdigests
      contract := fun a ha => ?_
      suiteTask := fun a ha => ?_
      suiteDigests := ?_
      disjoint := ⟨footprints, (footprint_of_foldlM hfootprints).2, hdisjoint⟩
      anchor := forM_eq_ok.1 hanchors }
  · have := map_of_mapM hfound fun _ _ hb => (taskAuthority_eq_ok hb).1
    rwa [map_id'] at this
  · obtain ⟨b, -, hb⟩ := hmem a ha
    obtain ⟨rfl, hcontract, -⟩ := taskAuthority_eq_ok hb
    exact hcontract
  · obtain ⟨b, -, hb⟩ := hmem a ha
    obtain ⟨rfl, -, hsuiteTask⟩ := taskAuthority_eq_ok hb
    exact hsuiteTask
  · unfold checkSuiteTasks at hsuite
    simpa using refuse_at hsuite 0 rfl

/-- The tasks of two partitions have nothing in common that the code compares. -/
structure Separated (normalize : String → Except String String) (suite : SuiteManifest D)
    (a b : TaskBundle D) : Prop where
  bundle : a.bundleSha256 ≠ b.bundleSha256
  group : a.privateGrader.contaminationGroup ≠ b.privateGrader.contaminationGroup
  original : a.privateGrader.provenance.originalSha256 ≠ b.privateGrader.provenance.originalSha256
  repository : ∃ r r', normalize a.privateGrader.provenance.repository = .ok r ∧
    normalize b.privateGrader.provenance.repository = .ok r' ∧ r ≠ r'
  cluster : ∀ s ∈ suite.tasks, ∀ t ∈ suite.tasks, s.taskBundleSha256 = a.bundleSha256 →
    t.taskBundleSha256 = b.bundleSha256 → s.clusterId ≠ t.clusterId
  files : ∀ d ∈ bundleFileDigests a, d ∉ bundleFileDigests b

section

variable (h : Authorities K normalize plan suite bundles authorities)

include h

/-- The suite lists the task of an authority, and no other under its digest. -/
theorem Authorities.suiteTask_eq {a : TaskAuthority D} (ha : a ∈ authorities) {s : SuiteTask D}
    (hs : s ∈ suite.tasks) (hdigest : s.taskBundleSha256 = a.bundle.bundleSha256) :
    s = a.suiteTask :=
  inj_on_of_nodup_map h.suiteDigests hs (h.suiteTask a ha).1
    (hdigest.trans (h.suiteTask a ha).2.symm)

theorem Authorities.exists_authority {b : SealedBundle D} (hb : b ∈ bundles) :
    ∃ a ∈ authorities, a.bundle = b.bundle := by
  have hmem : b.bundle ∈ authorities.map (·.bundle) := h.same ▸ mem_map_of_mem hb
  exact mem_map.1 hmem

theorem Authorities.separated {b b' : SealedBundle D} (hb : b ∈ bundles) (hb' : b' ∈ bundles)
    (hcalibration : b.bundle.privateGrader.split = .calibration)
    (hvalidation : b'.bundle.privateGrader.split = .validation) :
    Separated normalize suite b.bundle b'.bundle := by
  obtain ⟨a, ha, hab⟩ := h.exists_authority hb
  obtain ⟨a', ha', hab'⟩ := h.exists_authority hb'
  obtain ⟨footprints, hfootprints, hdisjoint⟩ := h.disjoint
  obtain ⟨f, hf, hof⟩ := hfootprints a ha
  obtain ⟨g, hg, hog⟩ := hfootprints a' ha'
  have hfp : f.partition = .calibration := Except.ok.inj
    (hof.partition.symm.trans (TaskAuthority.partition_of_split (hab ▸ hcalibration) rfl))
  have hgp : g.partition = .validation := Except.ok.inj
    (hog.partition.symm.trans (TaskAuthority.partition_of_split (hab' ▸ hvalidation) rfl))
  have hgroup := disjoint_of_crosses (refuse_at hdisjoint 0 rfl) hf hg hfp hgp
  have horiginal := disjoint_of_crosses (refuse_at hdisjoint 1 rfl) hf hg hfp hgp
  have hrepository := disjoint_of_crosses (refuse_at hdisjoint 2 rfl) hf hg hfp hgp
  have hcluster := disjoint_of_crosses (refuse_at hdisjoint 3 rfl) hf hg hfp hgp
  have hfiles := disjoint_of_crosses (refuse_at hdisjoint 4 rfl) hf hg hfp hgp
  simp only [mem_singleton, forall_eq] at hgroup horiginal hrepository hcluster
  rw [hof.group, hog.group, hab, hab'] at hgroup
  rw [hof.original, hog.original, hab, hab'] at horiginal
  rw [hof.files, hog.files, hab, hab'] at hfiles
  refine
    { bundle := fun heq => hgroup ?_
      group := hgroup
      original := horiginal
      repository := ⟨f.repository, g.repository, hab ▸ hof.repository, hab' ▸ hog.repository,
        hrepository⟩
      cluster := fun s hs t ht hsa htb heq => hcluster ?_
      files := hfiles }
  · have hsame : b = b' := inj_on_of_nodup_map h.digests hb hb' heq
    rw [hsame]
  · rw [hof.cluster, hog.cluster, ← h.suiteTask_eq ha hs (hab ▸ hsa),
      ← h.suiteTask_eq ha' ht (hab' ▸ htb)]
    exact heq

end

end Authority

end Bpe.Qualification
