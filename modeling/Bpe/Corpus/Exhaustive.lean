import Bpe.Corpus.Audit
import Bpe.Text.Format

/-!
# A passed audit is exhaustive

What the checks of the inputs leave (`Audited`): keys that no two entries share, and a
policy within its bounds. Then every lookup of a scan is the scan of the entry, every
eligible scan has n-grams, and the audit returns its report (`auditCorpus_eq`). A report
without issues has compared every pair (`Exhaustive`).
-/

namespace Bpe.Corpus

open Text List

variable {D : Type} {T : Tools D} {policy : CorpusAuditPolicy}
  {corpus benchmark : LoadedCorpus D} {entries : List (Entry D)} {denied : List Source}

/-! ## What the checks leave -/

structure CorpusAuditPolicy.Bounded (policy : CorpusAuditPolicy) : Prop where
  ngramSize : 3 ≤ policy.ngramSize
  minimumTokens : policy.ngramSize ≤ policy.minimumTokens
  containment : policy.containmentThreshold ≤ 99 / 100
  training : ∀ s, s ∈ policy.trainingSplits ↔ s = .train
  evaluation : ∀ s, s ∈ policy.evaluationSplits ↔ s ∈ Corpus.evaluationSplits

theorem CorpusAuditPolicy.bounded_of_validate {L : Library}
    (h : policy.validate L = .ok ()) : policy.Bounded := by
  obtain ⟨hfields, h⟩ := seq_eq_ok.1 h
  obtain ⟨normalized, -, hrest⟩ := bind_eq_ok.1 h
  have hngram := refuse_at hfields 1 rfl
  have hcontainment := refuse_at hfields 4 rfl
  have htraining := refuse_at hfields 5 rfl
  have hevaluation := refuse_at hfields 6 rfl
  have hminimum := refuse_at hrest 1 rfl
  simp only [Bool.not_eq_false', Bool.and_eq_true, decide_eq_true_eq, decide_eq_false_iff_not]
    at hngram hcontainment htraining hevaluation hminimum
  refine ⟨hngram.1, by omega, hcontainment.2, fun s => ?_, sameSet_iff.1 hevaluation⟩
  rw [sameSet_iff.1 htraining, mem_singleton]

theorem manifest_facts {L : Library} {m : CorpusManifest D} (h : m.validate L = .ok ()) :
    1 ≤ m.sources.length ∧ (m.sources.map (·.sourceId)).Nodup ∧
      (m.kind = .benchmark → ∀ s ∈ m.sources, s.split = .benchmark) := by
  obtain ⟨hfields, h⟩ := seq_eq_ok.1 h
  obtain ⟨-, h⟩ := seq_eq_ok.1 h
  have hlength := refuse_at hfields 1 rfl
  have hids := refuse_at h 0 rfl
  have hsplit := refuse_at h 2 rfl
  simp only [Bool.not_eq_false', Bool.and_eq_true, decide_eq_true_eq] at hlength hids
  refine ⟨hlength.1, hids, fun hkind s hs => ?_⟩
  rw [hkind] at hsplit
  have hall : ∀ s ∈ m.sources, s.split = .benchmark := by simpa using hsplit
  exact hall s hs

section

variable [DecidableEq D]

theorem validateLoaded_eq_ok {loaded loaded' : LoadedCorpus D}
    (h : validateLoaded T loaded = .ok loaded') :
    loaded'.manifest = loaded.manifest ∧ loaded.manifest.validate T.library = .ok () ∧
      loaded'.sources.map (·.source) = loaded.manifest.sources ∧
      ∀ item ∈ loaded'.sources, T.sha256 item.content = item.source.sha256 := by
  obtain ⟨hmanifest, h⟩ := seq_eq_ok.1 h
  obtain ⟨-, h⟩ := seq_eq_ok.1 h
  obtain ⟨ordered, hordered, h⟩ := bind_eq_ok.1 h
  cases h
  have hsource : ∀ source item, validateSource T loaded source = .ok item →
      item.source = source ∧ T.sha256 item.content = source.sha256 := by
    intro source item hitem
    rw [validateSource] at hitem
    split at hitem
    · cases hitem
    · obtain ⟨hchecks, hitem⟩ := seq_eq_ok.1 hitem
      cases hitem
      have hmeta := refuse_at hchecks 0 rfl
      have hcontent := refuse_at hchecks 1 rfl
      simp only [ne_eq, decide_not, Bool.not_eq_false', decide_eq_true_eq, Bool.and_eq_true]
        at hmeta hcontent
      exact ⟨hmeta, hcontent.1⟩
  refine ⟨rfl, hmanifest, ?_, ?_⟩
  · have hmap : ordered.map (·.source) = loaded.manifest.sources.map id :=
      map_of_mapM hordered fun s i hi => (hsource s i hi).1
    rw [hmap, map_id]
  · intro item hitem
    obtain ⟨source, -, hi⟩ := exists_of_mapM hordered hitem
    rw [(hsource source item hi).2, (hsource source item hi).1]

/-- The sources of both manifests, each under its corpus. -/
def manifestSources (corpus benchmark : LoadedCorpus D) : List (String × CorpusSource D) :=
  corpus.manifest.sources.map (fun s => (corpus.manifest.corpusId, s)) ++
    benchmark.manifest.sources.map fun s => (benchmark.manifest.corpusId, s)

structure Audited (T : Tools D) (policy : CorpusAuditPolicy) (corpus benchmark : LoadedCorpus D)
    (entries : List (Entry D)) (denied : List Source) : Prop where
  bounded : policy.Bounded
  sources : entries.map (fun e => (e.corpusId, e.source)) = manifestSources corpus benchmark
  keys : (entries.map Entry.key).Nodup
  content : ∀ e ∈ entries, T.sha256 e.content = e.source.sha256
  family : ∀ e ∈ entries,
    normalizeRepositoryFamily T.library e.source.provenance.repository.toList = .ok e.family
  benchmark : ∃ e ∈ entries, e.source.split = .benchmark
  denied : policy.deniedTrainingRepositoryFamilies.mapM
    (fun family => normalizeRepositoryFamily T.library family.toList) = .ok denied

theorem entries_of_mapM {loaded loaded' : LoadedCorpus D} {side : List (Entry D)} {id : String}
    (h : validateLoaded T loaded = .ok loaded')
    (hside : loaded'.sources.mapM (entryOf T id) = .ok side) :
    side.map (fun e => (e.corpusId, e.source)) = loaded.manifest.sources.map (fun s => (id, s)) ∧
      ∀ e ∈ side, T.sha256 e.content = e.source.sha256 ∧
        normalizeRepositoryFamily T.library e.source.provenance.repository.toList =
          .ok e.family := by
  obtain ⟨-, -, hsources, hcontent⟩ := validateLoaded_eq_ok h
  have hentry : ∀ item e, entryOf T id item = .ok e → (e.corpusId, e.source) = (id, item.source) ∧
      e.content = item.content ∧
      normalizeRepositoryFamily T.library e.source.provenance.repository.toList =
        .ok e.family := by
    intro item e he
    obtain ⟨family, hfamily, he⟩ := bind_eq_ok.1 he
    cases he
    exact ⟨rfl, rfl, hfamily⟩
  constructor
  · rw [map_of_mapM hside fun item e he => (hentry item e he).1, ← hsources, map_map]
    rfl
  · intro e he
    obtain ⟨item, hitem, hok⟩ := exists_of_mapM hside he
    obtain ⟨hpair, hbytes, hfamily⟩ := hentry item e hok
    refine ⟨?_, hfamily⟩
    rw [hbytes, (Prod.mk.inj hpair).2]
    exact hcontent item hitem

theorem auditEntries_audited
    (h : auditEntries T policy corpus benchmark = .ok (entries, denied)) :
    Audited T policy corpus benchmark entries denied := by
  obtain ⟨corpus', hcorpus, h⟩ := bind_eq_ok.1 h
  obtain ⟨benchmark', hbenchmark, h⟩ := bind_eq_ok.1 h
  obtain ⟨hpolicy, h⟩ := seq_eq_ok.1 h
  obtain ⟨hchecks, h⟩ := seq_eq_ok.1 h
  obtain ⟨candidates, hcandidates, h⟩ := bind_eq_ok.1 h
  obtain ⟨references, hreferences, h⟩ := bind_eq_ok.1 h
  obtain ⟨denied', hdenied, h⟩ := bind_eq_ok.1 h
  cases h
  obtain ⟨hcm, hcvalid, -, -⟩ := validateLoaded_eq_ok hcorpus
  obtain ⟨hbm, hbvalid, -, -⟩ := validateLoaded_eq_ok hbenchmark
  rw [hcm] at hcandidates
  rw [hbm] at hreferences
  obtain ⟨hcsources, hcfacts⟩ := entries_of_mapM hcorpus hcandidates
  obtain ⟨hbsources, hbfacts⟩ := entries_of_mapM hbenchmark hreferences
  obtain ⟨-, hcids, -⟩ := manifest_facts hcvalid
  obtain ⟨hblength, hbids, hbsplit⟩ := manifest_facts hbvalid
  have hkind := refuse_at hchecks 1 rfl
  have hids := refuse_at hchecks 2 rfl
  rw [hcm, hbm] at hids
  rw [hbm] at hkind
  simp only [ne_eq, decide_not, Bool.not_eq_false', decide_eq_true_eq, decide_eq_false_iff_not]
    at hkind hids
  have hsources : (candidates ++ references).map (fun e => (e.corpusId, e.source)) =
      manifestSources corpus benchmark := by
    rw [map_append, hcsources, hbsources]
    rfl
  refine ⟨CorpusAuditPolicy.bounded_of_validate hpolicy, hsources, ?_, ?_, ?_, ?_, hdenied⟩
  · have hkeys : (candidates ++ references).map Entry.key =
        (manifestSources corpus benchmark).map fun p => (p.1, p.2.sourceId) := by
      rw [← hsources, map_map]
      rfl
    rw [hkeys, manifestSources, map_append, map_map, map_map, nodup_append]
    have hside : ∀ {id : String} {l : List (CorpusSource D)}, (l.map (·.sourceId)).Nodup →
        (l.map ((fun p : String × CorpusSource D => (p.1, p.2.sourceId)) ∘
          fun s => (id, s))).Nodup := by
      intro id l hl
      have hmap : l.map ((fun p : String × CorpusSource D => (p.1, p.2.sourceId)) ∘
          fun s => (id, s)) = (l.map (·.sourceId)).map fun s => (id, s) := by
        rw [map_map]
        rfl
      rw [hmap]
      exact hl.map fun a b hab => (Prod.mk.inj hab).2
    refine ⟨hside hcids, hside hbids, ?_⟩
    rintro k hk k' hk' rfl
    obtain ⟨s, -, rfl⟩ := mem_map.1 hk
    obtain ⟨s', -, hs'⟩ := mem_map.1 hk'
    exact hids (Prod.mk.inj hs').1.symm
  · intro e he
    rcases mem_append.1 he with he | he
    · exact (hcfacts e he).1
    · exact (hbfacts e he).1
  · intro e he
    rcases mem_append.1 he with he | he
    · exact (hcfacts e he).2
    · exact (hbfacts e he).2
  · obtain ⟨s, rest, hs⟩ := exists_cons_of_length_pos hblength
    have hmem : (benchmark.manifest.corpusId, s) ∈
        references.map fun e => (e.corpusId, e.source) := by
      rw [hbsources, hs]
      exact mem_cons_self
    obtain ⟨e, he, hpair⟩ := mem_map.1 hmem
    refine ⟨e, mem_append_right _ he, ?_⟩
    rw [(Prod.mk.inj hpair).2]
    exact hbsplit hkind s (hs ▸ mem_cons_self)

end

/-! ## Scans -/

theorem scanEntry_entry {e : Entry D} {s : Scan D} (h : scanEntry T policy e = some s) :
    s.entry = e := by
  rw [scanEntry] at h
  split at h
  · cases h
    rfl
  · cases h

theorem mem_auditScans {s : Scan D} :
    s ∈ auditScans T policy entries ↔ ∃ e ∈ entries, scanEntry T policy e = some s := by
  rw [auditScans, mem_filterMap]
  simp only [(perm_sortOn _ _).mem_iff]

/-- The entries scanned are among the sorted ones, in their order. -/
theorem auditScans_entries :
    ((auditScans T policy entries).map (·.entry)).Sublist (sortOn (toLex ·.key) entries) := by
  have hscan : ∀ l : List (Entry D),
      ((l.filterMap (scanEntry T policy)).map (·.entry)).Sublist l := by
    intro l
    induction l with
    | nil => exact List.Sublist.slnil
    | cons e l ih =>
      rw [filterMap_cons]
      split
      · exact ih.cons e
      next s hs =>
        rw [map_cons, scanEntry_entry hs]
        exact ih.cons_cons e
  exact hscan _

theorem auditScans_keys (hkeys : (entries.map Entry.key).Nodup) :
    ((auditScans T policy entries).map (·.entry.key)).Nodup := by
  have hsorted : ((sortOn (toLex ·.key) entries).map Entry.key).Nodup :=
    ((perm_sortOn _ entries).map Entry.key).nodup_iff.2 hkeys
  have hsub : (((auditScans T policy entries).map (·.entry)).map Entry.key).Sublist _ :=
    auditScans_entries.map Entry.key
  rw [map_map] at hsub
  exact hsub.nodup hsorted

theorem auditScans_length_le : (auditScans T policy entries).length ≤ entries.length :=
  (length_filterMap_le _ _).trans (perm_sortOn _ entries).length_eq.le

theorem find_scan (hkeys : (entries.map Entry.key).Nodup) {e : Entry D} (he : e ∈ entries) :
    (auditScans T policy entries).find? (·.entry.key = e.key) = scanEntry T policy e := by
  rcases hscan : scanEntry T policy e with _ | s
  · refine find?_eq_none.2 fun s hs hkey => ?_
    obtain ⟨e', he', hs'⟩ := mem_auditScans.1 hs
    rw [scanEntry_entry hs', decide_eq_true_eq] at hkey
    rw [inj_on_of_nodup_map hkeys he' he hkey, hscan] at hs'
    cases hs'
  · have hmem : s ∈ auditScans T policy entries := mem_auditScans.2 ⟨e, he, hscan⟩
    have hfound := find?_key (auditScans_keys hkeys) hmem
    rw [scanEntry_entry hscan] at hfound
    exact hfound

/-- The scan of an entry of enough tokens. -/
def longScan (T : Tools D) (policy : CorpusAuditPolicy) (e : Entry D) : Option (Scan D) :=
  (scanEntry T policy e).filter fun s => decide (policy.minimumTokens ≤ s.tokens.length)

theorem eligibleScans_eq (hkeys : (entries.map Entry.key).Nodup) {side : List (Entry D)}
    (hside : ∀ e ∈ side, e ∈ entries) :
    eligibleScans policy (auditScans T policy entries) side =
      side.filterMap (longScan T policy) := by
  refine filterMap_congr fun e he => ?_
  rw [find_scan hkeys (hside e he), longScan]

theorem longScan_eq_some {e : Entry D} {s : Scan D} :
    longScan T policy e = some s ↔ ∃ tokens, e.tokenize T = .ok tokens ∧
      policy.minimumTokens ≤ tokens.length ∧ s = scanOf T policy e tokens := by
  rw [longScan, Option.filter_eq_some_iff, scanEntry]
  constructor
  · rintro ⟨hs, hlong⟩
    split at hs
    next tokens htokens =>
      cases hs
      exact ⟨tokens, htokens, of_decide_eq_true hlong, rfl⟩
    next => cases hs
  · rintro ⟨tokens, htokens, hlong, rfl⟩
    rw [htokens]
    exact ⟨rfl, decide_eq_true hlong⟩

/-! ## Comparisons -/

section

variable [DecidableEq D]

/-- The comparison of two scans that have n-grams. -/
def similarityOf (policy : CorpusAuditPolicy) (t e : Scan D) : CorpusSimilarity where
  trainingCorpusId := t.entry.corpusId
  trainingSourceId := t.entry.source.sourceId
  evaluationCorpusId := e.entry.corpusId
  evaluationSourceId := e.entry.source.sourceId
  trainingNgramCount := t.ngrams.card
  evaluationNgramCount := e.ngrams.card
  sharedNgramCount := (t.ngrams ∩ e.ngrams).card
  jaccard := jaccard t.ngrams e.ngrams
  containment := containment t.ngrams e.ngrams
  blocking := decide (t.entry.source.sha256 = e.entry.source.sha256) ||
    decide (t.tokenSha256 = e.tokenSha256) ||
    (decide (policy.jaccardThreshold ≤ jaccard t.ngrams e.ngrams) ||
      decide (policy.containmentThreshold ≤ containment t.ngrams e.ngrams))

theorem divide_eq {a b : Nat} (hb : 0 < b) : divide a b = .ok (a / b) := by
  rw [divide, if_neg hb.ne']

theorem compareScans_fst {t e : Scan D} {r : CorpusSimilarity × Option CorpusAuditIssue}
    (h : compareScans T policy t e = .ok r) : r.1 = similarityOf policy t e := by
  have hdivide : ∀ {a b : Nat} {q : ℚ}, divide a b = .ok q → q = a / b := by
    intro a b q hq
    rw [divide] at hq
    split at hq
    · cases hq
    · cases hq
      rfl
  obtain ⟨j, hj, h⟩ := bind_eq_ok.1 h
  obtain ⟨c, hc, h⟩ := bind_eq_ok.1 h
  obtain ⟨-, h⟩ := seq_eq_ok.1 h
  cases h
  cases hdivide hj
  cases hdivide hc
  rfl

theorem compareScans_ok {t e : Scan D} (ht : 0 < t.ngrams.card) (he : 0 < e.ngrams.card) :
    ∃ r, compareScans T policy t e = .ok r := by
  have hunion : 0 < (t.ngrams ∪ e.ngrams).card :=
    ht.trans_le (Finset.card_le_card Finset.subset_union_left)
  have hmin : 0 < min t.ngrams.card e.ngrams.card := lt_min ht he
  have hvalid : (similarityOf policy t e).validate = .ok () := by
    refine refuse_eq_ok.2 ?_
    simp [similarityOf, Nat.one_le_iff_ne_zero, ht.ne', he.ne', jaccard_nonneg, jaccard_le_one,
      containment_nonneg, containment_le_one]
  rw [compareScans, divide_eq hunion, divide_eq hmin]
  exact ⟨_, bind_eq_ok.2 ⟨_, rfl, bind_eq_ok.2 ⟨_, rfl, seq_eq_ok.2 ⟨hvalid, rfl⟩⟩⟩⟩

end

/-! ## The matrix -/

theorem mem_scanPairs {training evaluation : List (Scan D)} {p : Scan D × Scan D} :
    p ∈ scanPairs training evaluation ↔ p.1 ∈ training ∧ p.2 ∈ evaluation := by
  rw [scanPairs, mem_flatMap]
  constructor
  · rintro ⟨t, ht, hp⟩
    obtain ⟨e, he, rfl⟩ := mem_map.1 hp
    exact ⟨(perm_sortOn _ _).mem_iff.1 ht, (perm_sortOn _ _).mem_iff.1 he⟩
  · rintro ⟨ht, he⟩
    exact ⟨p.1, (perm_sortOn _ _).mem_iff.2 ht,
      mem_map.2 ⟨p.2, (perm_sortOn _ _).mem_iff.2 he, rfl⟩⟩

theorem length_scanPairs (training evaluation : List (Scan D)) :
    (scanPairs training evaluation).length = training.length * evaluation.length := by
  have hrow : ∀ l : List (Scan D), (l.flatMap fun t =>
      (sortOn (toLex ·.entry.key) evaluation).map fun e => (t, e)).length =
        l.length * evaluation.length := by
    intro l
    induction l with
    | nil => simp
    | cons t l ih =>
      rw [flatMap_cons, length_append, ih, length_map,
        (perm_sortOn _ evaluation).length_eq, length_cons, Nat.succ_mul, Nat.add_comm]
  rw [scanPairs, hrow, (perm_sortOn _ training).length_eq]

theorem trainingOf_subset : ∀ e ∈ trainingOf policy entries, e ∈ entries :=
  fun _ he => (mem_filter.1 he).1

theorem evaluationOf_subset : ∀ e ∈ evaluationOf policy entries, e ∈ entries :=
  fun _ he => (mem_filter.1 he).1

section

variable (hkeys : (entries.map Entry.key).Nodup)

include hkeys

theorem auditPairs_eq : auditPairs T policy entries =
    if (trainingOf policy entries).length * (evaluationOf policy entries).length >
      maxFuzzyComparisons then []
    else scanPairs ((trainingOf policy entries).filterMap (longScan T policy))
      ((evaluationOf policy entries).filterMap (longScan T policy)) := by
  rw [auditPairs, eligibleScans_eq hkeys trainingOf_subset,
    eligibleScans_eq hkeys evaluationOf_subset]

theorem auditPairs_length_le :
    (auditPairs T policy entries).length ≤
      (trainingOf policy entries).length * (evaluationOf policy entries).length := by
  rw [auditPairs_eq hkeys]
  split
  · exact Nat.zero_le _
  · rw [length_scanPairs]
    exact Nat.mul_le_mul (length_filterMap_le _ _) (length_filterMap_le _ _)

theorem long_of_mem_auditPairs {p : Scan D × Scan D} (hp : p ∈ auditPairs T policy entries) :
    (∃ t ∈ trainingOf policy entries, longScan T policy t = some p.1) ∧
      ∃ e ∈ evaluationOf policy entries, longScan T policy e = some p.2 := by
  rw [auditPairs_eq hkeys] at hp
  split at hp
  · cases hp
  · obtain ⟨ht, he⟩ := mem_scanPairs.1 hp
    exact ⟨mem_filterMap.1 ht, mem_filterMap.1 he⟩

theorem mem_auditPairs
    (hbudget : (trainingOf policy entries).length * (evaluationOf policy entries).length ≤
      maxFuzzyComparisons)
    {t e : Entry D} {st se : Scan D} (ht : t ∈ trainingOf policy entries)
    (he : e ∈ evaluationOf policy entries) (hst : longScan T policy t = some st)
    (hse : longScan T policy e = some se) : (st, se) ∈ auditPairs T policy entries := by
  rw [auditPairs_eq hkeys, if_neg (not_lt.2 hbudget)]
  exact mem_scanPairs.2 ⟨mem_filterMap.2 ⟨t, ht, hst⟩, mem_filterMap.2 ⟨e, he, hse⟩⟩

end

theorem longScan_ngrams_pos (hbounded : policy.Bounded) {e : Entry D} {s : Scan D}
    (h : longScan T policy e = some s) : 0 < s.ngrams.card := by
  obtain ⟨tokens, -, hlong, rfl⟩ := longScan_eq_some.1 h
  exact ngrams_card_pos (hbounded.minimumTokens.trans hlong)

/-! ## Empty lists of issues -/

theorem one_lt_length {α : Type} {l : List α} {a b : α} (ha : a ∈ l) (hb : b ∈ l) (h : a ≠ b) :
    1 < l.length := by
  rcases l with _ | ⟨x, _ | ⟨y, l⟩⟩
  · cases ha
  · rw [mem_singleton] at ha hb
    exact absurd (ha.trans hb.symm) h
  · exact Nat.one_lt_succ_succ _

theorem nodup_of_duplicateIssues {κ : Type} [DecidableEq κ] {key : Entry D → κ}
    {text : κ → String} {code : IssueCode} {message : String → String}
    (h : duplicateIssues key text code message entries = []) : (entries.map key).Nodup := by
  refine nodup_iff_count_le_one.2 fun k => ?_
  by_contra hcount
  have hmem : k ∈ entries.map key := count_pos_iff.1 (by omega)
  have hnone := filterMap_eq_nil_iff.1 h k
    ((perm_sortOn _ _).mem_iff.2 (mem_eraseDups.2 hmem))
  rw [count, countP_map, countP_eq_length_filter] at hcount
  have hfilter : entries.filter ((· == k) ∘ key) = entries.filter fun e => key e = k := by
    refine filter_congr fun e _ => ?_
    exact beq_eq_decide _ _
  rw [hfilter] at hcount
  simp only [if_pos (not_le.1 hcount), reduceCtorEq] at hnone

theorem disjoint_of_crossSplitIssues {key : Entry D → String} {code : IssueCode} {label : String}
    {training evaluation : List (Entry D)}
    (h : crossSplitIssues key code label training evaluation = []) :
    ∀ t ∈ training, ∀ e ∈ evaluation, key t ≠ key e := by
  intro t ht e he heq
  have hempty : sortOn id
      ((training.map key).eraseDups.filter (evaluation.map key).contains) = [] :=
    map_eq_nil_iff.1 h
  have hmem : key t ∈ (training.map key).eraseDups.filter (evaluation.map key).contains := by
    refine mem_filter.2 ⟨mem_eraseDups.2 (mem_map_of_mem ht), ?_⟩
    rw [contains_iff_mem, heq]
    exact mem_map_of_mem he
  have := (perm_sortOn id _).mem_iff.2 hmem
  rw [hempty] at this
  cases this

section

variable [DecidableEq D]

theorem tokens_of_tokenDuplicateIssues
    (h : tokenDuplicateIssues T (auditScans T policy entries) = [])
    (hdigests : (entries.map (·.source.sha256)).Nodup) {e e' : Entry D} {tokens : List Source}
    (he : e ∈ entries) (he' : e' ∈ entries) (ht : e.tokenize T = .ok tokens)
    (ht' : e'.tokenize T = .ok tokens) : e = e' := by
  by_contra hne
  have hscan : ∀ {x : Entry D}, x ∈ entries → x.tokenize T = .ok tokens →
      scanOf T policy x tokens ∈ auditScans T policy entries := by
    intro x hx hxt
    exact mem_auditScans.2 ⟨x, hx, by rw [scanEntry, hxt]⟩
  have hnone := filterMap_eq_nil_iff.1 h (T.sha256 (sequenceBytes tokens))
    ((perm_sortOn _ _).mem_iff.2 (mem_eraseDups.2 (mem_map_of_mem (hscan he ht))))
  have hmember : ∀ {x : Entry D}, x ∈ entries → x.tokenize T = .ok tokens →
      x ∈ ((auditScans T policy entries).filter
        (·.tokenSha256 = T.sha256 (sequenceBytes tokens))).map (·.entry) := by
    intro x hx hxt
    exact mem_map.2 ⟨_, mem_filter.2 ⟨hscan hx hxt, decide_eq_true rfl⟩, rfl⟩
  have hdigest : e.source.sha256 ≠ e'.source.sha256 :=
    fun heq => hne (inj_on_of_nodup_map hdigests he he' heq)
  have hmany := one_lt_length (hmember he ht) (hmember he' ht') hne
  have hdistinct := one_lt_length
    (mem_eraseDups.2 (mem_map_of_mem (f := (·.source.sha256)) (hmember he ht)))
    (mem_eraseDups.2 (mem_map_of_mem (f := (·.source.sha256)) (hmember he' ht'))) hdigest
  simp only [if_pos (And.intro hmany hdistinct), reduceCtorEq] at hnone

/-! ## The report -/

/-- No comparison divides by zero or is refused. -/
theorem compared_ok (hbounded : policy.Bounded) (hkeys : (entries.map Entry.key).Nodup)
    {p : Scan D × Scan D} (hp : p ∈ auditPairs T policy entries) :
    ∃ r, compareScans T policy p.1 p.2 = .ok r := by
  obtain ⟨⟨t, -, ht⟩, e, -, he⟩ := long_of_mem_auditPairs hkeys hp
  exact compareScans_ok (longScan_ngrams_pos hbounded ht) (longScan_ngrams_pos hbounded he)

variable {compared : List (CorpusSimilarity × Option CorpusAuditIssue)}

/-- The issues of the metadata that a report without issues does not have. -/
structure Separate (policy : CorpusAuditPolicy) (entries : List (Entry D))
    (denied : List Source) : Prop where
  ids : (entries.map (·.source.sourceId)).Nodup
  digests : (entries.map (·.source.sha256)).Nodup
  training : trainingOf policy entries ≠ []
  contamination : ∀ t ∈ trainingOf policy entries, ∀ e ∈ evaluationOf policy entries,
    t.source.contaminationGroup ≠ e.source.contaminationGroup
  lineage : ∀ t ∈ trainingOf policy entries, ∀ e ∈ evaluationOf policy entries,
    t.source.lineageGroup ≠ e.source.lineageGroup
  clone : ∀ t ∈ trainingOf policy entries, ∀ e ∈ evaluationOf policy entries,
    t.source.cloneGroup ≠ e.source.cloneGroup
  family : ∀ t ∈ trainingOf policy entries, ∀ e ∈ evaluationOf policy entries,
    t.family ≠ e.family
  allowed : ∀ t ∈ trainingOf policy entries, t.family ∉ denied

theorem separate_of_metadataIssues (h : metadataIssues T policy entries denied = []) :
    Separate policy entries denied := by
  simp only [metadataIssues, append_eq_nil_iff] at h
  obtain ⟨⟨⟨⟨⟨⟨⟨⟨hids, hdigests⟩, htraining⟩, -⟩, hcontamination⟩, hlineage⟩, hclone⟩,
    hdenied⟩, hfamily⟩ := h
  refine ⟨nodup_of_duplicateIssues hids, nodup_of_duplicateIssues hdigests, ?_,
    disjoint_of_crossSplitIssues hcontamination, disjoint_of_crossSplitIssues hlineage,
    disjoint_of_crossSplitIssues hclone, ?_, ?_⟩
  · intro hempty
    rw [hempty] at htraining
    cases htraining
  · intro t ht e he heq
    exact disjoint_of_crossSplitIssues hfamily t ht e he (congrArg String.ofList heq)
  · intro t ht hmem
    have hnone := filter_eq_nil_iff.1 (map_eq_nil_iff.1 hdenied) t ht
    exact hnone (contains_iff_mem.2 hmem)

theorem issues_eq_nil
    (h : (auditReport T policy corpus benchmark entries denied compared).issues = []) :
    metadataIssues T policy entries denied = [] ∧
      tokenDuplicateIssues T (auditScans T policy entries) = [] := by
  have hperm := perm_sortOn issueOrder (metadataIssues T policy entries denied ++
    scanIssues T policy entries ++ compared.filterMap (·.2))
  have hnil : metadataIssues T policy entries denied ++ scanIssues T policy entries ++
      compared.filterMap (·.2) = [] := by
    refine nil_perm.1 ?_
    have hissues : sortOn issueOrder (metadataIssues T policy entries denied ++
      scanIssues T policy entries ++ compared.filterMap (·.2)) = [] := h
    rwa [hissues] at hperm
  obtain ⟨⟨hmetadata, hscan⟩, -⟩ : (metadataIssues T policy entries denied = [] ∧
      scanIssues T policy entries = []) ∧ compared.filterMap (·.2) = [] := by
    simpa only [append_eq_nil_iff] using hnil
  exact ⟨hmetadata, (append_eq_nil_iff.1 hscan).2⟩

theorem sides_of_issues (ha : Audited T policy corpus benchmark entries denied)
    (h : (auditReport T policy corpus benchmark entries denied compared).issues = []) :
    2 ≤ entries.length ∧
      1 ≤ (trainingOf policy entries).length * (evaluationOf policy entries).length := by
  obtain ⟨t, ht⟩ := exists_mem_of_ne_nil _
    (separate_of_metadataIssues (issues_eq_nil h).1).training
  obtain ⟨e, he, hsplit⟩ := ha.benchmark
  have heval : e ∈ evaluationOf policy entries := by
    refine mem_filter.2 ⟨he, contains_iff_mem.2 ((ha.bounded.evaluation _).2 ?_)⟩
    rw [hsplit]
    exact mem_of_elem_eq_true rfl
  have htrain : t.source.split = .train :=
    (ha.bounded.training _).1 (contains_iff_mem.1 (mem_filter.1 ht).2)
  constructor
  · refine one_lt_length (trainingOf_subset t ht) he fun heq => ?_
    rw [heq, hsplit] at htrain
    cases htrain
  · exact Nat.mul_pos (length_pos_of_mem ht) (length_pos_of_mem heval)

theorem auditReport_valid (ha : Audited T policy corpus benchmark entries denied)
    (hlength : compared.length = (auditPairs T policy entries).length) :
    (auditReport T policy corpus benchmark entries denied compared).validate = .ok () := by
  have hscans : (auditScans T policy entries).length ≤ entries.length := auditScans_length_le
  have hpairs : (auditPairs T policy entries).length ≤ _ := auditPairs_length_le ha.keys
  set report := auditReport T policy corpus benchmark entries denied compared
  have hids : (report.fingerprints.map fun f => (f.corpusId, f.sourceId)).Nodup := by
    have hkeys := ((perm_sortOn (toLex ·.entry.key) (auditScans T policy entries)).map
      (·.entry.key)).nodup_iff.2 (auditScans_keys ha.keys)
    simp only [report, auditReport, map_map]
    exact hkeys
  have hpassed : report.staticAuditPassed = report.complete := by
    rcases hissues : report.issues.isEmpty
    · rw [CorpusAuditReport.complete, hissues]
      simp only [report, auditReport] at hissues ⊢
      simp only [hissues, Bool.false_and]
    · obtain ⟨htotal, hexpected⟩ := sides_of_issues ha (isEmpty_iff.1 hissues)
      rw [CorpusAuditReport.complete, hissues]
      simp only [report, auditReport] at hissues ⊢
      simp only [hissues, htotal, hexpected, decide_true, Bool.and_true]
  rw [CorpusAuditReport.validate, hpassed]
  refine refuse_eq_ok.2 ?_
  simp only [forall_mem_cons, bne_self_eq_false, decide_eq_false_iff_not, not_lt,
    Bool.not_eq_false', decide_eq_true_eq, hids, true_and]
  simp only [report, auditReport, length_map, hlength, (perm_sortOn _ _).length_eq,
    bne_self_eq_false, true_and]
  exact ⟨hscans, countP_le_length, hpairs, forall_mem_nil _⟩

theorem auditCorpus_eq_ok {report : CorpusAuditReport D} :
    auditCorpus T policy corpus benchmark = .ok report ↔
      ∃ entries denied compared, auditEntries T policy corpus benchmark = .ok (entries, denied) ∧
        comparePairs T policy entries = .ok compared ∧
        report = auditReport T policy corpus benchmark entries denied compared ∧
        report.issues.forM (·.validate) = .ok () ∧ report.validate = .ok () := by
  constructor
  · intro h
    obtain ⟨⟨entries, denied⟩, hentries, h⟩ := bind_eq_ok.1 h
    obtain ⟨compared, hcompared, h⟩ := bind_eq_ok.1 h
    obtain ⟨hissues, h⟩ := seq_eq_ok.1 h
    obtain ⟨hvalid, h⟩ := seq_eq_ok.1 h
    cases h
    exact ⟨entries, denied, compared, hentries, hcompared, rfl, hissues, hvalid⟩
  · rintro ⟨entries, denied, compared, hentries, hcompared, rfl, hissues, hvalid⟩
    exact bind_eq_ok.2 ⟨_, hentries, bind_eq_ok.2 ⟨_, hcompared,
      seq_eq_ok.2 ⟨hissues, seq_eq_ok.2 ⟨hvalid, rfl⟩⟩⟩⟩

/-- Every comparison is made and its report passes the checks: only an issue whose text is
too long can stop the audit. -/
theorem auditCorpus_ok (hentries : auditEntries T policy corpus benchmark = .ok (entries, denied)) :
    ∃ compared, comparePairs T policy entries = .ok compared ∧
      (auditReport T policy corpus benchmark entries denied compared).validate = .ok () := by
  have ha := auditEntries_audited hentries
  obtain ⟨compared, hcompared⟩ : ∃ compared, comparePairs T policy entries = .ok compared :=
    mapM_ok fun p hp => compared_ok ha.bounded ha.keys hp
  refine ⟨compared, hcompared, auditReport_valid ha ?_⟩
  have := congrArg length (mapM_eq_ok.1 hcompared)
  simpa using this.symm

/-! ## Corpora of one source -/

/-- Every digest is the text itself. -/
def plainTools : Tools (List UInt8) where
  library := asciiLibrary
  unicode := asciiUnicode
  sha256 := id
  manifestSha256 _ := []
  policySha256 _ := []
  inputsSha256 _ _ _ := []
  hex _ := ""
  fixed6 _ := ""

def singleSource (name : String) (content : List UInt8) (split : CorpusSplit) :
    CorpusSource (List UInt8) where
  sourceId := name
  path := name
  sha256 := content
  sizeBytes := content.length
  split := split
  contaminationGroup := name
  lineageGroup := name
  cloneGroup := name
  provenance :=
    { repository := name
      commit := String.ofList (replicate 40 '1')
      sourcePath := name
      license := "MIT" }

def singleCorpus (kind : ManifestKind) (name : String) (content : List UInt8)
    (split : CorpusSplit) : LoadedCorpus (List UInt8) where
  manifest := { kind, corpusId := name, sources := [singleSource name content split] }
  sources := [⟨singleSource name content split, content⟩]

def singleEntry (name : String) (content : List UInt8) (split : CorpusSplit) :
    Entry (List UInt8) where
  corpusId := name
  source := singleSource name content split
  content := content
  family := name.toList

def halfPolicy : CorpusAuditPolicy where
  policyId := "half"
  ngramSize := 5
  minimumTokens := 16
  jaccardThreshold := 1 / 2
  containmentThreshold := 1 / 2
  trainingSplits := [.train]
  evaluationSplits := evaluationSplits
  deniedTrainingRepositoryFamilies := ["bpftime", "cilium", "xdp-tools"]

/-! ## Passed audits -/

theorem comparisons_eq
    (h : comparePairs T policy entries = .ok compared) :
    compared.map (·.1) = (auditPairs T policy entries).map fun p => similarityOf policy p.1 p.2 :=
  map_of_mapM h fun _ _ hr => compareScans_fst hr

/-- What a passed audit says of its entries. -/
structure Exhaustive (T : Tools D) (policy : CorpusAuditPolicy) (entries : List (Entry D))
    (denied : List Source) (report : CorpusAuditReport D) : Prop extends
    Separate policy entries denied where
  tokens : ∀ e ∈ entries, ∃ tokens, e.tokenize T = .ok tokens ∧
    policy.minimumTokens ≤ tokens.length
  sequences : (entries.map (Entry.tokenize T)).Nodup
  compared : ∀ t ∈ trainingOf policy entries, ∀ e ∈ evaluationOf policy entries,
    ∀ ts es, t.tokenize T = .ok ts → e.tokenize T = .ok es →
    ∃ c ∈ report.comparisons,
      (c.trainingCorpusId, c.trainingSourceId) = t.key ∧
      (c.evaluationCorpusId, c.evaluationSourceId) = e.key ∧
      c.jaccard = jaccard (ngrams policy.ngramSize ts) (ngrams policy.ngramSize es) ∧
      c.containment = containment (ngrams policy.ngramSize ts) (ngrams policy.ngramSize es) ∧
      c.jaccard < policy.jaccardThreshold ∧ c.containment < policy.containmentThreshold

omit [DecidableEq D] in
/-- Where every entry counts as eligible, each has its tokens. -/
theorem tokens_of_eligible (hcount : ((auditScans T policy entries).countP fun s =>
      decide (policy.minimumTokens ≤ s.tokens.length)) = entries.length) :
    ∀ e ∈ entries, ∃ tokens, e.tokenize T = .ok tokens ∧
      policy.minimumTokens ≤ tokens.length := by
  have hscans : (auditScans T policy entries).length = entries.length := by
    refine le_antisymm auditScans_length_le ?_
    rw [← hcount]
    exact countP_le_length
  intro e he
  have hsome : (scanEntry T policy e).isSome := by
    have hlength := hscans.trans (perm_sortOn (toLex ·.key) entries).length_eq.symm
    rw [auditScans, length_filterMap_eq_countP] at hlength
    exact countP_eq_length.1 hlength e ((perm_sortOn _ _).mem_iff.2 he)
  obtain ⟨s, hs⟩ := Option.isSome_iff_exists.1 hsome
  have hlong := countP_eq_length.1 (hcount.trans hscans.symm) s (mem_auditScans.2 ⟨e, he, hs⟩)
  obtain ⟨tokens, htokens, hmin, -⟩ := longScan_eq_some.1
    (show longScan T policy e = some s by rw [longScan, hs, Option.filter_some, if_pos hlong])
  exact ⟨tokens, htokens, hmin⟩

theorem exhaustive_of_passed (ha : Audited T policy corpus benchmark entries denied)
    (hcompared : comparePairs T policy entries = .ok compared)
    (hpassed : (auditReport T policy corpus benchmark entries denied compared).staticAuditPassed =
      true) :
    Exhaustive T policy entries denied
      (auditReport T policy corpus benchmark entries denied compared) := by
  have hcomparisons := comparisons_eq hcompared
  have hflags := hpassed
  simp only [auditReport, Bool.and_eq_true, beq_iff_eq, Bool.not_eq_true'] at hflags
  obtain ⟨⟨⟨⟨hissues, -⟩, heligible⟩, hmatrix⟩, hblocking⟩ := hflags
  have hnone : (auditReport T policy corpus benchmark entries denied compared).issues = [] :=
    isEmpty_iff.1 hissues
  obtain ⟨hmetadata, hduplicates⟩ := issues_eq_nil hnone
  have hseparate := separate_of_metadataIssues hmetadata
  have htokens := tokens_of_eligible heligible
  refine { toSeparate := hseparate, tokens := htokens, sequences := ?_, compared := ?_ }
  · refine List.Nodup.map_on ?_ (List.Nodup.of_map _ ha.keys)
    intro e he e' he' heq
    obtain ⟨tokens, hok, -⟩ := htokens e he
    exact tokens_of_tokenDuplicateIssues hduplicates hseparate.digests he he' hok (heq ▸ hok)
  · intro t ht e he ts es hts hes
    have hlong : ∀ {x : Entry D} {tokens}, x ∈ entries → x.tokenize T = .ok tokens →
        longScan T policy x = some (scanOf T policy x tokens) := by
      intro x tokens hx hxt
      obtain ⟨tokens', hok, hmin⟩ := htokens x hx
      cases hxt.symm.trans hok
      exact longScan_eq_some.2 ⟨tokens, hxt, hmin, rfl⟩
    -- a matrix over the limit has no comparison at all, so it is not complete
    have hbudget : (trainingOf policy entries).length * (evaluationOf policy entries).length ≤
        maxFuzzyComparisons := by
      by_contra hover
      rw [hcomparisons, auditPairs_eq ha.keys, if_pos (not_le.1 hover)] at hmatrix
      rw [← hmatrix] at hover
      exact hover (Nat.zero_le _)
    have hpair := mem_auditPairs ha.keys hbudget ht he (hlong (trainingOf_subset t ht) hts)
      (hlong (evaluationOf_subset e he) hes)
    have hmem : similarityOf policy (scanOf T policy t ts) (scanOf T policy e es) ∈
        compared.map (·.1) := by
      rw [hcomparisons]
      exact mem_map.2 ⟨_, hpair, rfl⟩
    have hclear := any_eq_false.1 hblocking _ hmem
    simp only [similarityOf, Bool.or_eq_true, decide_eq_true_eq, not_or, not_le] at hclear
    exact ⟨_, hmem, rfl, rfl, rfl, rfl, hclear.2⟩

/-- Whoever passes has compared every training source with every evaluation source; and
an audit of accepted inputs ends with a report that is valid. -/
theorem passed_audit_exhaustive :
    (∀ entries denied, auditEntries T policy corpus benchmark = .ok (entries, denied) →
      ∃ compared, comparePairs T policy entries = .ok compared ∧
        (auditReport T policy corpus benchmark entries denied compared).validate = .ok ()) ∧
    ∀ report, auditCorpus T policy corpus benchmark = .ok report →
      report.validate = .ok () ∧
      (report.staticAuditPassed = true → ∃ entries denied,
        auditEntries T policy corpus benchmark = .ok (entries, denied) ∧
        Audited T policy corpus benchmark entries denied ∧
        Exhaustive T policy entries denied report) := by
  refine ⟨fun entries denied hentries => auditCorpus_ok hentries, fun report h => ?_⟩
  obtain ⟨entries, denied, compared, hentries, hcompared, rfl, -, hvalid⟩ := auditCorpus_eq_ok.1 h
  refine ⟨hvalid, fun hpassed => ?_⟩
  have ha := auditEntries_audited hentries
  exact ⟨entries, denied, hentries, ha, exhaustive_of_passed ha hcompared hpassed⟩

/-- Sixteen semicolons against sixteen commas. -/
theorem passed_audit_exhaustive_single :
    ∃ report, auditCorpus plainTools halfPolicy
        (singleCorpus .corpus "train" (replicate 16 59) .train)
        (singleCorpus .benchmark "bench" (replicate 16 44) .benchmark) = .ok report ∧
      report.staticAuditPassed = true ∧ report.validate = .ok () ∧
      ∃ entries denied, auditEntries plainTools halfPolicy
          (singleCorpus .corpus "train" (replicate 16 59) .train)
          (singleCorpus .benchmark "bench" (replicate 16 44) .benchmark) = .ok (entries, denied) ∧
        Exhaustive plainTools halfPolicy entries denied report := by
  have hrun : (auditCorpus plainTools halfPolicy
      (singleCorpus .corpus "train" (replicate 16 59) .train)
      (singleCorpus .benchmark "bench" (replicate 16 44) .benchmark)).map
        (·.staticAuditPassed) = .ok true := by decide +kernel
  rcases hreport : auditCorpus plainTools halfPolicy
      (singleCorpus .corpus "train" (replicate 16 59) .train)
      (singleCorpus .benchmark "bench" (replicate 16 44) .benchmark) with _ | report
  · rw [hreport] at hrun
    cases hrun
  · rw [hreport] at hrun
    have hpassed : report.staticAuditPassed = true := Except.ok.inj hrun
    obtain ⟨hvalid, hexhaustive⟩ := passed_audit_exhaustive.2 report hreport
    obtain ⟨entries, denied, hentries, -, hall⟩ := hexhaustive hpassed
    exact ⟨report, rfl, hpassed, hvalid, entries, denied, hentries, hall⟩

/-! ## Copied sources -/

/-- The comparison of two sources of which one holds the other's tokens as a block. -/
theorem containment_of_infix (hbounded : policy.Bounded) {ts es : List Source}
    (hwithin : ts <:+: es ∨ es <:+: ts)
    (hmin : policy.minimumTokens ≤ min ts.length es.length) :
    containment (ngrams policy.ngramSize ts) (ngrams policy.ngramSize es) = 1 := by
  have hsize := hbounded.minimumTokens
  rcases hwithin with h | h
  · exact containment_of_subset (ngrams_subset h) (ngrams_card_pos (by omega))
  · rw [containment_comm]
    exact containment_of_subset (ngrams_subset h) (ngrams_card_pos (by omega))

theorem containment_of_key (ha : Audited T policy corpus benchmark entries denied)
    (hcompared : comparePairs T policy entries = .ok compared) {c : CorpusSimilarity}
    (hc : c ∈ compared.map (·.1)) {t e : Entry D} (ht : t ∈ entries) (he : e ∈ entries)
    (htkey : (c.trainingCorpusId, c.trainingSourceId) = t.key)
    (hekey : (c.evaluationCorpusId, c.evaluationSourceId) = e.key) {ts es : List Source}
    (hts : t.tokenize T = .ok ts) (hes : e.tokenize T = .ok es) :
    c.containment = containment (ngrams policy.ngramSize ts) (ngrams policy.ngramSize es) := by
  rw [comparisons_eq hcompared] at hc
  obtain ⟨⟨st, se⟩, hp, rfl⟩ := mem_map.1 hc
  obtain ⟨⟨t', ht', hst⟩, e', he', hse⟩ := long_of_mem_auditPairs ha.keys hp
  obtain ⟨ts', hts', -, rfl⟩ := longScan_eq_some.1 hst
  obtain ⟨es', hes', -, rfl⟩ := longScan_eq_some.1 hse
  have htt := inj_on_of_nodup_map ha.keys (trainingOf_subset t' ht') ht htkey
  have hee := inj_on_of_nodup_map ha.keys (evaluationOf_subset e' he') he hekey
  subst htt hee
  cases hts.symm.trans hts'
  cases hes.symm.trans hes'
  rfl

/-- **A training source and an evaluation source of which one holds the other's tokens as a
block do not pass, and their comparison shows containment one.** -/
theorem copied_source_not_passed {report : CorpusAuditReport D}
    (h : auditCorpus T policy corpus benchmark = .ok report)
    (hentries : auditEntries T policy corpus benchmark = .ok (entries, denied))
    {t e : Entry D} (ht : t ∈ trainingOf policy entries) (he : e ∈ evaluationOf policy entries)
    {ts es : List Source} (hts : t.tokenize T = .ok ts) (hes : e.tokenize T = .ok es)
    (hwithin : ts <:+: es ∨ es <:+: ts)
    (hmin : policy.minimumTokens ≤ min ts.length es.length) :
    report.staticAuditPassed = false ∧
      ∀ c ∈ report.comparisons, (c.trainingCorpusId, c.trainingSourceId) = t.key →
        (c.evaluationCorpusId, c.evaluationSourceId) = e.key → c.containment = 1 := by
  obtain ⟨entries', denied', compared, hentries', hcompared, rfl, -, -⟩ := auditCorpus_eq_ok.1 h
  cases hentries.symm.trans hentries'
  have ha := auditEntries_audited hentries
  have hone := containment_of_infix ha.bounded hwithin hmin
  constructor
  · rw [← Bool.not_eq_true]
    intro hpassed
    obtain ⟨c, -, -, -, -, hcontainment, -, hbelow⟩ :=
      (exhaustive_of_passed ha hcompared hpassed).compared t ht e he ts es hts hes
    rw [hcontainment, hone] at hbelow
    have hthreshold := ha.bounded.containment
    linarith
  · intro c hc htkey hekey
    rw [containment_of_key ha hcompared hc (trainingOf_subset t ht) (evaluationOf_subset e he)
      htkey hekey hts hes, hone]

/-- Seventeen semicolons against sixteen. -/
theorem copied_source_not_passed_single :
    ∃ report, auditCorpus plainTools halfPolicy
        (singleCorpus .corpus "train" (replicate 17 59) .train)
        (singleCorpus .benchmark "bench" (replicate 16 59) .benchmark) = .ok report ∧
      report.staticAuditPassed = false ∧
      ∀ c ∈ report.comparisons, (c.trainingCorpusId, c.trainingSourceId) = ("train", "train") →
        (c.evaluationCorpusId, c.evaluationSourceId) = ("bench", "bench") → c.containment = 1 := by
  have hrun : (auditCorpus plainTools halfPolicy
      (singleCorpus .corpus "train" (replicate 17 59) .train)
      (singleCorpus .benchmark "bench" (replicate 16 59) .benchmark)).isOk = true := by
    decide +kernel
  have hentries : auditEntries plainTools halfPolicy
      (singleCorpus .corpus "train" (replicate 17 59) .train)
      (singleCorpus .benchmark "bench" (replicate 16 59) .benchmark) =
        .ok ([singleEntry "train" (replicate 17 59) .train,
          singleEntry "bench" (replicate 16 59) .benchmark], hardDeniedTrainingFamilies) := by
    decide +kernel
  obtain ⟨report, hreport⟩ := exists_of_isOk hrun
  have htrain : (singleEntry "train" (replicate 17 59) .train).tokenize plainTools =
      .ok (replicate 17 [';']) := by decide +kernel
  have hbench : (singleEntry "bench" (replicate 16 59) .benchmark).tokenize plainTools =
      .ok (replicate 16 [';']) := by decide +kernel
  exact ⟨report, hreport, copied_source_not_passed hreport hentries mem_cons_self
    mem_cons_self htrain hbench
    (.inr ⟨[], [[';']], rfl⟩) (by decide)⟩

end

end Bpe.Corpus
