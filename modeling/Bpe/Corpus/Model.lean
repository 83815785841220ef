import Bpe.Corpus.Repository
import Bpe.Lib.BigEndian
import Bpe.Lib.Collect
import Bpe.Lib.Ngram
import Bpe.Task.Model
import Bpe.Text.Comment

/-!
# Corpora, audit policies and audit reports

The models of `corpus.py` with their validators. Literal fields are left out. Similarity
values and thresholds are exact rationals.
-/

namespace Bpe.Corpus

open Models Grading Text

variable {D : Type}

inductive CorpusSplit where
  | train | development | calibration | validation | sealedEval | benchmark
  deriving DecidableEq

structure CorpusProvenance where
  repository : String
  commit : String
  sourcePath : String
  license : String
  deriving DecidableEq

def normalizedRelativePath (value : String) : Bool :=
  lengthWithin 1 1024 value && !value.toList.any (fun c => c == '\\' || decide (c.toNat < 32)) &&
    Task.isNormalizedPath value

def zeroCommit : String := String.ofList (List.replicate 40 '0')

def normalizeRepositoryFamily (L : Library) (repository : Source) : Except String Source :=
  (normalizeRepositoryIdentity L repository).map fun i => (i.splitOn '/').getLastD []

def CorpusProvenance.validate (L : Library) (p : CorpusProvenance) : Except String Unit := do
  refuse [(!lengthWithin 1 1024 p.repository, "repository")]
  let repository ← nonPlaceholderText L "repository" p.repository.toList
  let _ ← normalizeRepositoryIdentity L repository
  refuse [
    (!isCommit p.commit, "commit"),
    (p.commit == zeroCommit, "provenance commit cannot be an all-zero sentinel"),
    (!normalizedRelativePath p.sourcePath, "source_path"),
    (!lengthWithin 1 256 p.license, "license")]
  let _ ← nonPlaceholderText L "license" p.license.toList
  pure ()

structure CorpusSource (D : Type) where
  sourceId : String
  path : String
  sha256 : D
  sizeBytes : Nat
  split : CorpusSplit
  contaminationGroup : String
  lineageGroup : String
  cloneGroup : String
  provenance : CorpusProvenance
  deriving DecidableEq

def sourceMaxBytes : Nat := 16 * 1024 * 1024

def CorpusSource.validate (L : Library) (s : CorpusSource D) : Except String Unit := do
  refuse [
    (!isStableId s.sourceId, "source_id"),
    (!normalizedRelativePath s.path, "path"),
    (!decide (s.sizeBytes ≤ sourceMaxBytes), "size_bytes"),
    (!isStableId s.contaminationGroup, "contamination_group"),
    (!isStableId s.lineageGroup, "lineage_group"),
    (!isStableId s.cloneGroup, "clone_group")]
  s.provenance.validate L

inductive ManifestKind where
  | corpus | benchmark
  deriving DecidableEq

structure CorpusManifest (D : Type) where
  kind : ManifestKind
  corpusId : String
  sources : List (CorpusSource D)

def CorpusManifest.validate (L : Library) (m : CorpusManifest D) : Except String Unit := do
  refuse [
    (!isStableId m.corpusId, "corpus_id"),
    (!(decide (1 ≤ m.sources.length) && decide (m.sources.length ≤ 100000)), "sources")]
  m.sources.forM (·.validate L)
  refuse [
    (!decide (m.sources.map (·.sourceId)).Nodup, "corpus source IDs must be unique"),
    (!decide (m.sources.map (·.path)).Nodup, "corpus source paths must be unique"),
    (m.kind == .benchmark && m.sources.any (·.split != .benchmark),
      "benchmark manifests may contain only benchmark-split sources"),
    (m.kind == .corpus && m.sources.any (·.split == .benchmark),
      "candidate corpus manifests cannot contain benchmark-split sources")]

/-! ## The policy -/

def hardDeniedTrainingFamilies : List Source :=
  [['b', 'p', 'f', 't', 'i', 'm', 'e'], ['c', 'i', 'l', 'i', 'u', 'm'],
    ['x', 'd', 'p', '-', 't', 'o', 'o', 'l', 's']]

def evaluationSplits : List CorpusSplit :=
  [.development, .calibration, .validation, .sealedEval, .benchmark]

structure CorpusAuditPolicy where
  policyId : String
  ngramSize : Nat
  minimumTokens : Nat
  jaccardThreshold : ℚ
  containmentThreshold : ℚ
  trainingSplits : List CorpusSplit
  evaluationSplits : List CorpusSplit
  deniedTrainingRepositoryFamilies : List String

def CorpusAuditPolicy.validate (L : Library) (p : CorpusAuditPolicy) : Except String Unit := do
  refuse [
    (!isStableId p.policyId, "policy_id"),
    (!(decide (3 ≤ p.ngramSize) && decide (p.ngramSize ≤ 7)), "ngram_size"),
    (!(decide (16 ≤ p.minimumTokens) && decide (p.minimumTokens ≤ 4096)), "minimum_tokens"),
    (!(decide (0 < p.jaccardThreshold) && decide (p.jaccardThreshold ≤ 95 / 100)),
      "jaccard_threshold"),
    (!(decide (0 < p.containmentThreshold) && decide (p.containmentThreshold ≤ 99 / 100)),
      "containment_threshold"),
    (!sameSet p.trainingSplits [.train], "the static audit training split is fixed to 'train'"),
    (!sameSet p.evaluationSplits Corpus.evaluationSplits,
      "the static audit evaluation-like split set is fixed"),
    (!decide p.deniedTrainingRepositoryFamilies.Nodup, "denied repository families must be unique")]
  let normalized ← p.deniedTrainingRepositoryFamilies.mapM
    fun family => normalizeRepositoryFamily L family.toList
  refuse [
    (!hardDeniedTrainingFamilies.all normalized.contains,
      "the hard training repository denylist cannot be weakened"),
    (decide (p.minimumTokens < p.ngramSize),
      "minimum token gate cannot be smaller than the n-gram size")]

/-! ## The report -/

inductive IssueKind where
  | hit | skip | error

inductive IssueCode where
  | duplicateSourceId | exactDigestDuplicate | noTrainingSources | fuzzyComparisonBudgetExceeded
  | crossSplitContaminationGroup | crossSplitLineageGroup | crossSplitCloneGroup
  | trainingRepositoryDenied | crossSplitRepositoryFamily | sourceTokenizationError
  | insufficientTokensForFuzzyScan | normalizedTokenDuplicate | fuzzyEvaluationContamination

def IssueCode.value : IssueCode → String
  | .duplicateSourceId => "DUPLICATE_SOURCE_ID"
  | .exactDigestDuplicate => "EXACT_DIGEST_DUPLICATE"
  | .noTrainingSources => "NO_TRAINING_SOURCES"
  | .fuzzyComparisonBudgetExceeded => "FUZZY_COMPARISON_BUDGET_EXCEEDED"
  | .crossSplitContaminationGroup => "CROSS_SPLIT_CONTAMINATION_GROUP"
  | .crossSplitLineageGroup => "CROSS_SPLIT_LINEAGE_GROUP"
  | .crossSplitCloneGroup => "CROSS_SPLIT_CLONE_GROUP"
  | .trainingRepositoryDenied => "TRAINING_REPOSITORY_DENIED"
  | .crossSplitRepositoryFamily => "CROSS_SPLIT_REPOSITORY_FAMILY"
  | .sourceTokenizationError => "SOURCE_TOKENIZATION_ERROR"
  | .insufficientTokensForFuzzyScan => "INSUFFICIENT_TOKENS_FOR_FUZZY_SCAN"
  | .normalizedTokenDuplicate => "NORMALIZED_TOKEN_DUPLICATE"
  | .fuzzyEvaluationContamination => "FUZZY_EVALUATION_CONTAMINATION"

structure CorpusAuditIssue where
  kind : IssueKind
  code : IssueCode
  message : String
  sourceRefs : List String := []
  jaccard : Option ℚ := none
  containment : Option ℚ := none

/-- Every code the audit writes matches the pattern of the field. -/
def CorpusAuditIssue.validate (i : CorpusAuditIssue) : Except String Unit :=
  refuse [
    (!lengthWithin 1 4096 i.message, "message"),
    (!i.sourceRefs.all (lengthWithin 1 512), "source_refs"),
    (!i.jaccard.all (fun x => decide (0 ≤ x) && decide (x ≤ 1)), "jaccard"),
    (!i.containment.all (fun x => decide (0 ≤ x) && decide (x ≤ 1)), "containment")]

structure CorpusFingerprint (D : Type) where
  corpusId : String
  sourceId : String
  tokenCount : Nat
  uniqueNgramCount : Nat
  tokenSha256 : D
  ngramSha256 : D

structure CorpusSimilarity where
  trainingCorpusId : String
  trainingSourceId : String
  evaluationCorpusId : String
  evaluationSourceId : String
  trainingNgramCount : Nat
  evaluationNgramCount : Nat
  sharedNgramCount : Nat
  jaccard : ℚ
  containment : ℚ
  blocking : Bool

def CorpusSimilarity.validate (s : CorpusSimilarity) : Except String Unit :=
  refuse [
    (!decide (1 ≤ s.trainingNgramCount), "training_ngram_count"),
    (!decide (1 ≤ s.evaluationNgramCount), "evaluation_ngram_count"),
    (!(decide (0 ≤ s.jaccard) && decide (s.jaccard ≤ 1)), "jaccard"),
    (!(decide (0 ≤ s.containment) && decide (s.containment ≤ 1)), "containment")]

structure CorpusAuditReport (D : Type) where
  corpusId : String
  corpusManifestSha256 : D
  benchmarkCorpusId : String
  benchmarkManifestSha256 : D
  policyId : String
  policySha256 : D
  auditInputsSha256 : D
  totalSourceCount : Nat
  scannedSourceCount : Nat
  fuzzyEligibleSourceCount : Nat
  expectedComparisonCount : Nat
  evaluatedComparisonCount : Nat
  fingerprints : List (CorpusFingerprint D)
  comparisons : List CorpusSimilarity
  issues : List CorpusAuditIssue
  staticAuditPassed : Bool

namespace CorpusAuditReport

def complete (r : CorpusAuditReport D) : Bool :=
  r.issues.isEmpty && decide (2 ≤ r.totalSourceCount) && decide (1 ≤ r.expectedComparisonCount) &&
    r.scannedSourceCount == r.totalSourceCount &&
    r.fuzzyEligibleSourceCount == r.totalSourceCount &&
    r.evaluatedComparisonCount == r.expectedComparisonCount && !r.comparisons.any (·.blocking)

/-- `pass_flag_is_fail_closed` -/
def validate (r : CorpusAuditReport D) : Except String Unit :=
  refuse [
    (r.scannedSourceCount != r.fingerprints.length,
      "scanned source count does not match fingerprints"),
    (r.evaluatedComparisonCount != r.comparisons.length,
      "comparison count does not match reported comparisons"),
    (decide (r.scannedSourceCount > r.totalSourceCount),
      "scanned source count exceeds the frozen source count"),
    (decide (r.fuzzyEligibleSourceCount > r.scannedSourceCount),
      "fuzzy-eligible source count exceeds scanned sources"),
    (decide (r.evaluatedComparisonCount > r.expectedComparisonCount),
      "evaluated comparison count exceeds the frozen matrix"),
    (!decide (r.fingerprints.map fun f => (f.corpusId, f.sourceId)).Nodup,
      "fingerprint source identities must be unique"),
    (r.staticAuditPassed != r.complete,
      "static audit pass flag does not match fail-closed report state")]

end CorpusAuditReport

end Bpe.Corpus
