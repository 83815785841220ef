import Bpe.Corpus.Model

/-!
# The corpus audit

`audit_corpus` over a candidate corpus and a benchmark. The issues are gathered in the
order of the source and sorted at the end. A division by zero and a record that its model
refuses are errors here as there.
-/

namespace Bpe.Corpus

open Text

variable {D : Type}

/-- What the audit takes from elsewhere: SHA-256 and the digests of records, how a digest
and a similarity print, and text. -/
structure Tools (D : Type) where
  library : Library
  unicode : Unicode
  sha256 : List UInt8 → D
  manifestSha256 : CorpusManifest D → D
  policySha256 : CorpusAuditPolicy → D
  inputsSha256 (corpus benchmark policy : D) : D
  hex : D → String
  fixed6 : ℚ → String

structure LoadedCorpusSource (D : Type) where
  source : CorpusSource D
  content : List UInt8

structure LoadedCorpus (D : Type) where
  manifest : CorpusManifest D
  sources : List (LoadedCorpusSource D)

/-! ## Loaded corpora -/

section

variable [DecidableEq D] (T : Tools D)

def validateSource (loaded : LoadedCorpus D) (source : CorpusSource D) :
    Except String (LoadedCorpusSource D) :=
  match loaded.sources.find? (·.source.sourceId = source.sourceId) with
  | none => .error "loaded corpus sources do not exactly match the manifest"
  | some item => do
    refuse [
      (decide (item.source ≠ source), "loaded source metadata changed: " ++ source.sourceId),
      (!(decide (T.sha256 item.content = source.sha256) &&
        decide (item.content.length = source.sizeBytes)),
        "loaded source content changed: " ++ source.sourceId)]
    pure item

def validateLoaded (loaded : LoadedCorpus D) : Except String (LoadedCorpus D) := do
  loaded.manifest.validate T.library
  let ids := loaded.sources.map (·.source.sourceId)
  refuse [(!(decide ids.Nodup && sameSet ids (loaded.manifest.sources.map (·.sourceId))),
    "loaded corpus sources do not exactly match the manifest")]
  let ordered ← loaded.manifest.sources.mapM (validateSource T loaded)
  pure { loaded with sources := ordered }

/-- A source of one of the two corpora, with the family of its repository. -/
structure Entry (D : Type) where
  corpusId : String
  source : CorpusSource D
  content : List UInt8
  family : Source
  deriving DecidableEq

def sourceRef (corpusId sourceId : String) : String := corpusId ++ ":" ++ sourceId

def Entry.key (e : Entry D) : String × String := (e.corpusId, e.source.sourceId)

def Entry.ref (e : Entry D) : String := sourceRef e.corpusId e.source.sourceId

def entryOf (corpusId : String) (item : LoadedCorpusSource D) : Except String (Entry D) := do
  let family ← normalizeRepositoryFamily T.library item.source.provenance.repository.toList
  pure { corpusId, source := item.source, content := item.content, family }

end

/-! ## Issues of the metadata -/

def sortedRefs (entries : List (Entry D)) : List String := sortOn id (entries.map Entry.ref)

/-- The keys that several entries share. -/
def duplicateIssues {κ : Type} [DecidableEq κ] (key : Entry D → κ) (text : κ → String)
    (code : IssueCode) (message : String → String) (entries : List (Entry D)) :
    List CorpusAuditIssue :=
  (sortOn text (entries.map key).eraseDups).filterMap fun k =>
    let members := entries.filter fun e => key e = k
    if 1 < members.length then
      some { kind := .hit, code, message := message (text k), sourceRefs := sortedRefs members }
    else none

/-- `_group_cross_split_issues`, also for families: the keys on both sides. -/
def crossSplitIssues (key : Entry D → String) (code : IssueCode) (label : String)
    (training evaluation : List (Entry D)) : List CorpusAuditIssue :=
  (sortOn id ((training.map key).eraseDups.filter (evaluation.map key).contains)).map fun group =>
    { kind := .hit, code
      message := label ++ " '" ++ group ++ "' crosses train and evaluation-like splits"
      sourceRefs := sortedRefs (training.filter (key · = group) ++
        evaluation.filter (key · = group)) }

def deniedIssues (denied : List Source) (training : List (Entry D)) : List CorpusAuditIssue :=
  (training.filter fun e => denied.contains e.family).map fun e =>
    { kind := .hit, code := .trainingRepositoryDenied
      message := "training source belongs to hard-denied repository family '" ++
        String.ofList e.family ++ "'"
      sourceRefs := [e.ref] }

def maxFuzzyComparisons : Nat := 1000000

def noTrainingIssues (training : List (Entry D)) : List CorpusAuditIssue :=
  if training.isEmpty then
    [{ kind := .error, code := .noTrainingSources
       message := "candidate corpus contains no training-split sources" }]
  else []

def budgetIssues (expected : Nat) : List CorpusAuditIssue :=
  if expected > maxFuzzyComparisons then
    [{ kind := .error, code := .fuzzyComparisonBudgetExceeded
       message := "the frozen comparison matrix requires " ++ toString expected ++
        " pairs; the detector safety limit is 1000000" }]
  else []

/-! ## Scans -/

section

variable [DecidableEq D] (T : Tools D) (policy : CorpusAuditPolicy)

/-- What `_sequence_digest` hashes: each token after its length. -/
def sequenceBytes (tokens : List Source) : List UInt8 :=
  tokens.flatMap fun token =>
    let encoded := (String.ofList token).toUTF8.data.toList
    beBytes 8 encoded.length ++ encoded

def ngramBytes (grams : Finset (List Source)) : List UInt8 :=
  (grams.sort (· ≤ ·)).flatMap fun gram => sequenceBytes gram ++ [255]

structure Scan (D : Type) where
  entry : Entry D
  tokens : List Source
  ngrams : Finset (List Source)
  tokenSha256 : D
  ngramSha256 : D

def Scan.fingerprint (s : Scan D) : CorpusFingerprint D where
  corpusId := s.entry.corpusId
  sourceId := s.entry.source.sourceId
  tokenCount := s.tokens.length
  uniqueNgramCount := s.ngrams.card
  tokenSha256 := s.tokenSha256
  ngramSha256 := s.ngramSha256

def Entry.tokenize (e : Entry D) : Except String (List Source) :=
  tokenizeC T.unicode ⟨e.content.toArray⟩

def scanOf (e : Entry D) (tokens : List Source) : Scan D :=
  let grams := ngrams policy.ngramSize tokens
  { entry := e, tokens, ngrams := grams, tokenSha256 := T.sha256 (sequenceBytes tokens)
    ngramSha256 := T.sha256 (ngramBytes grams) }

def scanEntry (e : Entry D) : Option (Scan D) :=
  match e.tokenize T with
  | .ok tokens => some (scanOf T policy e tokens)
  | .error _ => none

def scanIssue (e : Entry D) : Option CorpusAuditIssue :=
  match e.tokenize T with
  | .error message =>
    some { kind := .error, code := .sourceTokenizationError
           message := "cannot tokenize " ++ e.ref ++ ": " ++ message, sourceRefs := [e.ref] }
  | .ok tokens =>
    if tokens.length < policy.minimumTokens then
      some { kind := .skip, code := .insufficientTokensForFuzzyScan
             message := e.ref ++ " has " ++ toString tokens.length ++
              " tokens; the frozen minimum is " ++ toString policy.minimumTokens
             sourceRefs := [e.ref] }
    else none

/-- One group of equal token digests. -/
def tokenDuplicateIssues (scans : List (Scan D)) : List CorpusAuditIssue :=
  (sortOn T.hex (scans.map (·.tokenSha256)).eraseDups).filterMap fun digest =>
    let members := (scans.filter (·.tokenSha256 = digest)).map (·.entry)
    if 1 < members.length ∧ 1 < (members.map (·.source.sha256)).eraseDups.length then
      some { kind := .hit, code := .normalizedTokenDuplicate
             message := "comment/format-insensitive token fingerprint " ++ T.hex digest ++
              " occurs more than once"
             sourceRefs := sortedRefs members }
    else none

/-- The scans of one side that are long enough. -/
def eligibleScans (scans : List (Scan D)) (side : List (Entry D)) : List (Scan D) :=
  side.filterMap fun e => (scans.find? (·.entry.key = e.key)).filter fun s =>
    decide (policy.minimumTokens ≤ s.tokens.length)

def divide (a b : Nat) : Except String ℚ :=
  if b = 0 then .error "division by zero" else .ok (a / b)

/-- One comparison, with the issue it raises. -/
def compareScans (t e : Scan D) : Except String (CorpusSimilarity × Option CorpusAuditIssue) := do
  let shared := (t.ngrams ∩ e.ngrams).card
  let jaccard ← divide shared (t.ngrams ∪ e.ngrams).card
  let containment ← divide shared (min t.ngrams.card e.ngrams.card)
  let sameDigest := decide (t.entry.source.sha256 = e.entry.source.sha256)
  let sameTokens := decide (t.tokenSha256 = e.tokenSha256)
  let fuzzyHit := decide (policy.jaccardThreshold ≤ jaccard) ||
    decide (policy.containmentThreshold ≤ containment)
  let comparison : CorpusSimilarity :=
    { trainingCorpusId := t.entry.corpusId, trainingSourceId := t.entry.source.sourceId
      evaluationCorpusId := e.entry.corpusId, evaluationSourceId := e.entry.source.sourceId
      trainingNgramCount := t.ngrams.card, evaluationNgramCount := e.ngrams.card
      sharedNgramCount := shared, jaccard, containment
      blocking := sameDigest || sameTokens || fuzzyHit }
  comparison.validate
  pure (comparison,
    if fuzzyHit && !sameDigest && !sameTokens then
      some { kind := .hit, code := .fuzzyEvaluationContamination
             message := "token n-gram similarity meets a frozen blocking threshold: Jaccard=" ++
              T.fixed6 jaccard ++ ", containment=" ++ T.fixed6 containment
             sourceRefs := [t.entry.ref, e.entry.ref]
             jaccard := some jaccard, containment := some containment }
    else none)

/-! ## The audit -/

/-- The rows and columns of the comparison matrix in their order. -/
def scanPairs (training evaluation : List (Scan D)) : List (Scan D × Scan D) :=
  (sortOn (toLex ·.entry.key) training).flatMap fun t =>
    (sortOn (toLex ·.entry.key) evaluation).map fun e => (t, e)

def issueOrder (i : CorpusAuditIssue) : Lex (String × Lex (List String × String)) :=
  toLex (i.code.value, toLex (i.sourceRefs, i.message))

/-- The entries of both corpora, and the families denied to training. -/
def auditEntries (corpus benchmark : LoadedCorpus D) :
    Except String (List (Entry D) × List Source) := do
  let corpus ← validateLoaded T corpus
  let benchmark ← validateLoaded T benchmark
  policy.validate T.library
  refuse [
    (decide (corpus.manifest.kind ≠ .corpus),
      "the candidate input must use manifest_kind='corpus'"),
    (decide (benchmark.manifest.kind ≠ .benchmark),
      "the comparison input must use manifest_kind='benchmark'"),
    (decide (corpus.manifest.corpusId = benchmark.manifest.corpusId),
      "candidate and benchmark corpus IDs must differ")]
  let candidates ← corpus.sources.mapM (entryOf T corpus.manifest.corpusId)
  let references ← benchmark.sources.mapM (entryOf T benchmark.manifest.corpusId)
  let denied ← policy.deniedTrainingRepositoryFamilies.mapM
    fun family => normalizeRepositoryFamily T.library family.toList
  pure (candidates ++ references, denied)

def trainingOf (entries : List (Entry D)) : List (Entry D) :=
  entries.filter fun e => policy.trainingSplits.contains e.source.split

def evaluationOf (entries : List (Entry D)) : List (Entry D) :=
  entries.filter fun e => policy.evaluationSplits.contains e.source.split

def metadataIssues (entries : List (Entry D)) (denied : List Source) : List CorpusAuditIssue :=
  let training := trainingOf policy entries
  let evaluation := evaluationOf policy entries
  duplicateIssues (·.source.sourceId) id .duplicateSourceId
      (fun id => "source ID '" ++ id ++ "' is duplicated across frozen manifests") entries ++
    duplicateIssues (·.source.sha256) T.hex .exactDigestDuplicate
      (fun digest => "exact source digest " ++ digest ++ " occurs more than once") entries ++
    noTrainingIssues training ++ budgetIssues (training.length * evaluation.length) ++
    crossSplitIssues (·.source.contaminationGroup) .crossSplitContaminationGroup
      "contamination_group" training evaluation ++
    crossSplitIssues (·.source.lineageGroup) .crossSplitLineageGroup "lineage_group" training
      evaluation ++
    crossSplitIssues (·.source.cloneGroup) .crossSplitCloneGroup "clone_group" training
      evaluation ++
    deniedIssues denied training ++
    crossSplitIssues (String.ofList ·.family) .crossSplitRepositoryFamily "repository family"
      training evaluation

def auditScans (entries : List (Entry D)) : List (Scan D) :=
  (sortOn (toLex ·.key) entries).filterMap (scanEntry T policy)

def scanIssues (entries : List (Entry D)) : List CorpusAuditIssue :=
  (sortOn (toLex ·.key) entries).filterMap (scanIssue T policy) ++
    tokenDuplicateIssues T (auditScans T policy entries)

/-- The pairs to compare: none where the matrix is over the limit. -/
def auditPairs (entries : List (Entry D)) : List (Scan D × Scan D) :=
  let training := trainingOf policy entries
  let evaluation := evaluationOf policy entries
  let scans := auditScans T policy entries
  if training.length * evaluation.length > maxFuzzyComparisons then []
  else scanPairs (eligibleScans policy scans training) (eligibleScans policy scans evaluation)

/-- The report over the entries, from the comparisons made and the issues they raised. -/
def auditReport (corpus benchmark : LoadedCorpus D) (entries : List (Entry D))
    (denied : List Source) (compared : List (CorpusSimilarity × Option CorpusAuditIssue)) :
    CorpusAuditReport D :=
  let scans := auditScans T policy entries
  let comparisons := compared.map (·.1)
  let issues := sortOn issueOrder (metadataIssues T policy entries denied ++
    scanIssues T policy entries ++ compared.filterMap (·.2))
  let expected := (trainingOf policy entries).length * (evaluationOf policy entries).length
  let eligible := scans.countP fun s => decide (policy.minimumTokens ≤ s.tokens.length)
  let corpusDigest := T.manifestSha256 corpus.manifest
  let benchmarkDigest := T.manifestSha256 benchmark.manifest
  { corpusId := corpus.manifest.corpusId, corpusManifestSha256 := corpusDigest
    benchmarkCorpusId := benchmark.manifest.corpusId, benchmarkManifestSha256 := benchmarkDigest
    policyId := policy.policyId, policySha256 := T.policySha256 policy
    auditInputsSha256 := T.inputsSha256 corpusDigest benchmarkDigest (T.policySha256 policy)
    totalSourceCount := entries.length, scannedSourceCount := scans.length
    fuzzyEligibleSourceCount := eligible, expectedComparisonCount := expected
    evaluatedComparisonCount := comparisons.length
    fingerprints := (sortOn (toLex ·.entry.key) scans).map (·.fingerprint)
    comparisons, issues
    staticAuditPassed := issues.isEmpty && scans.length == entries.length &&
      eligible == entries.length && comparisons.length == expected &&
      !comparisons.any (·.blocking) }

/-- The fuzzy comparison of every training source with every evaluation source. -/
abbrev comparePairs (entries : List (Entry D)) :
    Except String (List (CorpusSimilarity × Option CorpusAuditIssue)) :=
  (auditPairs T policy entries).mapM fun pair => compareScans T policy pair.1 pair.2

def auditCorpus (corpus benchmark : LoadedCorpus D) :
    Except String (CorpusAuditReport D) := do
  let (entries, denied) ← auditEntries T policy corpus benchmark
  let compared ← comparePairs T policy entries
  let report := auditReport T policy corpus benchmark entries denied compared
  report.issues.forM (·.validate)
  report.validate
  pure report

end

end Bpe.Corpus
