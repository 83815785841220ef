import Bpe.Oracle.Delta

/-!
# Oracle reports

`derive_oracle_report` masks what a case compares in the two traces, compares it
assertion by assertion and reports the verdict with the first required mismatch.
The records it builds are checked again where they are built into a larger one.
-/

namespace Bpe.Oracle

open Models Grading

variable {D : Type}

def validation {α : Type} (x : Except String α) : Except OracleError α := x.mapError .validation

def contractCheck (checks : List (Bool × String)) : Except OracleError Unit :=
  (refuse checks).mapError .contract

/-! ## Masking -/

/-- The slice of a range is assigned zeroes. -/
def zeroRange (data : Bytes) (r : ByteRange) : Bytes :=
  data.take r.offset ++ List.replicate r.length (byte 0) ++ data.drop r.stop

def maskRule (data : Bytes) (rule : MaskByteRanges) : Except OracleError Bytes :=
  rule.ranges.foldlM (fun data r =>
    if r.stop > data.length then
      .error (.contract ("normalization '" ++ rule.normalizationId ++ "' exceeds observed bytes"))
    else .ok (zeroRange data r)) data

def maskBytes (value : Bytes) (rules : List MaskByteRanges) : Except OracleError Bytes :=
  rules.foldlM maskRule value

def MapEntry.make (key value : Bytes) : Except OracleError MapEntry :=
  if hkey : nonEmptyHexBytes key then
    if hvalue : nonEmptyHexBytes value then .ok ⟨key, value, hkey, hvalue⟩
    else .error (.validation "value")
  else .error (.validation "key")

def maskEntry (keyRules valueRules : List MaskByteRanges) (e : MapEntry) :
    Except OracleError MapEntry := do
  let key ← maskBytes e.key keyRules
  let value ← maskBytes e.value valueRules
  MapEntry.make key value

def normalizedEntries (entries : List MapEntry) (keyRules valueRules : List MaskByteRanges) :
    Except OracleError (List MapEntry) := do
  let normalized ← entries.mapM (maskEntry keyRules valueRules)
  let ordered := sortOn (·.key) normalized
  contractCheck [(!decide (ordered.map (·.key)).Nodup,
    "normalization collapses distinct map keys")]
  pure ordered

/-! ## Normalized observations -/

inductive ObservedValue where
  | retval (value : Nat)
  | packetBytes (value : Bytes)
  | contextBytes (value : Bytes)
  | mapSnapshot (mapId : String) (entries : List MapEntry)
  | mapDelta (mapId : String) (changes : List MapChange)
  | orderedEvents (streamId : String) (records : List Bytes)
  | counter (counterId : String) (mode : CounterMode) (value : Int)
  deriving DecidableEq

def ObservedValue.kind : ObservedValue → Kind
  | retval _ => .retval
  | packetBytes _ => .packetBytes
  | contextBytes _ => .contextBytes
  | mapSnapshot _ _ => .mapSnapshot
  | mapDelta _ _ => .mapDelta
  | orderedEvents _ _ => .orderedEvents
  | counter _ _ _ => .counter

def ObservedValue.validate : ObservedValue → Except String Unit
  | retval v => refuse [(!decide (v < 2 ^ 32), "value")]
  | packetBytes v | contextBytes v => refuse [(!hexBytes v, "value")]
  | mapSnapshot i entries =>
    refuse [
      (!isStableId i, "map_id"),
      (!decide (entries.length ≤ maxCollectionItems), "entries"),
      (!(isSorted (entries.map (·.key)) && decide (entries.map (·.key)).Nodup),
        "normalized map entries must be sorted and unique")]
  | mapDelta i changes => do
    refuse [(!isStableId i, "map_id")]
    changes.forM MapChange.validate
    refuse [
      (!decide (changes.length ≤ maxCollectionItems), "changes"),
      (!(isSorted (changes.map (·.key)) && decide (changes.map (·.key)).Nodup),
        "map changes must be sorted and unique by key")]
  | orderedEvents i records =>
    refuse [
      (!isStableId i, "stream_id"),
      (!(decide (records.length ≤ maxCollectionItems) && records.all nonEmptyHexBytes), "records")]
  | counter i _ v =>
    refuse [
      (!isStableId i, "counter_id"),
      (!(decide (-2 ^ 64 + 1 ≤ v) && decide (v ≤ 2 ^ 64 - 1)), "value")]

structure AssertionObservation where
  assertionId : String
  value : ObservedValue
  deriving DecidableEq

def AssertionObservation.validate (o : AssertionObservation) : Except String Unit := do
  refuse [(!isStableId o.assertionId, "assertion_id")]
  o.value.validate

structure NormalizedObservation (D : Type) where
  caseId : String
  input : XdpCaseInput D
  assertions : List AssertionObservation
  normalizationsApplied : List String

def NormalizedObservation.validate (n : NormalizedObservation D) : Except String Unit := do
  refuse [(!isStableId n.caseId, "case_id")]
  n.input.fixture.validate
  n.assertions.forM AssertionObservation.validate
  refuse [
    (!(decide (1 ≤ n.assertions.length) && decide (n.assertions.length ≤ maxAssertionsPerCase)),
      "assertions"),
    (!(decide (n.normalizationsApplied.length ≤ maxNormalizationsPerCase) &&
      n.normalizationsApplied.all isStableId), "normalizations_applied"),
    (!decide (n.assertions.map (·.assertionId)).Nodup,
      "normalized assertion observations must be unique"),
    (!decide n.normalizationsApplied.Nodup, "applied normalization IDs must be unique"),
    (!isSorted n.normalizationsApplied, "applied normalization IDs must be sorted")]

/-- `_validate_observation_shape`, with the names of `_expected_named_components` -/
def validateObservationShape (case : XdpOracleCase D) (o : XdpRawObservation) :
    Except OracleError Unit :=
  let targets := case.assertions.map (·.target)
  contractCheck [
    (o.packetBytes.isSome != targets.contains .packetBytes,
      "packet observation presence does not match the contract"),
    (o.contextBytes.isSome != targets.contains .contextBytes,
      "context observation presence does not match the contract"),
    (!sameSet (o.maps.map (·.mapId)) (targets.filterMap (·.mapId)),
      "map observations do not exactly match declared assertions"),
    (!sameSet (o.events.map (·.streamId)) (targets.filterMap (·.streamId)),
      "event observations do not exactly match declared assertions"),
    (!sameSet (o.counters.map (·.counterId)) (targets.filterMap (·.counterId)),
      "counter observations do not exactly match declared assertions")]

/-- `d[k]` of the dictionary of the items, where a missing key raises. -/
def lookup {α : Type} (key : α → String) (items : List α) (k : String) : Except OracleError α :=
  match dictOf key id items k with
  | none => .error .missingKey
  | some a => .ok a

/-- The entries of a map before and after the run, masked for one assertion. -/
def normalizedState (case : XdpOracleCase D) (raw : XdpRawObservation)
    (assertionId mapId : String) : Except OracleError (List MapEntry × List MapEntry) := do
  let state ← lookup (·.mapId) raw.maps mapId
  let keyRules := rulesFor case assertionId .key
  let valueRules := rulesFor case assertionId .value
  let before ← normalizedEntries state.before keyRules valueRules
  let after ← normalizedEntries state.after keyRules valueRules
  pure (before, after)

def CounterTrace.value (c : CounterTrace) : CounterMode → Int
  | .final => c.after
  | .delta => c.after - c.before

def maskPresent (missing : String) (bytes : Option Bytes) (rules : List MaskByteRanges) :
    Except OracleError Bytes :=
  match bytes with
  | none => .error (.contract missing)
  | some b => maskBytes b rules

/-- What is compared for one assertion. -/
def observe (case : XdpOracleCase D) (raw : XdpRawObservation) (a : XdpAssertion) :
    Except OracleError ObservedValue :=
  match a.target with
  | .retval => .ok (.retval raw.retval)
  | .packetBytes => do
    let value ← maskPresent "packet bytes are missing" raw.packetBytes
      (rulesFor case a.assertionId .bytes)
    pure (.packetBytes value)
  | .contextBytes => do
    let value ← maskPresent "context bytes are missing" raw.contextBytes
      (rulesFor case a.assertionId .bytes)
    pure (.contextBytes value)
  | .mapSnapshot i => do
    let state ← normalizedState case raw a.assertionId i
    pure (.mapSnapshot i state.2)
  | .mapDelta i => do
    let state ← normalizedState case raw a.assertionId i
    let changes ← mapDelta state.1 state.2
    pure (.mapDelta i changes)
  | .orderedEvents i => do
    let stream ← lookup (·.streamId) raw.events i
    let records ← stream.records.mapM fun r => maskBytes r (rulesFor case a.assertionId .record)
    pure (.orderedEvents i records)
  | .counter i mode => do
    let counter ← lookup (·.counterId) raw.counters i
    pure (.counter i mode (counter.value mode))

def observeAssertion (case : XdpOracleCase D) (raw : XdpRawObservation) (a : XdpAssertion) :
    Except OracleError AssertionObservation := do
  let value ← observe case raw a
  validation (AssertionObservation.validate ⟨a.assertionId, value⟩)
  pure ⟨a.assertionId, value⟩

def normalizeCase (case : XdpOracleCase D) (trace : XdpCaseTrace D) :
    Except OracleError (NormalizedObservation D) := do
  validateObservationShape case trace.observation
  let observations ← case.assertions.mapM (observeAssertion case trace.observation)
  let normalized : NormalizedObservation D :=
    ⟨case.caseId, case.input, observations, case.normalizations.map (·.normalizationId)⟩
  validation normalized.validate
  pure normalized

/-! ## Reports -/

structure AssertionComparison (D : Type) where
  assertionId : String
  kind : Kind
  required : Bool
  weight : ℚ
  matched : Bool
  expectedSha256 : D
  actualSha256 : D

structure OracleCaseResult (D : Type) where
  caseId : String
  input : XdpCaseInput D
  candidateObservationSha256 : D
  referenceObservationSha256 : D
  assertions : List (AssertionComparison D)
  passed : Bool

/-- No required assertion of the case has a mismatch. -/
def requiredMatched (assertions : List (AssertionComparison D)) : Bool :=
  (assertions.filter (·.required)).all (·.matched)

def OracleCaseResult.validate (r : OracleCaseResult D) : Except String Unit := do
  refuse [(!isStableId r.caseId, "case_id")]
  r.input.fixture.validate
  refuse [
    (!(decide (1 ≤ r.assertions.length) && decide (r.assertions.length ≤ maxAssertionsPerCase) &&
      r.assertions.all fun a => isStableId a.assertionId && validWeight a.weight), "assertions"),
    (r.passed != requiredMatched r.assertions,
      "case pass flag does not match required assertion results")]

structure FirstDivergence (D : Type) where
  caseIndex : Nat
  assertionIndex : Nat
  caseId : String
  assertionId : String
  kind : Kind
  expectedSha256 : D
  actualSha256 : D
  deriving DecidableEq

def FirstDivergence.valid (f : FirstDivergence D) : Bool :=
  decide (f.caseIndex < maxOracleCases) && decide (f.assertionIndex < maxAssertionsPerCase) &&
    isStableId f.caseId && isStableId f.assertionId

structure OracleReport (D : Type) extends TraceIdentity D where
  contractSha256 : D
  candidateTraceSha256 : D
  referenceTraceSha256 : D
  normalizerVersion : String
  normalizerSha256 : D
  candidateProgram : ContentIdentity D
  referenceProgram : ContentIdentity D
  candidateObservations : List (NormalizedObservation D)
  referenceObservations : List (NormalizedObservation D)
  cases : List (OracleCaseResult D)
  strictSuccess : Bool
  firstDivergence : Option (FirstDivergence D)

/-- `sha256_json` of the records that a report is about. -/
structure Digests (D : Type) where
  contract : XdpOracleContract D → D
  trace : XdpTrace D → D
  observation : NormalizedObservation D → D
  assertion : AssertionObservation → D

variable [DecidableEq D] (K : Digests D)

/-- The divergence to report once a comparison has been made: the one so far if
there is one, and the comparison's own if it is a required mismatch. -/
def nextDivergence (first : Option (FirstDivergence D)) (caseIndex assertionIndex : Nat)
    (caseId : String) (c : AssertionComparison D) : Option (FirstDivergence D) :=
  if first.isNone && c.required && !c.matched then
    some ⟨caseIndex, assertionIndex, caseId, c.assertionId, c.kind, c.expectedSha256,
      c.actualSha256⟩
  else first

def checkAssertions (caseIndex : Nat) (caseId : String) :
    Nat → Option (FirstDivergence D) → List AssertionObservation → List AssertionObservation →
      List (AssertionComparison D) → Except String (Option (FirstDivergence D))
  | i, first, actual :: actuals, expected :: expecteds, c :: comparisons => do
    refuse [
      (!(decide (actual.assertionId = expected.assertionId) &&
        decide (expected.assertionId = c.assertionId) &&
        decide (actual.value.kind = expected.value.kind) && decide (expected.value.kind = c.kind)),
        "oracle report assertion identities or kinds differ"),
      (!(decide (c.actualSha256 = K.assertion actual) &&
        decide (c.expectedSha256 = K.assertion expected) &&
        (c.matched == decide (actual = expected))),
        "oracle assertion comparison is inconsistent")]
    checkAssertions caseIndex caseId (i + 1) (nextDivergence first caseIndex i caseId c) actuals
      expecteds comparisons
  | _, first, _, _, _ => .ok first

def checkCases : Nat → Option (FirstDivergence D) → List (NormalizedObservation D) →
    List (NormalizedObservation D) → List (OracleCaseResult D) →
      Except String (Option (FirstDivergence D))
  | i, first, candidate :: candidates, reference :: references, result :: results => do
    refuse [
      (!(decide (candidate.caseId = reference.caseId) &&
        decide (reference.caseId = result.caseId) &&
        decide (candidate.input = reference.input) && decide (reference.input = result.input)),
        "oracle report case identities or inputs differ"),
      (!decide (result.candidateObservationSha256 = K.observation candidate),
        "candidate observation digest is inconsistent"),
      (!decide (result.referenceObservationSha256 = K.observation reference),
        "reference observation digest is inconsistent"),
      (!(decide (candidate.assertions.length = reference.assertions.length) &&
        decide (reference.assertions.length = result.assertions.length)),
        "oracle report assertion collections differ in length")]
    let first ← checkAssertions K i result.caseId 0 first candidate.assertions
      reference.assertions result.assertions
    checkCases (i + 1) first candidates references results
  | _, first, _, _, _ => .ok first

def caseCountValid (n : Nat) : Bool := decide (1 ≤ n) && decide (n ≤ maxOracleCases)

def OracleReport.validate (r : OracleReport D) : Except String Unit := do
  r.toTraceIdentity.validate
  refuse [(!isStableId r.normalizerVersion, "normalizer_version")]
  r.candidateProgram.validate
  r.referenceProgram.validate
  r.candidateObservations.forM NormalizedObservation.validate
  r.referenceObservations.forM NormalizedObservation.validate
  r.cases.forM OracleCaseResult.validate
  refuse [
    (!caseCountValid r.candidateObservations.length, "candidate_observations"),
    (!caseCountValid r.referenceObservations.length, "reference_observations"),
    (!caseCountValid r.cases.length, "cases"),
    (!r.firstDivergence.all (·.valid), "first_divergence"),
    (!(decide (r.candidateObservations.length = r.referenceObservations.length) &&
      decide (r.referenceObservations.length = r.cases.length)),
      "oracle report case collections differ in length")]
  let first ← checkCases K 0 none r.candidateObservations r.referenceObservations r.cases
  refuse [
    (r.strictSuccess != r.cases.all (·.passed),
      "strict-success flag does not match required assertions"),
    (!decide (r.firstDivergence = first),
      "first divergence is not the first required mismatch")]

/-! ## Deriving a report -/

def Role.name : Role → String
  | .candidate => "candidate"
  | .reference => "reference"

/-- One round of the loop of `_validate_trace`. -/
def validateCaseTrace (role : Role) (expected : XdpOracleCase D) (observed : XdpCaseTrace D) :
    Except OracleError Unit := do
  contractCheck [
    (!decide (observed.caseId = expected.caseId),
      role.name ++ " trace case order or identity differs"),
    (!decide (observed.input = expected.input), role.name ++ " trace input identity differs")]
  validateObservationShape expected observed.observation

def validateTrace (contract : XdpOracleContract D) (trace : XdpTrace D) (role : Role) :
    Except OracleError Unit := do
  contractCheck [
    (!decide (trace.role = role), "expected a " ++ role.name ++ " trace"),
    (!decide (trace.toTraceIdentity = contract.toTraceIdentity),
      role.name ++ " trace identity does not match the oracle contract"),
    (decide (role = .reference) && !decide (trace.program = contract.referenceProgram),
      "reference trace does not use the contracted reference program"),
    (!decide (trace.cases.length = contract.cases.length),
      role.name ++ " trace has missing or extra cases")]
  (contract.cases.zip trace.cases).forM fun p => validateCaseTrace role p.1 p.2

def compareOne (declaration : XdpAssertion) (actual expected : AssertionObservation) :
    AssertionComparison D where
  assertionId := declaration.assertionId
  kind := declaration.target.kind
  required := declaration.required
  weight := declaration.weight
  matched := decide (actual = expected)
  expectedSha256 := K.assertion expected
  actualSha256 := K.assertion actual

def compareAssertions (caseIndex : Nat) (caseId : String) :
    Nat → Option (FirstDivergence D) → List XdpAssertion → List AssertionObservation →
      List AssertionObservation →
        Except OracleError (List (AssertionComparison D) × Option (FirstDivergence D))
  | _, first, [], [], [] => .ok ([], first)
  | i, first, declaration :: declarations, actual :: actuals, expected :: expecteds => do
    let c := compareOne K declaration actual expected
    let rest ← compareAssertions caseIndex caseId (i + 1)
      (nextDivergence first caseIndex i caseId c) declarations actuals expecteds
    pure (c :: rest.1, rest.2)
  | _, _, _, _, _ => .error .unequalLengths

def compareCases : Nat → Option (FirstDivergence D) → List (XdpOracleCase D) →
    List (NormalizedObservation D) → List (NormalizedObservation D) →
      Except OracleError (List (OracleCaseResult D) × Option (FirstDivergence D))
  | _, first, [], [], [] => .ok ([], first)
  | i, first, case :: cases, actual :: actuals, expected :: expecteds => do
    let compared ← compareAssertions K i case.caseId 0 first case.assertions actual.assertions
      expected.assertions
    let rest ← compareCases (i + 1) compared.2 cases actuals expecteds
    pure (⟨case.caseId, case.input, K.observation actual, K.observation expected, compared.1,
      requiredMatched compared.1⟩ :: rest.1, rest.2)
  | _, _, _, _, _ => .error .unequalLengths

/-- The cases of a trace, each normalized by its case of the contract. -/
def normalizeCases (contract : XdpOracleContract D) (trace : XdpTrace D) :
    Except OracleError (List (NormalizedObservation D)) :=
  if contract.cases.length ≠ trace.cases.length then .error .unequalLengths
  else (contract.cases.zip trace.cases).mapM fun p => normalizeCase p.1 p.2

/-- The report of normalized observations and what their comparison gave. -/
def reportOf (contract : XdpOracleContract D) (candidate reference : XdpTrace D)
    (actual expected : List (NormalizedObservation D))
    (compared : List (OracleCaseResult D) × Option (FirstDivergence D)) : OracleReport D where
  toTraceIdentity := contract.toTraceIdentity
  contractSha256 := K.contract contract
  candidateTraceSha256 := K.trace candidate
  referenceTraceSha256 := K.trace reference
  normalizerVersion := contract.normalizerVersion
  normalizerSha256 := contract.normalizerSha256
  candidateProgram := candidate.program
  referenceProgram := reference.program
  candidateObservations := actual
  referenceObservations := expected
  cases := compared.1
  strictSuccess := compared.1.all (·.passed)
  firstDivergence := compared.2

def deriveOracleReport (contract : XdpOracleContract D) (candidate reference : XdpTrace D) :
    Except OracleError (OracleReport D) := do
  validation contract.validate
  validation candidate.validate
  validation reference.validate
  validateTrace contract candidate .candidate
  validateTrace contract reference .reference
  let actual ← normalizeCases contract candidate
  let expected ← normalizeCases contract reference
  let compared ← compareCases K 0 none contract.cases actual expected
  let report := reportOf K contract candidate reference actual expected compared
  validation (report.validate K)
  pure report

end Bpe.Oracle
