import Bpe.Lib.Patch
import Bpe.Grading.Model

/-!
# Oracle contracts and traces

The records of `oracle.py` that a differential oracle reads: the contract, which
declares for each case what is compared and which byte ranges are masked first,
and the raw traces of the candidate and of the reference program. Bytes stand for
their hexadecimal text, whose order as text is the order of the bytes.
-/

namespace Bpe.Oracle

open Models Grading

def maxOracleCases : Nat := 256
def maxAssertionsPerCase : Nat := 256
def maxCollectionItems : Nat := 16384
def maxObservationBytes : Nat := 16 * 1024 * 1024
def maxTraceObservationBytes : Nat := 128 * 1024 * 1024
def maxNormalizationsPerCase : Nat := 256

abbrev Bytes := List (Fin 256)

theorem byte_lt (n : Nat) : n % 256 < 256 := Nat.mod_lt n (by decide)

def byte (n : Nat) : Fin 256 := ⟨n % 256, byte_lt n⟩

def hexBytes (b : Bytes) : Bool := decide (b.length ≤ maxObservationBytes)

def nonEmptyHexBytes (b : Bytes) : Bool := decide (1 ≤ b.length) && hexBytes b

variable {D : Type}

structure ContentIdentity (D : Type) where
  sha256 : D
  sizeBytes : Nat
  mediaType : String
  deriving DecidableEq

def ContentIdentity.validate (c : ContentIdentity D) : Except String Unit :=
  refuse [
    (!(decide (1 ≤ c.sizeBytes) && decide (c.sizeBytes ≤ maxObservationBytes)), "size_bytes"),
    (!lengthWithin 1 127 c.mediaType, "media_type")]

structure XdpCaseInput (D : Type) where
  fixture : ContentIdentity D
  deriving DecidableEq

/-! ## The contract -/

inductive CounterMode where
  | final | delta
  deriving DecidableEq

inductive Kind where
  | retval | packetBytes | contextBytes | mapSnapshot | mapDelta | orderedEvents | counter
  deriving DecidableEq

/-- The kind of an assertion with the fields of that kind. -/
inductive Target where
  | retval
  | packetBytes
  | contextBytes
  | mapSnapshot (mapId : String)
  | mapDelta (mapId : String)
  | orderedEvents (streamId : String)
  | counter (counterId : String) (mode : CounterMode)
  deriving DecidableEq

namespace Target

def kind : Target → Kind
  | retval => .retval
  | packetBytes => .packetBytes
  | contextBytes => .contextBytes
  | mapSnapshot _ => .mapSnapshot
  | mapDelta _ => .mapDelta
  | orderedEvents _ => .orderedEvents
  | counter _ _ => .counter

def valid : Target → Bool
  | mapSnapshot i | mapDelta i | orderedEvents i | counter i _ => isStableId i
  | _ => true

def mapId : Target → Option String
  | mapSnapshot i | mapDelta i => some i
  | _ => none

def streamId : Target → Option String
  | orderedEvents i => some i
  | _ => none

def counterId : Target → Option String
  | counter i _ => some i
  | _ => none

end Target

structure XdpAssertion where
  assertionId : String
  required : Bool
  weight : ℚ
  target : Target

def XdpAssertion.valid (a : XdpAssertion) : Bool :=
  isStableId a.assertionId && validWeight a.weight && a.target.valid

inductive Component where
  | bytes | key | value | record
  deriving DecidableEq

/-- The components of a target that a rule may mask. -/
def Target.allowedComponents : Target → List Component
  | packetBytes | contextBytes => [.bytes]
  | mapSnapshot _ | mapDelta _ => [.key, .value]
  | orderedEvents _ => [.record]
  | _ => []

structure ByteRange where
  offset : Nat
  length : Nat

namespace ByteRange

def stop (r : ByteRange) : Nat := r.offset + r.length

def validate (r : ByteRange) : Except String Unit :=
  refuse [
    (!decide (r.offset ≤ maxObservationBytes), "offset"),
    (!(decide (1 ≤ r.length) && decide (r.length ≤ maxObservationBytes)), "length"),
    (decide (r.stop > maxObservationBytes),
      "normalization byte range exceeds the observation bound")]

/-- The range as a pair of its ends, ordered by the first and then by the second. -/
def position (r : ByteRange) : Nat ×ₗ Nat := toLex (r.offset, r.stop)

end ByteRange

/-- A range of the list begins before the one on its left ends. -/
def overlap (positions : List (Nat ×ₗ Nat)) : Bool :=
  (positions.zip positions.tail).any fun p => decide ((ofLex p.1).2 > (ofLex p.2).1)

structure MaskByteRanges where
  normalizationId : String
  assertionId : String
  component : Component
  ranges : List ByteRange

def MaskByteRanges.validate (m : MaskByteRanges) : Except String Unit := do
  refuse [
    (!isStableId m.normalizationId, "normalization_id"),
    (!isStableId m.assertionId, "assertion_id")]
  m.ranges.forM ByteRange.validate
  refuse [
    (!(decide (1 ≤ m.ranges.length) && decide (m.ranges.length ≤ 256)), "ranges"),
    (!isSorted (m.ranges.map (·.position)), "normalization byte ranges must be sorted"),
    (overlap (m.ranges.map (·.position)), "normalization byte ranges must not overlap")]

structure XdpOracleCase (D : Type) where
  caseId : String
  input : XdpCaseInput D
  assertions : List XdpAssertion
  normalizations : List MaskByteRanges

def rulesFor (case : XdpOracleCase D) (assertionId : String) (component : Component) :
    List MaskByteRanges :=
  case.normalizations.filter fun r =>
    decide (r.assertionId = assertionId) && decide (r.component = component)

namespace XdpOracleCase

variable (c : XdpOracleCase D)

/-- The assertion of an ID, as `assertion_by_id` has it. -/
def assertion? (i : String) : Option XdpAssertion := dictOf (·.assertionId) id c.assertions i

def checkRule (r : MaskByteRanges) : Except String Unit :=
  match c.assertion? r.assertionId with
  | none => .error "normalization targets an undeclared assertion"
  | some a =>
    refuse [(!a.target.allowedComponents.contains r.component,
      "normalization component is incompatible with assertion kind")]

/-- The ranges that the rules for one component of one assertion mask, in their order. -/
def slot (i : String) (component : Component) : List (Nat ×ₗ Nat) :=
  sortOn id ((rulesFor c i component).flatMap fun r => r.ranges.map (·.position))

def validate : Except String Unit := do
  refuse [(!isStableId c.caseId, "case_id")]
  c.input.fixture.validate
  c.normalizations.forM MaskByteRanges.validate
  refuse [
    (!(decide (1 ≤ c.assertions.length) && decide (c.assertions.length ≤ maxAssertionsPerCase) &&
      c.assertions.all (·.valid)), "assertions"),
    (!decide (c.normalizations.length ≤ maxNormalizationsPerCase), "normalizations"),
    (!decide (c.assertions.map (·.assertionId)).Nodup,
      "oracle assertion IDs must be unique within a case"),
    (!c.assertions.any (·.required),
      "each oracle case requires at least one required assertion"),
    (!decide (c.assertions.map (·.target)).Nodup,
      "oracle assertion targets must be unique within a case"),
    (!decide (c.normalizations.map (·.normalizationId)).Nodup,
      "normalization IDs must be unique within a case"),
    (!isSorted (c.normalizations.map (·.normalizationId)),
      "normalization rules must be sorted by normalization ID")]
  c.normalizations.forM c.checkRule
  refuse [(c.normalizations.any fun r => overlap (c.slot r.assertionId r.component),
    "normalization rules overlap for one assertion component")]

end XdpOracleCase

/-- The fields that a contract and the traces for it share. -/
structure TraceIdentity (D : Type) where
  taskId : String
  taskVersion : String
  taskBundleSha256 : D
  evaluationPlanSha256 : D
  graderId : D
  environmentId : String
  environmentSha256 : D
  harnessCommit : String
  deriving DecidableEq

def TraceIdentity.validate (t : TraceIdentity D) : Except String Unit :=
  refuse [
    (!isStableId t.taskId, "task_id"),
    (!isStableId t.taskVersion, "task_version"),
    (!isStableId t.environmentId, "environment_id"),
    (!isCommit t.harnessCommit, "harness_commit")]

structure XdpOracleContract (D : Type) extends TraceIdentity D where
  normalizerVersion : String
  normalizerSha256 : D
  referenceProgram : ContentIdentity D
  cases : List (XdpOracleCase D)

def XdpOracleContract.validate (c : XdpOracleContract D) : Except String Unit := do
  c.toTraceIdentity.validate
  refuse [(!isStableId c.normalizerVersion, "normalizer_version")]
  c.referenceProgram.validate
  c.cases.forM XdpOracleCase.validate
  refuse [
    (!(decide (1 ≤ c.cases.length) && decide (c.cases.length ≤ maxOracleCases)), "cases"),
    (!decide (c.cases.map (·.caseId)).Nodup, "oracle case IDs must be unique")]

/-! ## The traces -/

/-- An entry that passed its field checks. -/
@[ext] structure MapEntry where
  key : Bytes
  value : Bytes
  keyValid : nonEmptyHexBytes key
  valueValid : nonEmptyHexBytes value
  deriving DecidableEq

structure MapStateTrace where
  mapId : String
  before : List MapEntry
  after : List MapEntry

def MapStateTrace.validate (m : MapStateTrace) : Except String Unit :=
  refuse [
    (!isStableId m.mapId, "map_id"),
    (!decide (m.before.length ≤ maxCollectionItems), "before"),
    (!decide (m.after.length ≤ maxCollectionItems), "after"),
    (!isSorted (m.before.map (·.key)), "map before entries must be sorted by key bytes"),
    (!decide (m.before.map (·.key)).Nodup, "map before keys must be unique"),
    (!isSorted (m.after.map (·.key)), "map after entries must be sorted by key bytes"),
    (!decide (m.after.map (·.key)).Nodup, "map after keys must be unique")]

structure EventStreamTrace where
  streamId : String
  records : List Bytes

def EventStreamTrace.valid (s : EventStreamTrace) : Bool :=
  isStableId s.streamId && decide (s.records.length ≤ maxCollectionItems) &&
    s.records.all nonEmptyHexBytes

structure CounterTrace where
  counterId : String
  before : Nat
  after : Nat

def CounterTrace.valid (c : CounterTrace) : Bool :=
  isStableId c.counterId && decide (c.before < 2 ^ 64) && decide (c.after < 2 ^ 64)

structure XdpRawObservation where
  retval : Nat
  packetBytes : Option Bytes
  contextBytes : Option Bytes
  maps : List MapStateTrace
  events : List EventStreamTrace
  counters : List CounterTrace

namespace XdpRawObservation

variable (o : XdpRawObservation)

/-- The number of decoded bytes of the observation. -/
def byteSize : Nat :=
  ((o.packetBytes.toList ++ o.contextBytes.toList).map List.length).sum +
    (o.maps.map fun m => ((m.before ++ m.after).map fun e => e.key.length + e.value.length).sum).sum
    + (o.events.map fun s => (s.records.map List.length).sum).sum

def validate : Except String Unit := do
  refuse [
    (!decide (o.retval < 2 ^ 32), "retval"),
    (!o.packetBytes.all hexBytes, "packet_bytes"),
    (!o.contextBytes.all hexBytes, "context_bytes")]
  o.maps.forM MapStateTrace.validate
  refuse [
    (!decide (o.maps.length ≤ maxCollectionItems), "maps"),
    (!(decide (o.events.length ≤ maxCollectionItems) && o.events.all (·.valid)), "events"),
    (!(decide (o.counters.length ≤ maxCollectionItems) && o.counters.all (·.valid)), "counters"),
    (!isSorted (o.maps.map (·.mapId)), "map traces must be sorted by identifier"),
    (!decide (o.maps.map (·.mapId)).Nodup, "map trace identifiers must be unique"),
    (!isSorted (o.events.map (·.streamId)), "event stream traces must be sorted by identifier"),
    (!decide (o.events.map (·.streamId)).Nodup, "event stream trace identifiers must be unique"),
    (!isSorted (o.counters.map (·.counterId)), "counter traces must be sorted by identifier"),
    (!decide (o.counters.map (·.counterId)).Nodup, "counter trace identifiers must be unique"),
    (decide (o.byteSize > maxObservationBytes),
      "raw observation exceeds the aggregate byte bound")]

end XdpRawObservation

structure XdpCaseTrace (D : Type) where
  caseId : String
  input : XdpCaseInput D
  observation : XdpRawObservation

def XdpCaseTrace.validate (t : XdpCaseTrace D) : Except String Unit := do
  refuse [(!isStableId t.caseId, "case_id")]
  t.input.fixture.validate
  t.observation.validate

inductive Role where
  | candidate | reference
  deriving DecidableEq

structure XdpTrace (D : Type) extends TraceIdentity D where
  role : Role
  program : ContentIdentity D
  cases : List (XdpCaseTrace D)

def XdpTrace.validate (t : XdpTrace D) : Except String Unit := do
  t.toTraceIdentity.validate
  t.program.validate
  t.cases.forM XdpCaseTrace.validate
  refuse [
    (!(decide (1 ≤ t.cases.length) && decide (t.cases.length ≤ maxOracleCases)), "cases"),
    (!decide (t.cases.map (·.caseId)).Nodup, "trace case IDs must be unique"),
    (decide ((t.cases.map fun c => c.observation.byteSize).sum > maxTraceObservationBytes),
      "trace exceeds the aggregate observation byte bound")]

end Bpe.Oracle
