import Bpe.Task.Model
import Bpe.Lib.Collect

/-!
# Replay manifests

`ReplayManifest` and `ReplayAnchor` with the bounds that `replay.py` puts on a
manifest, and what binds a manifest to the evidence, the grade, the contract and
the policy that it stores.
-/

namespace Bpe.Replay

open Models Grading

variable {D : Type}

structure ReplayManifest (D : Type) where
  evidence : ArtifactRef D
  grade : ArtifactRef D
  contract : ArtifactRef D
  events : ArtifactRef D
  policy : ArtifactRef D
  artifacts : Dict String (ArtifactRef D)

def ReplayManifest.validate (m : ReplayManifest D) : Except String Unit :=
  refuse [
    (!m.evidence.valid, "evidence"),
    (!m.grade.valid, "grade"),
    (!m.contract.valid, "contract"),
    (!m.events.valid, "events"),
    (!m.policy.valid, "policy"),
    (!m.artifacts.values.all (·.valid), "artifacts")]

structure ReplayAnchor (D : Type) where
  manifestSha256 : D
  evidenceSha256 : D
  gradeSha256 : D
  contractSha256 : D
  policySha256 : D

/-- Digests and lengths of canonical bytes, those of a manifest and of the event
lines of an evidence among them, and the text of a digest. -/
structure Digests (D : Type) extends toTask : Task.Digests D where
  jsonSize : Grading.Document D → Nat
  manifest : ReplayManifest D → D
  manifestSize : ReplayManifest D → Nat
  events : EvaluationEvidence D → D
  eventsSize : EvaluationEvidence D → Nat
  hex : D → String

def modelArtifact (K : Digests D) (value : Grading.Document D) : ArtifactRef D :=
  ⟨K.sha256Json value, K.jsonSize value, "application/json"⟩

def eventsArtifact (K : Digests D) (e : EvaluationEvidence D) : ArtifactRef D :=
  ⟨K.events e, K.eventsSize e, "application/x-ndjson"⟩

/-- `_evidence_artifacts`, `_evidence_artifact_refs` -/
def evidenceArtifacts (e : EvaluationEvidence D) : List (ArtifactRef D) :=
  e.request.candidate :: e.observationArtifacts.values ++
    e.stages.flatMap fun s =>
      s.artifacts.values ++ s.checks.flatMap fun k => k.artifacts.values

/-! ## Bounds -/

def maxReplayManifestBytes : Nat := 256 * 1024
def maxReplayArtifacts : Nat := 256
def maxReplayFileBytes : Nat := 16 * 1024 * 1024
def maxReplayTotalBytes : Nat := 128 * 1024 * 1024

def ReplayManifest.fixedRefs (m : ReplayManifest D) : List (String × ArtifactRef D) :=
  [("evidence", m.evidence), ("contract", m.contract), ("grade", m.grade), ("events", m.events),
    ("policy", m.policy)]

section Bounds

variable [DecidableEq D]

/-- The first reference of a digest, with its label. -/
def withDigest (seen : List (String × ArtifactRef D)) (digest : D) :
    Option (String × ArtifactRef D) :=
  seen.find? fun entry => entry.2.sha256 = digest

/-- Every reference to a digest has the size and the media type of the first. -/
def recordReference (K : Digests D) (seen : List (String × ArtifactRef D)) (label : String)
    (reference : ArtifactRef D) : Except String (List (String × ArtifactRef D)) :=
  match withDigest seen reference.sha256 with
  | none => .ok (seen ++ [(label, reference)])
  | some previous =>
    if previous.2 ≠ reference then
      .error ("replay manifest uses inconsistent metadata for digest " ++ K.hex reference.sha256 ++
        " between " ++ previous.1 ++ " and " ++ label)
    else .ok seen

def recordArtifact (K : Digests D) (seen : List (String × ArtifactRef D))
    (entry : String × ArtifactRef D) : Except String (List (String × ArtifactRef D)) := do
  refuse [(decide (entry.2.sizeBytes > maxReplayFileBytes),
    "artifact " ++ entry.1 ++ " exceeds the 16777216-byte replay file limit")]
  recordReference K seen ("artifact " ++ entry.1) entry.2

/-- The first reference of each digest. -/
def distinctArtifacts (m : ReplayManifest D) : List (ArtifactRef D) :=
  m.artifacts.values.foldl
    (fun kept r => if kept.any fun k => k.sha256 = r.sha256 then kept else kept ++ [r]) []

def validateManifestBounds (K : Digests D) (m : ReplayManifest D) (manifestSize : Nat) :
    Except String Unit := do
  refuse [
    (decide (manifestSize > maxReplayManifestBytes),
      "replay manifest exceeds the 262144-byte limit"),
    (decide (m.artifacts.entries.length > maxReplayArtifacts),
      "replay manifest exceeds the 256-artifact limit")]
  refuse (m.fixedRefs.map fun entry =>
    (decide (entry.2.sizeBytes > maxReplayFileBytes),
      entry.1 ++ " exceeds the 16777216-byte replay file limit"))
  let fixed ← m.fixedRefs.foldlM (fun seen entry => recordReference K seen entry.1 entry.2) []
  let _ ← m.artifacts.entries.foldlM (recordArtifact K) fixed
  refuse [(decide (manifestSize + (m.fixedRefs.map (·.2.sizeBytes)).sum +
      ((distinctArtifacts m).map (·.sizeBytes)).sum > maxReplayTotalBytes),
    "replay content exceeds the 134217728-byte total limit")]

def validateReplayManifest (K : Digests D) (m : ReplayManifest D) : Except String Unit := do
  m.validate.mapError ("invalid replay manifest: " ++ ·)
  validateManifestBounds K m (K.manifestSize m)

end Bounds

/-! ## Binding -/

section Binding

variable [DecidableEq D]

/-- The manifest and the anchor name exactly the graded inputs. -/
def bindsGraded (K : Digests D) (m : ReplayManifest D) (anchor : ReplayAnchor D)
    (e : EvaluationEvidence D) (g : Grade D) (c : ScoringContract D) (p : RewardPolicy) : Bool :=
  decide (anchor.manifestSha256 = K.manifest m) &&
    decide (anchor.evidenceSha256 = K.sha256Json (.evidence e)) &&
    decide (anchor.gradeSha256 = K.sha256Json (.grade g)) &&
    decide (anchor.contractSha256 = K.sha256Json (.contract c)) &&
    decide (anchor.policySha256 = K.sha256Json (.policy p)) &&
    decide (m.evidence = modelArtifact K (.evidence e)) &&
    decide (m.grade = modelArtifact K (.grade g)) &&
    decide (m.contract = modelArtifact K (.contract c)) &&
    decide (m.policy = modelArtifact K (.policy p)) &&
    decide (m.artifacts.get? "candidate.c" = some e.request.candidate) &&
    (evidenceArtifacts e).all (m.artifacts.values.contains ·)

end Binding

end Bpe.Replay
