import Bpe.Models.Text

/-!
# Resource profiles

`ExecutionResourceProfile` with its validator.
-/

namespace Bpe.Models

structure ExecutionResourceProfile where
  profileId : String
  wallTimeoutMs : Int
  cpuTimeSeconds : Int
  memoryBytes : Int
  pidsMax : Int
  openFilesMax : Int
  fileSizeBytes : Int
  stackBytes : Int
  stdoutBytes : Int
  stderrBytes : Int
  tmpfsBytes : Int
  tmpfsInodes : Int
  deriving DecidableEq

def ExecutionResourceProfile.valid (p : ExecutionResourceProfile) : Bool :=
  isStableId p.profileId &&
  decide (
    (100 ≤ p.wallTimeoutMs ∧ p.wallTimeoutMs ≤ 600000) ∧
    (1 ≤ p.cpuTimeSeconds ∧ p.cpuTimeSeconds ≤ 600) ∧
    (64 * 1024 * 1024 ≤ p.memoryBytes ∧ p.memoryBytes ≤ 64 * 1024 ^ 3) ∧
    (1 ≤ p.pidsMax ∧ p.pidsMax ≤ 4096) ∧
    (8 ≤ p.openFilesMax ∧ p.openFilesMax ≤ 65536) ∧
    (1024 ≤ p.fileSizeBytes ∧ p.fileSizeBytes ≤ 1024 ^ 3) ∧
    (64 * 1024 ≤ p.stackBytes ∧ p.stackBytes ≤ 64 * 1024 ^ 2) ∧
    (0 ≤ p.stdoutBytes ∧ p.stdoutBytes ≤ 16 * 1024 ^ 2) ∧
    (0 ≤ p.stderrBytes ∧ p.stderrBytes ≤ 16 * 1024 ^ 2) ∧
    (1024 ^ 2 ≤ p.tmpfsBytes ∧ p.tmpfsBytes ≤ 16 * 1024 ^ 3) ∧
    (16 ≤ p.tmpfsInodes ∧ p.tmpfsInodes ≤ 1000000) ∧
    p.cpuTimeSeconds * 1000 ≤ p.wallTimeoutMs ∧
    p.stackBytes ≤ p.memoryBytes ∧
    p.fileSizeBytes ≤ p.tmpfsBytes)

end Bpe.Models
