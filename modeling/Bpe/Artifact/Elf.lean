import Bpe.Lib.BigEndian
import Bpe.Lib.Except

/-!
# The launcher artifact's ELF checks

`_validate_elf64_static_pie` and `_require_embedded_seccomp_identity` of
`inert_artifact.py`, over the bytes of a file. Indexing, `struct.unpack_from` and
`%` raise what Python raises; the two functions turn some of that into their own
rejections.
-/

namespace Bpe.Artifact

inductive ArtifactFailureReason where
  | invalidElf | seccompIdentityMismatch

inductive ArtifactError where
  /-- `LinuxInertLauncherArtifactRejected` -/
  | rejected (reason : ArtifactFailureReason) (message : String)
  | structError
  | indexError
  | zeroDivision

abbrev Check (α : Type) : Type := Except ArtifactError α

def elfHeaderSize : Nat := 64
def elfProgramHeaderSize : Nat := 56
def elfclass64 : UInt8 := 2
def elfdata2lsb : UInt8 := 1
def elfosabiLinux : UInt8 := 3
def etDyn : Nat := 3
def emX8664 : Nat := 62
def ptNull : Nat := 0
def ptLoad : Nat := 1
def ptDynamic : Nat := 2
def ptInterp : Nat := 3
def ptGnuStack : Nat := 0x6474E551
def ptGnuRelro : Nat := 0x6474E552
def pfX : Nat := 0x1
def pfW : Nat := 0x2
def pfR : Nat := 0x4
def dtNull : Int := 0
def dtNeeded : Int := 1
def dtRpath : Int := 15
def dtRunpath : Int := 29
def dtFlags : Int := 30
def dtFlags1 : Int := 0x6FFFFFFB
def dfBindNow : Nat := 0x8
def df1Now : Nat := 0x1
def df1Pie : Nat := 0x08000000
def uint64Max : Int := 2 ^ 64 - 1

/-! ## Bytes -/

/-- `content[i]` -/
def byteAt (content : List UInt8) (i : Nat) : Check UInt8 :=
  match content[i]? with
  | some b => .ok b
  | none => .error .indexError

/-- The little-endian field of that width. -/
def field (content : List UInt8) (offset width : Nat) : Nat :=
  leNat ((content.drop offset).take width)

/-- `struct.unpack_from` with a format of that size. -/
def unpackFrom {α : Type} (content : List UInt8) (offset size : Nat) (value : α) : Check α :=
  if offset + size ≤ content.length then .ok value else .error .structError

/-- `a % b` -/
def pyMod (a b : Nat) : Check Nat := if b = 0 then .error .zeroDivision else .ok (a % b)

/-- `range(start, stop, step)` -/
def pyRange (start stop step : Nat) : List Nat :=
  (List.range ((stop - start + step - 1) / step)).map fun i => start + i * step

/-! ## `_validate_elf64_static_pie` -/

def invalidElf : ArtifactError :=
  .rejected .invalidElf "the launcher artifact is not the fixed ELF64 static-PIE shape"

def rejectIf (c : Prop) [Decidable c] : Check Unit := if c then .error invalidElf else .ok ()

/-- `except struct.error: reject()` -/
def structOrReject {α : Type} : Check α → Check α
  | .error .structError => .error invalidElf
  | x => x

/-- The identification bytes; each condition is evaluated after those before it. -/
def checkIdentification (content : List UInt8) : Check Unit := do
  rejectIf (content.length < elfHeaderSize)
  rejectIf (content.take 4 ≠ [0x7f, 0x45, 0x4c, 0x46])
  rejectIf ((← byteAt content 4) ≠ elfclass64)
  rejectIf ((← byteAt content 5) ≠ elfdata2lsb)
  rejectIf ((← byteAt content 6) ≠ 1)
  rejectIf ((← byteAt content 7) ≠ elfosabiLinux)
  rejectIf ((← byteAt content 8) ≠ 0)
  rejectIf (((content.drop 9).take 7).any (· ≠ 0))

structure ElfHeader where
  elfType : Nat
  machine : Nat
  version : Nat
  entry : Nat
  programOffset : Nat
  flags : Nat
  headerSize : Nat
  programEntrySize : Nat
  programCount : Nat

/-- The fields of `"<HHIQQQIHHHHHH"` at offset 16. -/
def elfHeader (content : List UInt8) : ElfHeader where
  elfType := field content 16 2
  machine := field content 18 2
  version := field content 20 4
  entry := field content 24 8
  programOffset := field content 32 8
  flags := field content 48 4
  headerSize := field content 52 2
  programEntrySize := field content 54 2
  programCount := field content 56 2

def ElfHeader.programTableEnd (h : ElfHeader) : Nat :=
  h.programOffset + h.programCount * h.programEntrySize

def checkHeader (content : List UInt8) (h : ElfHeader) : Check Unit :=
  rejectIf (h.elfType ≠ etDyn ∨ h.machine ≠ emX8664 ∨ h.version ≠ 1 ∨ h.entry = 0 ∨ h.flags ≠ 0 ∨
    h.headerSize ≠ elfHeaderSize ∨ h.programOffset ≠ elfHeaderSize ∨
    h.programEntrySize ≠ elfProgramHeaderSize ∨ ¬ (1 ≤ h.programCount ∧ h.programCount ≤ 128) ∨
    h.programTableEnd > content.length)

structure ElfSegment where
  segmentType : Nat
  flags : Nat
  fileOffset : Nat
  virtualAddress : Nat
  fileSize : Nat
  memorySize : Nat
  alignment : Nat

def ElfSegment.fileEnd (s : ElfSegment) : Nat := s.fileOffset + s.fileSize

def ElfSegment.virtualEnd (s : ElfSegment) : Nat := s.virtualAddress + s.memorySize

/-- The fields of `"<IIQQQQQQ"` at that offset. -/
def segmentAt (content : List UInt8) (offset : Nat) : ElfSegment where
  segmentType := field content offset 4
  flags := field content (offset + 4) 4
  fileOffset := field content (offset + 8) 8
  virtualAddress := field content (offset + 16) 8
  fileSize := field content (offset + 32) 8
  memorySize := field content (offset + 40) 8
  alignment := field content (offset + 48) 8

/-- `alignment not in {0, 1} and file_offset % alignment != virtual_address % alignment` -/
def ElfSegment.misaligned (s : ElfSegment) : Check Bool :=
  if s.alignment = 0 ∨ s.alignment = 1 then .ok false
  else do
    let fileRest ← pyMod s.fileOffset s.alignment
    let virtualRest ← pyMod s.virtualAddress s.alignment
    return fileRest ≠ virtualRest

/-- What every segment but `PT_NULL` must satisfy. -/
def checkSegment (content : List UInt8) (s : ElfSegment) : Check Unit :=
  if s.segmentType = ptNull then .ok ()
  else do
    rejectIf (Nat.ldiff s.flags (pfR ||| pfW ||| pfX) ≠ 0 ∨ s.fileSize > s.memorySize ∨
      s.fileOffset > content.length ∨ (s.fileSize : Int) > content.length - s.fileOffset ∨
      (s.memorySize : Int) > uint64Max - s.virtualAddress ∨
      (¬ (s.alignment = 0 ∨ s.alignment = 1) ∧ s.alignment &&& (s.alignment - 1) ≠ 0))
    rejectIf ((← s.misaligned) = true)

/-- The segments kept by the loop over the program headers. -/
structure Segments where
  loads : List ElfSegment := []
  dynamic : Option ElfSegment := none
  stack : Option ElfSegment := none
  relro : Option ElfSegment := none

def Segments.place (acc : Segments) (s : ElfSegment) : Check Segments := do
  rejectIf (s.segmentType = ptInterp)
  if s.segmentType = ptLoad then
    rejectIf (s.flags &&& pfR = 0 ∨ (s.flags &&& pfW ≠ 0 ∧ s.flags &&& pfX ≠ 0) ∨ s.fileSize = 0 ∨
      s.memorySize = 0)
    rejectIf (acc.loads.getLast?.any fun previous =>
      s.fileOffset < previous.fileEnd || s.virtualAddress < previous.virtualEnd)
    return { acc with loads := acc.loads ++ [s] }
  else if s.segmentType = ptDynamic then
    rejectIf (acc.dynamic.isSome ∨ s.flags ≠ pfR ||| pfW ∨ s.fileSize = 0 ∨
      s.fileSize ≠ s.memorySize ∨ s.fileSize % 16 ≠ 0)
    return { acc with dynamic := some s }
  else if s.segmentType = ptGnuStack then
    rejectIf (acc.stack.isSome ∨ s.flags ≠ pfR ||| pfW)
    return { acc with stack := some s }
  else if s.segmentType = ptGnuRelro then
    rejectIf (acc.relro.isSome ∨ s.flags ≠ pfR ∨ s.fileSize = 0 ∨ s.fileSize ≠ s.memorySize)
    return { acc with relro := some s }
  else return acc

/-- One turn of the loop over the program headers. -/
def readSegment (content : List UInt8) (h : ElfHeader) (acc : Segments) (index : Nat) :
    Check Segments := do
  let offset := h.programOffset + index * h.programEntrySize
  let s ← structOrReject (unpackFrom content offset 56 (segmentAt content offset))
  checkSegment content s
  acc.place s

/-- `is_exactly_mapped`, in one load segment. -/
def ElfSegment.mappedIn (s load : ElfSegment) : Bool :=
  load.fileOffset ≤ s.fileOffset && s.fileEnd ≤ load.fileEnd &&
    load.virtualAddress ≤ s.virtualAddress && s.virtualEnd ≤ load.virtualEnd &&
    s.fileOffset - load.fileOffset == s.virtualAddress - load.virtualAddress &&
    Nat.ldiff s.flags load.flags == 0

def isExactlyMapped (loads : List ElfSegment) (s : ElfSegment) : Bool := loads.any s.mappedIn

/-- A 64-bit word as `"q"` reads it. -/
def signed64 (n : Nat) : Int := if n < 2 ^ 63 then n else n - 2 ^ 64

structure DynamicEntry where
  tag : Int
  value : Nat

def dynamicEntryAt (content : List UInt8) (offset : Nat) : DynamicEntry :=
  ⟨signed64 (field content offset 8), field content (offset + 8) 8⟩

/-- `saw_dynamic_null`, `saw_bind_now` and `saw_pie_now` -/
structure DynamicState where
  null : Bool := false
  bindNow : Bool := false
  pieNow : Bool := false

/-- The loop over the dynamic entries, which a `DT_NULL` ends. -/
def scanDynamic (content : List UInt8) : List Nat → DynamicState → Check DynamicState
  | [], seen => .ok seen
  | offset :: rest, seen => do
    let entry ← structOrReject (unpackFrom content offset 16 (dynamicEntryAt content offset))
    rejectIf (entry.tag = dtNeeded ∨ entry.tag = dtRpath ∨ entry.tag = dtRunpath)
    if entry.tag = dtFlags then
      rejectIf (seen.bindNow ∨ entry.value &&& dfBindNow ≠ dfBindNow)
      scanDynamic content rest { seen with bindNow := true }
    else if entry.tag = dtFlags1 then
      rejectIf (seen.pieNow ∨ entry.value &&& (df1Now ||| df1Pie) ≠ df1Now ||| df1Pie)
      scanDynamic content rest { seen with pieNow := true }
    else if entry.tag = dtNull then return { seen with null := true }
    else scanDynamic content rest seen

/-- What the collected segments must satisfy. -/
def checkSegments (content : List UInt8) (h : ElfHeader) (segments : Segments) : Check Unit :=
  match segments.loads, segments.dynamic, segments.stack, segments.relro with
  | loads@(_ :: _), some dynamic, some _, some relro => do
    rejectIf (¬ loads.any fun s => s.fileOffset == 0 && h.programTableEnd ≤ s.fileEnd)
    rejectIf (¬ loads.any fun s => s.flags &&& pfX != 0 && s.virtualAddress ≤ h.entry &&
      h.entry < s.virtualAddress + s.fileSize)
    rejectIf (¬ isExactlyMapped loads dynamic ∨ ¬ isExactlyMapped loads relro)
    let seen ← scanDynamic content (pyRange dynamic.fileOffset dynamic.fileEnd 16) {}
    rejectIf (¬ (seen.null ∧ seen.bindNow ∧ seen.pieNow))
  | _, _, _, _ => .error invalidElf

def validateElf64StaticPie (content : List UInt8) : Check Unit := do
  checkIdentification content
  let h ← structOrReject (unpackFrom content 16 48 (elfHeader content))
  checkHeader content h
  let segments ← (List.range h.programCount).foldlM (readSegment content h) {}
  checkSegments content h segments

/-! ## `_require_embedded_seccomp_identity` -/

/-- `encode("ascii")` -/
def asciiEncode (text : String) : Option (List UInt8) :=
  text.toList.mapM fun c => if c.toNat < 128 then some c.toNat.toUInt8 else none

/-- `content.find(marker, start)` -/
def find (content marker : List UInt8) (start : Nat) : Option Nat :=
  (List.range (content.length + 1)).find? fun i => start ≤ i && marker.isPrefixOf (content.drop i)

def seccompMismatch (message : String) : ArtifactError :=
  .rejected .seccompIdentityMismatch message

/-- One entry of `loaded_ranges`, for a load segment. -/
def loadedRange (content : List UInt8) (programOffset programEntrySize index : Nat) :
    Check (List (Nat × Nat)) := do
  let offset := programOffset + index * programEntrySize
  let (segmentType, fileOffset) ←
    unpackFrom content offset 16 (field content offset 4, field content (offset + 8) 8)
  let fileSize ← unpackFrom content (offset + 32) 8 (field content (offset + 32) 8)
  return if segmentType = ptLoad then [(fileOffset, fileOffset + fileSize)] else []

def loadedRanges (content : List UInt8) : Check (List (Nat × Nat)) := do
  let programOffset ← unpackFrom content 32 8 (field content 32 8)
  let programEntrySize ← unpackFrom content 54 2 (field content 54 2)
  let programCount ← unpackFrom content 56 2 (field content 56 2)
  let ranges ← (List.range programCount).mapM (loadedRange content programOffset programEntrySize)
  return ranges.flatten

/-- `except (IndexError, struct.error)` -/
def orMismatch {α : Type} (message : String) : Check α → Check α
  | .error .structError | .error .indexError => .error (seccompMismatch message)
  | x => x

def requireEmbeddedSeccompIdentity (content : List UInt8) (policyId policySha256 : String) :
    Check Unit :=
  match asciiEncode policyId, asciiEncode policySha256 with
  | some id, some digest =>
    let idMarker := id ++ [0]
    let digestMarker := digest ++ [0]
    match find content idMarker 0, find content digestMarker 0 with
    | some idOffset, some digestOffset =>
      if (find content idMarker (idOffset + 1)).isSome ∨
          (find content digestMarker (digestOffset + 1)).isSome then
        .error (seccompMismatch "the launcher does not uniquely embed the fixed seccomp identity")
      else do
        let ranges ← orMismatch
          "the launcher seccomp identity cannot be located in loaded bytes" (loadedRanges content)
        let inside (offset size : Nat) : Bool :=
          ranges.any fun range => range.1 ≤ offset && offset + size ≤ range.2
        if inside idOffset idMarker.length ∧ inside digestOffset digestMarker.length then .ok ()
        else .error <|
          seccompMismatch "the fixed launcher seccomp identity is not in a loadable segment"
    | _, _ =>
      .error (seccompMismatch "the launcher does not uniquely embed the fixed seccomp identity")
  | _, _ => .error (seccompMismatch "the launcher seccomp identity is not canonical ASCII")

end Bpe.Artifact
