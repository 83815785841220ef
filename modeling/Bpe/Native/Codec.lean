import Bpe.Native.Parser

/-!
# The record codec

`_decode_record` inverts the launcher's `bpe_inert_encode_frame`, both ways:
a frame whose fields fit the wire decodes to itself, and a record that
decodes is the encoding of the decoded frame.
-/

namespace Bpe.Native

open List

theorem wireField_skip {pre rest : List UInt8} {offset size : Nat} (h : pre.length ≤ offset) :
    wireField (pre ++ rest) offset size = wireField rest (offset - pre.length) size := by
  simp [wireField, drop_append, drop_eq_nil_of_le h]

theorem wireField_head {field post : List UInt8} {size : Nat} (h : field.length = size) :
    wireField (field ++ post) 0 size = field := by
  subst h
  simp [wireField]

theorem length_wireField {payload : List UInt8} {offset size : Nat}
    (h : offset + size ≤ payload.length) : (wireField payload offset size).length = size := by
  simp [wireField]
  omega

/-- Cutting one field off the rest of a payload. -/
theorem drop_eq_wireField (payload : List UInt8) (offset size : Nat) :
    payload.drop offset = wireField payload offset size ++ payload.drop (offset + size) := by
  rw [wireField, ← drop_drop, take_append_drop]

/-- A payload is its twelve fields, end to end. -/
theorem eq_wireFields {payload : List UInt8} (h : payload.length = protocolFrameSize) :
    payload = wireField payload 0 8 ++ (wireField payload 8 2 ++ (wireField payload 10 2 ++
      (wireField payload 12 4 ++ (wireField payload 16 8 ++ (wireField payload 24 4 ++
      (wireField payload 28 4 ++ (wireField payload 32 4 ++ (wireField payload 36 4 ++
      (wireField payload 40 8 ++ (wireField payload 48 8 ++ wireField payload 56 8)))))))))) := by
  have hend : payload.drop (56 + 8) = [] := drop_eq_nil_of_le (by rw [h]; decide)
  calc payload
      = payload.drop 0 := rfl
    _ = _ := by
      rw [drop_eq_wireField payload 0 8, drop_eq_wireField payload (0 + 8) 2,
        drop_eq_wireField payload (0 + 8 + 2) 2, drop_eq_wireField payload (0 + 8 + 2 + 2) 4,
        drop_eq_wireField payload (0 + 8 + 2 + 2 + 4) 8,
        drop_eq_wireField payload (0 + 8 + 2 + 2 + 4 + 8) 4,
        drop_eq_wireField payload (0 + 8 + 2 + 2 + 4 + 8 + 4) 4,
        drop_eq_wireField payload (0 + 8 + 2 + 2 + 4 + 8 + 4 + 4) 4,
        drop_eq_wireField payload (0 + 8 + 2 + 2 + 4 + 8 + 4 + 4 + 4) 4,
        drop_eq_wireField payload (0 + 8 + 2 + 2 + 4 + 8 + 4 + 4 + 4 + 4) 8,
        drop_eq_wireField payload (0 + 8 + 2 + 2 + 4 + 8 + 4 + 4 + 4 + 4 + 8) 8,
        drop_eq_wireField payload (0 + 8 + 2 + 2 + 4 + 8 + 4 + 4 + 4 + 4 + 8 + 8) 8, hend,
        append_nil]

theorem NativeFrameType.code_lt (x : NativeFrameType) : x.code < 256 ^ 2 := by
  cases x <;> decide

theorem NativeStatus.code_lt (x : NativeStatus) : x.code < 256 ^ 4 := by
  cases x <;> decide

theorem NativeStage.code_lt (x : NativeStage) : x.code < 256 ^ 4 := by
  cases x <;> decide

theorem NativeReason.code_lt (x : NativeReason) : x.code < 256 ^ 4 := by
  cases x <;> decide

/-- The record of a frame, as an orderly `recvmsg` returns it. -/
def InertNativeFrame.record (f : InertNativeFrame) : InertNativeSocketRecord :=
  { payload := f.encode }

theorem InertNativeFrame.encode_eq (f : InertNativeFrame) : f.encode =
    protocolMagic ++ (beBytes 2 protocolVersion ++ (beBytes 2 f.frameType.code ++
      (beBytes 4 protocolPayloadSize ++ (beBytes 8 f.sequence ++ (beBytes 4 f.status.code ++
      (beBytes 4 f.stage.code ++ (beBytes 4 f.reason.code ++ (beBytes 4 f.systemErrno ++
      (beBytes 8 f.value0 ++ (beBytes 8 f.value1 ++ replicate 8 0)))))))))) := by
  rw [encode, bpeInertEncodeFrame_eq]
  simp only [append_assoc]

theorem length_protocolMagic : protocolMagic.length = 8 := rfl

@[simp] theorem InertNativeFrame.length_encode (f : InertNativeFrame) :
    f.encode.length = protocolFrameSize := by
  rw [f.encode_eq]
  simp only [length_append, length_beBytes, length_replicate, length_protocolMagic]
  decide

theorem InertNativeFrame.wireField_encode (f : InertNativeFrame) :
    wireField f.encode 0 8 = protocolMagic ∧
    wireField f.encode 8 2 = beBytes 2 protocolVersion ∧
    wireField f.encode 10 2 = beBytes 2 f.frameType.code ∧
    wireField f.encode 12 4 = beBytes 4 protocolPayloadSize ∧
    wireField f.encode 16 8 = beBytes 8 f.sequence ∧
    wireField f.encode 24 4 = beBytes 4 f.status.code ∧
    wireField f.encode 28 4 = beBytes 4 f.stage.code ∧
    wireField f.encode 32 4 = beBytes 4 f.reason.code ∧
    wireField f.encode 36 4 = beBytes 4 f.systemErrno ∧
    wireField f.encode 40 8 = beBytes 8 f.value0 ∧
    wireField f.encode 48 8 = beBytes 8 f.value1 ∧
    wireField f.encode 56 8 = replicate 8 0 := by
  rw [f.encode_eq]
  have hend : wireField (replicate 8 0) 0 8 = replicate 8 0 := rfl
  refine ⟨wireField_head length_protocolMagic, ?_, ?_, ?_, ?_, ?_, ?_, ?_, ?_, ?_, ?_, ?_⟩
  -- skip the fields before the one read
  all_goals simp (disch := first | decide | simp) only [wireField_skip, wireField_head,
    length_protocolMagic, length_beBytes, Nat.reduceSub, Nat.sub_self, hend]

variable {f : InertNativeFrame}

/-- A frame that fits the wire decodes to itself. -/
theorem decodeRecord_record (hf : f.Fits) : decodeRecord f.record = .ok f := by
  obtain ⟨hmagic, hversion, htype, hsize, hseq, hstatus, hstage, hreason, herrno, hv0, hv1, hres⟩ :=
    f.wireField_encode
  have herr : f.systemErrno < 256 ^ 4 := lt_of_le_of_lt hf.systemErrno (by decide)
  have hver : beNat (beBytes 2 protocolVersion) = protocolVersion := beNat_beBytes 2 (by decide)
  have hpay : beNat (beBytes 4 protocolPayloadSize) = protocolPayloadSize :=
    beNat_beBytes 4 (by decide)
  have hbound : ¬ f.systemErrno > protocolMaxErrno := by have := hf.systemErrno; omega
  simp only [decodeRecord, InertNativeFrame.record, hmagic, hversion, htype, hsize, hseq, hstatus,
    hstage, hreason, herrno, hv0, hv1, hres, hver, hpay, f.length_encode,
    beNat_beBytes 2 f.frameType.code_lt, beNat_beBytes 4 f.status.code_lt,
    beNat_beBytes 4 f.stage.code_lt, beNat_beBytes 4 f.reason.code_lt, beNat_beBytes 4 herr,
    beNat_beBytes 8 hf.sequence, beNat_beBytes 8 hf.value0, beNat_beBytes 8 hf.value1,
    NativeFrameType.ofCode_eq_some.2 rfl, NativeStatus.ofCode_eq_some.2 rfl,
    NativeStage.ofCode_eq_some.2 rfl, NativeReason.ofCode_eq_some.2 rfl, hbound, Bool.or_self,
    ne_eq, not_true_eq_false, Bool.false_eq_true, if_false]

/-- The tests of `_decode_record`, passed. -/
structure WellFormed (record : InertNativeSocketRecord) (f : InertNativeFrame) : Prop where
  flags : record = { payload := record.payload }
  length : record.payload.length = protocolFrameSize
  magic : wireField record.payload 0 8 = protocolMagic
  version : beNat (wireField record.payload 8 2) = protocolVersion
  payloadSize : beNat (wireField record.payload 12 4) = protocolPayloadSize
  reserved : wireField record.payload 56 8 = replicate 8 0
  errno : f.systemErrno ≤ protocolMaxErrno
  frameType : beNat (wireField record.payload 10 2) = f.frameType.code
  status : beNat (wireField record.payload 24 4) = f.status.code
  stage : beNat (wireField record.payload 28 4) = f.stage.code
  reason : beNat (wireField record.payload 32 4) = f.reason.code
  sequence : beNat (wireField record.payload 16 8) = f.sequence
  systemErrno : beNat (wireField record.payload 36 4) = f.systemErrno
  value0 : beNat (wireField record.payload 40 8) = f.value0
  value1 : beNat (wireField record.payload 48 8) = f.value1

variable {record : InertNativeSocketRecord}

theorem wellFormed_of_decodeRecord (h : decodeRecord record = .ok f) : WellFormed record f := by
  rcases record with ⟨payload, m, c, a⟩
  unfold decodeRecord at h
  split at h
  · cases h
  next hflags =>
  split at h
  · cases h
  next hanc =>
  split at h
  · cases h
  next hlen =>
  split at h
  · cases h
  next hmagic =>
  split at h
  · cases h
  next hver =>
  split at h
  · cases h
  next hpay =>
  split at h
  · cases h
  next hres =>
  split at h
  · cases h
  next herr =>
  split at h
  · next htype hstatus hstage hreason =>
    cases h
    obtain ⟨rfl, rfl⟩ : m = false ∧ c = false := by simpa using hflags
    obtain rfl : a = false := by simpa using hanc
    exact ⟨rfl, by simpa using hlen, by simpa using hmagic, by simpa using hver,
      by simpa using hpay, by simpa using hres, by simpa using herr,
      (NativeFrameType.ofCode_eq_some.1 htype).symm,
      (NativeStatus.ofCode_eq_some.1 hstatus).symm, (NativeStage.ofCode_eq_some.1 hstage).symm,
      (NativeReason.ofCode_eq_some.1 hreason).symm, rfl, rfl, rfl, rfl⟩
  · cases h

theorem WellFormed.eq_record (h : WellFormed record f) : record = f.record := by
  have hfield : ∀ {offset size v : Nat}, offset + size ≤ protocolFrameSize →
      beNat (wireField record.payload offset size) = v →
      wireField record.payload offset size = beBytes size v := by
    rintro offset size _ hle rfl
    have hlen := length_wireField (h.length ▸ hle)
    have hback := beBytes_beNat (wireField record.payload offset size)
    rw [hlen] at hback
    exact hback.symm
  rw [h.flags, InertNativeFrame.record, f.encode_eq, eq_wireFields h.length]
  rw [h.magic, h.reserved, hfield (by decide) h.version, hfield (by decide) h.frameType,
    hfield (by decide) h.payloadSize, hfield (by decide) h.sequence, hfield (by decide) h.status,
    hfield (by decide) h.stage, hfield (by decide) h.reason, hfield (by decide) h.systemErrno,
    hfield (by decide) h.value0, hfield (by decide) h.value1]

theorem WellFormed.fits (h : WellFormed record f) : f.Fits := by
  have hlt : ∀ {offset : Nat}, offset + 8 ≤ protocolFrameSize →
      beNat (wireField record.payload offset 8) < 2 ^ 64 := by
    intro offset hle
    have := beNat_lt (wireField record.payload offset 8)
    rwa [length_wireField (h.length ▸ hle)] at this
  exact ⟨h.sequence ▸ hlt (by decide), h.errno, h.value0 ▸ hlt (by decide),
    h.value1 ▸ hlt (by decide)⟩

theorem decodeRecord_eq_ok :
    decodeRecord record = .ok f ↔ f.Fits ∧ record = f.record := by
  constructor
  · intro h
    have hw := wellFormed_of_decodeRecord h
    exact ⟨hw.fits, hw.eq_record⟩
  · rintro ⟨hf, rfl⟩
    exact decodeRecord_record hf

/-- What the launcher writes is what the parser reads, byte for byte. -/
theorem wire_codec_agrees (f : InertNativeFrame) (record : InertNativeSocketRecord) :
    (f.sequence < 2 ^ 64 → f.value0 < 2 ^ 64 → f.value1 < 2 ^ 64 → f.systemErrno ≤ 4095 →
      decodeRecord
        { payload := bpeInertEncodeFrame f.frameType.code f.sequence f.status.code f.stage.code
            f.reason.code f.systemErrno f.value0 f.value1
          messageTruncated := false
          controlTruncated := false
          ancillaryPresent := false } = .ok f) ∧
    (decodeRecord record = .ok f →
      record.payload = bpeInertEncodeFrame f.frameType.code f.sequence f.status.code f.stage.code
        f.reason.code f.systemErrno f.value0 f.value1) := by
  constructor
  · intro hsequence hvalue0 hvalue1 herrno
    exact decodeRecord_record ⟨hsequence, herrno, hvalue0, hvalue1⟩
  · intro h
    rw [(decodeRecord_eq_ok.1 h).2]
    rfl

theorem wire_codec_agrees_hello :
    let f : InertNativeFrame := ⟨.hello, 0, .ok, .startup, .none, 0, 2, 2 ^ 64 - 1⟩
    decodeRecord f.record = .ok f ∧ f.record.payload.length = 64 ∧
      (decodeRecord f.record = .ok f → f.record.payload = f.encode) :=
  let f : InertNativeFrame := ⟨.hello, 0, .ok, .startup, .none, 0, 2, 2 ^ 64 - 1⟩
  ⟨(wire_codec_agrees f f.record).1 (by decide) (by decide) (by decide) (by decide),
    f.length_encode, (wire_codec_agrees f f.record).2⟩

end Bpe.Native
