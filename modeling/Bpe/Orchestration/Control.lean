import Bpe.Lib.Execute
import Bpe.Orchestration.Collect

/-!
# Records and descriptors

`_collect_records` on the control items that `recvmsg` returns: which
descriptors they carry, which bytes are a `ucred`, and what every run keeps and
closes.
-/

namespace Bpe.Orchestration.Control

open Models Native List Routine

def solSocket : Int32 := 1
def scmRights : Int32 := 1
def scmCredentials : Int32 := 2

/-- `level, message_type, message_data` -/
structure ControlItem where
  level : Int32
  messageType : Int32
  data : List UInt8

/-- What `recvmsg` returns: at most one byte more than a frame. -/
structure Message where
  payload : List UInt8
  ancillary : List ControlItem
  flags : Int32
  bounded : payload.length ≤ protocolFrameSize + 1

inductive Call where
  | monotonicNs
  | setTimeout (ns : Int)
  | recvmsg
  /-- `_close_descriptor` -/
  | closeDescriptor (descriptor : Int32)
  /-- `_control_peer_hup_observed` -/
  | pollPeerHup
  deriving DecidableEq

def Value : Call → Type
  | .monotonicNs => Int
  | .recvmsg => Message
  | .closeDescriptor _ => Bool
  | .pollPeerHup => Bool
  | .setTimeout _ => Unit

abbrev Reply : Call → Type := Replies InertError Value

abbrev Body (α : Type) : Type := Routine Call Reply InertError Unit α

/-! ## Control items -/

/-- `array.array("i")` over whole items. -/
def nativeInts : List UInt8 → List Int32
  | b₀ :: b₁ :: b₂ :: b₃ :: rest => Int32.ofNat (leNat [b₀, b₁, b₂, b₃]) :: nativeInts rest
  | _ => []

def scmRightsItemSize : Nat := 4

def ucredSize : Nat := 12

/-- The whole descriptors of an `SCM_RIGHTS` item. -/
def ControlItem.descriptors (item : ControlItem) : List Int32 :=
  if item.level ≠ solSocket ∨ item.messageType ≠ scmRights then []
  else
    let usable := item.data.length - item.data.length % scmRightsItemSize
    nativeInts (item.data.take usable)

def unpackUcred (data : List UInt8) : Int32 × UInt32 × UInt32 :=
  (Int32.ofNat (leNat (data.take 4)), UInt32.ofNat (leNat ((data.drop 4).take 4)),
    UInt32.ofNat (leNat ((data.drop 8).take 4)))

/-- One item of `_inspect_control_ancillary`. -/
def inspectItem (s : Sender) (item : ControlItem) : Sender :=
  if item.level = solSocket ∧ item.messageType = scmRights then
    { s with unexpectedAncillaryPresent := true }
  else if item.level = solSocket ∧ item.messageType = scmCredentials ∧
      ¬ s.credentialsPresent then
    if item.data.length ≠ ucredSize then
      { s with credentialsPresent := true, unexpectedAncillaryPresent := true }
    else
      let (pid, uid, gid) := unpackUcred item.data
      { s with
        credentialsPresent := true
        pid := some pid.toInt
        uid := some uid.toNat
        gid := some gid.toNat }
  else { s with unexpectedAncillaryPresent := true }

def inspectControlAncillary (ancillary : List ControlItem) : Sender :=
  ancillary.foldl inspectItem {}

def msgCtrunc : Int32 := 0x8
def msgTrunc : Int32 := 0x20
def msgEor : Int32 := 0x80
def msgCmsgCloexec : Int32 := 0x40000000

def controlReturnFlagsValid (flags : Int32) : Bool :=
  0 ≤ flags && flags &&& ~~~(msgCmsgCloexec ||| msgEor) == 0

def finalizeDescriptor (descriptor : Int32) : Body Bool := do
  match ← Routine.attempt (Routine.perform (Call.closeDescriptor descriptor)) with
  | .ok (closed : Bool) => pure closed
  | .error _ => pure false

def finalizeDescriptors : List Int32 → Bool → Body Bool
  | [], completed => pure completed
  | descriptor :: rest, completed => do
    let closed ← finalizeDescriptor descriptor
    finalizeDescriptors rest (closed && completed)

def closeReceivedRights : List ControlItem → Bool → Body Bool
  | [], completed => pure completed
  | item :: rest, completed => do
    let completed ← finalizeDescriptors item.descriptors completed
    closeReceivedRights rest completed

/-! ## The loop -/

def Message.record (m : Message) : LinuxInertFixtureNativeSocketRecord :=
  let sender := inspectControlAncillary m.ancillary
  { payload := m.payload
    messageTruncated := m.flags &&& msgTrunc != 0
    controlTruncated := m.flags &&& msgCtrunc != 0
    senderCredentialsPresent := sender.credentialsPresent
    senderPid := sender.pid
    senderUid := sender.uid
    senderGid := sender.gid
    unexpectedAncillaryPresent := sender.unexpectedAncillaryPresent }

/-- `_collect_records` with a message that is no end of file. -/
def collectRecord (deadlineNs receivedNs : Int) (expected : Int × Int × Int) (m : Message)
    (rightsClosed : Bool) (s : CollectState) : Body (CollectState ⊕ CollectionObservation) := do
  let sender := inspectControlAncillary m.ancillary
  Routine.when (¬ m.record.validate.isOk) (Routine.raise validationError)
  let recordOverflow : Bool := protocolMaxFrames ≤ s.records.length
  let s := if recordOverflow then s else { s with records := s.records ++ [m.record] }
  if !controlReturnFlagsValid m.flags || !sender.verified expected ||
      sender.unexpectedAncillaryPresent || !rightsClosed ||
      m.payload.length != protocolFrameSize || recordOverflow then
    pure (.inr (s.failed .controlProtocolFailed
      (if rightsClosed then "invalid_control_record" else "ancillary_descriptor_close_failed")
      none))
  else if deadlineNs ≤ receivedNs then pure (.inr s.deadlineExceeded)
  else pure (.inl s)

/-- `_collect_records` with a received message. -/
def collectMessage (deadlineNs receivedNs : Int) (expected : Int × Int × Int) (m : Message)
    (rightsClosed : Bool) (s : CollectState) : Body (CollectState ⊕ CollectionObservation) := do
  if m.payload.isEmpty && m.ancillary.isEmpty && controlReturnFlagsValid m.flags then
    match ← Routine.attempt (Routine.perform Call.pollPeerHup) with
    | .error (.component (.os _ errno)) =>
      pure (.inr (s.failed .transcriptCollectionFailed "peer_hup_poll_failed"
        (boundedErrno errno)))
    | .error e => Routine.raise e
    | .ok true =>
      if deadlineNs ≤ receivedNs then pure (.inr s.deadlineExceeded) else pure (.inr s.eof)
    | .ok false => collectRecord deadlineNs receivedNs expected m rightsClosed s
  else collectRecord deadlineNs receivedNs expected m rightsClosed s

/-- `recvmsg` and what follows it in the loop of `_collect_records`. -/
def receiveOnce (deadlineNs : Int) (expected : Int × Int × Int) (s : CollectState) :
    Body (CollectState ⊕ CollectionObservation) := do
  match ← Routine.attempt (Routine.perform Call.recvmsg) with
  | .error (.component (.os .timeout _)) => pure (.inr s.deadlineExceeded)
  | .error (.component (.os _ errno)) =>
    pure (.inr (s.failed .transcriptCollectionFailed "recvmsg_failed" (boundedErrno errno)))
  | .error e => Routine.raise e
  | .ok (m : Message) =>
    let receivedNs ← Routine.attempt (Routine.perform Call.monotonicNs)
    -- The `finally` block: the rights are closed even where the clock raised.
    let rightsClosed ← closeReceivedRights m.ancillary true
    match receivedNs with
    | .error e => Routine.raise e
    | .ok (receivedNs : Int) =>
      collectMessage deadlineNs receivedNs expected m rightsClosed
        { s with finalized := rightsClosed && s.finalized }

/-- One turn of the loop of `_collect_records`. -/
def collectOnce (deadlineNs : Int) (expected : Int × Int × Int) (s : CollectState) :
    Body (CollectState ⊕ CollectionObservation) := do
  let now : Int ← Routine.perform Call.monotonicNs
  if deadlineNs - now ≤ 0 then pure (.inr s.deadlineExceeded)
  else
    let _ ← Routine.perform (Call.setTimeout (deadlineNs - now))
    receiveOnce deadlineNs expected s

def collectRecords (fuel : Nat) (deadlineNs : Int) (expected : Int × Int × Int) :
    Body CollectionObservation :=
  Routine.loop fuel (collectOnce deadlineNs expected) ⟨[], true⟩

/-! ## Flags -/

theorem and_not_eq_zero_iff {x y : BitVec 32} : x &&& ~~~y = 0#32 ↔ x &&& y = x := by
  constructor
  · intro h
    refine BitVec.eq_of_getLsbD_eq fun i hi => ?_
    have hb := congrArg (fun b : BitVec 32 => b.getLsbD i) h
    simp only [BitVec.getLsbD_and, BitVec.getLsbD_not, hi, decide_true, Bool.true_and] at hb ⊢
    cases hx : x.getLsbD i
    · rfl
    · rw [hx] at hb
      simpa using hb
  · intro h
    rw [← h, BitVec.and_assoc, BitVec.and_not_self]
    exact BitVec.and_zero

/-- The bits that a returned message may have: a set sign bit is none of them. -/
theorem controlReturnFlagsValid_iff {flags : Int32} :
    controlReturnFlagsValid flags = true ↔ flags.toBitVec &&& 0x40000080#32 = flags.toBitVec := by
  unfold controlReturnFlagsValid
  rw [Bool.and_eq_true_iff, beq_iff_eq, decide_eq_true_iff]
  constructor
  · rintro ⟨-, h⟩
    exact and_not_eq_zero_iff.1 (congrArg Int32.toBitVec h)
  · intro h
    refine ⟨Int32.le_iff_toInt_le.2 ?_, Int32.toBitVec_inj.1 (and_not_eq_zero_iff.2 h)⟩
    have hmsb : flags.toBitVec.msb = false := by
      rw [← h, BitVec.msb_and]
      exact Bool.and_false _
    exact BitVec.toInt_nonneg_of_msb_false hmsb

theorem and_eq_zero_of_valid {flags mask : Int32} (h : controlReturnFlagsValid flags = true)
    (hmask : 0x40000080#32 &&& mask.toBitVec = 0#32) : flags &&& mask = 0 := by
  refine Int32.toBitVec_inj.1 ?_
  rw [Int32.toBitVec_and, ← controlReturnFlagsValid_iff.1 h, BitVec.and_assoc, hmask,
    BitVec.and_zero]
  rfl

/-! ## What the ancillary data of an accepted message is -/

variable {s : Sender}

theorem inspectItem_unexpected (h : s.unexpectedAncillaryPresent = true) (item : ControlItem) :
    (inspectItem s item).unexpectedAncillaryPresent = true := by
  unfold inspectItem
  split
  · rfl
  · split
    · split
      · rfl
      · exact h
    · rfl

theorem foldl_inspectItem_unexpected (h : s.unexpectedAncillaryPresent = true)
    (items : List ControlItem) :
    (items.foldl inspectItem s).unexpectedAncillaryPresent = true := by
  induction items generalizing s with
  | nil => exact h
  | cons item items ih => exact ih (inspectItem_unexpected h item)

/-- Once credentials were seen, every further item is unexpected. -/
theorem inspectItem_second (h : s.credentialsPresent = true) (item : ControlItem) :
    (inspectItem s item).unexpectedAncillaryPresent = true := by
  unfold inspectItem
  split
  · rfl
  · rw [if_neg fun hc => hc.2.2 h]

/-- A first item that leaves nothing unexpected is one whole `ucred`. -/
theorem inspectItem_first {item : ControlItem}
    (h : (inspectItem {} item).unexpectedAncillaryPresent = false) :
    item.level = solSocket ∧ item.messageType = scmCredentials ∧ item.data.length = ucredSize := by
  unfold inspectItem at h
  split at h
  · cases h
  · split at h
    · next hcred =>
      split at h
      · cases h
      · next hsize => exact ⟨hcred.1, hcred.2.1, not_not.1 hsize⟩
    · cases h

theorem inspectItem_ucred {item : ControlItem} (hlevel : item.level = solSocket)
    (htype : item.messageType = scmCredentials) (hsize : item.data.length = ucredSize) :
    inspectItem {} item =
      { credentialsPresent := true
        pid := some (unpackUcred item.data).1.toInt
        uid := some (unpackUcred item.data).2.1.toNat
        gid := some (unpackUcred item.data).2.2.toNat } := by
  have hrights : ¬ (item.level = solSocket ∧ item.messageType = scmRights) := by
    rw [htype]
    exact fun h => absurd h.2 (by decide)
  have hcred : item.level = solSocket ∧ item.messageType = scmCredentials ∧
      ¬ (({} : Sender).credentialsPresent = true) := ⟨hlevel, htype, Bool.false_ne_true⟩
  unfold inspectItem
  rw [if_neg hrights, if_pos hcred, if_neg (not_not.2 hsize)]

/-- The sender's PID, UID and GID as the kernel wrote them. -/
def ControlItem.ucred (item : ControlItem) : Int × Int × Int :=
  ((unpackUcred item.data).1.toInt, (unpackUcred item.data).2.1.toNat,
    (unpackUcred item.data).2.2.toNat)

/-- A message that keeps the loop going: a whole frame from the expected sender
and nothing else. -/
structure Message.Genuine (expected : Int × Int × Int) (m : Message) : Prop where
  payload : m.payload.length = protocolFrameSize
  ucred : ∃ item, m.ancillary = [item] ∧ item.level = solSocket ∧
    item.messageType = scmCredentials ∧ item.data.length = ucredSize ∧ item.ucred = expected
  messageTruncated : m.flags &&& msgTrunc = 0
  controlTruncated : m.flags &&& msgCtrunc = 0

theorem ucred_of_inspect {ancillary : List ControlItem} {expected : Int × Int × Int}
    (hverified : (inspectControlAncillary ancillary).verified expected = true)
    (hexpected : (inspectControlAncillary ancillary).unexpectedAncillaryPresent = false) :
    ∃ item, ancillary = [item] ∧ item.level = solSocket ∧ item.messageType = scmCredentials ∧
      item.data.length = ucredSize ∧ item.ucred = expected := by
  match ancillary with
  | [] => cases hverified
  | item :: rest =>
    have hfirst : (inspectItem {} item).unexpectedAncillaryPresent = false := by
      cases hu : (inspectItem {} item).unexpectedAncillaryPresent with
      | false => rfl
      | true =>
        have hall : (inspectControlAncillary (item :: rest)).unexpectedAncillaryPresent = true :=
          foldl_inspectItem_unexpected hu rest
        rw [hall] at hexpected
        cases hexpected
    obtain ⟨hlevel, htype, hsize⟩ := inspectItem_first hfirst
    have hseen := inspectItem_ucred hlevel htype hsize
    match rest with
    | [] =>
      refine ⟨item, rfl, hlevel, htype, hsize, ?_⟩
      have hv : (inspectItem {} item).verified expected = true := hverified
      rw [hseen] at hv
      simpa [Sender.verified, ControlItem.ucred, Prod.ext_iff] using hv
    | second :: rest =>
      have hsecond : (inspectItem (inspectItem {} item) second).unexpectedAncillaryPresent = true :=
        inspectItem_second (by rw [hseen]) second
      have := foldl_inspectItem_unexpected hsecond rest
      rw [inspectControlAncillary, foldl_cons, foldl_cons, this] at hexpected
      cases hexpected

theorem genuine_of_accepted {m : Message} {expected : Int × Int × Int}
    (hflags : controlReturnFlagsValid m.flags = true)
    (hverified : (inspectControlAncillary m.ancillary).verified expected = true)
    (hexpected : (inspectControlAncillary m.ancillary).unexpectedAncillaryPresent = false)
    (hlen : m.payload.length = protocolFrameSize) : m.Genuine expected where
  payload := hlen
  ucred := ucred_of_inspect hverified hexpected
  messageTruncated := and_eq_zero_of_valid hflags rfl
  controlTruncated := and_eq_zero_of_valid hflags rfl

/-! ## The record of any message -/

/-- What `_inspect_control_ancillary` keeps. -/
structure ConsistentSender (s : Sender) : Prop where
  pid : s.pid.all (fun n => -(2 ^ 31) ≤ n && n ≤ 2 ^ 31 - 1) = true
  uid : s.uid.all inUint32 = true
  gid : s.gid.all inUint32 = true
  together : s.uid.isNone = s.pid.isNone ∧ s.gid.isNone = s.pid.isNone
  present : s.pid.isSome = true → s.credentialsPresent = true
  unparsed : s.credentialsPresent = true → s.pid.isSome = false →
    s.unexpectedAncillaryPresent = true

theorem ConsistentSender.unexpected (h : ConsistentSender s) :
    ConsistentSender { s with unexpectedAncillaryPresent := true } where
  pid := h.pid
  uid := h.uid
  gid := h.gid
  together := h.together
  present := h.present
  unparsed _ _ := rfl

theorem inUint32_toNat (n : UInt32) : inUint32 n.toNat = true := by
  have := n.toNat_lt
  simp only [inUint32, Bool.and_eq_true, decide_eq_true_eq]
  omega

theorem ConsistentSender.inspectItem (h : ConsistentSender s) (item : ControlItem) :
    ConsistentSender (inspectItem s item) := by
  unfold Control.inspectItem
  split
  · exact h.unexpected
  · split
    · split
      · exact ⟨h.pid, h.uid, h.gid, h.together, fun _ => rfl, fun _ _ => rfl⟩
      · refine ⟨?_, inUint32_toNat _, inUint32_toNat _, ⟨rfl, rfl⟩, fun _ => rfl,
          fun _ hnone => Bool.noConfusion hnone⟩
        have hge := Int32.le_toInt (unpackUcred item.data).1
        have hlt := Int32.toInt_lt (unpackUcred item.data).1
        simp only [Option.all_some, Bool.and_eq_true, decide_eq_true_eq]
        omega
    · exact h.unexpected

theorem inspectControlAncillary_consistent (ancillary : List ControlItem) :
    ConsistentSender (inspectControlAncillary ancillary) := by
  suffices ∀ s, ConsistentSender s → ConsistentSender (ancillary.foldl inspectItem s) from
    this {} ⟨rfl, rfl, rfl, ⟨rfl, rfl⟩, fun h => h, fun h _ => h⟩
  induction ancillary with
  | nil => exact fun s h => h
  | cons item rest ih => exact fun s h => ih _ (h.inspectItem item)

/-- The record's own validator accepts what the parser produces. -/
theorem record_validate (m : Message) : m.record.validate = .ok () := by
  obtain ⟨hpid, huid, hgid, ⟨hu, hg⟩, hpresent, hunparsed⟩ :=
    inspectControlAncillary_consistent m.ancillary
  have habsent : [m.record.senderPid.isNone, m.record.senderUid.isNone,
      m.record.senderGid.isNone] = replicate 3 m.record.senderPid.isNone :=
    congrArg₂ (fun a b => [m.record.senderPid.isNone, a, b]) hu hg
  refine refuse_eq_ok.2 ?_
  rw [habsent]
  simp only [forall_mem_cons, not_mem_nil, false_implies, implies_true, and_true]
  refine ⟨?_, ?_, ?_, ?_, ?_, ?_, ?_⟩
  · exact congrArg not (decide_eq_true m.bounded)
  · exact congrArg not hpid
  · exact congrArg not huid
  · exact congrArg not hgid
  · cases m.record.senderPid.isNone <;> rfl
  · rw [Bool.and_eq_false_imp]
    exact fun hsome => congrArg not (hpresent hsome)
  · rw [Bool.and_eq_false_imp, Bool.and_eq_true_iff, Bool.not_eq_true']
    exact fun h => congrArg not (hunparsed h.1 h.2)

/-! ## What a run keeps and closes -/

def receivedMessages (t : List (Event Reply)) : List Message :=
  t.filterMap fun
    | ⟨.recvmsg, .ok m⟩ => some m
    | _ => none

/-- The descriptors that were passed to `_finalize_descriptor`. -/
def finalizedDescriptors (t : List (Event Reply)) : List Int32 :=
  t.filterMap fun v => match v.1 with
    | .closeDescriptor descriptor => some descriptor
    | _ => none

/-- The whole descriptors in the `SCM_RIGHTS` items that were received. -/
def receivedDescriptors (t : List (Event Reply)) : List Int32 :=
  (receivedMessages t).flatMap fun m => m.ancillary.flatMap ControlItem.descriptors

/-- The calls since `h`: one for each of these descriptors. -/
def Closes (descriptors : List Int32) (h h' : List (Event Reply)) : Prop :=
  ∃ t, h' = h ++ t ∧ t.map Sigma.fst = descriptors.map Call.closeDescriptor

theorem finalizeDescriptors_guards (descriptors : List Int32) :
    ∀ (completed : Bool) (h : List (Event Reply)),
      Routine.Guards (fun _ _ => True) (fun h' _ _ => Closes descriptors h h')
        (fun _ _ _ => False) h () (finalizeDescriptors descriptors completed) := by
  induction descriptors with
  | nil => exact fun completed h => ⟨[], by simp⟩
  | cons descriptor rest ih =>
    intro completed h
    have hnext : ∀ (closed : Bool) (r : Reply (.closeDescriptor descriptor)),
        Routine.Guards (fun _ _ => True) (fun h' _ _ => Closes (descriptor :: rest) h h')
          (fun _ _ _ => False) (h ++ [⟨.closeDescriptor descriptor, r⟩]) ()
          (finalizeDescriptors rest (closed && completed)) := by
      intro closed r
      refine (ih _ _).mono (fun h' _ _ hcloses => ?_) fun _ _ _ hfalse => hfalse
      obtain ⟨t, rfl, ht⟩ := hcloses
      exact ⟨⟨.closeDescriptor descriptor, r⟩ :: t, by simp, by simp [ht]⟩
    refine guards_bind.2 (guards_bind.2 (guards_attempt.2
      (guards_perform.2 ⟨trivial, fun closed => ?_, fun e => ?_⟩)))
    · exact hnext closed _
    · exact hnext false _

theorem Closes.trans {ds ds' : List Int32} {h h₁ h₂ : List (Event Reply)} (hc : Closes ds h h₁)
    (hc' : Closes ds' h₁ h₂) : Closes (ds ++ ds') h h₂ := by
  obtain ⟨t, rfl, ht⟩ := hc
  obtain ⟨t', rfl, ht'⟩ := hc'
  exact ⟨t ++ t', by simp, by simp [ht, ht']⟩

theorem closeReceivedRights_guards (items : List ControlItem) :
    ∀ (completed : Bool) (h : List (Event Reply)),
      Routine.Guards (fun _ _ => True)
        (fun h' _ _ => Closes (items.flatMap ControlItem.descriptors) h h')
        (fun _ _ _ => False) h () (closeReceivedRights items completed) := by
  induction items with
  | nil => exact fun completed h => ⟨[], by simp⟩
  | cons item rest ih =>
    intro completed h
    refine guards_bind.2 ((finalizeDescriptors_guards _ _ h).mono (fun h₁ c _ hc => ?_)
      fun _ _ _ hfalse => hfalse)
    exact (ih c h₁).mono (fun h₂ _ _ hc' => hc.trans hc') fun _ _ _ hfalse => hfalse

theorem Closes.finalizedDescriptors {ds : List Int32} {h h' : List (Event Reply)}
    (hc : Closes ds h h') :
    Control.finalizedDescriptors h' = Control.finalizedDescriptors h ++ ds := by
  obtain ⟨t, rfl, ht⟩ := hc
  have hcalls : Control.finalizedDescriptors t = (t.map Sigma.fst).filterMap fun
      | .closeDescriptor descriptor => some descriptor
      | _ => none := by
    rw [filterMap_map]
    rfl
  rw [Control.finalizedDescriptors, filterMap_append]
  refine congrArg (Control.finalizedDescriptors h ++ ·) (hcalls.trans ?_)
  rw [ht, filterMap_map]
  exact filterMap_some

theorem Closes.receivedMessages {ds : List Int32} {h h' : List (Event Reply)}
    (hc : Closes ds h h') : Control.receivedMessages h' = Control.receivedMessages h := by
  obtain ⟨t, rfl, ht⟩ := hc
  have hnone : Control.receivedMessages t = [] := by
    refine filterMap_eq_nil_iff.2 fun v hv => ?_
    have hcall : v.1 ∈ ds.map Call.closeDescriptor := ht ▸ mem_map_of_mem hv
    obtain ⟨descriptor, -, hd⟩ := mem_map.1 hcall
    obtain ⟨c, r⟩ := v
    cases hd
    rfl
  rw [Control.receivedMessages, filterMap_append]
  exact (congrArg (Control.receivedMessages h ++ ·) hnone).trans (append_nil _)

/-- What is closed and kept before every turn of the loop. -/
structure Kept (expected : Int × Int × Int) (h : List (Event Reply)) (s : CollectState) : Prop where
  finalized : finalizedDescriptors h = receivedDescriptors h
  records : s.records = (receivedMessages h).map Message.record
  genuine : ∀ m ∈ receivedMessages h, m.Genuine expected
  bounded : s.records.length ≤ protocolMaxFrames

/-- The calls end with an empty message, read before the deadline, and an observed
hang-up; every message before is kept, in order. -/
def EndOfFile (deadlineNs : Int) (expected : Int × Int × Int) (h : List (Event Reply))
    (records : List LinuxInertFixtureNativeSocketRecord) : Prop :=
  ∃ (front : List (Event Reply)) (m : Message) (receivedNs : Int),
    h = front ++ [⟨.recvmsg, .ok m⟩, ⟨.monotonicNs, .ok receivedNs⟩, ⟨.pollPeerHup, .ok true⟩] ∧
    m.payload = [] ∧ m.ancillary = [] ∧ receivedNs < deadlineNs ∧
    records = (receivedMessages front).map Message.record ∧
    ∀ m ∈ receivedMessages front, m.Genuine expected

structure Collected (deadlineNs : Int) (expected : Int × Int × Int) (h : List (Event Reply))
    (o : CollectionObservation) : Prop where
  finalized : finalizedDescriptors h = receivedDescriptors h
  bounded : o.records.length ≤ protocolMaxFrames
  eof : o.eofObserved = true → EndOfFile deadlineNs expected h o.records

def isOsError : InertError → Bool
  | .component (.os _ _) => true
  | _ => false

/-- Where an exception of the loop comes from. -/
structure Raised (h : List (Event Reply)) (e : InertError) : Prop where
  finalized : finalizedDescriptors h = receivedDescriptors h
  source : ⟨.monotonicNs, .error e⟩ ∈ h ∨ ⟨.pollPeerHup, .error e⟩ ∈ h ∨
    (∃ ns, ⟨.setTimeout ns, .error e⟩ ∈ h) ∨
    (⟨.recvmsg, .error e⟩ ∈ h ∧ isOsError e = false)

/-- The last message is not kept yet; what came before is. -/
structure Pending (expected : Int × Int × Int) (h : List (Event Reply)) (s : CollectState)
    (m : Message) : Prop where
  finalized : finalizedDescriptors h = receivedDescriptors h
  records : ∃ before, receivedMessages h = before ++ [m] ∧
    s.records = before.map Message.record ∧ ∀ m ∈ before, m.Genuine expected
  bounded : s.records.length ≤ protocolMaxFrames

/-- One turn keeps one record more, or ends the loop. -/
def Turn (deadlineNs : Int) (expected : Int × Int × Int) (kept : Nat) (h : List (Event Reply)) :
    CollectState ⊕ CollectionObservation → Prop
  | .inl s => Kept expected h s ∧ kept < s.records.length
  | .inr o => Collected deadlineNs expected h o

variable {deadlineNs receivedNs : Int} {expected : Int × Int × Int} {h : List (Event Reply)}
  {s : CollectState} {m : Message}

theorem collected_of_failure {o : CollectionObservation}
    (hf : finalizedDescriptors h = receivedDescriptors h)
    (hb : o.records.length ≤ protocolMaxFrames) (ho : o.eofObserved = false) :
    Collected deadlineNs expected h o :=
  ⟨hf, hb, fun heof => absurd (ho.symm.trans heof) Bool.false_ne_true⟩

theorem collectRecord_guards (rightsClosed : Bool) (hp : Pending expected h s m) :
    Routine.Guards (fun _ _ => True) (fun h x _ => Turn deadlineNs expected s.records.length h x)
      (fun h e _ => Raised h e) h ()
      (collectRecord deadlineNs receivedNs expected m rightsClosed s) := by
  obtain ⟨before, hmessages, hrecords, hgenuine⟩ := hp.records
  refine guards_bind.2 (guards_when.2 ⟨fun hbad => ?_, fun _ => ?_⟩)
  · rw [record_validate] at hbad
    exact absurd rfl hbad
  dsimp only
  by_cases hover : protocolMaxFrames ≤ s.records.length
  · rw [if_pos (decide_eq_true hover), decide_eq_true hover, Bool.or_true, if_pos rfl]
    exact guards_pure.2 (collected_of_failure hp.finalized hp.bounded rfl)
  have hnot : ¬ decide (protocolMaxFrames ≤ s.records.length) = true :=
    fun h => hover (of_decide_eq_true h)
  rw [if_neg hnot]
  have hlen : (s.records ++ [m.record]).length = s.records.length + 1 := length_append
  have hbounded : (s.records ++ [m.record]).length ≤ protocolMaxFrames := by omega
  refine guards_ite.2 ⟨fun _ => ?_, fun haccepted => guards_ite.2
    ⟨fun _ => ?_, fun _ => ?_⟩⟩
  · exact collected_of_failure hp.finalized hbounded rfl
  · exact collected_of_failure hp.finalized hbounded rfl
  simp only [Bool.or_eq_true, Bool.not_eq_true', bne_iff_ne, not_or, Bool.not_eq_false,
    Bool.not_eq_true, not_not] at haccepted
  obtain ⟨⟨⟨⟨⟨hflags, hverified⟩, hexpected⟩, -⟩, hpayload⟩, -⟩ := haccepted
  refine ⟨⟨hp.finalized, ?_, fun m' hm' => ?_, hbounded⟩, ?_⟩
  · rw [hmessages, map_append, ← hrecords]
    rfl
  · rw [hmessages, mem_append, mem_singleton] at hm'
    rcases hm' with hm' | rfl
    · exact hgenuine m' hm'
    · exact genuine_of_accepted hflags hverified hexpected hpayload
  · show s.records.length < (s.records ++ [m.record]).length
    omega

/-- Two histories with the same messages and the same closed descriptors. -/
theorem Pending.poll (hp : Pending expected h s m) (r : Reply .pollPeerHup) :
    Pending expected (h ++ [⟨.pollPeerHup, r⟩]) s m := by
  have hmessages : receivedMessages (h ++ [⟨.pollPeerHup, r⟩]) = receivedMessages h := by
    simp [receivedMessages]
  have hclosed : finalizedDescriptors (h ++ [⟨.pollPeerHup, r⟩]) = finalizedDescriptors h := by
    simp [finalizedDescriptors]
  refine ⟨?_, hmessages ▸ hp.records, hp.bounded⟩
  rw [hclosed, receivedDescriptors, hmessages]
  exact hp.finalized

theorem collectMessage_guards (rightsClosed : Bool) (hp : Pending expected h s m)
    (hread : m.ancillary = [] → ∃ front, h = front ++ [⟨.recvmsg, .ok m⟩,
      ⟨.monotonicNs, .ok receivedNs⟩]) :
    Routine.Guards (fun _ _ => True) (fun h x _ => Turn deadlineNs expected s.records.length h x)
      (fun h e _ => Raised h e) h ()
      (collectMessage deadlineNs receivedNs expected m rightsClosed s) := by
  refine guards_ite.2 ⟨fun hempty => ?_, fun _ => collectRecord_guards rightsClosed hp⟩
  refine guards_bind.2 (guards_attempt.2 (guards_perform.2
    ⟨trivial, fun hup => ?_, fun e => ?_⟩))
  · cases hup with
    | false => exact collectRecord_guards rightsClosed (hp.poll _)
    | true =>
      refine guards_ite.2 ⟨fun _ => ?_, fun hdeadline => ?_⟩
      · exact collected_of_failure (hp.poll _).finalized hp.bounded rfl
      · refine ⟨(hp.poll _).finalized, hp.bounded, fun _ => ?_⟩
        simp only [Bool.and_eq_true, List.isEmpty_iff] at hempty
        obtain ⟨front, rfl⟩ := hread hempty.1.2
        obtain ⟨before, hmessages, hrecords, hgenuine⟩ := hp.records
        have hbefore : receivedMessages front = before := by
          have : receivedMessages (front ++ [⟨.recvmsg, .ok m⟩, ⟨.monotonicNs, .ok receivedNs⟩]) =
              receivedMessages front ++ [m] := by simp [receivedMessages]
          exact append_cancel_right (this.symm.trans hmessages)
        refine ⟨front, m, receivedNs, by simp, hempty.1.1, hempty.1.2, not_le.1 hdeadline, ?_, ?_⟩
        · rw [hbefore]
          exact hrecords
        · rw [hbefore]
          exact hgenuine
  · have hraised : Raised (h ++ [⟨.pollPeerHup, .error e⟩]) e :=
      ⟨(hp.poll _).finalized, .inr (.inl (by simp))⟩
    have hfailed : ∀ reason componentReason errno, Collected deadlineNs expected
        (h ++ [⟨.pollPeerHup, .error e⟩]) (s.failed reason componentReason errno) :=
      fun _ _ _ => collected_of_failure (hp.poll _).finalized hp.bounded rfl
    split
    · exact hfailed _ _ _
    · next he => cases he; exact hraised
    · contradiction
    · contradiction

theorem Kept.append_quiet {t : List (Event Reply)} (hk : Kept expected h s)
    (hmessages : receivedMessages t = []) (hclosed : finalizedDescriptors t = []) :
    Kept expected (h ++ t) s := by
  have hm : receivedMessages (h ++ t) = receivedMessages h := by
    rw [receivedMessages, filterMap_append]
    exact (congrArg (receivedMessages h ++ ·) hmessages).trans (append_nil _)
  have hc : finalizedDescriptors (h ++ t) = finalizedDescriptors h := by
    rw [finalizedDescriptors, filterMap_append]
    exact (congrArg (finalizedDescriptors h ++ ·) hclosed).trans (append_nil _)
  refine ⟨?_, hm ▸ hk.records, hm ▸ hk.genuine, hk.bounded⟩
  rw [hc, receivedDescriptors, hm]
  exact hk.finalized

theorem Kept.receive {h' : List (Event Reply)} (hk : Kept expected h s) (m : Message)
    (r : Reply .monotonicNs) (finalized : Bool)
    (hc : Closes (m.ancillary.flatMap ControlItem.descriptors)
      (h ++ [⟨.recvmsg, .ok m⟩, ⟨.monotonicNs, r⟩]) h') :
    Pending expected h' { s with finalized := finalized } m := by
  have hmessages : receivedMessages h' = receivedMessages h ++ [m] := by
    rw [hc.receivedMessages]
    simp [receivedMessages]
  refine ⟨?_, ⟨receivedMessages h, hmessages, hk.records, hk.genuine⟩, hk.bounded⟩
  rw [hc.finalizedDescriptors, receivedDescriptors, hmessages, flatMap_append,
    flatMap_singleton]
  refine congrArg (· ++ _) ?_
  rw [← receivedDescriptors, ← hk.finalized]
  simp [finalizedDescriptors]

theorem receiveOnce_guards (hk : Kept expected h s) :
    Routine.Guards (fun _ _ => True) (fun h x _ => Turn deadlineNs expected s.records.length h x)
      (fun h e _ => Raised h e) h () (receiveOnce deadlineNs expected s) := by
  refine guards_bind.2 (guards_attempt.2 ((guards_perform
    (c := Call.recvmsg)).2 ⟨trivial, fun m => ?_, fun e => ?_⟩))
  · -- The descriptors are closed, whatever the clock replies.
    have hclose : ∀ r : Reply .monotonicNs, _ := fun r =>
      closeReceivedRights_guards m.ancillary true (h ++ [⟨.recvmsg, .ok m⟩, ⟨.monotonicNs, r⟩])
    refine guards_bind.2 (guards_attempt.2 ((guards_perform
      (c := Call.monotonicNs)).2 ⟨trivial, fun receivedNs => ?_, fun e => ?_⟩))
    · rw [append_assoc]
      refine guards_bind.2 ((hclose (.ok receivedNs)).mono (fun h' closed _ hc => ?_)
        fun _ _ _ hfalse => hfalse.elim)
      have hpending := hk.receive m (.ok receivedNs) (closed && s.finalized) hc
      refine collectMessage_guards closed hpending fun hnone => ?_
      rw [hnone] at hc
      obtain ⟨t, rfl, ht⟩ := hc
      rw [map_eq_nil_iff.1 ht]
      exact ⟨h, by simp⟩
    · rw [append_assoc]
      refine guards_bind.2 ((hclose (.error e)).mono (fun h' closed _ hc => ?_)
        fun _ _ _ hfalse => hfalse.elim)
      refine ⟨(hk.receive m _ true hc).finalized, .inl ?_⟩
      obtain ⟨t, rfl, -⟩ := hc
      simp
  · have hquiet := hk.append_quiet (t := [⟨.recvmsg, .error e⟩]) rfl rfl
    split
    · exact collected_of_failure hquiet.finalized hk.bounded rfl
    · exact collected_of_failure hquiet.finalized hk.bounded rfl
    · next hos he =>
      cases he
      refine ⟨hquiet.finalized, .inr (.inr (.inr ⟨by simp, ?_⟩))⟩
      unfold isOsError
      split
      · next kind errno _ => exact absurd rfl (hos kind errno)
      · rfl
    · contradiction

theorem collectOnce_guards (hk : Kept expected h s) :
    Routine.Guards (fun _ _ => True) (fun h x _ => Turn deadlineNs expected s.records.length h x)
      (fun h e _ => Raised h e) h () (collectOnce deadlineNs expected s) := by
  refine guards_bind.2 ((guards_perform (c := Call.monotonicNs)).2
    ⟨trivial, fun now => ?_, fun e => ⟨(hk.append_quiet rfl rfl).finalized, .inl (by simp)⟩⟩)
  have hnow := hk.append_quiet (t := [⟨.monotonicNs, .ok now⟩]) rfl rfl
  refine guards_ite.2
    ⟨fun _ => collected_of_failure hnow.finalized hk.bounded rfl, fun _ => ?_⟩
  refine guards_bind.2 (guards_perform.2 ⟨trivial, fun _ => ?_, fun e => ?_⟩)
  · exact receiveOnce_guards (hnow.append_quiet rfl rfl)
  · exact ⟨(hnow.append_quiet rfl rfl).finalized,
      .inr (.inr (.inl ⟨_, mem_append_right _ (mem_singleton.2 rfl)⟩))⟩

/-! ## Completion -/

theorem finalizeDescriptors_completes (descriptors : List Int32) (completed : Bool) :
    (finalizeDescriptors descriptors completed).Completes fun _ => True := by
  induction descriptors generalizing completed with
  | nil => exact completes_pure _
  | cons descriptor rest ih =>
    refine completes_bind (completes_bind
      (completes_attempt (completes_perform trivial)) fun r => ?_) fun _ => ih _
    cases r <;> exact completes_pure _

theorem closeReceivedRights_completes (items : List ControlItem) (completed : Bool) :
    (closeReceivedRights items completed).Completes fun _ => True := by
  induction items generalizing completed with
  | nil => exact completes_pure _
  | cons item rest ih =>
    exact completes_bind (finalizeDescriptors_completes _ _) fun _ => ih _

theorem collectRecord_completes (rightsClosed : Bool) :
    (collectRecord deadlineNs receivedNs expected m rightsClosed s).Completes fun _ => True := by
  refine completes_bind (completes_when (completes_raise _)) fun _ => ?_
  refine completes_ite (completes_pure _) (completes_ite ?_ ?_)
  · exact completes_pure _
  · exact completes_pure _

theorem collectMessage_completes (rightsClosed : Bool) :
    (collectMessage deadlineNs receivedNs expected m rightsClosed s).Completes fun _ => True := by
  refine completes_ite (completes_bind (completes_attempt
    (completes_perform trivial)) fun r => ?_) (collectRecord_completes rightsClosed)
  split
  · exact completes_pure _
  · exact completes_raise _
  · exact completes_ite (completes_pure _) (completes_pure _)
  · exact collectRecord_completes rightsClosed

theorem collectOnce_completes :
    (collectOnce deadlineNs expected s).Completes fun _ => True := by
  refine completes_bind (completes_perform trivial) fun now => ?_
  refine completes_ite (completes_pure _)
    (completes_bind (completes_perform trivial) fun _ => ?_)
  refine completes_bind (completes_attempt (completes_perform trivial))
    fun r => ?_
  split
  · exact completes_pure _
  · exact completes_pure _
  · exact completes_raise _
  · next m =>
    refine completes_bind (completes_attempt (completes_perform trivial))
      fun r => completes_bind (closeReceivedRights_completes m.ancillary true) fun _ => ?_
    split
    · exact completes_raise _
    · exact collectMessage_completes _

theorem kept_start : Kept expected [] ⟨[], true⟩ where
  finalized := rfl
  records := rfl
  genuine := by simp [receivedMessages]
  bounded := Nat.zero_le _

/-- `_collect_records` returns within one turn more than it keeps records. -/
theorem collectRecords_completes {fuel : Nat} (hfuel : protocolMaxFrames < fuel) :
    (collectRecords fuel deadlineNs expected ()).Completes fun _ => True := by
  refine completes_loop (fun h s _ => Kept expected h s)
    (fun s => protocolMaxFrames - s.records.length) (fun _ => collectOnce_completes)
    (fun h s _ hk => (collectOnce_guards hk).mono (fun h' x _ hturn s' hx => ?_)
      fun _ _ _ he => he) fuel kept_start ?_
  · rw [hx] at hturn
    obtain ⟨hkept, hlt⟩ := hturn
    have := hkept.bounded
    exact ⟨hkept, by omega⟩
  · show protocolMaxFrames - 0 < fuel
    omega

theorem collectRecords_guards (fuel : Nat) :
    Routine.Guards (fun _ _ => True) (fun h o _ => Collected deadlineNs expected h o)
      (fun h e _ => Raised h e) [] () (collectRecords fuel deadlineNs expected) := by
  refine guards_loop (fun h s _ => Kept expected h s) (fun h s _ hk => ?_) fuel kept_start
  refine (collectOnce_guards hk).mono (fun h' x _ hturn => ?_) fun _ _ _ he => he
  cases x with
  | inl s' => exact hturn.1
  | inr o => exact hturn

/-- `settimeout` returns, and `recvmsg` raises no more than `OSError`. -/
structure SocketCalm (t : List (Event Reply)) : Prop where
  setTimeout : ∀ ns e, ⟨.setTimeout ns, .error e⟩ ∉ t
  recvmsg : ∀ e, ⟨.recvmsg, .error e⟩ ∈ t → isOsError e = true

theorem Raised.interrupted {e : InertError} (hr : Raised h e) (hcalm : SocketCalm h) :
    ⟨.monotonicNs, .error e⟩ ∈ h ∨ ⟨.pollPeerHup, .error e⟩ ∈ h := by
  rcases hr.source with hclock | hpoll | ⟨ns, hset⟩ | ⟨hrecv, hother⟩
  · exact .inl hclock
  · exact .inr hpoll
  · exact absurd hset (hcalm.setTimeout ns e)
  · exact absurd ((hcalm.recvmsg e hrecv).symm.trans hother) Bool.noConfusion

/-- Every message has a record, the loop ends, and every run closes each received
descriptor exactly once, in the order of arrival. It returns a bounded list of
records, which is complete where the end of file was observed, or lets an exception
of the clock or of the poll through. -/
theorem collectRecords_complete {fuel : Nat} (hfuel : protocolMaxFrames < fuel) (deadlineNs : Int)
    (expected : Int × Int × Int) :
    (∀ m : Message, m.record.validate = .ok ()) ∧
    (collectRecords fuel deadlineNs expected ()).Completes (fun _ => True) ∧
    ∀ (t : List (Event Reply)) (x : Except InertError CollectionObservation) (s : Unit),
      (collectRecords fuel deadlineNs expected ()).Runs t (x, s) →
      finalizedDescriptors t = receivedDescriptors t ∧
      match x with
      | .ok o => o.records.length ≤ protocolMaxFrames ∧
          (o.eofObserved = true → EndOfFile deadlineNs expected t o.records)
      | .error e => SocketCalm t →
          ⟨.monotonicNs, .error e⟩ ∈ t ∨ ⟨.pollPeerHup, .error e⟩ ∈ t := by
  refine ⟨record_validate, collectRecords_completes hfuel, fun t x s hruns => ?_⟩
  have hresult := Prog.Guards.result hruns (collectRecords_guards fuel)
  cases x with
  | ok o =>
    have ho : Collected deadlineNs expected t o := hresult
    exact ⟨ho.finalized, ho.bounded, ho.eof⟩
  | error e =>
    have he : Raised t e := hresult
    exact ⟨he.finalized, he.interrupted⟩

/-- A frame from process 7 of root. -/
def rootFrame : Message where
  payload := replicate protocolFrameSize 0
  ancillary := [⟨solSocket, scmCredentials, 7 :: replicate 11 0⟩]
  flags := msgCmsgCloexec
  bounded := by decide

def endOfFileMessage : Message := ⟨[], [], msgCmsgCloexec, by decide⟩

def oneFrameTrace : List (Event Reply) :=
  [⟨.monotonicNs, .ok (0 : Int)⟩, ⟨.setTimeout 10, .ok ()⟩, ⟨.recvmsg, .ok rootFrame⟩,
    ⟨.monotonicNs, .ok (1 : Int)⟩, ⟨.monotonicNs, .ok (2 : Int)⟩, ⟨.setTimeout 8, .ok ()⟩,
    ⟨.recvmsg, .ok endOfFileMessage⟩, ⟨.monotonicNs, .ok (3 : Int)⟩, ⟨.pollPeerHup, .ok true⟩]

/-- A message that carries the descriptor 5. -/
def rightsMessage : Message :=
  ⟨[], [⟨solSocket, scmRights, [5, 0, 0, 0]⟩], msgCmsgCloexec, by decide⟩

def rightsTrace : List (Event Reply) :=
  [⟨.monotonicNs, .ok (0 : Int)⟩, ⟨.setTimeout 10, .ok ()⟩, ⟨.recvmsg, .ok rightsMessage⟩,
    ⟨.monotonicNs, .ok (1 : Int)⟩, ⟨.closeDescriptor 5, .ok true⟩]

theorem collectRecords_complete_oneFrame :
    ((collectRecords 9 10 (7, 0, 0) ()).Runs oneFrameTrace
      (.ok ⟨[rootFrame.record], true, none, none, none, true⟩, ()) ∧
      EndOfFile 10 (7, 0, 0) oneFrameTrace [rootFrame.record]) ∧
    (collectRecords 9 10 (7, 0, 0) ()).Runs rightsTrace
      (.ok ⟨[rightsMessage.record], false, some .controlProtocolFailed,
        some "invalid_control_record", none, true⟩, ()) ∧
    receivedDescriptors rightsTrace = [5] ∧
    finalizedDescriptors rightsTrace = receivedDescriptors rightsTrace := by
  obtain ⟨-, -, hruns⟩ := collectRecords_complete (by decide : protocolMaxFrames < 9) 10 (7, 0, 0)
  have hframe : (collectRecords 9 10 (7, 0, 0) ()).Runs oneFrameTrace
      (.ok ⟨[rootFrame.record], true, none, none, none, true⟩, ()) := Prog.runs_of_replay rfl
  have hrights : (collectRecords 9 10 (7, 0, 0) ()).Runs rightsTrace
      (.ok ⟨[rightsMessage.record], false, some .controlProtocolFailed,
        some "invalid_control_record", none, true⟩, ()) := Prog.runs_of_replay rfl
  exact ⟨⟨hframe, (hruns _ _ _ hframe).2.2 rfl⟩, hrights, rfl, (hruns _ _ _ hrights).1⟩

end Bpe.Orchestration.Control
