import Bpe.Launcher.Paths

/-!
# The descriptor scan

What `bpe_validate_no_extra_fds` accepts. One `getdents64` buffer is read record
by record (`nextDirent`), each name marks a bit (`markName`), and the loop over
the buffers returns true exactly on listings of the descriptors 0 to 5
(`ExactListing`).
-/

namespace Bpe.Launcher

open Proc List

/-! ## One buffer -/

/-- One whole directory record. -/
structure IsDirent (record : List UInt8) : Prop where
  covers : direntNameOffset + 2 ≤ record.length
  exact : recordLength record = record.length
  terminated : 0 ∈ record.drop direntNameOffset

/-- The name up to its NUL. -/
def direntName (record : List UInt8) : List UInt8 :=
  (record.drop direntNameOffset).takeWhile (· ≠ 0)

/-- The record at the front of a buffer, and what follows it. -/
def nextDirent (entry : List UInt8) : Option (List UInt8 × List UInt8) :=
  if entry.length < direntNameOffset + 2 then none
  else if recordLength entry > entry.length ∨ recordLength entry < direntNameOffset + 2 then none
  else if 0 ∉ (entry.take (recordLength entry)).drop direntNameOffset then none
  else some (entry.take (recordLength entry), entry.drop (recordLength entry))

/-- The descriptors seen after one more name. -/
def markName (seenDescriptors : Nat) (name : List UInt8) : Option Nat :=
  if name = [46] ∨ name = [46, 46] then some seenDescriptors
  else
    match bpeParseFdName name with
    | none => none
    | some descriptor =>
      if (descriptor : Int) > procFdScanFd then none
      else if seenDescriptors.testBit descriptor then none
      else some (seenDescriptors ||| 1 <<< descriptor)

theorem scanDirents_nil (fuel seenDescriptors : Nat) :
    scanDirents (fuel + 1) [] seenDescriptors = some seenDescriptors := rfl

theorem scanDirents_succ (fuel : Nat) {entry : List UInt8} (hne : entry ≠ [])
    (seenDescriptors : Nat) :
    scanDirents (fuel + 1) entry seenDescriptors =
      (nextDirent entry).bind fun next =>
        (markName seenDescriptors (direntName next.1)).bind (scanDirents fuel next.2) := by
  have hlen : entry.length ≠ 0 := fun h => hne (length_eq_zero_iff.1 h)
  have hfield : (entry.drop direntNameOffset).take (recordLength entry - direntNameOffset) =
      (entry.take (recordLength entry)).drop direntNameOffset := drop_take.symm
  rw [scanDirents, scanDirent, nextDirent, if_neg hlen]
  dsimp only
  rw [hfield]
  -- the same questions are asked on both sides, in the same order
  split
  · rfl
  split
  · rfl
  split
  · rfl
  rw [Option.bind_some, ← direntName, markName]
  dsimp only
  split
  · rfl
  cases bpeParseFdName (direntName (entry.take (recordLength entry))) with
  | none => rfl
  | some descriptor =>
    dsimp only
    split
    · rfl
    split
    · rfl
    · rfl

theorem recordLength_append {record : List UInt8} (h : direntNameOffset + 2 ≤ record.length)
    (rest : List UInt8) : recordLength (record ++ rest) = recordLength record := by
  have h16 : 16 < record.length := Nat.lt_of_lt_of_le (by decide) h
  have h17 : 17 < record.length := Nat.lt_of_lt_of_le (by decide) h
  simp [recordLength, getD_eq_getElem?_getD, getElem?_append_left, h16, h17]

/-- The record at the front is the only way to begin with one. -/
theorem nextDirent_eq_some {entry record rest : List UInt8} :
    nextDirent entry = some (record, rest) ↔ entry = record ++ rest ∧ IsDirent record := by
  unfold nextDirent
  constructor
  · intro h
    split at h
    · cases h
    split at h
    · cases h
    split at h
    · cases h
    next _ hlength hnul =>
    obtain ⟨rfl, rfl⟩ := Prod.mk.inj (Option.some.inj h)
    rw [not_or, not_lt, not_lt] at hlength
    have hlen : (entry.take (recordLength entry)).length = recordLength entry :=
      length_take_of_le hlength.1
    have hcovers : direntNameOffset + 2 ≤ (entry.take (recordLength entry)).length :=
      hlen.symm ▸ hlength.2
    refine ⟨(take_append_drop _ _).symm, hcovers, ?_, not_not.1 hnul⟩
    have happ := recordLength_append hcovers (entry.drop (recordLength entry))
    rw [take_append_drop] at happ
    rw [hlen, ← happ]
  · rintro ⟨rfl, hcovers, hexact, hnul⟩
    have hrec := recordLength_append hcovers rest
    rw [hrec, hexact, take_left, drop_left, length_append, if_neg (by omega),
      if_neg (by omega), if_neg (not_not.2 hnul)]

/-- Every turn of the loop over one buffer consumes a record. -/
theorem nextDirent_shorter {entry record rest : List UInt8}
    (h : nextDirent entry = some (record, rest)) :
    rest.length + (direntNameOffset + 2) ≤ entry.length := by
  obtain ⟨rfl, hrecord⟩ := nextDirent_eq_some.1 h
  have := hrecord.covers
  rw [length_append]
  omega

/-- What the records of a buffer are to the descriptors seen. -/
theorem scanDirents_eq_some {seen' : Nat} : ∀ {fuel : Nat} {entry : List UInt8} {seen : Nat},
    entry.length < fuel →
    (scanDirents fuel entry seen = some seen' ↔
      ∃ records : List (List UInt8), entry = records.flatten ∧ (∀ r ∈ records, IsDirent r) ∧
        (records.map direntName).foldlM markName seen = some seen') := by
  intro fuel
  induction fuel with
  | zero => intro entry seen h; omega
  | succ fuel ih =>
    intro entry seen hfuel
    by_cases hne : entry = []
    · subst hne
      rw [scanDirents_nil]
      constructor
      · intro h
        exact ⟨[], rfl, by simp, h⟩
      · rintro ⟨records, hflat, hrecords, hmarks⟩
        cases records with
        | nil => exact hmarks
        | cons r rs =>
          have := (hrecords r (by simp)).covers
          have hr : r = [] := (append_eq_nil_iff.1 hflat.symm).1
          subst hr
          simp at this
    · rw [scanDirents_succ fuel hne, Option.bind_eq_some_iff]
      constructor
      · rintro ⟨⟨record, rest⟩, hnext, h⟩
        obtain ⟨seen₁, hmark, hrest⟩ := Option.bind_eq_some_iff.1 h
        have hshorter := nextDirent_shorter hnext
        obtain ⟨records, hflat, hrecords, hmarks⟩ := (ih (by dsimp only; omega)).1 hrest
        obtain ⟨hentry, hrecord⟩ := nextDirent_eq_some.1 hnext
        refine ⟨record :: records, ?_, ?_, ?_⟩
        · rw [hentry, flatten_cons, ← hflat]
        · simpa using ⟨hrecord, hrecords⟩
        · rw [map_cons, foldlM_cons, hmark]
          exact hmarks
      · rintro ⟨records, hflat, hrecords, hmarks⟩
        cases records with
        | nil => exact absurd hflat hne
        | cons record records =>
          obtain ⟨hrecord, hrecords⟩ := forall_mem_cons.1 hrecords
          rw [map_cons, foldlM_cons] at hmarks
          obtain ⟨seen₁, hmark, hmarks⟩ := Option.bind_eq_some_iff.1 hmarks
          have hnext := nextDirent_eq_some.2 ⟨hflat, hrecord⟩
          have hshorter := nextDirent_shorter hnext
          refine ⟨(record, records.flatten), hnext, Option.bind_eq_some_iff.2 ⟨seen₁, hmark, ?_⟩⟩
          exact (ih (by dsimp only; omega)).2 ⟨records, rfl, hrecords, hmarks⟩

/-! ## All buffers -/

def scanBuffers (buffers : List (List UInt8)) (seen : Nat) : Option Nat :=
  buffers.foldlM (fun seen buffer => scanDirents (buffer.length + 1) buffer seen) seen

variable {buffers : List (List UInt8)} {seen seen' : Nat}

theorem scanBuffers_eq_some :
    scanBuffers buffers seen = some seen' ↔
      ∃ listing : List (List (List UInt8)), buffers = listing.map flatten ∧
        (∀ records ∈ listing, ∀ r ∈ records, IsDirent r) ∧
        (listing.flatten.map direntName).foldlM markName seen = some seen' := by
  induction buffers generalizing seen with
  | nil =>
    constructor
    · intro h
      exact ⟨[], rfl, by simp, h⟩
    · rintro ⟨listing, hmap, -, hmarks⟩
      cases map_eq_nil_iff.1 hmap.symm
      exact hmarks
  | cons buffer buffers ih =>
    rw [scanBuffers, foldlM_cons]
    constructor
    · intro h
      obtain ⟨seen₁, hbuffer, hrest⟩ := Option.bind_eq_some_iff.1 h
      obtain ⟨records, hflat, hrecords, hmarks⟩ :=
        (scanDirents_eq_some (Nat.lt_succ_self _)).1 hbuffer
      obtain ⟨listing, hmap, hlisting, hmarks'⟩ := ih.1 hrest
      refine ⟨records :: listing, ?_, ?_, ?_⟩
      · rw [map_cons, ← hflat, ← hmap]
      · simpa using ⟨hrecords, hlisting⟩
      · rw [flatten_cons, map_append, foldlM_append, hmarks]
        exact hmarks'
    · rintro ⟨listing, hmap, hlisting, hmarks⟩
      cases listing with
      | nil => cases hmap
      | cons records listing =>
        obtain ⟨hflat, hmap⟩ := cons.inj hmap
        obtain ⟨hrecords, hlisting⟩ := forall_mem_cons.1 hlisting
        rw [flatten_cons, map_append, foldlM_append] at hmarks
        obtain ⟨seen₁, hmark, hmarks⟩ := Option.bind_eq_some_iff.1 hmarks
        refine Option.bind_eq_some_iff.2 ⟨seen₁, ?_, ih.2 ⟨listing, hmap, hlisting, hmarks⟩⟩
        exact (scanDirents_eq_some (Nat.lt_succ_self _)).2 ⟨records, hflat, hrecords, hmark⟩

/-! ## Names -/

def isDotName (name : List UInt8) : Bool := name = [46] ∨ name = [46, 46]

/-- The names of a listing that are not `.` or `..`. -/
def descriptorNames (names : List (List UInt8)) : List (List UInt8) :=
  names.filter fun name => !isDotName name

def digitName (descriptor : Nat) : List UInt8 := [UInt8.ofNat (48 + descriptor)]

theorem parseDecimal_le {characters : List UInt8} {parsed n : Nat}
    (h : parseDecimal parsed characters = some n) : parsed ≤ n := by
  induction characters generalizing parsed with
  | nil => exact le_of_eq (Option.some.inj h)
  | cons c rest ih =>
    rw [parseDecimal] at h
    split at h
    · cases h
    dsimp only at h
    split at h
    · cases h
    · have := ih h
      omega

theorem parseDecimal_cons {c : UInt8} {rest : List UInt8} {parsed n : Nat}
    (h : parseDecimal parsed (c :: rest) = some n) :
    48 ≤ c ∧ c ≤ 57 ∧ parseDecimal (parsed * 10 + (c - 48).toNat) rest = some n := by
  rw [parseDecimal] at h
  split at h
  · cases h
  next hdigit =>
  rw [not_or, not_or] at hdigit
  dsimp only at h
  split at h
  · cases h
  · exact ⟨UInt8.not_lt.1 hdigit.1, UInt8.not_lt.1 hdigit.2.1, h⟩

theorem digit_toNat {c : UInt8} (h : 48 ≤ c) : (c - 48).toNat = c.toNat - 48 :=
  UInt8.toNat_sub_of_le c 48 h

variable {name : List UInt8}

/-- No name of two digits stands for a small descriptor: it cannot begin with zero. -/
theorem parseFdName_small {descriptor : Nat} (h : bpeParseFdName name = some descriptor)
    (hsmall : descriptor ≤ 5) :
    name = digitName descriptor := by
  unfold bpeParseFdName at h
  split at h
  · cases h
  next hcanonical =>
  match name with
  | [] => exact absurd (.inl rfl) hcanonical
  | [c] =>
    obtain ⟨hlow, -, hvalue⟩ := parseDecimal_cons h
    have hd : (c - 48).toNat = descriptor := by simpa [parseDecimal] using hvalue
    rw [digit_toNat hlow] at hd
    have hc : 48 ≤ c.toNat := hlow
    refine congrArg (fun b => [b]) (UInt8.toNat_inj.1 ?_)
    rw [UInt8.toNat_ofNat']
    omega
  | c :: c' :: rest =>
    obtain ⟨hlow, -, hvalue⟩ := parseDecimal_cons h
    obtain ⟨-, -, hvalue'⟩ := parseDecimal_cons hvalue
    have hle := parseDecimal_le hvalue'
    have hzero : c ≠ 48 := by
      rintro rfl
      exact hcanonical (.inr ⟨by simp, rfl⟩)
    have hc : 48 ≤ c.toNat := hlow
    have hne : c.toNat ≠ 48 := fun h => hzero (UInt8.toNat_inj.1 h)
    have := digit_toNat hlow
    omega

theorem parseFdName_digitName {descriptor : Nat} (h : descriptor ≤ 5) :
    bpeParseFdName (digitName descriptor) = some descriptor := by
  interval_cases descriptor <;> rfl

theorem markName_dot (h : isDotName name = true) (seen : Nat) :
    markName seen name = some seen :=
  if_pos (of_decide_eq_true h)

theorem markName_eq_some (h : isDotName name = false) :
    markName seen name = some seen' ↔ ∃ descriptor ≤ 5, name = digitName descriptor ∧
      seen.testBit descriptor = false ∧ seen' = seen ||| 1 <<< descriptor := by
  unfold markName
  rw [if_neg (of_decide_eq_false h)]
  constructor
  · intro hmark
    split at hmark
    · cases hmark
    next descriptor hparse =>
    split at hmark
    · cases hmark
    next hle =>
    split at hmark
    · cases hmark
    next hbit =>
    have hsmall : descriptor ≤ 5 := by
      unfold procFdScanFd at hle
      omega
    exact ⟨descriptor, hsmall, parseFdName_small hparse hsmall, Bool.eq_false_iff.2 hbit,
      (Option.some.inj hmark).symm⟩
  · rintro ⟨descriptor, hsmall, rfl, hbit, rfl⟩
    have hle : ¬ ((descriptor : Int) > procFdScanFd) := by
      unfold procFdScanFd
      omega
    rw [parseFdName_digitName hsmall]
    dsimp only
    rw [if_neg hle, if_neg (by rw [hbit]; exact Bool.false_ne_true)]

/-! ## The mask of descriptors -/

theorem testBit_mark (seen descriptor i : Nat) :
    (seen ||| 1 <<< descriptor).testBit i = (seen.testBit i || decide (descriptor = i)) := by
  rw [Nat.testBit_or, Nat.one_shiftLeft, Nat.testBit_two_pow]

/-- The names taken are those of distinct descriptors, whose bits are then set. -/
structure Marked (seen : Nat) (names : List (List UInt8)) (seen' : Nat) (descriptors : List Nat) :
    Prop where
  names : descriptorNames names = descriptors.map digitName
  small : ∀ d ∈ descriptors, d ≤ 5
  nodup : descriptors.Nodup
  fresh : ∀ d ∈ descriptors, seen.testBit d = false
  bits : ∀ i, seen'.testBit i = (seen.testBit i || decide (i ∈ descriptors))

variable {names : List (List UInt8)}

theorem Marked.dot {ds : List Nat} (h : isDotName name = true) :
    Marked seen (name :: names) seen' ds ↔ Marked seen names seen' ds := by
  have hnames : descriptorNames (name :: names) = descriptorNames names :=
    filter_cons_of_neg (by rw [h]; decide)
  constructor
  · intro hm
    exact ⟨hnames ▸ hm.names, hm.small, hm.nodup, hm.fresh, hm.bits⟩
  · intro hm
    exact ⟨hnames.symm ▸ hm.names, hm.small, hm.nodup, hm.fresh, hm.bits⟩

theorem foldlM_markName :
    names.foldlM markName seen = some seen' ↔
      ∃ descriptors, Marked seen names seen' descriptors := by
  induction names generalizing seen with
  | nil =>
    constructor
    · intro h
      obtain rfl : seen = seen' := Option.some.inj h
      exact ⟨[], rfl, by simp, nodup_nil, by simp, by simp⟩
    · rintro ⟨ds, hm⟩
      have hnil : ds = [] := map_eq_nil_iff.1 hm.names.symm
      subst hnil
      refine congrArg some (Nat.eq_of_testBit_eq fun i => ?_)
      rw [hm.bits i]
      simp
  | cons name names ih =>
    rw [foldlM_cons]
    cases hdot : isDotName name with
    | true =>
      rw [markName_dot hdot, Option.bind_eq_bind, Option.bind_some, ih]
      exact exists_congr fun ds => (Marked.dot hdot).symm
    | false =>
      have hnames : descriptorNames (name :: names) = name :: descriptorNames names :=
        filter_cons_of_pos (by rw [hdot]; rfl)
      constructor
      · intro h
        obtain ⟨seen₁, hmark, hrest⟩ := Option.bind_eq_some_iff.1 h
        obtain ⟨d, hsmall, rfl, hbit, rfl⟩ := (markName_eq_some hdot).1 hmark
        obtain ⟨ds, hm⟩ := ih.1 hrest
        have hfresh : ∀ i ∈ ds, seen.testBit i = false ∧ d ≠ i := by
          intro i hi
          have := hm.fresh i hi
          rw [testBit_mark, Bool.or_eq_false_iff] at this
          exact ⟨this.1, of_decide_eq_false this.2⟩
        refine ⟨d :: ds, ?_, ?_, ?_, ?_, fun i => ?_⟩
        · rw [hnames, hm.names, map_cons]
        · simpa using ⟨hsmall, hm.small⟩
        · exact nodup_cons.2 ⟨fun hd => (hfresh d hd).2 rfl, hm.nodup⟩
        · simpa using ⟨hbit, fun i hi => (hfresh i hi).1⟩
        · rw [hm.bits i, testBit_mark, Bool.or_assoc]
          simp [eq_comm]
      · rintro ⟨ds, hm⟩
        have hds := hnames.symm.trans hm.names
        cases ds with
        | nil => cases hds
        | cons d ds =>
          obtain ⟨rfl, hrest⟩ := cons.inj hds
          obtain ⟨hnotin, hnodup⟩ := nodup_cons.1 hm.nodup
          obtain ⟨hsmall, hsmall'⟩ := forall_mem_cons.1 hm.small
          obtain ⟨hfresh, hfresh'⟩ := forall_mem_cons.1 hm.fresh
          refine Option.bind_eq_some_iff.2 ⟨seen ||| 1 <<< d,
            (markName_eq_some hdot).2 ⟨d, hsmall, rfl, hfresh, rfl⟩,
            ih.2 ⟨ds, hrest, hsmall', hnodup, fun i hi => ?_, fun i => ?_⟩⟩
          · have hne : d ≠ i := fun h => hnotin (h ▸ hi)
            rw [testBit_mark, hfresh' i hi, decide_eq_false hne, Bool.or_false]
          · rw [hm.bits i, testBit_mark, Bool.or_assoc]
            simp [eq_comm]

/-- `0x3f`: the descriptors are 0 to 5. -/
theorem foldlM_markName_full :
    names.foldlM markName 0 = some 0x3f ↔
      (descriptorNames names).Perm ((range 6).map digitName) := by
  have hfull : ∀ i, Nat.testBit 0x3f i = decide (i < 6) := Nat.testBit_two_pow_sub_one 6
  rw [foldlM_markName]
  constructor
  · rintro ⟨ds, hm⟩
    rw [hm.names]
    refine List.Perm.map _ ((perm_ext_iff_of_nodup hm.nodup nodup_range).2 fun i => ?_)
    have hbit := hm.bits i
    rw [hfull, Nat.zero_testBit, Bool.false_or, decide_eq_decide] at hbit
    rw [mem_range]
    exact hbit.symm
  · intro hperm
    let value (name : List UInt8) : Nat := (name.headD 0).toNat - 48
    have hvalue : ∀ d ∈ range 6, value (digitName d) = d := by decide
    have hds : ((descriptorNames names).map value).Perm (range 6) := hperm.map value
    have hnames : descriptorNames names = ((descriptorNames names).map value).map digitName := by
      rw [map_map]
      refine (map_id _).symm.trans (map_congr_left fun name hname => ?_)
      obtain ⟨d, hd, rfl⟩ := mem_map.1 (hperm.mem_iff.1 hname)
      exact congrArg digitName (hvalue d hd).symm
    refine ⟨_, hnames, fun d hd => ?_, hds.nodup_iff.2 nodup_range, by simp, fun i => ?_⟩
    · have := mem_range.1 (hds.mem_iff.1 hd)
      omega
    · rw [hfull, Nat.zero_testBit, Bool.false_or, decide_eq_decide, hds.mem_iff, mem_range]

/-- Whole records in every buffer, and exactly the descriptors 0 to 5 among their
names. -/
def ExactListing (buffers : List (List UInt8)) : Prop :=
  ∃ listing : List (List (List UInt8)), buffers = listing.map flatten ∧
    (∀ records ∈ listing, ∀ r ∈ records, IsDirent r) ∧
    (descriptorNames (listing.flatten.map direntName)).Perm ((range 6).map digitName)

theorem scanBuffers_full :
    scanBuffers buffers 0 = some 0x3f ↔ ExactListing buffers := by
  rw [scanBuffers_eq_some]
  refine exists_congr fun listing => and_congr_right fun _ => and_congr_right fun _ => ?_
  exact foldlM_markName_full

/-! ## Runs without a failing call -/

section Settles

variable {α β ι : Type} {A : Event Reply → Prop} {m : LM α} {f : α → LM β}

/-- Where every call is answered as `A` says, `m` ends in `Q`. -/
def Settles (A : Event Reply → Prop) (m : LM α) (Q : Trace → α → Prop) : Prop :=
  ∀ s t a s', Runs m s t a s' → (∀ v ∈ t, A v) → Q t a

theorem settles_pure {a : α} {Q : Trace → α → Prop} (h : Q [] a) :
    Settles A (pure a : LM α) Q := by
  intro s t b s' hr _
  obtain ⟨rfl, hb⟩ := Prog.runs_ret.1 hr
  cases hb
  exact h

theorem Settles.bind {P : Trace → α → Prop} {Q : Trace → β → Prop} (hm : Settles A m P)
    (hf : ∀ t a, P t a → Settles A (f a) fun t' b => Q (t ++ t') b) :
    Settles A (m >>= f) Q := by
  intro s t b s₂ hr hall
  obtain ⟨t₁, a, s₁, t₂, h₁, h₂, rfl⟩ := runs_bind.1 hr
  obtain ⟨hall₁, hall₂⟩ := forall_mem_append.1 hall
  exact hf t₁ a (hm s t₁ a s₁ h₁ hall₁) s₁ t₂ b s₂ h₂ hall₂

theorem Settles.mono {P Q : Trace → α → Prop} (hm : Settles A m P) (h : ∀ t a, P t a → Q t a) :
    Settles A m Q :=
  fun s t a s' hr hall => h t a (hm s t a s' hr hall)

theorem settles_sys_bind {c : Call} {f : Option c.Ok → LM β} {Q : Trace → β → Prop}
    (hok : ∀ r, A ⟨c, .ok r⟩ → Settles A (f (some r)) fun t b => Q (⟨c, .ok r⟩ :: t) b)
    (herr : ∀ e, ¬ A ⟨c, .error e⟩) : Settles A (sys c >>= f) Q := by
  intro s
  refine ensures_sys_bind (Q := fun t b _ => (∀ v ∈ t, A v) → Q t b)
    (fun r t b s' hr hall => ?_) fun e t b s' _ hall => ?_
  · obtain ⟨hreply, hall⟩ := forall_mem_cons.1 hall
    exact hok r hreply s t b s' hr hall
  · exact absurd (forall_mem_cons.1 hall).1 (herr e)

theorem settles_setFailure {stage : Native.NativeStage} {reason : Native.NativeReason} {e : Nat}
    {f : Unit → LM β} {Q : Trace → β → Prop} (h : Settles A (f ()) Q) :
    Settles A (bpeSetFailure stage reason e >>= f) Q :=
  fun _ t b s' hr hall => h _ t b s' hr hall

theorem settles_ite {c : Prop} [Decidable c] {m₁ m₂ : LM α} {Q : Trace → α → Prop}
    (h₁ : c → Settles A m₁ Q) (h₂ : ¬ c → Settles A m₂ Q) :
    Settles A (if c then m₁ else m₂) Q := by
  split
  · next h => exact h₁ h
  · next h => exact h₂ h

end Settles

/-- The bytes that the `getdents64` calls returned. -/
def direntBuffers (t : Trace) : List (List UInt8) :=
  t.filterMap fun
    | ⟨.getdents64 _ _, .ok buffer⟩ => some buffer.val
    | _ => none

theorem direntBuffers_append (t t' : Trace) :
    direntBuffers (t ++ t') = direntBuffers t ++ direntBuffers t' :=
  filterMap_append

/-- The clock reading that `bpe_monotonic_ns` accepts. -/
def Timespec.reading (now : Timespec) : Option Nat :=
  if now.sec < 0 ∨ now.nsec < 0 ∨ now.nsec ≥ nsPerSec ∨ now.sec > (uint64Max / nsPerSec : Nat) then
    none
  else some ((now.sec.toNat * nsPerSec + now.nsec.toNat) % 2 ^ 64)

/-- `BPE_STARTUP_SCAN_TIMEOUT_MS` in nanoseconds. -/
def scanTimeoutNs : Nat := startupScanTimeoutMs * nsPerMs

/-- How a scan that began at `start` is answered when nothing goes wrong: the clock
stays within the deadline, the directory passes its checks, and no call fails. -/
def Quiet (start : Nat) : Event Reply → Prop
  | ⟨.clockGettime, r⟩ => ∃ now n, r = .ok now ∧ now.reading = some n ∧ start ≤ n ∧
      n < start + scanTimeoutNs
  | ⟨.openProcFd, r⟩ => r = .ok (5 : Nat)
  | ⟨.fstat _, r⟩ => ∃ metadata, r = .ok metadata ∧ metadata.kind = .dir
  | ⟨.fstatfs _, r⟩ => r = .ok procSuperMagic
  | ⟨.getdents64 _ _, r⟩ => ∃ buffer, r = .ok buffer
  | ⟨.close _, r⟩ => r = .ok ()
  | _ => True

theorem settles_monotonicNs (start : Nat) :
    Settles (Quiet start) bpeMonotonicNs fun t r =>
      ∃ now n, t = [⟨.clockGettime, .ok now⟩] ∧ r = some n ∧ now.reading = some n ∧ start ≤ n ∧
        n < start + scanTimeoutNs := by
  refine settles_sys_bind (fun now h => ?_) fun e h => ?_
  · obtain ⟨_, n, he, hread, hrange⟩ := h
    cases he
    have hread' := hread
    unfold Timespec.reading at hread'
    split at hread'
    · cases hread'
    next hvalid =>
    dsimp only
    rw [if_neg hvalid, hread']
    exact settles_pure ⟨now, n, rfl, rfl, hread, hrange⟩
  · obtain ⟨_, _, he, _⟩ := h
    cases he

theorem settles_deadlineAfterMs (start : Nat) :
    Settles (Quiet start) (bpeDeadlineAfterMs startupScanTimeoutMs) fun t r =>
      ∃ now n, t = [⟨.clockGettime, .ok now⟩] ∧ now.reading = some n ∧
        (n + scanTimeoutNs ≤ uint64Max → r = some (n + scanTimeoutNs)) := by
  refine (settles_monotonicNs start).bind fun t r h => ?_
  obtain ⟨now, n, rfl, rfl, hread, -⟩ := h
  dsimp only
  rw [if_neg (show ¬ startupScanTimeoutMs > uint64Max / nsPerMs by decide)]
  refine settles_ite (fun hover => settles_pure ⟨now, n, rfl, hread, fun hle => ?_⟩)
    fun _ => settles_pure ⟨now, n, rfl, hread, fun _ => rfl⟩
  have : ¬ n > uint64Max - scanTimeoutNs := by omega
  exact absurd hover this

theorem settles_deadlinePollMs {start : Nat} :
    Settles (Quiet start) (bpeDeadlinePollMs (start + scanTimeoutNs) 1) fun t r =>
      direntBuffers t = [] ∧ r ≠ 0 := by
  refine (settles_monotonicNs start).bind fun t r h => ?_
  obtain ⟨now, n, rfl, rfl, -, hlow, hhigh⟩ := h
  have hsmall : scanTimeoutNs = 5000000000 := by decide
  dsimp only
  rw [if_neg (by omega)]
  refine settles_pure ⟨rfl, ?_⟩
  have hms : 0 < (start + scanTimeoutNs - n + 999999) % 2 ^ 64 / nsPerMs := by
    rw [Nat.mod_eq_of_lt (by omega)]
    exact Nat.div_pos (by unfold nsPerMs; omega) (by decide)
  split
  · exact Nat.one_ne_zero
  · omega

theorem settles_procFdDirectory (start : Nat) :
    Settles (Quiet start) (procFdDirectory 5) fun t b => direntBuffers t = [] ∧ b = true := by
  refine settles_ite (fun h => absurd rfl h) fun _ => ?_
  refine settles_sys_bind (fun metadata h => ?_) fun e h => ?_
  · obtain ⟨_, he, hkind⟩ := h
    cases he
    dsimp only
    rw [if_neg (not_not.2 hkind)]
    refine settles_sys_bind (fun r h => ?_) fun e h => ?_
    · cases h
      exact settles_pure ⟨rfl, decide_eq_true rfl⟩
    · cases h
  · obtain ⟨_, he, -⟩ := h
    cases he

theorem settles_getdents64 (start : Nat) {c : Call} (hc : ∃ fd size, c = .getdents64 fd size) :
    Settles (Quiet start) (sysInterruptible c) fun t r => ∃ b, t = [⟨c, .ok b⟩] ∧ r = some b := by
  obtain ⟨fd, size, rfl⟩ := hc
  refine settles_sys_bind (fun b _ => settles_pure ⟨b, rfl, rfl⟩) fun e h => ?_
  obtain ⟨_, he⟩ := h
  cases he

/-- The loop of `bpe_validate_no_extra_fds` with a returned buffer. -/
def scanBuffer (deadline seenDescriptors : Nat) (buffer : List UInt8) :
    LM (Nat ⊕ Bool × Nat) := do
  if buffer.length = 0 then return .inr (seenDescriptors = 0x3f, 0)
  let some seenDescriptors := scanDirents (buffer.length + 1) buffer seenDescriptors
    | return .inr (false, 0)
  if (← bpeDeadlinePollMs deadline 1) = 0 then return .inr (false, 0)
  return .inl seenDescriptors

def scanTurn (directoryFd : Int) (deadline seenDescriptors : Nat) : LM (Nat ⊕ Bool × Nat) := do
  let some buffer ← sysInterruptible (.getdents64 directoryFd procFdBufferSize)
    | return .inr (false, ← getErrno)
  scanBuffer deadline seenDescriptors buffer.val

def TurnOutcome (seen : Nat) (buffer : List UInt8) : Nat ⊕ Bool × Nat → Prop
  | .inl seen' => buffer ≠ [] ∧ scanDirents (buffer.length + 1) buffer seen = some seen'
  | .inr r => (buffer = [] ∧ (r.1 = true ↔ seen = 0x3f)) ∨
      (buffer ≠ [] ∧ scanDirents (buffer.length + 1) buffer seen = none ∧ r.1 = false)

theorem settles_scanTurn (start seen : Nat) (directoryFd : Int) :
    Settles (Quiet start) (scanTurn directoryFd (start + scanTimeoutNs) seen) fun t r =>
      ∃ buffer, direntBuffers t = [buffer] ∧ TurnOutcome seen buffer r := by
  refine (settles_getdents64 start ⟨_, _, rfl⟩).bind fun t r h => ?_
  obtain ⟨buffer, rfl, rfl⟩ := h
  refine settles_ite (fun hempty => settles_pure ⟨buffer.val, rfl, .inl ⟨?_, ?_⟩⟩) fun hne => ?_
  · exact length_eq_zero_iff.1 hempty
  · exact decide_eq_true_iff
  have hne' : buffer.val ≠ [] := fun h => hne (length_eq_zero_iff.2 h)
  cases hscan : scanDirents (buffer.val.length + 1) buffer.val seen with
  | none => exact settles_pure ⟨buffer.val, rfl, .inr ⟨hne', hscan, rfl⟩⟩
  | some seen' =>
    refine settles_deadlinePollMs.bind fun t ms h => ?_
    refine settles_ite (fun hzero => absurd hzero h.2) fun _ =>
      settles_pure ⟨buffer.val, ?_, hne', hscan⟩
    rw [append_nil, direntBuffers_append, h.1]
    rfl

theorem settles_scanProcFd (start : Nat) (directoryFd : Int) : ∀ (fuel : Nat)
    (buffers : List (List UInt8)), (∀ b ∈ buffers, b ≠ []) → ∀ seen : Nat,
    Settles (Quiet start)
      (Proc.iterate fuel (scanTurn directoryFd (start + scanTimeoutNs)) seen) fun t r =>
        direntBuffers t <+: buffers ++ [[]] →
          (r.1 = true ↔ scanBuffers buffers seen = some 0x3f) := by
  intro fuel
  induction fuel with
  | zero =>
    intro buffers _ seen s t a s' hr
    cases hr
  | succ fuel ih =>
    intro buffers hne seen
    refine (settles_scanTurn start seen directoryFd).bind fun t r h => ?_
    obtain ⟨buffer, ht, houtcome⟩ := h
    cases buffers with
    | nil =>
      have hfirst : ∀ t', direntBuffers (t ++ t') <+: [[]] → buffer = [] := by
        intro t' hfront
        rw [direntBuffers_append, ht, singleton_append] at hfront
        exact (cons_prefix_cons.1 hfront).1
      cases r with
      | inl seen' =>
        intro s t' a s' _ _ hfront
        exact absurd (hfirst t' hfront) houtcome.1
      | inr r =>
        refine settles_pure fun hfront => ?_
        rcases houtcome with ⟨-, hr⟩ | ⟨hnonempty, -⟩
        · exact hr.trans (Option.some_inj.symm)
        · exact absurd (hfirst [] hfront) hnonempty
    | cons b bs =>
      have hfirst : ∀ t', direntBuffers (t ++ t') <+: b :: bs ++ [[]] →
          buffer = b ∧ direntBuffers t' <+: bs ++ [[]] := by
        intro t' hfront
        rw [direntBuffers_append, ht, singleton_append, cons_append] at hfront
        exact cons_prefix_cons.1 hfront
      obtain ⟨hb, hbs⟩ := forall_mem_cons.1 hne
      have hscan : ∀ seen', scanBuffers (b :: bs) seen = some seen' ↔ ∃ seen₁,
          scanDirents (b.length + 1) b seen = some seen₁ ∧ scanBuffers bs seen₁ = some seen' :=
        fun seen' => Option.bind_eq_some_iff
      cases r with
      | inl seen₁ =>
        intro s t' a s' hr hall hfront
        obtain ⟨rfl, hrest⟩ := hfirst t' hfront
        rw [hscan, ih bs hbs seen₁ s t' a s' hr hall hrest]
        constructor
        · intro h
          exact ⟨seen₁, houtcome.2, h⟩
        · rintro ⟨seen₂, h₂, h⟩
          cases houtcome.2.symm.trans h₂
          exact h
      | inr r =>
        refine settles_pure fun hfront => ?_
        obtain ⟨rfl, -⟩ := hfirst [] hfront
        rcases houtcome with ⟨hempty, -⟩ | ⟨-, hnone, hfalse⟩
        · exact absurd hempty hb
        · rw [hscan, hfalse]
          constructor
          · intro h
            cases h
          · rintro ⟨seen₁, h₁, -⟩
            cases hnone.symm.trans h₁

theorem settles_finishNoExtraFds (start : Nat) (valid : Bool) (e : Nat) :
    Settles (Quiet start) (finishNoExtraFds 5 valid e) fun t b =>
      direntBuffers t = [] ∧ b = valid := by
  have hclose : Settles (Quiet start) (closeIfOpen 5) fun t b =>
      direntBuffers t = [] ∧ b = true := by
    refine settles_ite (fun h => absurd h (by decide)) fun _ => ?_
    refine settles_sys_bind (fun r _ => settles_pure ⟨rfl, rfl⟩) fun e h => ?_
    cases h
  refine hclose.bind fun t b h => ?_
  obtain ⟨ht, rfl⟩ := h
  refine settles_ite (fun h => absurd h (by decide)) fun _ => ?_
  cases valid with
  | true => exact settles_pure ⟨by rw [append_nil]; exact ht, rfl⟩
  | false => exact settles_setFailure (settles_pure ⟨by rw [append_nil]; exact ht, rfl⟩)

/-- The scan began at `start` and was answered as `Quiet` says. -/
structure Undisturbed (start : Nat) (t : Trace) : Prop where
  started : ∃ now rest, t = ⟨.clockGettime, .ok now⟩ :: rest ∧ now.reading = some start
  fits : start + scanTimeoutNs ≤ uint64Max
  quiet : ∀ v ∈ t, Quiet start v

theorem validateNoExtraFds_iff {fuel start : Nat} (hne : ∀ b ∈ buffers, b ≠ []) {s s' : LState}
    {t : Trace} {b : Bool} (hr : Runs (bpeValidateNoExtraFds fuel) s t b s')
    (hquiet : Undisturbed start t) (hfront : direntBuffers t <+: buffers ++ [[]]) :
    b = true ↔ ExactListing buffers := by
  obtain ⟨now, rest, rfl, hread⟩ := hquiet.started
  rw [← scanBuffers_full]
  refine (settles_deadlineAfterMs start).bind (Q := fun t b =>
    (∃ rest, t = ⟨.clockGettime, .ok now⟩ :: rest) → direntBuffers t <+: buffers ++ [[]] →
      (b = true ↔ scanBuffers buffers 0 = some 0x3f)) (fun t₁ r h => ?_) s _ b s' hr
    hquiet.quiet ⟨rest, rfl⟩ hfront
  obtain ⟨now₁, n, rfl, hread₁, hdeadline⟩ := h
  by_cases hnow : now₁ = now
  swap
  · intro _ t' b _ _ _ ⟨rest, ht⟩ _
    cases ht
    exact absurd rfl hnow
  subst hnow
  obtain rfl : start = n := Option.some.inj (hread.symm.trans hread₁)
  rw [hdeadline hquiet.fits]
  refine settles_sys_bind (fun r h => ?_) fun e h => ?_
  swap
  · cases h
  cases h
  refine (settles_procFdDirectory start).bind fun t₃ r h₃ => ?_
  obtain ⟨ht₃, rfl⟩ := h₃
  refine settles_ite (fun h => absurd h (by decide)) fun _ => ?_
  refine (settles_scanProcFd start 5 fuel buffers hne 0).bind fun t₄ r h₄ => ?_
  refine (settles_finishNoExtraFds start r.1 r.2).mono fun t₅ b h₅ _ hfront => ?_
  obtain ⟨ht₅, rfl⟩ := h₅
  refine h₄ ?_
  have hfront : direntBuffers (t₃ ++ (t₄ ++ t₅)) <+: buffers ++ [[]] := hfront
  simp only [direntBuffers_append, ht₃, ht₅, nil_append, append_nil] at hfront
  exact hfront

/-! ## A run for every listing -/

theorem quiet_clock : Quiet 0 ⟨.clockGettime, .ok ⟨0, 0⟩⟩ :=
  ⟨⟨0, 0⟩, 0, rfl, rfl, Nat.le_refl 0, by decide⟩

theorem runs_getdents64 (buffer : (Call.getdents64 5 procFdBufferSize).Ok) (s : LState) :
    Runs (sysInterruptible (.getdents64 5 procFdBufferSize)) s
      [⟨.getdents64 5 procFdBufferSize, .ok buffer⟩] (some buffer) s :=
  (runs_sys_ok buffer s).bind (runs_pure (some buffer) s)

theorem runs_deadlinePollMs (s : LState) :
    Runs (bpeDeadlinePollMs scanTimeoutNs 1) s [⟨.clockGettime, .ok ⟨0, 0⟩⟩] 1 s :=
  Prog.runs_of_replay rfl

/-- What follows the call depends on the buffer alone, but for one look at the clock. -/
theorem runs_scanBuffer (buffer : List UInt8) (seen : Nat) (s : LState) :
    ∃ t r, Runs (scanBuffer scanTimeoutNs seen buffer) s t r s ∧ (∀ v ∈ t, Quiet 0 v) ∧
      direntBuffers t = [] ∧ (buffer = [] → r.isRight = true) := by
  unfold scanBuffer
  split
  · exact ⟨[], _, runs_pure _ s, by simp, rfl, fun _ => rfl⟩
  next hne =>
  have hne' : buffer ≠ [] := fun h => hne (length_eq_zero_iff.2 h)
  split
  · exact ⟨_, _, (runs_deadlinePollMs s).bind (runs_pure _ s), by simpa using quiet_clock, rfl,
      fun h => absurd h hne'⟩
  · exact ⟨[], _, runs_pure _ s, by simp, rfl, fun h => absurd h hne'⟩

theorem runs_scanTurn (buffer : (Call.getdents64 5 procFdBufferSize).Ok) (seen : Nat)
    (s : LState) : ∃ t r, Runs (scanTurn 5 scanTimeoutNs seen) s t r s ∧ (∀ v ∈ t, Quiet 0 v) ∧
      direntBuffers t = [buffer.val] ∧ (buffer.val = [] → r.isRight = true) := by
  obtain ⟨t, r, hruns, hquiet, ht, hend⟩ := runs_scanBuffer buffer.val seen s
  refine ⟨⟨.getdents64 5 procFdBufferSize, .ok buffer⟩ :: t, r,
    (runs_getdents64 buffer s).bind hruns, ?_, ?_, hend⟩
  · exact forall_mem_cons.2 ⟨⟨buffer, rfl⟩, hquiet⟩
  · exact congrArg (buffer.val :: ·) ht

theorem exists_runs_scan : ∀ (fuel : Nat) (buffers : List (List UInt8)), buffers.length < fuel →
    (∀ b ∈ buffers, b ≠ [] ∧ b.length ≤ procFdBufferSize) → ∀ (seen : Nat) (s : LState),
    ∃ t r s', Runs (Proc.iterate fuel (scanTurn 5 scanTimeoutNs) seen) s t r s' ∧
      (∀ v ∈ t, Quiet 0 v) ∧ direntBuffers t <+: buffers ++ [[]] := by
  intro fuel
  induction fuel with
  | zero => intro buffers h; omega
  | succ fuel ih =>
    intro buffers hfuel hbuffers seen s
    cases buffers with
    | nil =>
      obtain ⟨t, r, hturn, hquiet, ht, hend⟩ := runs_scanTurn ⟨[], by decide⟩ seen s
      obtain ⟨r, rfl⟩ := Sum.isRight_iff.1 (hend rfl)
      exact ⟨t, r, s, runs_iterate_done fuel hturn, hquiet, ht ▸ prefix_rfl⟩
    | cons b bs =>
      obtain ⟨⟨-, hle⟩, hbs⟩ := forall_mem_cons.1 hbuffers
      obtain ⟨t, r, hturn, hquiet, ht, -⟩ := runs_scanTurn ⟨b, hle⟩ seen s
      cases r with
      | inr r =>
        refine ⟨t, r, s, runs_iterate_done fuel hturn, hquiet, ?_⟩
        rw [ht]
        exact prefix_append [b] _
      | inl seen' =>
        rw [length_cons] at hfuel
        obtain ⟨t', r', s', hrest, hquiet', ht'⟩ := ih bs (by omega) hbs seen' s
        refine ⟨t ++ t', r', s', runs_iterate_next hturn hrest,
          forall_mem_append.2 ⟨hquiet, hquiet'⟩, ?_⟩
        rw [direntBuffers_append, ht]
        exact cons_prefix_cons.2 ⟨rfl, ht'⟩

theorem exists_runs_validateNoExtraFds {fuel : Nat} (hfuel : buffers.length < fuel)
    (hbuffers : ∀ b ∈ buffers, b ≠ [] ∧ b.length ≤ procFdBufferSize) (s : LState) :
    ∃ t b s', Runs (bpeValidateNoExtraFds fuel) s t b s' ∧ Undisturbed 0 t ∧
      direntBuffers t <+: buffers ++ [[]] := by
  have hdeadline : Runs (bpeDeadlineAfterMs startupScanTimeoutMs) s
      [⟨.clockGettime, .ok ⟨0, 0⟩⟩] (some scanTimeoutNs) s := Prog.runs_of_replay rfl
  have hdirectory : Runs (procFdDirectory 5) s
      [⟨.fstat 5, .ok ⟨.dir, 0, 0⟩⟩, ⟨.fstatfs 5, .ok procSuperMagic⟩] true s :=
    Prog.runs_of_replay rfl
  obtain ⟨t, ⟨valid, e⟩, s₁, hscan, hquiet, ht⟩ := exists_runs_scan fuel buffers hfuel hbuffers 0 s
  obtain ⟨b, s₂, hfinish⟩ : ∃ b s₂, Runs (finishNoExtraFds 5 valid e) s₁
      [⟨.close 5, .ok ()⟩] b s₂ := by
    cases valid with
    | true => exact ⟨true, _, Prog.runs_of_replay rfl⟩
    | false => exact ⟨false, _, Prog.runs_of_replay rfl⟩
  refine ⟨_, b, s₂, hdeadline.bind ((runs_sys_ok (c := .openProcFd) (5 : Nat) s).bind
    (hdirectory.bind (hscan.bind hfinish))), ⟨⟨⟨0, 0⟩, _, rfl, rfl⟩, by decide, ?_⟩, ?_⟩
  · refine forall_mem_append.2 ⟨by simpa using quiet_clock, ?_⟩
    refine forall_mem_append.2 ⟨by simp [Quiet], ?_⟩
    refine forall_mem_append.2 ⟨by simp [Quiet], ?_⟩
    exact forall_mem_append.2 ⟨hquiet, by simp [Quiet]⟩
  · have hclose : direntBuffers [⟨.close 5, .ok ()⟩] = [] := rfl
    have hfront : direntBuffers ([⟨.clockGettime, .ok ⟨0, 0⟩⟩, ⟨.openProcFd, .ok (5 : Nat)⟩,
        ⟨.fstat 5, .ok ⟨.dir, 0, 0⟩⟩, ⟨.fstatfs 5, .ok procSuperMagic⟩] ++
          (t ++ [⟨.close 5, .ok ()⟩])) = direntBuffers (t ++ [⟨.close 5, .ok ()⟩]) := rfl
    have hall := hfront.trans (direntBuffers_append t _)
    rw [hclose, append_nil] at hall
    exact hall ▸ ht

/-- For every sequence of `getdents64` results that an empty one ends, with the
directory as expected, the deadline ahead and no failing call: each buffer is read in
finitely many steps, since every record shortens it, a run exists, and every run returns
true exactly where the buffers list the descriptors 0 to 5. -/
theorem validateNoExtraFds_exact (buffers : List (List UInt8))
    (hbuffers : ∀ b ∈ buffers, b ≠ [] ∧ b.length ≤ procFdBufferSize) (fuel : Nat)
    (hfuel : buffers.length < fuel) (s : LState) :
    (∀ fuel entry seen, entry ≠ [] →
      scanDirents (fuel + 1) entry seen = (nextDirent entry).bind (fun next =>
        (markName seen (direntName next.1)).bind (scanDirents fuel next.2)) ∧
      ∀ record rest, nextDirent entry = some (record, rest) →
        rest.length + (direntNameOffset + 2) ≤ entry.length) ∧
    (∃ t b s', Runs (bpeValidateNoExtraFds fuel) s t b s' ∧ Undisturbed 0 t ∧
      direntBuffers t <+: buffers ++ [[]]) ∧
    ∀ start t b s', Runs (bpeValidateNoExtraFds fuel) s t b s' → Undisturbed start t →
      direntBuffers t <+: buffers ++ [[]] → (b = true ↔ ExactListing buffers) :=
  ⟨fun fuel _ seen hne => ⟨scanDirents_succ fuel hne seen, fun _ _ h => nextDirent_shorter h⟩,
    exists_runs_validateNoExtraFds hfuel hbuffers s,
    fun _ _ _ _ hr hquiet hfront =>
      validateNoExtraFds_iff (fun b hb => (hbuffers b hb).1) hr hquiet hfront⟩

theorem validateNoExtraFds_exact_fdDirents :
    ∃ t s', Runs (bpeValidateNoExtraFds 2) {} t true s' ∧ direntBuffers t <+: [fdDirents, []] := by
  have hexact : ExactListing [fdDirents] := by
    refine scanBuffers_full.1 ?_
    rw [scanBuffers, foldlM_cons, scanDirents_fdDirents]
    rfl
  have hbuffers : ∀ b ∈ [fdDirents], b ≠ [] ∧ b.length ≤ procFdBufferSize := by
    intro b hb
    obtain rfl := mem_singleton.1 hb
    decide +kernel
  obtain ⟨-, ⟨t, b, s', hr, hquiet, hfront⟩, hiff⟩ :=
    validateNoExtraFds_exact [fdDirents] hbuffers 2 (by decide) {}
  obtain rfl := (hiff 0 t b s' hr hquiet hfront).2 hexact
  exact ⟨t, s', hr, hfront⟩

end Bpe.Launcher
