import Bpe.Artifact.Elf

/-!
# What the ELF checks establish

`_validate_elf64_static_pie` raises nothing but its own rejection, and what it
accepts is a `StaticPie`: the checks on consecutive program headers, carried along
the loop by `Collected`, give the order of all load segments. The program headers
that `_require_embedded_seccomp_identity` reads again are the same ones.
-/

namespace Bpe.Artifact

open List

/-! ## Only rejections -/

/-- `x` raises nothing but `invalid_elf`. -/
def OnlyInvalid {α : Type} (x : Check α) : Prop := ∀ e, x = .error e → e = invalidElf

section OnlyInvalid

variable {α β : Type}

theorem onlyInvalid_ok (a : α) : OnlyInvalid (.ok a : Check α) := by
  intro e h
  cases h

theorem onlyInvalid_invalid : OnlyInvalid (.error invalidElf : Check α) := by
  intro e h
  cases h
  rfl

theorem onlyInvalid_rejectIf (c : Prop) [Decidable c] : OnlyInvalid (rejectIf c) := by
  unfold rejectIf
  split
  · exact onlyInvalid_invalid
  · exact onlyInvalid_ok ()

theorem OnlyInvalid.bind {x : Check α} {f : α → Check β} (hx : OnlyInvalid x)
    (hf : ∀ a, x = .ok a → OnlyInvalid (f a)) : OnlyInvalid (x >>= f) := by
  cases x with
  | ok a => exact hf a rfl
  | error e =>
    intro e' h
    cases h
    exact hx e rfl

theorem onlyInvalid_unpackFrom (content : List UInt8) (offset size : Nat) (a : α) :
    OnlyInvalid (structOrReject (unpackFrom content offset size a)) := by
  unfold unpackFrom
  split
  · exact onlyInvalid_ok a
  · exact onlyInvalid_invalid

theorem onlyInvalid_byteAt {content : List UInt8} {i : Nat} (h : i < content.length) :
    OnlyInvalid (byteAt content i) := by
  unfold byteAt
  rw [getElem?_eq_getElem h]
  exact onlyInvalid_ok _

theorem onlyInvalid_foldlM {f : β → α → Check β} (hf : ∀ b a, OnlyInvalid (f b a)) (l : List α)
    (b : β) : OnlyInvalid (l.foldlM f b) := by
  induction l generalizing b with
  | nil => exact onlyInvalid_ok b
  | cons a l ih =>
    rw [foldlM_cons]
    exact (hf b a).bind fun b' _ => ih b'

end OnlyInvalid

theorem rejectIf_eq_ok {c : Prop} [Decidable c] : rejectIf c = .ok () ↔ ¬ c := by
  unfold rejectIf
  rw [ite_error_eq_ok]
  exact and_iff_left rfl

theorem onlyInvalid_checkIdentification (content : List UInt8) :
    OnlyInvalid (checkIdentification content) := by
  refine (onlyInvalid_rejectIf _).bind fun _ hlen => ?_
  -- Every index below is within the header.
  have hbyte : ∀ i < 9, OnlyInvalid (byteAt content i) := by
    intro i hi
    have hheader := rejectIf_eq_ok.1 hlen
    unfold elfHeaderSize at hheader
    exact onlyInvalid_byteAt (by omega)
  refine (onlyInvalid_rejectIf _).bind fun _ _ => ?_
  refine (hbyte 4 (by decide)).bind fun _ _ => (onlyInvalid_rejectIf _).bind fun _ _ => ?_
  refine (hbyte 5 (by decide)).bind fun _ _ => (onlyInvalid_rejectIf _).bind fun _ _ => ?_
  refine (hbyte 6 (by decide)).bind fun _ _ => (onlyInvalid_rejectIf _).bind fun _ _ => ?_
  refine (hbyte 7 (by decide)).bind fun _ _ => (onlyInvalid_rejectIf _).bind fun _ _ => ?_
  refine (hbyte 8 (by decide)).bind fun _ _ => (onlyInvalid_rejectIf _).bind fun _ _ => ?_
  exact onlyInvalid_rejectIf _

theorem onlyInvalid_misaligned (s : ElfSegment) : OnlyInvalid s.misaligned := by
  unfold ElfSegment.misaligned
  split
  · exact onlyInvalid_ok false
  next h =>
  rw [not_or] at h
  have hmod : ∀ a, pyMod a s.alignment = .ok (a % s.alignment) := fun a => if_neg h.1
  rw [hmod, hmod]
  exact onlyInvalid_ok _

theorem onlyInvalid_checkSegment (content : List UInt8) (s : ElfSegment) :
    OnlyInvalid (checkSegment content s) := by
  unfold checkSegment
  split
  · exact onlyInvalid_ok ()
  · refine (onlyInvalid_rejectIf _).bind fun _ _ => ?_
    exact (onlyInvalid_misaligned s).bind fun _ _ => onlyInvalid_rejectIf _

theorem onlyInvalid_place (acc : Segments) (s : ElfSegment) : OnlyInvalid (acc.place s) := by
  refine (onlyInvalid_rejectIf _).bind fun _ _ => ?_
  split
  · refine (onlyInvalid_rejectIf _).bind fun _ _ => ?_
    exact (onlyInvalid_rejectIf _).bind fun _ _ => onlyInvalid_ok _
  split
  · exact (onlyInvalid_rejectIf _).bind fun _ _ => onlyInvalid_ok _
  split
  · exact (onlyInvalid_rejectIf _).bind fun _ _ => onlyInvalid_ok _
  split
  · exact (onlyInvalid_rejectIf _).bind fun _ _ => onlyInvalid_ok _
  · exact onlyInvalid_ok acc

theorem onlyInvalid_readSegment (content : List UInt8) (h : ElfHeader) (acc : Segments)
    (index : Nat) : OnlyInvalid (readSegment content h acc index) := by
  refine (onlyInvalid_unpackFrom _ _ _ _).bind fun s _ => ?_
  exact (onlyInvalid_checkSegment content s).bind fun _ _ => onlyInvalid_place acc s

theorem onlyInvalid_scanDynamic (content : List UInt8) (offsets : List Nat)
    (seen : DynamicState) : OnlyInvalid (scanDynamic content offsets seen) := by
  induction offsets generalizing seen with
  | nil => exact onlyInvalid_ok seen
  | cons offset rest ih =>
    refine (onlyInvalid_unpackFrom _ _ _ _).bind fun entry _ => ?_
    refine (onlyInvalid_rejectIf _).bind fun _ _ => ?_
    split
    · exact (onlyInvalid_rejectIf _).bind fun _ _ => ih _
    split
    · exact (onlyInvalid_rejectIf _).bind fun _ _ => ih _
    split
    · exact onlyInvalid_ok _
    · exact ih seen

theorem onlyInvalid_checkSegments (content : List UInt8) (h : ElfHeader) (segments : Segments) :
    OnlyInvalid (checkSegments content h segments) := by
  unfold checkSegments
  split
  · refine (onlyInvalid_rejectIf _).bind fun _ _ => (onlyInvalid_rejectIf _).bind fun _ _ => ?_
    refine (onlyInvalid_rejectIf _).bind fun _ _ => ?_
    exact (onlyInvalid_scanDynamic _ _ _).bind fun _ _ => onlyInvalid_rejectIf _
  · exact onlyInvalid_invalid

theorem onlyInvalid_validate (content : List UInt8) :
    OnlyInvalid (validateElf64StaticPie content) := by
  refine (onlyInvalid_checkIdentification content).bind fun _ _ => ?_
  refine (onlyInvalid_unpackFrom _ _ _ _).bind fun h _ => ?_
  refine (onlyInvalid_rejectIf _).bind fun _ _ => ?_
  refine (onlyInvalid_foldlM (onlyInvalid_readSegment content h) _ _).bind fun segments _ => ?_
  exact onlyInvalid_checkSegments content h segments

/-! ## The shape of an accepted file -/

def programHeaders (content : List UInt8) : List ElfSegment :=
  (range (elfHeader content).programCount).map fun i =>
    segmentAt content (elfHeaderSize + i * elfProgramHeaderSize)

def segmentsOf (segmentType : Nat) (headers : List ElfSegment) : List ElfSegment :=
  headers.filter fun s => s.segmentType = segmentType

def loadSegments (content : List UInt8) : List ElfSegment :=
  segmentsOf ptLoad (programHeaders content)

/-- Inside one load segment, at the same displacement in the file and in memory. -/
def ElfSegment.Mapped (content : List UInt8) (s : ElfSegment) : Prop :=
  ∃ load ∈ loadSegments content, load.fileOffset ≤ s.fileOffset ∧ s.fileEnd ≤ load.fileEnd ∧
    load.virtualAddress ≤ s.virtualAddress ∧ s.virtualEnd ≤ load.virtualEnd ∧
    s.fileOffset - load.fileOffset = s.virtualAddress - load.virtualAddress

def dynamicEntries (content : List UInt8) (dynamic : ElfSegment) : List DynamicEntry :=
  (pyRange dynamic.fileOffset dynamic.fileEnd 16).map (dynamicEntryAt content)

/-- The entries before the first `DT_NULL`. -/
def liveEntries (entries : List DynamicEntry) : List DynamicEntry :=
  entries.takeWhile fun e => e.tag ≠ dtNull

structure DynamicSound (entries : List DynamicEntry) : Prop where
  terminated : ∃ e ∈ entries, e.tag = dtNull
  standalone : ∀ e ∈ liveEntries entries,
    e.tag ≠ dtNeeded ∧ e.tag ≠ dtRpath ∧ e.tag ≠ dtRunpath
  bindNow : ∃ value, (liveEntries entries).filter (fun e => e.tag = dtFlags) = [⟨dtFlags, value⟩] ∧
    value &&& dfBindNow = dfBindNow
  pieNow : ∃ value, (liveEntries entries).filter (fun e => e.tag = dtFlags1) = [⟨dtFlags1, value⟩] ∧
    value &&& (df1Now ||| df1Pie) = df1Now ||| df1Pie

structure StaticPie (content : List UInt8) : Prop where
  insideFile : ∀ s ∈ loadSegments content, s.fileEnd ≤ content.length
  fileOrder : (loadSegments content).Pairwise fun a b => a.fileEnd ≤ b.fileOffset
  virtualOrder : (loadSegments content).Pairwise fun a b => a.virtualEnd ≤ b.virtualAddress
  notWritableExecutable : ∀ s ∈ loadSegments content, ¬ (s.flags &&& pfW ≠ 0 ∧ s.flags &&& pfX ≠ 0)
  noInterpreter : ∀ s ∈ programHeaders content, s.segmentType ≠ ptInterp
  entryMapped : ∃ s ∈ loadSegments content, s.flags &&& pfX ≠ 0 ∧
    s.virtualAddress ≤ (elfHeader content).entry ∧
    (elfHeader content).entry < s.virtualAddress + s.fileSize
  tableMapped : ∃ s ∈ loadSegments content, s.fileOffset = 0 ∧
    elfHeaderSize + (elfHeader content).programCount * elfProgramHeaderSize ≤ s.fileEnd
  dynamic : ∃ d, segmentsOf ptDynamic (programHeaders content) = [d] ∧ d.Mapped content ∧
    DynamicSound (dynamicEntries content d)
  relro : ∃ r, segmentsOf ptGnuRelro (programHeaders content) = [r] ∧ r.Mapped content

/-! ## The loop over the program headers -/

/-- What the loop has established of the headers read so far. -/
structure Collected (content : List UInt8) (headers : List ElfSegment) (acc : Segments) : Prop where
  loads : acc.loads = segmentsOf ptLoad headers
  dynamic : acc.dynamic.toList = segmentsOf ptDynamic headers
  relro : acc.relro.toList = segmentsOf ptGnuRelro headers
  noInterpreter : ∀ s ∈ headers, s.segmentType ≠ ptInterp
  insideFile : ∀ s ∈ acc.loads, s.fileEnd ≤ content.length
  fileOrder : acc.loads.Pairwise fun a b => a.fileEnd ≤ b.fileOffset
  virtualOrder : acc.loads.Pairwise fun a b => a.virtualEnd ≤ b.virtualAddress
  notWritableExecutable : ∀ s ∈ acc.loads, ¬ (s.flags &&& pfW ≠ 0 ∧ s.flags &&& pfX ≠ 0)

theorem segmentsOf_append (segmentType : Nat) (l l' : List ElfSegment) :
    segmentsOf segmentType (l ++ l') = segmentsOf segmentType l ++ segmentsOf segmentType l' :=
  filter_append l l'

theorem segmentsOf_singleton (segmentType : Nat) (s : ElfSegment) :
    segmentsOf segmentType [s] = if s.segmentType = segmentType then [s] else [] := by
  rw [segmentsOf, filter_cons, filter_nil]
  simp only [decide_eq_true_eq]

/-- Ranges in increasing order: one after the last is after all. -/
theorem pairwise_append_range {l : List ElfSegment} {start stop : ElfSegment → Nat}
    (hle : ∀ s, start s ≤ stop s) (hl : l.Pairwise fun a b => stop a ≤ start b) {x : ElfSegment}
    (hx : ∀ b ∈ l.getLast?, stop b ≤ start x) :
    (l ++ [x]).Pairwise fun a b => stop a ≤ start b := by
  refine pairwise_append.2 ⟨hl, pairwise_singleton _ _, fun a ha y hy => ?_⟩
  obtain rfl := mem_singleton.1 hy
  rcases eq_nil_or_concat' l with rfl | ⟨front, last, rfl⟩
  · cases ha
  · have hlast : stop last ≤ start y := hx last (by simp)
    rcases mem_append.1 ha with hfront | hmem
    · calc stop a ≤ start last :=
            (pairwise_append.1 hl).2.2 a hfront last (mem_singleton.2 rfl)
        _ ≤ stop last := hle last
        _ ≤ start y := hlast
    · rw [mem_singleton.1 hmem]
      exact hlast

variable {s : ElfSegment}

theorem insideFile_of_checkSegment {content : List UInt8} (h : checkSegment content s = .ok ())
    (hs : s.segmentType ≠ ptNull) :
    s.fileEnd ≤ content.length := by
  unfold checkSegment at h
  rw [if_neg hs, seq_eq_ok, rejectIf_eq_ok] at h
  have := h.1
  unfold ElfSegment.fileEnd
  omega

/-- What `place` keeps: the segment, in the list of its own type. -/
theorem place_eq_ok {acc acc' : Segments} (h : acc.place s = .ok acc') :
    s.segmentType ≠ ptInterp ∧ acc'.loads = acc.loads ++ segmentsOf ptLoad [s] ∧
    acc'.dynamic.toList = acc.dynamic.toList ++ segmentsOf ptDynamic [s] ∧
    acc'.relro.toList = acc.relro.toList ++ segmentsOf ptGnuRelro [s] ∧
    (s.segmentType = ptLoad → ¬ (s.flags &&& pfW ≠ 0 ∧ s.flags &&& pfX ≠ 0) ∧
      ∀ b ∈ acc.loads.getLast?, b.fileEnd ≤ s.fileOffset ∧ b.virtualEnd ≤ s.virtualAddress) := by
  obtain ⟨hinterp, h⟩ := seq_eq_ok.1 h
  refine ⟨rejectIf_eq_ok.1 hinterp, ?_⟩
  simp only [segmentsOf_singleton]
  split at h
  · next htype =>
    obtain ⟨hflags, h⟩ := seq_eq_ok.1 h
    obtain ⟨horder, h⟩ := seq_eq_ok.1 h
    cases h
    rw [rejectIf_eq_ok] at hflags horder
    refine ⟨?_, ?_, ?_, fun _ => ⟨fun hwx => hflags (.inr (.inl hwx)), fun b hb => ?_⟩⟩
    iterate 3 simp [htype, ptLoad, ptDynamic, ptGnuRelro]
    rw [Option.mem_def.1 hb, Option.any_some, Bool.or_eq_true, decide_eq_true_iff,
      decide_eq_true_iff, not_or, not_lt, not_lt] at horder
    exact horder
  split at h
  · next htype =>
    obtain ⟨hcheck, h⟩ := seq_eq_ok.1 h
    cases h
    rw [rejectIf_eq_ok, not_or, Option.not_isSome_iff_eq_none] at hcheck
    simp [htype, hcheck.1, ptLoad, ptDynamic, ptGnuRelro]
  split at h
  · next htype =>
    obtain ⟨-, h⟩ := seq_eq_ok.1 h
    cases h
    simp [htype, ptLoad, ptDynamic, ptGnuStack, ptGnuRelro]
  split at h
  · next htype =>
    obtain ⟨hcheck, h⟩ := seq_eq_ok.1 h
    cases h
    rw [rejectIf_eq_ok, not_or, Option.not_isSome_iff_eq_none] at hcheck
    simp [htype, hcheck.1, ptLoad, ptDynamic, ptGnuRelro]
  · next hload hdynamic hstack hrelro =>
    cases h
    simp [hload, hdynamic, hrelro]

variable {content : List UInt8}

theorem Collected.place {headers : List ElfSegment} {acc acc' : Segments}
    (hc : Collected content headers acc) (hcheck : checkSegment content s = .ok ())
    (h : acc.place s = .ok acc') : Collected content (headers ++ [s]) acc' := by
  obtain ⟨hinterp, hloads, hdynamic, hrelro, hload⟩ := place_eq_ok h
  have hlast : ∀ x ∈ segmentsOf ptLoad [s], x = s ∧ s.segmentType = ptLoad := by
    intro x hx
    obtain ⟨hx, htype⟩ := mem_filter.1 hx
    obtain rfl := mem_singleton.1 hx
    exact ⟨rfl, of_decide_eq_true htype⟩
  refine ⟨?_, ?_, ?_, ?_, ?_, ?_, ?_, ?_⟩
  · rw [hloads, hc.loads, segmentsOf_append]
  · rw [hdynamic, hc.dynamic, segmentsOf_append]
  · rw [hrelro, hc.relro, segmentsOf_append]
  · exact forall_mem_append.2 ⟨hc.noInterpreter, forall_mem_singleton.2 hinterp⟩
  · rw [hloads]
    refine forall_mem_append.2 ⟨hc.insideFile, fun x hx => ?_⟩
    obtain ⟨rfl, htype⟩ := hlast x hx
    exact insideFile_of_checkSegment hcheck (by rw [htype]; decide)
  · rw [hloads, segmentsOf_singleton]
    split
    · next htype =>
      exact pairwise_append_range (fun s => Nat.le_add_right _ _) hc.fileOrder
        fun b hb => ((hload htype).2 b hb).1
    · rw [append_nil]
      exact hc.fileOrder
  · rw [hloads, segmentsOf_singleton]
    split
    · next htype =>
      exact pairwise_append_range (fun s => Nat.le_add_right _ _) hc.virtualOrder
        fun b hb => ((hload htype).2 b hb).2
    · rw [append_nil]
      exact hc.virtualOrder
  · rw [hloads]
    refine forall_mem_append.2 ⟨hc.notWritableExecutable, fun x hx => ?_⟩
    obtain ⟨rfl, htype⟩ := hlast x hx
    exact (hload htype).1

theorem structOrReject_eq_ok {α : Type} {offset size : Nat} {a b : α}
    (h : structOrReject (unpackFrom content offset size a) = .ok b) :
    offset + size ≤ content.length ∧ b = a := by
  unfold unpackFrom at h
  split at h
  · next hle => cases h; exact ⟨hle, rfl⟩
  · cases h

theorem collected_of_foldlM {h : ElfHeader} {segments : Segments} {count : Nat}
    (hloop : (range count).foldlM (readSegment content h) {} = .ok segments) :
    Collected content ((range count).map fun i =>
      segmentAt content (h.programOffset + i * h.programEntrySize)) segments := by
  refine foldlM_invariant hloop (fun indices acc => Collected content (indices.map fun i =>
    segmentAt content (h.programOffset + i * h.programEntrySize)) acc) ?_ ?_
  · exact ⟨rfl, rfl, rfl, by simp, by simp, List.Pairwise.nil, List.Pairwise.nil, by simp⟩
  · intro indices i acc acc' hc hread
    obtain ⟨s, hs, hread⟩ := bind_eq_ok.1 hread
    obtain ⟨hcheck, hplace⟩ := seq_eq_ok.1 hread
    obtain ⟨-, rfl⟩ := structOrReject_eq_ok hs
    rw [map_append]
    exact hc.place hcheck hplace

/-! ## The dynamic entries -/

/-- What the loop over the entries `entries` establishes where it ends at a `DT_NULL`. -/
structure Scanned (entries : List DynamicEntry) (seen seen' : DynamicState) : Prop where
  terminated : ∃ e ∈ entries, e.tag = dtNull
  standalone : ∀ e ∈ liveEntries entries,
    e.tag ≠ dtNeeded ∧ e.tag ≠ dtRpath ∧ e.tag ≠ dtRunpath
  bindNow : (liveEntries entries).countP (fun e => e.tag = dtFlags) + seen.bindNow.toNat =
    seen'.bindNow.toNat
  bindValue : ∀ e ∈ liveEntries entries, e.tag = dtFlags → e.value &&& dfBindNow = dfBindNow
  pieNow : (liveEntries entries).countP (fun e => e.tag = dtFlags1) + seen.pieNow.toNat =
    seen'.pieNow.toNat
  pieValue : ∀ e ∈ liveEntries entries, e.tag = dtFlags1 →
    e.value &&& (df1Now ||| df1Pie) = df1Now ||| df1Pie

theorem liveEntries_cons {e : DynamicEntry} (h : e.tag ≠ dtNull) (entries : List DynamicEntry) :
    liveEntries (e :: entries) = e :: liveEntries entries :=
  takeWhile_cons_of_pos (by simpa using h)

theorem liveEntries_null {e : DynamicEntry} (h : e.tag = dtNull) (entries : List DynamicEntry) :
    liveEntries (e :: entries) = [] :=
  takeWhile_cons_of_neg (by simpa using h)

variable {entries : List DynamicEntry}

theorem Scanned.cons {e : DynamicEntry} {seen seen₁ seen' : DynamicState}
    (hs : Scanned entries seen₁ seen') (hnull : e.tag ≠ dtNull)
    (halone : e.tag ≠ dtNeeded ∧ e.tag ≠ dtRpath ∧ e.tag ≠ dtRunpath)
    (hbind : (if e.tag = dtFlags then 1 else 0) + seen.bindNow.toNat = seen₁.bindNow.toNat)
    (hbindValue : e.tag = dtFlags → e.value &&& dfBindNow = dfBindNow)
    (hpie : (if e.tag = dtFlags1 then 1 else 0) + seen.pieNow.toNat = seen₁.pieNow.toNat)
    (hpieValue : e.tag = dtFlags1 → e.value &&& (df1Now ||| df1Pie) = df1Now ||| df1Pie) :
    Scanned (e :: entries) seen seen' := by
  have hlive := liveEntries_cons hnull entries
  refine ⟨?_, ?_, ?_, ?_, ?_, ?_⟩
  · obtain ⟨e, he, htag⟩ := hs.terminated
    exact ⟨e, mem_cons_of_mem _ he, htag⟩
  · rw [hlive, forall_mem_cons]
    exact ⟨halone, hs.standalone⟩
  · rw [hlive, countP_cons, Nat.add_assoc, ← hs.bindNow, ← hbind]
    simp only [decide_eq_true_eq]
  · rw [hlive, forall_mem_cons]
    exact ⟨hbindValue, hs.bindValue⟩
  · rw [hlive, countP_cons, Nat.add_assoc, ← hs.pieNow, ← hpie]
    simp only [decide_eq_true_eq]
  · rw [hlive, forall_mem_cons]
    exact ⟨hpieValue, hs.pieValue⟩

theorem scanned_of_scanDynamic {offsets : List Nat} {seen seen' : DynamicState}
    (h : scanDynamic content offsets seen = .ok seen') (hstart : seen.null = false)
    (hnull : seen'.null = true) : Scanned (offsets.map (dynamicEntryAt content)) seen seen' := by
  induction offsets generalizing seen with
  | nil =>
    cases h
    rw [hstart] at hnull
    cases hnull
  | cons offset rest ih =>
    obtain ⟨e, he, h⟩ := bind_eq_ok.1 h
    obtain ⟨halone, h⟩ := seq_eq_ok.1 h
    obtain ⟨-, rfl⟩ := structOrReject_eq_ok he
    rw [rejectIf_eq_ok, not_or, not_or] at halone
    rw [map_cons]
    generalize dynamicEntryAt content offset = e at *
    split at h
    · next htag =>
      obtain ⟨hflags, h⟩ := seq_eq_ok.1 h
      rw [rejectIf_eq_ok, not_or, Bool.not_eq_true, not_not] at hflags
      have hother : ∀ t, dtFlags ≠ t → e.tag ≠ t := fun t ht h => ht (htag.symm.trans h)
      refine (ih h hstart).cons (hother _ (by decide)) halone ?_ (fun _ => hflags.2) ?_
        fun hpie => absurd hpie (hother _ (by decide))
      · rw [if_pos htag, hflags.1]
        rfl
      · rw [if_neg (hother _ (by decide)), Nat.zero_add]
    split at h
    · next htag =>
      obtain ⟨hflags, h⟩ := seq_eq_ok.1 h
      rw [rejectIf_eq_ok, not_or, Bool.not_eq_true, not_not] at hflags
      have hother : ∀ t, dtFlags1 ≠ t → e.tag ≠ t := fun t ht h => ht (htag.symm.trans h)
      refine (ih h hstart).cons (hother _ (by decide)) halone ?_
        (fun hbind => absurd hbind (hother _ (by decide))) ?_ fun _ => hflags.2
      · rw [if_neg (hother _ (by decide)), Nat.zero_add]
      · rw [if_pos htag, hflags.1]
        rfl
    split at h
    · next htag =>
      cases h
      have hlive := liveEntries_null htag (rest.map (dynamicEntryAt content))
      refine ⟨⟨e, mem_cons_self, htag⟩, ?_, ?_, ?_, ?_, ?_⟩ <;> rw [hlive] <;> simp
    · next hflags hflags1 htag =>
      refine (ih h hstart).cons htag halone ?_ (fun h => absurd h hflags) ?_
        fun h => absurd h hflags1
      · rw [if_neg hflags, Nat.zero_add]
      · rw [if_neg hflags1, Nat.zero_add]

theorem eq_singleton_of_countP {tag : Int} (h : entries.countP (fun e => e.tag = tag) = 1) :
    ∃ e, entries.filter (fun e => e.tag = tag) = [e] ∧ e ∈ entries ∧ e.tag = tag := by
  rw [countP_eq_length_filter] at h
  obtain ⟨e, he⟩ := length_eq_one_iff.1 h
  have hmem : e ∈ entries.filter fun e => e.tag = tag := he ▸ mem_singleton.2 rfl
  obtain ⟨hmem, htag⟩ := mem_filter.1 hmem
  exact ⟨e, he, hmem, of_decide_eq_true htag⟩

theorem Scanned.sound {seen' : DynamicState} (hs : Scanned entries {} seen')
    (hbind : seen'.bindNow = true) (hpie : seen'.pieNow = true) :
    DynamicSound entries where
  terminated := hs.terminated
  standalone := hs.standalone
  bindNow := by
    have hcount := hs.bindNow
    rw [hbind] at hcount
    obtain ⟨⟨_, value⟩, he, hmem, rfl⟩ := eq_singleton_of_countP hcount
    exact ⟨value, he, hs.bindValue _ hmem rfl⟩
  pieNow := by
    have hcount := hs.pieNow
    rw [hpie] at hcount
    obtain ⟨⟨_, value⟩, he, hmem, rfl⟩ := eq_singleton_of_countP hcount
    exact ⟨value, he, hs.pieValue _ hmem rfl⟩

/-! ## Accepted files -/

theorem mapped_of_isExactlyMapped (h : isExactlyMapped (loadSegments content) s = true) :
    s.Mapped content := by
  obtain ⟨load, hload, hmapped⟩ := any_eq_true.1 h
  simp only [ElfSegment.mappedIn, Bool.and_eq_true, decide_eq_true_eq, beq_iff_eq] at hmapped
  obtain ⟨⟨⟨⟨⟨h₁, h₂⟩, h₃⟩, h₄⟩, h₅⟩, -⟩ := hmapped
  exact ⟨load, hload, h₁, h₂, h₃, h₄, h₅⟩

theorem validate_eq_ok (h : validateElf64StaticPie content = .ok ()) :
    elfHeaderSize ≤ content.length ∧ (elfHeader content).programOffset = elfHeaderSize ∧
    (elfHeader content).programEntrySize = elfProgramHeaderSize ∧
    ∃ segments, Collected content (programHeaders content) segments ∧
      checkSegments content (elfHeader content) segments = .ok () := by
  obtain ⟨hident, h⟩ := seq_eq_ok.1 h
  obtain ⟨hlen, -⟩ := seq_eq_ok.1 hident
  obtain ⟨header, hheader, h⟩ := bind_eq_ok.1 h
  obtain ⟨-, rfl⟩ := structOrReject_eq_ok hheader
  obtain ⟨hcheck, h⟩ := seq_eq_ok.1 h
  obtain ⟨segments, hloop, h⟩ := bind_eq_ok.1 h
  have hshape := rejectIf_eq_ok.1 hcheck
  simp only [not_or, not_not] at hshape
  obtain ⟨-, -, -, -, -, -, hoffset, hsize, -⟩ := hshape
  have hcollected := collected_of_foldlM hloop
  rw [hoffset, hsize] at hcollected
  exact ⟨not_lt.1 (rejectIf_eq_ok.1 hlen), hoffset, hsize, segments, hcollected, h⟩

theorem staticPie_of_validate (h : validateElf64StaticPie content = .ok ()) :
    StaticPie content := by
  obtain ⟨-, hoffset, hsize, segments, hc, h⟩ := validate_eq_ok h
  have hloads : segments.loads = loadSegments content := hc.loads
  have hend : (elfHeader content).programTableEnd =
      elfHeaderSize + (elfHeader content).programCount * elfProgramHeaderSize := by
    rw [ElfHeader.programTableEnd, hoffset, hsize]
  unfold checkSegments at h
  split at h
  · next first rest dynamic _ relro hl hdynamic _ hrelro =>
    rw [← hl, hloads] at h
    obtain ⟨htable, h⟩ := seq_eq_ok.1 h
    obtain ⟨hentry, h⟩ := seq_eq_ok.1 h
    obtain ⟨hmapped, h⟩ := seq_eq_ok.1 h
    obtain ⟨seen, hscan, hseen⟩ := bind_eq_ok.1 h
    rw [rejectIf_eq_ok, not_not] at htable hentry hseen
    rw [rejectIf_eq_ok, not_or, not_not, not_not] at hmapped
    obtain ⟨s, hs, htable⟩ := any_eq_true.1 htable
    obtain ⟨e, he, hentry⟩ := any_eq_true.1 hentry
    simp only [Bool.and_eq_true, beq_iff_eq, bne_iff_ne, decide_eq_true_eq, hend] at htable hentry
    refine
      { insideFile := hloads ▸ hc.insideFile
        fileOrder := hloads ▸ hc.fileOrder
        virtualOrder := hloads ▸ hc.virtualOrder
        notWritableExecutable := hloads ▸ hc.notWritableExecutable
        noInterpreter := hc.noInterpreter
        entryMapped := ⟨e, he, hentry.1.1, hentry.1.2, hentry.2⟩
        tableMapped := ⟨s, hs, htable⟩
        dynamic := ⟨dynamic, ?_, mapped_of_isExactlyMapped hmapped.1,
          (scanned_of_scanDynamic hscan rfl hseen.1).sound hseen.2.1 hseen.2.2⟩
        relro := ⟨relro, ?_, mapped_of_isExactlyMapped hmapped.2⟩ }
    · rw [← hc.dynamic, hdynamic]
      rfl
    · rw [← hc.relro, hrelro]
      rfl
  · cases h

/-! ## The embedded seccomp identity -/

/-- The marker occurs once in the file, inside a load segment. -/
def EmbeddedOnce (content marker : List UInt8) : Prop :=
  ∃ i, (∀ j, marker <+: content.drop j ↔ j = i) ∧
    ∃ s ∈ loadSegments content, s.fileOffset ≤ i ∧ i + marker.length ≤ s.fileEnd

variable {marker : List UInt8}

theorem find_eq_some {start i : Nat} (h : find content marker start = some i) :
    marker <+: content.drop i ∧ ∀ j, start ≤ j → j < i → ¬ marker <+: content.drop j := by
  obtain ⟨hi, -, hbefore⟩ := find?_range_eq_some.1 h
  rw [Bool.and_eq_true, isPrefixOf_iff_prefix] at hi
  refine ⟨hi.2, fun j hstart hj hfront => ?_⟩
  have hnot := hbefore j hj
  rw [Bool.not_eq_true', Bool.and_eq_false_imp] at hnot
  have hfalse := hnot (decide_eq_true hstart)
  have htrue := isPrefixOf_iff_prefix.2 hfront
  cases htrue.symm.trans hfalse

theorem find_eq_none (hne : marker ≠ []) {start : Nat} (h : find content marker start = none) :
    ∀ j, start ≤ j → ¬ marker <+: content.drop j := by
  intro j hstart hfront
  have hall := find?_eq_none.1 h j
  by_cases hj : j < content.length + 1
  · refine hall (mem_range.2 hj) ?_
    rw [Bool.and_eq_true, decide_eq_true_iff, isPrefixOf_iff_prefix]
    exact ⟨hstart, hfront⟩
  · rw [drop_eq_nil_of_le (by omega), prefix_nil] at hfront
    exact hne hfront

/-- A first occurrence after which there is none is the only one. -/
theorem find_unique (hne : marker ≠ []) {i : Nat} (hfirst : find content marker 0 = some i)
    (hsecond : find content marker (i + 1) = none) :
    ∀ j, marker <+: content.drop j ↔ j = i := by
  obtain ⟨hi, hbefore⟩ := find_eq_some hfirst
  have hafter := find_eq_none hne hsecond
  intro j
  constructor
  · intro hj
    rcases Nat.lt_trichotomy j i with hlt | heq | hgt
    · exact absurd hj (hbefore j (Nat.zero_le j) hlt)
    · exact heq
    · exact absurd hj (hafter j hgt)
  · rintro rfl
    exact hi

theorem unpackFrom_eq_ok {α : Type} {offset size : Nat} {a b : α}
    (h : unpackFrom content offset size a = .ok b) : b = a := by
  unfold unpackFrom at h
  rw [ite_ok_eq_ok] at h
  exact h.2.symm

def loadRange (s : ElfSegment) : List (Nat × Nat) :=
  if s.segmentType = ptLoad then [(s.fileOffset, s.fileEnd)] else []

theorem loadedRange_eq {programOffset programEntrySize index : Nat} {part : List (Nat × Nat)}
    (h : loadedRange content programOffset programEntrySize index = .ok part) :
    part = loadRange (segmentAt content (programOffset + index * programEntrySize)) := by
  obtain ⟨fields, hfields, h⟩ := bind_eq_ok.1 h
  obtain ⟨size, hsize, h⟩ := bind_eq_ok.1 h
  obtain rfl := unpackFrom_eq_ok hfields
  obtain rfl := unpackFrom_eq_ok hsize
  cases h
  rfl

theorem flatMap_loadRange (headers : List ElfSegment) :
    headers.flatMap loadRange =
      (segmentsOf ptLoad headers).map fun s => (s.fileOffset, s.fileEnd) := by
  induction headers with
  | nil => rfl
  | cons s headers ih =>
    rw [flatMap_cons, ih, loadRange, segmentsOf, segmentsOf]
    by_cases hload : s.segmentType = ptLoad
    · rw [if_pos hload, filter_cons_of_pos (by simpa using hload), map_cons]
      rfl
    · rw [if_neg hload, filter_cons_of_neg (by simpa using hload)]
      rfl

theorem loadedRanges_eq {ranges : List (Nat × Nat)}
    (hoffset : (elfHeader content).programOffset = elfHeaderSize)
    (hsize : (elfHeader content).programEntrySize = elfProgramHeaderSize)
    (h : loadedRanges content = .ok ranges) :
    ranges = (loadSegments content).map fun s => (s.fileOffset, s.fileEnd) := by
  obtain ⟨_, ho, h⟩ := bind_eq_ok.1 h
  obtain ⟨_, hs, h⟩ := bind_eq_ok.1 h
  obtain ⟨_, hn, h⟩ := bind_eq_ok.1 h
  obtain ⟨parts, hparts, h⟩ := bind_eq_ok.1 h
  cases h
  obtain rfl := (unpackFrom_eq_ok ho).trans hoffset
  obtain rfl := (unpackFrom_eq_ok hs).trans hsize
  obtain rfl := unpackFrom_eq_ok hn
  have hall : parts.map id = _ := map_of_mapM hparts fun _ _ h => loadedRange_eq h
  rw [map_id] at hall
  rw [hall, loadSegments, ← flatMap_loadRange, programHeaders, flatMap_map]
  rfl

theorem orMismatch_eq_ok {α : Type} {message : String} {x : Check α} {a : α}
    (h : orMismatch message x = .ok a) : x = .ok a := by
  unfold orMismatch at h
  split at h
  · cases h
  · cases h
  · exact h

theorem embeddedOnce_of_find (hne : marker ≠ []) {i : Nat} (hfirst : find content marker 0 = some i)
    (hsecond : find content marker (i + 1) = none)
    (hinside : ((loadSegments content).map fun s => (s.fileOffset, s.fileEnd)).any
      (fun range => range.1 ≤ i && i + marker.length ≤ range.2) = true) :
    EmbeddedOnce content marker := by
  refine ⟨i, find_unique hne hfirst hsecond, ?_⟩
  rw [any_map, any_eq_true] at hinside
  obtain ⟨s, hs, hrange⟩ := hinside
  rw [Function.comp_apply, Bool.and_eq_true, decide_eq_true_iff, decide_eq_true_iff] at hrange
  exact ⟨s, hs, hrange⟩

theorem embedded_of_require {policyId policySha256 : String}
    (h : validateElf64StaticPie content = .ok ())
    (hrequire : requireEmbeddedSeccompIdentity content policyId policySha256 = .ok ()) :
    ∃ id digest, asciiEncode policyId = some id ∧ asciiEncode policySha256 = some digest ∧
      EmbeddedOnce content (id ++ [0]) ∧ EmbeddedOnce content (digest ++ [0]) := by
  obtain ⟨-, hoffset, hsize, -⟩ := validate_eq_ok h
  unfold requireEmbeddedSeccompIdentity at hrequire
  split at hrequire
  swap
  · cases hrequire
  next id digest hid hdigest =>
  dsimp only at hrequire
  split at hrequire
  swap
  · cases hrequire
  next idOffset digestOffset hidFirst hdigestFirst =>
  rw [ite_error_eq_ok, not_or, Option.not_isSome_iff_eq_none, Option.not_isSome_iff_eq_none]
    at hrequire
  obtain ⟨⟨hidSecond, hdigestSecond⟩, hrequire⟩ := hrequire
  obtain ⟨ranges, hranges, hrequire⟩ := bind_eq_ok.1 hrequire
  have hload := loadedRanges_eq hoffset hsize (orMismatch_eq_ok hranges)
  subst hload
  obtain ⟨⟨hidInside, hdigestInside⟩, -⟩ := ite_ok_eq_ok.1 hrequire
  exact ⟨id, digest, hid, hdigest,
    embeddedOnce_of_find (by simp) hidFirst hidSecond hidInside,
    embeddedOnce_of_find (by simp) hdigestFirst hdigestSecond hdigestInside⟩

/-- The ELF check returns or rejects the file as `invalid_elf`; what it accepts is a
static PIE; and on an accepted file the second function succeeds only where each marker
occurs exactly once, inside one of those load segments. -/
theorem elf_preflight_sound (content : List UInt8) :
    (validateElf64StaticPie content = .ok () ∨
      validateElf64StaticPie content = .error invalidElf) ∧
    (validateElf64StaticPie content = .ok () → StaticPie content ∧
      ∀ policyId policySha256 : String,
        requireEmbeddedSeccompIdentity content policyId policySha256 = .ok () →
        ∃ id digest, asciiEncode policyId = some id ∧ asciiEncode policySha256 = some digest ∧
          EmbeddedOnce content (id ++ [0]) ∧ EmbeddedOnce content (digest ++ [0])) := by
  refine ⟨?_, fun h => ⟨staticPie_of_validate h, fun _ _ => embedded_of_require h⟩⟩
  cases h : validateElf64StaticPie content with
  | ok u => exact .inl rfl
  | error e => exact .inr (congrArg Except.error (onlyInvalid_validate content e h))

/-- A program header of a segment whose file and memory sizes agree. -/
def programHeaderBytes (segmentType flags offset size : Nat) : List UInt8 :=
  (beBytes 4 segmentType).reverse ++ (beBytes 4 flags).reverse ++ (beBytes 8 offset).reverse ++
    (beBytes 8 offset).reverse ++ replicate 8 0 ++ (beBytes 8 size).reverse ++
    (beBytes 8 size).reverse ++ replicate 8 0

/-- Two load segments; the second holds three dynamic entries and the markers of the
policy `p` with digest `q`. -/
def smallPie : List UInt8 :=
  [0x7f, 0x45, 0x4c, 0x46, 2, 1, 1, 3] ++ replicate 8 0 ++
    [3, 0, 62, 0, 1, 0, 0, 0, 64, 0, 0, 0, 0, 0, 0, 0, 64, 0, 0, 0, 0, 0, 0, 0] ++
    replicate 12 0 ++ [64, 0, 56, 0, 5, 0, 0, 0, 0, 0, 0, 0] ++
    programHeaderBytes ptLoad (pfR ||| pfX) 0 344 ++
    programHeaderBytes ptLoad (pfR ||| pfW) 344 52 ++
    programHeaderBytes ptDynamic (pfR ||| pfW) 344 48 ++
    programHeaderBytes ptGnuStack (pfR ||| pfW) 0 0 ++
    programHeaderBytes ptGnuRelro pfR 344 48 ++
    (beBytes 8 30).reverse ++ (beBytes 8 dfBindNow).reverse ++
    (beBytes 8 0x6FFFFFFB).reverse ++ (beBytes 8 (df1Now ||| df1Pie)).reverse ++
    replicate 16 0 ++ [112, 0, 113, 0]

theorem elf_preflight_sound_smallPie :
    StaticPie smallPie ∧ EmbeddedOnce smallPie [112, 0] ∧ EmbeddedOnce smallPie [113, 0] := by
  have haccepted : validateElf64StaticPie smallPie = .ok () := isOk_iff.1 (by decide +kernel)
  have hrequire : requireEmbeddedSeccompIdentity smallPie "p" "q" = .ok () :=
    isOk_iff.1 (by decide +kernel)
  obtain ⟨hpie, hembedded⟩ := (elf_preflight_sound smallPie).2 haccepted
  obtain ⟨id, digest, hid, hdigest, h⟩ := hembedded "p" "q" hrequire
  cases hid
  cases hdigest
  exact ⟨hpie, h⟩

end Bpe.Artifact
