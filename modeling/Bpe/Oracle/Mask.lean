import Bpe.Oracle.Report

/-!
# What masking compares

Masked bytes are the bytes with zeroes at the masked offsets, so masked bytes are
equal exactly if the bytes agree at every other offset. From this follows, for each
kind of assertion, when two normalized observations are equal.
-/

namespace Bpe.Oracle

open List

variable {D : Type}

/-! ## Bytes -/

/-- The offset lies in a range of the list. -/
def Masked (rs : List ByteRange) (i : Nat) : Prop :=
  ∃ r ∈ rs, r.offset ≤ i ∧ i < r.offset + r.length

instance Masked.decidable (rs : List ByteRange) (i : Nat) : Decidable (Masked rs i) :=
  inferInstanceAs (Decidable (∃ r ∈ rs, r.offset ≤ i ∧ i < r.offset + r.length))

/-- Equal lengths, and equal bytes at the offsets that are not masked. -/
def BytesAgree (rs : List ByteRange) (x y : Bytes) : Prop :=
  x.length = y.length ∧ ∀ i, ¬ Masked rs i → x[i]? = y[i]?

/-- The bytes with zeroes at the masked offsets. -/
def zeroed (rs : List ByteRange) (x : Bytes) : Bytes :=
  x.mapIdx fun i b => if Masked rs i then byte 0 else b

/-- Every range of the list ends within the bytes. -/
def Fits (rs : List ByteRange) (x : Bytes) : Prop := ∀ r ∈ rs, r.stop ≤ x.length

def rangesOf (rules : List MaskByteRanges) : List ByteRange := rules.flatMap (·.ranges)

variable {rs ss : List ByteRange} {x y : Bytes}

@[simp] theorem length_zeroed : (zeroed rs x).length = x.length := length_mapIdx

theorem masked_append {i : Nat} : Masked (rs ++ ss) i ↔ Masked rs i ∨ Masked ss i := by
  simp only [Masked, mem_append, or_and_right, exists_or]

theorem getElem?_zeroed (i : Nat) :
    (zeroed rs x)[i]? = if Masked rs i then x[i]?.map fun _ => byte 0 else x[i]? := by
  rw [zeroed, getElem?_mapIdx]
  split <;> cases x[i]? <;> rfl

theorem zeroed_nil : zeroed [] x = x := by
  refine ext_getElem? fun i => ?_
  rw [getElem?_zeroed, if_neg]
  rintro ⟨r, hr, -⟩
  cases hr

theorem zeroed_append : zeroed (rs ++ ss) x = zeroed ss (zeroed rs x) := by
  refine ext_getElem? fun i => ?_
  simp only [getElem?_zeroed, masked_append]
  by_cases hr : Masked rs i
  · by_cases hs : Masked ss i <;> simp [hr, hs, Function.comp_def]
  · by_cases hs : Masked ss i <;> simp [hr, hs]

theorem zeroed_eq_iff : zeroed rs x = zeroed rs y ↔ BytesAgree rs x y := by
  constructor
  · intro h
    refine ⟨by simpa using congrArg length h, fun i hi => ?_⟩
    have hget := congrArg (fun z : Bytes => z[i]?) h
    simpa [getElem?_zeroed, hi] using hget
  · rintro ⟨hlength, hbytes⟩
    refine ext_getElem? fun i => ?_
    rw [getElem?_zeroed, getElem?_zeroed]
    by_cases hi : Masked rs i
    · rw [if_pos hi, if_pos hi]
      by_cases hlt : i < x.length
      · rw [getElem?_eq_getElem hlt, getElem?_eq_getElem (hlength ▸ hlt)]
        rfl
      · rw [getElem?_eq_none (not_lt.1 hlt), getElem?_eq_none (hlength ▸ not_lt.1 hlt)]
    · rw [if_neg hi, if_neg hi, hbytes i hi]

/-- The slice assignment of a range within the bytes zeroes its offsets. -/
theorem zeroRange_eq {r : ByteRange} (h : r.stop ≤ x.length) : zeroRange x r = zeroed [r] x := by
  have hstop : r.offset + r.length ≤ x.length := h
  refine ext_getElem? fun i => ?_
  have hmasked : Masked [r] i ↔ r.offset ≤ i ∧ i < r.offset + r.length := by simp [Masked]
  rw [getElem?_zeroed, zeroRange, append_assoc]
  by_cases hlo : i < r.offset
  · rw [getElem?_append_left (by rw [length_take]; omega),
      getElem?_take_of_lt hlo, if_neg (by rw [hmasked]; omega)]
  · have htake : (x.take r.offset).length = r.offset := by rw [length_take]; omega
    rw [getElem?_append_right (by omega), htake]
    by_cases hhi : i < r.offset + r.length
    · rw [getElem?_append_left (by rw [length_replicate]; omega),
        getElem?_replicate, if_pos (by omega), if_pos (by rw [hmasked]; omega),
        getElem?_eq_getElem (by omega)]
      rfl
    · rw [getElem?_append_right (by rw [length_replicate]; omega), length_replicate,
        getElem?_drop, if_neg (by rw [hmasked]; omega)]
      congr 1
      simp only [ByteRange.stop]
      omega

/-- A loop whose rounds each mask some ranges masks all of them. -/
theorem foldlM_mask {α : Type} {f : Bytes → α → Except OracleError Bytes}
    {ranges : α → List ByteRange}
    (hf : ∀ x a y, f x a = .ok y ↔ Fits (ranges a) x ∧ y = zeroed (ranges a) x) {l : List α} :
    l.foldlM f x = .ok y ↔ Fits (l.flatMap ranges) x ∧ y = zeroed (l.flatMap ranges) x := by
  induction l generalizing x with
  | nil =>
    rw [foldlM_nil, flatMap_nil, zeroed_nil, eq_comm (a := y)]
    refine ⟨fun h => ⟨fun r hr => (not_mem_nil hr).elim, Except.ok.inj h⟩, ?_⟩
    rintro ⟨-, rfl⟩
    rfl
  | cons a l ih =>
    rw [foldlM_cons, bind_eq_ok, flatMap_cons, zeroed_append]
    constructor
    · rintro ⟨z, hz, h⟩
      obtain ⟨ha, rfl⟩ := (hf _ _ _).1 hz
      obtain ⟨hl, hy⟩ := ih.1 h
      refine ⟨fun s hs => ?_, hy⟩
      rcases mem_append.1 hs with hs | hs
      · exact ha s hs
      · simpa using hl s hs
    · rintro ⟨hfits, hy⟩
      refine ⟨_, (hf _ _ _).2 ⟨fun s hs => hfits s (mem_append_left _ hs), rfl⟩,
        ih.2 ⟨fun s hs => ?_, hy⟩⟩
      simpa using hfits s (mem_append_right _ hs)

theorem maskRule_eq_ok {rule : MaskByteRanges} :
    maskRule x rule = .ok y ↔ Fits rule.ranges x ∧ y = zeroed rule.ranges x := by
  have hranges : rule.ranges = rule.ranges.flatMap fun r => [r] := by simp
  rw [hranges]
  refine foldlM_mask fun x r y => ?_
  rw [ite_error_eq_ok, not_lt, Except.ok.injEq, eq_comm (a := zeroRange x r)]
  constructor
  · rintro ⟨hr, rfl⟩
    exact ⟨forall_mem_singleton.2 hr, zeroRange_eq hr⟩
  · rintro ⟨hr, rfl⟩
    have hr := forall_mem_singleton.1 hr
    exact ⟨hr, (zeroRange_eq hr).symm⟩

/-- `_mask_bytes` returns if all ranges are within the bytes, with these zeroed. -/
theorem maskBytes_eq_ok {rules : List MaskByteRanges} :
    maskBytes x rules = .ok y ↔ Fits (rangesOf rules) x ∧ y = zeroed (rangesOf rules) x := by
  unfold maskBytes rangesOf
  apply foldlM_mask
  intro x rule y
  exact maskRule_eq_ok

/-! ## Map entries -/

theorem nonEmptyHexBytes_zeroed (h : nonEmptyHexBytes x) : nonEmptyHexBytes (zeroed rs x) := by
  unfold nonEmptyHexBytes hexBytes at h ⊢
  rw [length_zeroed]
  exact h

/-- An entry with its key and its value masked. -/
def zeroEntry (rs ss : List ByteRange) (e : MapEntry) : MapEntry :=
  ⟨zeroed rs e.key, zeroed ss e.value, nonEmptyHexBytes_zeroed e.keyValid,
    nonEmptyHexBytes_zeroed e.valueValid⟩

variable {keyRules valueRules : List MaskByteRanges} {entries entries' ns ms : List MapEntry}

theorem maskEntry_eq_ok {e e' : MapEntry} : maskEntry keyRules valueRules e = .ok e' ↔
    (Fits (rangesOf keyRules) e.key ∧ Fits (rangesOf valueRules) e.value) ∧
      e' = zeroEntry (rangesOf keyRules) (rangesOf valueRules) e := by
  have hmake : MapEntry.make (zeroed (rangesOf keyRules) e.key) (zeroed (rangesOf valueRules)
      e.value) = .ok (zeroEntry (rangesOf keyRules) (rangesOf valueRules) e) := by
    rw [MapEntry.make, dif_pos (nonEmptyHexBytes_zeroed e.keyValid),
      dif_pos (nonEmptyHexBytes_zeroed e.valueValid)]
    rfl
  rw [maskEntry, bind_eq_ok]
  constructor
  · rintro ⟨key, hkey, h⟩
    obtain ⟨value, hvalue, h⟩ := bind_eq_ok.1 h
    obtain ⟨hfk, rfl⟩ := maskBytes_eq_ok.1 hkey
    obtain ⟨hfv, rfl⟩ := maskBytes_eq_ok.1 hvalue
    rw [hmake] at h
    cases h
    exact ⟨⟨hfk, hfv⟩, rfl⟩
  · rintro ⟨⟨hfk, hfv⟩, rfl⟩
    exact ⟨_, maskBytes_eq_ok.2 ⟨hfk, rfl⟩,
      bind_eq_ok.2 ⟨_, maskBytes_eq_ok.2 ⟨hfv, rfl⟩, hmake⟩⟩

/-- `_normalized_entries` returns if all ranges are within the entries and the masked
keys are distinct. -/
theorem normalizedEntries_eq_ok : normalizedEntries entries keyRules valueRules = .ok ns ↔
    (∀ e ∈ entries, Fits (rangesOf keyRules) e.key ∧ Fits (rangesOf valueRules) e.value) ∧
      (entries.map fun e => zeroed (rangesOf keyRules) e.key).Nodup ∧
      ns = sortOn (·.key) (entries.map (zeroEntry (rangesOf keyRules) (rangesOf valueRules))) := by
  set Z := zeroEntry (rangesOf keyRules) (rangesOf valueRules) with hZ
  have hnodup : (entries.map fun e => zeroed (rangesOf keyRules) e.key).Nodup ↔
      ((sortOn (·.key) (entries.map Z)).map (·.key)).Nodup := by
    rw [((perm_sortOn (·.key) (entries.map Z)).map (·.key)).nodup_iff, map_map]
    rfl
  rw [normalizedEntries, bind_eq_ok]
  constructor
  · rintro ⟨normalized, hmask, h⟩
    obtain ⟨hcheck, h⟩ := seq_eq_ok.1 h
    have hall : ∀ e ∈ entries, Fits (rangesOf keyRules) e.key ∧
        Fits (rangesOf valueRules) e.value :=
      fun e he => (maskEntry_eq_ok.1 (mem_of_mapM hmask he).choose_spec.2).1
    have heq : normalized = entries.map Z := by
      have hmap : normalized.map id = entries.map Z :=
        map_of_mapM hmask fun a b hab => (maskEntry_eq_ok.1 hab).2
      rwa [map_id] at hmap
    subst heq
    have hkeys := refuse_at (mapError_eq_ok.1 hcheck) 0 rfl
    cases h
    exact ⟨hall, hnodup.2 (by simpa using hkeys), rfl⟩
  · rintro ⟨hall, hkeys, rfl⟩
    refine ⟨entries.map Z, mapM_eq_ok.2 ?_, seq_eq_ok.2 ⟨mapError_eq_ok.2 ?_, rfl⟩⟩
    · rw [map_map]
      exact map_congr_left fun e he => maskEntry_eq_ok.2 ⟨hall e he, rfl⟩
    · rw [refuse_eq_ok]
      simpa using hnodup.1 hkeys

/-- The masked entries have the value under the key. -/
def MaskedIn (rs ss : List ByteRange) (entries : List MapEntry) (key value : Bytes) : Prop :=
  ∃ e ∈ entries, zeroed rs e.key = key ∧ zeroed ss e.value = value

section

variable (h : normalizedEntries entries keyRules valueRules = .ok ns)

include h

theorem exists_normalized {key value : Bytes} :
    (∃ e ∈ ns, e.key = key ∧ e.value = value) ↔
      MaskedIn (rangesOf keyRules) (rangesOf valueRules) entries key value := by
  obtain ⟨-, -, rfl⟩ := normalizedEntries_eq_ok.1 h
  simp only [(perm_sortOn _ _).mem_iff, mem_map, exists_exists_and_eq_and]
  rfl

theorem nodup_normalized :
    (ns.map (·.key)).Nodup := by
  obtain ⟨-, hkeys, rfl⟩ := normalizedEntries_eq_ok.1 h
  refine ((perm_sortOn _ _).map _).nodup_iff.2 ?_
  rw [map_map]
  exact hkeys

theorem byKey_normalized {key : Bytes} {old : Option Bytes} :
    byKey ns key = old ↔
      ∀ value, old = some value ↔
        MaskedIn (rangesOf keyRules) (rangesOf valueRules) entries key value := by
  rw [Option.ext_iff]
  refine forall_congr' fun value => ?_
  have hsome : byKey ns key = some value ↔ ∃ e ∈ ns, e.key = key ∧ e.value = value :=
    dictOf_eq_some (nodup_normalized h)
  rw [hsome, exists_normalized h]
  exact Iff.comm

/-- Normalized entries are equal if they are one map. -/
theorem normalized_eq_iff (h' : normalizedEntries entries' keyRules valueRules = .ok ms) :
    ns = ms ↔ ∀ key value, MaskedIn (rangesOf keyRules) (rangesOf valueRules) entries key value ↔
      MaskedIn (rangesOf keyRules) (rangesOf valueRules) entries' key value := by
  simp only [← exists_normalized h, ← exists_normalized h']
  constructor
  · rintro rfl key value
    exact Iff.rfl
  · intro hsame
    have hmem : ∀ {l : List MapEntry} {e : MapEntry},
        e ∈ l ↔ ∃ f ∈ l, f.key = e.key ∧ f.value = e.value := fun {l e} =>
      ⟨fun he => ⟨e, he, rfl, rfl⟩, fun ⟨f, hf, hk, hv⟩ => MapEntry.ext hk hv ▸ hf⟩
    have hperm : ns.Perm ms := (perm_ext_iff_of_nodup (nodup_normalized h).of_map
      (nodup_normalized h').of_map).2 fun e => by rw [hmem, hmem, hsame]
    obtain ⟨-, -, hns⟩ := normalizedEntries_eq_ok.1 h
    obtain ⟨-, -, hms⟩ := normalizedEntries_eq_ok.1 h'
    have hsorted : ∀ l : List MapEntry, sortOn (·.key) (sortOn (·.key) l) = sortOn (·.key) l :=
      fun l => (pairwise_sortOn (fun e : MapEntry => e.key) l).insertionSort_eq
    rw [hns, hms, ← hsorted, ← hsorted (entries'.map _), ← hns, ← hms]
    exact sortOn_eq_of_perm (nodup_normalized h) hperm

end

end Bpe.Oracle
