import Bpe.Oracle.Model

/-!
# Map deltas

`_map_delta` merges two lists of map entries into the changes from the first to
the second. The changes are a patch: applied to the first map they give the
second, and they name just the keys at which the two maps differ.
-/

namespace Bpe.Oracle

open List

inductive OracleError where
  /-- A `ValidationError` of a record that is built. -/
  | validation (message : String)
  /-- An `OracleContractError`. -/
  | contract (message : String)
  /-- The `ValueError` of a strict `zip` of lists of different lengths. -/
  | unequalLengths
  /-- The `KeyError` of a dictionary. -/
  | missingKey

inductive ChangeKind where
  | inserted | updated | deleted
  deriving DecidableEq

structure MapChange where
  kind : ChangeKind
  key : Bytes
  before : Option Bytes
  after : Option Bytes
  deriving DecidableEq

def MapChange.validate (c : MapChange) : Except String Unit :=
  refuse [
    (!nonEmptyHexBytes c.key, "key"),
    (!c.before.all nonEmptyHexBytes, "before"),
    (!c.after.all nonEmptyHexBytes, "after"),
    (c.kind == .inserted && (c.before.isSome || c.after.isNone),
      "inserted map changes require only an after value"),
    (c.kind == .deleted && (c.before.isNone || c.after.isSome),
      "deleted map changes require only a before value"),
    (c.kind == .updated && (c.before.isNone || c.after.isNone || decide (c.before = c.after)),
      "updated map changes require two different values")]

/-- The entries as a map from keys to values. -/
def byKey : List MapEntry → Bytes → Option Bytes := dictOf (·.key) (·.value)

/-- What one round of the loop appends. -/
def changeAt (key : Bytes) : Option Bytes → Option Bytes → Option MapChange
  | none, new => some ⟨.inserted, key, none, new⟩
  | some old, none => some ⟨.deleted, key, some old, none⟩
  | some old, some new =>
    if old ≠ new then some ⟨.updated, key, some old, some new⟩ else none

def mapDelta (before after : List MapEntry) : Except OracleError (List MapChange) := do
  let keys := unionKeys (before.map (·.key)) (after.map (·.key))
  let changes := keys.filterMap fun key => changeAt key (byKey before key) (byKey after key)
  (changes.forM MapChange.validate).mapError .validation
  pure changes

/-- What a change does to a map, by its kind. -/
def applyChange (m : Bytes → Option Bytes) (c : MapChange) : Bytes → Option Bytes :=
  match c.kind with
  | .inserted | .updated => Function.update m c.key c.after
  | .deleted => Function.update m c.key none

def applyChanges (changes : List MapChange) (m : Bytes → Option Bytes) : Bytes → Option Bytes :=
  changes.foldl applyChange m

/-! ## The changes -/

/-- The kind of the change between two values that differ. -/
def changeKind : Option Bytes → Option Bytes → ChangeKind
  | none, _ => .inserted
  | some _, none => .deleted
  | some _, some _ => .updated

/-- The change of a key at which two maps differ. -/
def changeOf (m m' : Bytes → Option Bytes) (key : Bytes) : MapChange :=
  ⟨changeKind (m key) (m' key), key, m key, m' key⟩

variable {before after : List MapEntry} {key : Bytes}

theorem byKey_eq_none : byKey before key = none ↔ key ∉ before.map (·.key) := dictOf_eq_none

theorem changeAt_eq {old new : Option Bytes} (h : old.isSome ∨ new.isSome) :
    changeAt key old new =
      if old ≠ new then some ⟨changeKind old new, key, old, new⟩ else none := by
  cases old with
  | none =>
    cases new with
    | none => simp at h
    | some v => rfl
  | some u =>
    cases new with
    | none => rfl
    | some v => simp [changeAt, changeKind]

/-- The changes that `_map_delta` collects. -/
def changesOf (before after : List MapEntry) : List MapChange :=
  (differing (unionKeys (before.map (·.key)) (after.map (·.key))) (byKey before)
    (byKey after)).map (changeOf (byKey before) (byKey after))

theorem mem_union_of_differ (h : byKey before key ≠ byKey after key) :
    key ∈ unionKeys (before.map (·.key)) (after.map (·.key)) := by
  rw [mem_unionKeys]
  by_contra hnot
  obtain ⟨hb, ha⟩ := not_or.1 hnot
  exact h ((byKey_eq_none.2 hb).trans (byKey_eq_none.2 ha).symm)

theorem filterMap_changeAt :
    ((unionKeys (before.map (·.key)) (after.map (·.key))).filterMap fun key =>
      changeAt key (byKey before key) (byKey after key)) = changesOf before after := by
  rw [changesOf, ← filterMap_differing]
  refine filterMap_congr fun key hkey => ?_
  exact changeAt_eq ((mem_unionKeys.1 hkey).imp dictOf_isSome.2 dictOf_isSome.2)

theorem values_valid (entries : List MapEntry) : (byKey entries key).all nonEmptyHexBytes := by
  rw [Option.all_eq_true]
  intro value hvalue
  obtain ⟨e, -, rfl⟩ := Option.map_eq_some_iff.1 hvalue
  exact e.valueValid

theorem key_valid {entries : List MapEntry} (h : key ∈ entries.map (·.key)) :
    nonEmptyHexBytes key := by
  obtain ⟨e, -, rfl⟩ := mem_map.1 h
  exact e.keyValid

theorem validate_change {old new : Option Bytes} (hkey : nonEmptyHexBytes key)
    (hold : old.all nonEmptyHexBytes) (hnew : new.all nonEmptyHexBytes) (hne : old ≠ new) :
    MapChange.validate ⟨changeKind old new, key, old, new⟩ = .ok () := by
  rw [MapChange.validate, refuse_eq_ok]
  cases old with
  | none =>
    cases new with
    | none => exact absurd rfl hne
    | some v => simpa [changeKind, hkey] using hnew
  | some u =>
    cases new with
    | none => simpa [changeKind, hkey] using hold
    | some v =>
      have hvalues : u ≠ v := fun h => hne (congrArg some h)
      simpa [changeKind, hkey, hvalues] using And.intro hold hnew

theorem validate_changeOf (h : byKey before key ≠ byKey after key) :
    (changeOf (byKey before) (byKey after) key).validate = .ok () := by
  refine validate_change ?_ (values_valid before) (values_valid after) h
  rcases mem_unionKeys.1 (mem_union_of_differ h) with hk | hk
  · exact key_valid hk
  · exact key_valid hk

theorem mapDelta_eq : mapDelta before after = .ok (changesOf before after) := by
  rw [mapDelta, filterMap_changeAt]
  refine seq_eq_ok.2 ⟨mapError_eq_ok.2 (forM_eq_ok.2 fun c hc => ?_), rfl⟩
  obtain ⟨key, hkey, rfl⟩ := mem_map.1 hc
  exact validate_changeOf ((mem_differing mem_union_of_differ).1 hkey)

theorem map_key_changesOf : (changesOf before after).map (·.key) =
    differing (unionKeys (before.map (·.key)) (after.map (·.key))) (byKey before)
      (byKey after) := by
  rw [changesOf, map_map]
  exact map_id _

theorem mem_changesOf {c : MapChange} : c ∈ changesOf before after ↔
    byKey before c.key ≠ byKey after c.key ∧
      c = changeOf (byKey before) (byKey after) c.key := by
  rw [changesOf, mem_map]
  constructor
  · rintro ⟨key, hkey, rfl⟩
    exact ⟨(mem_differing mem_union_of_differ).1 hkey, rfl⟩
  · rintro ⟨hne, hc⟩
    exact ⟨c.key, (mem_differing mem_union_of_differ).2 hne, hc.symm⟩

theorem pairwise_key_changesOf : ((changesOf before after).map (·.key)).Pairwise (· < ·) := by
  rw [map_key_changesOf]
  exact (pairwise_unionKeys _ _).filter _

theorem applyChange_changeOf (m m' n : Bytes → Option Bytes) (key : Bytes) :
    applyChange n (changeOf m m' key) = Function.update n key (m' key) := by
  unfold applyChange changeOf changeKind
  cases m key <;> cases m' key <;> rfl

theorem applyChanges_changesOf :
    applyChanges (changesOf before after) (byKey before) = byKey after := by
  funext key
  rw [applyChanges, changesOf, foldl_map]
  simp only [applyChange_changeOf]
  rw [foldl_update]
  by_cases h : byKey before key = byKey after key
  · rw [h, ite_self]
  · rw [if_pos ((mem_differing mem_union_of_differ).2 h)]

/-- A change between two values is collected when the maps have these values. -/
theorem change_mem_changesOf {old new : Option Bytes} :
    (⟨changeKind old new, key, old, new⟩ : MapChange) ∈ changesOf before after ↔
      old ≠ new ∧ byKey before key = old ∧ byKey after key = new := by
  rw [mem_changesOf]
  constructor
  · rintro ⟨hne, heq⟩
    obtain ⟨-, -, hold, hnew⟩ := MapChange.mk.inj heq
    exact ⟨hold ▸ hnew ▸ hne, hold.symm, hnew.symm⟩
  · rintro ⟨hne, rfl, rfl⟩
    exact ⟨hne, rfl⟩

/-- Two deltas are one if the same keys change, between the same values. -/
theorem changesOf_eq_iff_changed {before' after' : List MapEntry} :
    changesOf before after = changesOf before' after' ↔
      ∀ key old new, (old ≠ new ∧ byKey before key = old ∧ byKey after key = new) ↔
        (old ≠ new ∧ byKey before' key = old ∧ byKey after' key = new) := by
  constructor
  · intro h key old new
    rw [← change_mem_changesOf, h, change_mem_changesOf]
  · intro h
    have hlt : ∀ b a : List MapEntry, (changesOf b a).Pairwise fun c d => c.key < d.key :=
      fun b a => pairwise_map.1 pairwise_key_changesOf
    have hnodup : ∀ b a : List MapEntry, (changesOf b a).Nodup := fun b a =>
      (hlt b a).imp fun hcd heq => ne_of_lt hcd (congrArg MapChange.key heq)
    refine List.Perm.eq_of_pairwise (fun c d _ _ hcd hdc => absurd hdc (lt_asymm hcd))
      (hlt before after) (hlt before' after')
      ((perm_ext_iff_of_nodup (hnodup _ _) (hnodup _ _)).2 fun c => ?_)
    rw [mem_changesOf, mem_changesOf]
    have hc := h c.key
    constructor
    · rintro ⟨hne, heq⟩
      obtain ⟨-, hb, ha⟩ := (hc _ _).1 ⟨hne, rfl, rfl⟩
      exact ⟨hb ▸ ha ▸ hne, by rw [changeOf, hb, ha]; exact heq⟩
    · rintro ⟨hne, heq⟩
      obtain ⟨-, hb, ha⟩ := (hc _ _).2 ⟨hne, rfl, rfl⟩
      exact ⟨hb ▸ ha ▸ hne, by rw [changeOf, hb, ha]; exact heq⟩

/-- The changes between two maps with one first map tell the second. -/
theorem changesOf_eq_iff {before' after' : List MapEntry} (hb : byKey before = byKey before') :
    changesOf before after = changesOf before' after' ↔ byKey after = byKey after' := by
  constructor
  · intro h
    have hpatch : applyChanges (changesOf before after) (byKey before) = byKey after :=
      applyChanges_changesOf
    rw [← hpatch, h, hb, applyChanges_changesOf]
  · intro ha
    rw [changesOf_eq_iff_changed, hb, ha]
    exact fun _ _ _ => Iff.rfl

/-- The changes that `_map_delta` returns turn the first map into the second; they
name, once and in increasing order, the keys at which the maps differ; each is a
valid change; and of two deltas from one map, equal ones lead to one map. -/
theorem mapDelta_exact_patch (before after : List MapEntry)
    (hbefore : (before.map (·.key)).Nodup) (hafter : (after.map (·.key)).Nodup) :
    ∃ changes, mapDelta before after = .ok changes ∧
      (∀ key value, applyChanges changes (byKey before) key = some value ↔
        ∃ e ∈ after, e.key = key ∧ e.value = value) ∧
      (∀ key, key ∈ changes.map (·.key) ↔
        ¬ ∀ value, (∃ e ∈ before, e.key = key ∧ e.value = value) ↔
          ∃ e ∈ after, e.key = key ∧ e.value = value) ∧
      (changes.map (·.key)).Pairwise (· < ·) ∧
      (∀ c ∈ changes, c.validate = .ok ()) ∧
      ∀ before' after' : List MapEntry,
        (before'.map (·.key)).Nodup → (after'.map (·.key)).Nodup → byKey before' = byKey before →
        (mapDelta before' after' = .ok changes ↔ byKey after' = byKey after) := by
  refine ⟨changesOf before after, mapDelta_eq, fun key value => ?_, fun key => ?_,
    pairwise_key_changesOf, fun c hc => ?_, fun before' after' _ _ hmap => ?_⟩
  · rw [applyChanges_changesOf]
    exact dictOf_eq_some hafter
  · rw [map_key_changesOf, mem_differing mem_union_of_differ, Ne, Option.ext_iff]
    refine not_congr (forall_congr' fun value => ?_)
    exact iff_congr (dictOf_eq_some hbefore) (dictOf_eq_some hafter)
  · obtain ⟨hne, heq⟩ := mem_changesOf.1 hc
    rw [heq]
    exact validate_changeOf hne
  · rw [mapDelta_eq, Except.ok.injEq]
    exact changesOf_eq_iff hmap

theorem byte_valid (n : Nat) : nonEmptyHexBytes [byte n] := by
  simp [nonEmptyHexBytes, hexBytes, maxObservationBytes]

/-- An entry with a key and a value of one byte. -/
def smallEntry (key value : Nat) : MapEntry :=
  ⟨[byte key], [byte value], byte_valid key, byte_valid value⟩

theorem mapDelta_exact_patch_three :
    ∃ changes, mapDelta [smallEntry 1 5, smallEntry 2 6] [smallEntry 2 7, smallEntry 3 8] =
        .ok changes ∧
      applyChanges changes (byKey [smallEntry 1 5, smallEntry 2 6]) [byte 2] = some [byte 7] ∧
      [byte 1] ∈ changes.map (·.key) ∧ (changes.map (·.key)).Pairwise (· < ·) := by
  obtain ⟨changes, hdelta, hpatch, hkeys, hsorted, -⟩ :=
    mapDelta_exact_patch [smallEntry 1 5, smallEntry 2 6] [smallEntry 2 7, smallEntry 3 8]
      (by decide) (by decide)
  refine ⟨changes, hdelta, (hpatch _ _).2 ⟨smallEntry 2 7, by decide, rfl, rfl⟩,
    (hkeys _).2 fun h => ?_, hsorted⟩
  -- the first key is absent on the second side
  obtain ⟨e, he, hkey, -⟩ := (h [byte 5]).1 ⟨smallEntry 1 5, by decide, rfl, rfl⟩
  have hall : ∀ e ∈ [smallEntry 2 7, smallEntry 3 8], e.key ≠ [byte 1] := by decide
  exact hall e he hkey

end Bpe.Oracle
