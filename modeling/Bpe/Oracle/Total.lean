import Bpe.Oracle.Verdict
import Mathlib.Data.Set.Card

/-!
# When a report is derived

On traces that pass `_validate_trace`, with every mask within the bytes it masks and
no two keys made equal by it, a report is derived exactly if no map delta has more
changes than a `MapDeltaObservation` holds. A map has up to that many entries before
and as many after a run, so a delta may have up to twice as many changes.
-/

namespace Bpe.Oracle

open Models Grading List

variable {D : Type}

/-- The bytes of an observation that a rule for a component of an assertion masks. -/
def componentBytes (o : XdpRawObservation) : Target → Component → List Bytes
  | .packetBytes, .bytes => o.packetBytes.toList
  | .contextBytes, .bytes => o.contextBytes.toList
  | .mapSnapshot i, .key | .mapDelta i, .key =>
    (o.maps.filter (·.mapId = i)).flatMap fun s => (s.before ++ s.after).map (·.key)
  | .mapSnapshot i, .value | .mapDelta i, .value =>
    (o.maps.filter (·.mapId = i)).flatMap fun s => (s.before ++ s.after).map (·.value)
  | .orderedEvents i, .record => (o.events.filter (·.streamId = i)).flatMap (·.records)
  | _, _ => []

/-- No two distinct keys are made equal by a mask. -/
def KeysStay (rs : List ByteRange) (entries : List MapEntry) : Prop :=
  ∀ e ∈ entries, ∀ e' ∈ entries, zeroed rs e.key = zeroed rs e'.key → e.key = e'.key

/-- Every mask of the case lies within the bytes that it masks, and keeps keys
distinct. -/
structure WellMasked (case : XdpOracleCase D) (o : XdpRawObservation) : Prop where
  fits : ∀ a ∈ case.assertions, ∀ component, ∀ x ∈ componentBytes o a.target component,
    Fits (maskRanges case a component) x
  keys : ∀ a ∈ case.assertions, ∀ s ∈ o.maps, a.target.mapId = some s.mapId →
    KeysStay (maskRanges case a .key) s.before ∧ KeysStay (maskRanges case a .key) s.after

/-- At most as many masked keys change as a delta holds. -/
def DeltaWithin (case : XdpOracleCase D) (o : XdpRawObservation) (a : XdpAssertion) : Prop :=
  ∀ s ∈ o.maps, a.target = .mapDelta s.mapId →
    {key | ∃ old new, Changed (maskRanges case a .key) (maskRanges case a .value) s key old
      new}.ncard ≤ maxCollectionItems

/-! ## One assertion -/

section Assertion

variable {case : XdpOracleCase D} {o : XdpRawObservation} {a : XdpAssertion}

theorem validateMaps (h : o.validate = .ok ()) {s : MapStateTrace} (hs : s ∈ o.maps) :
    s.before.length ≤ maxCollectionItems ∧ s.after.length ≤ maxCollectionItems ∧
      (s.before.map (·.key)).Nodup ∧ (s.after.map (·.key)).Nodup := by
  obtain ⟨-, h⟩ := seq_eq_ok.1 h
  have hs := forM_eq_ok.1 (seq_eq_ok.1 h).1 s hs
  exact ⟨by simpa using refuse_at hs 1 rfl, by simpa using refuse_at hs 2 rfl,
    by simpa using refuse_at hs 4 rfl, by simpa using refuse_at hs 6 rfl⟩

theorem lookup_of_mem {α : Type} {key : α → String} {items : List α} {k : String}
    (hitems : (items.map key).Nodup) (h : k ∈ items.map key) :
    ∃ s ∈ items, key s = k ∧ lookup key items k = .ok s := by
  obtain ⟨s, hs, hk⟩ := mem_map.1 h
  exact ⟨s, hs, hk, (lookup_eq_ok hitems).2 ⟨hs, hk⟩⟩

/-- The entries of a map are normalized to entries of their masked keys, in order. -/
theorem normalizedEntries_ok {kr vr : List MaskByteRanges} {entries : List MapEntry}
    (hkeys : (entries.map (·.key)).Nodup)
    (hfits : ∀ e ∈ entries, Fits (rangesOf kr) e.key ∧ Fits (rangesOf vr) e.value)
    (hstay : KeysStay (rangesOf kr) entries) :
    ∃ ns, normalizedEntries entries kr vr = .ok ns ∧
      (ns.map (·.key)).Perm (entries.map fun e => zeroed (rangesOf kr) e.key) ∧
      isSorted (ns.map (·.key)) := by
  refine ⟨_, normalizedEntries_eq_ok.2 ⟨hfits, ?_, rfl⟩, ?_, ?_⟩
  · refine List.Nodup.map_on (fun e he e' he' heq => ?_) hkeys.of_map
    exact inj_on_of_nodup_map hkeys he he' (hstay e he e' he' heq)
  · refine ((perm_sortOn _ _).map _).trans (List.Perm.of_eq ?_)
    rw [map_map]
    rfl
  · rw [isSorted_iff, pairwise_map]
    exact pairwise_sortOn _ _

theorem normalizedState_ok {i : String} (ho : o.validate = .ok ()) (hnames : NamesUnique o)
    (hmem : i ∈ o.maps.map (·.mapId)) (hw : WellMasked case o) (ha : a ∈ case.assertions)
    (htarget : a.target = .mapSnapshot i ∨ a.target = .mapDelta i) :
    ∃ s ∈ o.maps, s.mapId = i ∧ ∃ states, lookup (·.mapId) o.maps i = .ok s ∧
      normalizedEntries s.before (rulesFor case a.assertionId .key)
        (rulesFor case a.assertionId .value) = .ok states.1 ∧
      normalizedEntries s.after (rulesFor case a.assertionId .key)
        (rulesFor case a.assertionId .value) = .ok states.2 ∧
      normalizedState case o a.assertionId i = .ok states ∧
      states.2.length ≤ maxCollectionItems ∧ isSorted (states.2.map (·.key)) := by
  obtain ⟨s, hs, rfl, hlookup⟩ := lookup_of_mem hnames.maps hmem
  obtain ⟨-, hsize, hbefore, hafter⟩ := validateMaps ho hs
  have hfits : ∀ e ∈ s.before ++ s.after, Fits (maskRanges case a .key) e.key ∧
      Fits (maskRanges case a .value) e.value := by
    intro e he
    have hmaps : s ∈ o.maps.filter (·.mapId = s.mapId) := mem_filter.2 ⟨hs, by simp⟩
    refine ⟨hw.fits a ha .key e.key ?_, hw.fits a ha .value e.value ?_⟩ <;>
    · rcases htarget with ht | ht <;> rw [ht] <;>
        exact mem_flatMap.2 ⟨s, hmaps, mem_map_of_mem he⟩
  obtain ⟨hb, hc⟩ := hw.keys a ha s hs (by rcases htarget with ht | ht <;> rw [ht] <;> rfl)
  obtain ⟨ns, hns, -, -⟩ := normalizedEntries_ok hbefore
    (fun e he => hfits e (mem_append_left _ he)) hb
  obtain ⟨ms, hms, hperm, hsorted⟩ := normalizedEntries_ok hafter
    (fun e he => hfits e (mem_append_right _ he)) hc
  have hlength : ms.length = s.after.length := by simpa using hperm.length_eq
  exact ⟨s, hs, rfl, (ns, ms), hlookup, hns, hms,
    normalizedState_eq_ok.2 ⟨s, hlookup, hns, hms⟩, hlength ▸ hsize, hsorted⟩

/-- The number of the changes is the number of the masked keys that change. -/
theorem length_changesOf {s : MapStateTrace} {kr vr : List MaskByteRanges} {ns ms : List MapEntry}
    (hns : normalizedEntries s.before kr vr = .ok ns)
    (hms : normalizedEntries s.after kr vr = .ok ms) :
    (changesOf ns ms).length =
      {key | ∃ old new, Changed (rangesOf kr) (rangesOf vr) s key old new}.ncard := by
  have hset : {key | ∃ old new, Changed (rangesOf kr) (rangesOf vr) s key old new} =
      ↑((changesOf ns ms).map (·.key)).toFinset := by
    ext key
    rw [Set.mem_ofPred_eq, coe_toFinset, Set.mem_ofPred_eq, map_key_changesOf,
      mem_differing mem_union_of_differ]
    simp only [Changed, ← byKey_normalized hns, ← byKey_normalized hms]
    constructor
    · rintro ⟨old, new, hne, rfl, rfl⟩
      exact hne
    · intro hne
      exact ⟨_, _, hne, rfl, rfl⟩
  rw [hset, Set.ncard_coe_finset, toFinset_card_of_nodup (pairwise_key_changesOf.imp ne_of_lt),
    length_map]

theorem validate_mapDelta {i : String} {ns ms : List MapEntry} (hi : isStableId i) :
    ObservedValue.validate (.mapDelta i (changesOf ns ms)) = .ok () ↔
      (changesOf ns ms).length ≤ maxCollectionItems := by
  have hkeys : ((changesOf ns ms).map (·.key)).Pairwise (· < ·) := pairwise_key_changesOf
  have hsorted : isSorted ((changesOf ns ms).map (·.key)) := isSorted_iff.2 (hkeys.imp le_of_lt)
  have hnodup : ((changesOf ns ms).map (·.key)).Nodup := hkeys.imp ne_of_lt
  have hvalid : (changesOf ns ms).forM MapChange.validate = .ok () :=
    forM_eq_ok.2 fun c hc => (mem_changesOf.1 hc).2 ▸ validate_changeOf (mem_changesOf.1 hc).1
  rw [ObservedValue.validate, seq_eq_ok, seq_eq_ok, refuse_eq_ok, refuse_eq_ok]
  simp [hi, hvalid, hsorted, hnodup]

/-- Bytes that are there and within their bounds are masked to such bytes. -/
theorem maskPresent_ok {missing : String} {bytes : Option Bytes} {rules : List MaskByteRanges}
    (hsome : bytes.isSome) (hhex : bytes.all hexBytes)
    (hfits : ∀ b ∈ bytes.toList, Fits (rangesOf rules) b) :
    ∃ x, maskPresent missing bytes rules = .ok x ∧ hexBytes x := by
  obtain ⟨b, rfl⟩ := Option.isSome_iff_exists.1 hsome
  refine ⟨_, maskPresent_eq_ok.2 ⟨b, rfl, hfits b (by simp), rfl⟩, ?_⟩
  unfold hexBytes
  rw [length_zeroed]
  exact hhex

theorem observeAssertion_of_validate {u : ObservedValue} (hvalid : a.valid)
    (hu : observe case o a = .ok u) :
    (∃ v, observeAssertion case o a = .ok v) ↔ u.validate = .ok () := by
  have hid : isStableId a.assertionId := by
    simp only [XdpAssertion.valid, Bool.and_eq_true] at hvalid
    exact hvalid.1.1
  have hcheck : AssertionObservation.validate ⟨a.assertionId, u⟩ = .ok () ↔
      u.validate = .ok () := by
    rw [AssertionObservation.validate, seq_eq_ok, refuse_eq_ok]
    simp [hid]
  rw [← hcheck]
  constructor
  · rintro ⟨v, hv⟩
    obtain ⟨u', hu', hv⟩ := bind_eq_ok.1 hv
    cases hu.symm.trans hu'
    exact mapError_eq_ok.1 (seq_eq_ok.1 hv).1
  · intro h
    exact ⟨_, bind_eq_ok.2 ⟨u, hu, seq_eq_ok.2 ⟨mapError_eq_ok.2 h, rfl⟩⟩⟩

/-- An assertion is observed exactly if its delta, where it is one, is within the
bound. -/
theorem observeAssertion_ok_iff (ho : o.validate = .ok ()) (hnames : NamesUnique o)
    (hshape : validateObservationShape case o = .ok ()) (hw : WellMasked case o)
    (ha : a ∈ case.assertions) (hvalid : a.valid) :
    (∃ v, observeAssertion case o a = .ok v) ↔ DeltaWithin case o a := by
  have hmem : a.target ∈ case.assertions.map (·.target) := mem_map_of_mem ha
  have hshape := mapError_eq_ok.1 hshape
  have hnamed : ∀ {names : List String} {f : Target → Option String} {i : String},
      sameSet names ((case.assertions.map (·.target)).filterMap f) → f a.target = some i →
      i ∈ names := fun h hf => (sameSet_iff.1 h _).2 (mem_filterMap.2 ⟨_, hmem, hf⟩)
  have htargetValid : a.target.valid := by
    simp only [XdpAssertion.valid, Bool.and_eq_true] at hvalid
    exact hvalid.2
  obtain ⟨hfields, hrest⟩ := seq_eq_ok.1 ho
  obtain ⟨-, hrest⟩ := seq_eq_ok.1 hrest
  -- where the assertion is no delta there is no bound to keep
  have hplain : ∀ {u}, (∀ i, a.target ≠ .mapDelta i) → observe case o a = .ok u →
      u.validate = .ok () → ((∃ v, observeAssertion case o a = .ok v) ↔ DeltaWithin case o a) :=
    fun hne hu hv => ⟨fun _ s _ hs => absurd hs (hne _),
      fun _ => (observeAssertion_of_validate hvalid hu).2 hv⟩
  have hfits := hw.fits a ha
  cases htarget : a.target with
  | retval =>
    refine hplain (u := .retval o.retval) (by simp [htarget]) (by simp [observe, htarget]) ?_
    have hretval : (!decide (o.retval < 2 ^ 32)) = false := refuse_at hfields 0 rfl
    exact refuse_eq_ok.2 (forall_mem_singleton.2 hretval)
  | packetBytes =>
    obtain ⟨x, hx, hhex⟩ := maskPresent_ok (by simpa [← htarget, hmem] using refuse_at hshape 0 rfl)
      (by simpa using refuse_at hfields 1 rfl) fun b hb => hfits .bytes b (by rwa [htarget])
    refine hplain (u := .packetBytes x) (by simp [htarget]) ?_ (refuse_eq_ok.2 (by simp [hhex]))
    simp only [observe, htarget]
    exact bind_eq_ok.2 ⟨x, hx, rfl⟩
  | contextBytes =>
    obtain ⟨x, hx, hhex⟩ := maskPresent_ok (by simpa [← htarget, hmem] using refuse_at hshape 1 rfl)
      (by simpa using refuse_at hfields 2 rfl) fun b hb => hfits .bytes b (by rwa [htarget])
    refine hplain (u := .contextBytes x) (by simp [htarget]) ?_ (refuse_eq_ok.2 (by simp [hhex]))
    simp only [observe, htarget]
    exact bind_eq_ok.2 ⟨x, hx, rfl⟩
  | mapSnapshot i =>
    have hname : i ∈ o.maps.map (·.mapId) :=
      hnamed (by simpa only [Bool.not_eq_false'] using refuse_at hshape 2 rfl)
      (by rw [htarget]; rfl)
    obtain ⟨s, hs, rfl, states, -, -, hafter, hstates, hlength, hsorted⟩ :=
      normalizedState_ok ho hnames hname hw ha (.inl htarget)
    refine hplain (u := .mapSnapshot s.mapId states.2) (by simp [htarget]) ?_ ?_
    · simp only [observe, htarget]
      exact bind_eq_ok.2 ⟨_, hstates, rfl⟩
    · rw [htarget] at htargetValid
      have hid : isStableId s.mapId := htargetValid
      rw [ObservedValue.validate, refuse_eq_ok]
      simp [hid, hlength, hsorted, nodup_normalized hafter]
  | mapDelta i =>
    have hname : i ∈ o.maps.map (·.mapId) :=
      hnamed (by simpa only [Bool.not_eq_false'] using refuse_at hshape 2 rfl)
      (by rw [htarget]; rfl)
    obtain ⟨s, hs, rfl, states, -, hbefore, hafter, hstates, -, -⟩ :=
      normalizedState_ok ho hnames hname hw ha (.inr htarget)
    rw [htarget] at htargetValid
    have hobserve : observe case o a = .ok (.mapDelta s.mapId (changesOf states.1 states.2)) := by
      simp only [observe, htarget, mapDelta_eq]
      exact bind_eq_ok.2 ⟨_, hstates, rfl⟩
    rw [observeAssertion_of_validate hvalid hobserve, validate_mapDelta htargetValid,
      length_changesOf hbefore hafter]
    constructor
    · intro hle t ht hid
      have hsame : s.mapId = t.mapId := Target.mapDelta.inj (htarget.symm.trans hid)
      rwa [← inj_on_of_nodup_map hnames.maps hs ht hsame]
    · intro hwithin
      exact hwithin s hs htarget
  | orderedEvents i =>
    have hname : i ∈ o.events.map (·.streamId) :=
      hnamed (by simpa only [Bool.not_eq_false'] using refuse_at hshape 3 rfl)
      (by rw [htarget]; rfl)
    obtain ⟨s, hs, rfl, hlookup⟩ := lookup_of_mem hnames.events hname
    have hevents : o.events.all (·.valid) := by
      have := refuse_at hrest 1 rfl
      simp only [Bool.not_eq_false', Bool.and_eq_true] at this
      exact this.2
    have hsv : s.valid := all_eq_true.1 hevents s hs
    simp only [EventStreamTrace.valid, Bool.and_eq_true, decide_eq_true_eq, all_eq_true] at hsv
    have hall : ∀ r ∈ s.records, Fits (maskRanges case a .record) r := fun r hr =>
      hfits .record r (by
        rw [htarget]
        exact mem_flatMap.2 ⟨s, mem_filter.2 ⟨hs, by simp⟩, hr⟩)
    refine hplain (u := .orderedEvents s.streamId (s.records.map
      (zeroed (maskRanges case a .record)))) (by simp [htarget]) ?_ ?_
    · simp only [observe, htarget]
      exact bind_eq_ok.2 ⟨s, hlookup, bind_eq_ok.2 ⟨_, mapM_maskBytes_eq_ok.2 ⟨hall, rfl⟩, rfl⟩⟩
    · have hrecords : (s.records.map (zeroed (maskRanges case a .record))).all
          nonEmptyHexBytes := by
        rw [all_map, all_eq_true]
        exact fun r hr => nonEmptyHexBytes_zeroed (hsv.2 r hr)
      rw [ObservedValue.validate, refuse_eq_ok]
      simp [hsv.1.1, hsv.1.2, -all_map, hrecords]
  | counter i mode =>
    have hname : i ∈ o.counters.map (·.counterId) :=
      hnamed (by simpa only [Bool.not_eq_false'] using refuse_at hshape 4 rfl)
      (by rw [htarget]; rfl)
    obtain ⟨s, hs, rfl, hlookup⟩ := lookup_of_mem hnames.counters hname
    have hcounters : o.counters.all (·.valid) := by
      have := refuse_at hrest 2 rfl
      simp only [Bool.not_eq_false', Bool.and_eq_true] at this
      exact this.2
    have hsv : s.valid := all_eq_true.1 hcounters s hs
    simp only [CounterTrace.valid, Bool.and_eq_true, decide_eq_true_eq] at hsv
    refine hplain (u := .counter s.counterId mode (s.value mode)) (by simp [htarget]) ?_ ?_
    · simp only [observe, htarget]
      exact bind_eq_ok.2 ⟨s, hlookup, rfl⟩
    · have hbounds : -2 ^ 64 + 1 ≤ s.value mode ∧ s.value mode ≤ 2 ^ 64 - 1 := by
        cases mode <;> simp only [CounterTrace.value] <;> omega
      rw [ObservedValue.validate, decide_eq_true hbounds.1, decide_eq_true hbounds.2, hsv.1.1]
      rfl

end Assertion

/-! ## One case -/

/-- What a valid case says of the fields that a normalized observation copies. -/
structure CaseValid (case : XdpOracleCase D) : Prop where
  caseId : isStableId case.caseId
  input : case.input.fixture.validate = .ok ()
  count : 1 ≤ case.assertions.length ∧ case.assertions.length ≤ maxAssertionsPerCase
  assertions : ∀ a ∈ case.assertions, a.valid
  ids : (case.assertions.map (·.assertionId)).Nodup
  ruleCount : case.normalizations.length ≤ maxNormalizationsPerCase
  ruleIds : ∀ r ∈ case.normalizations, isStableId r.normalizationId
  ruleNodup : (case.normalizations.map (·.normalizationId)).Nodup
  ruleSorted : isSorted (case.normalizations.map (·.normalizationId))

/-- A normalized observation that a case is compared by. -/
structure Aligned (case : XdpOracleCase D) (n : NormalizedObservation D) : Prop where
  caseId : n.caseId = case.caseId
  input : n.input = case.input
  kinds : n.assertions.map (fun o => (o.assertionId, o.value.kind)) =
    case.assertions.map fun a => (a.assertionId, a.target.kind)
  valid : n.validate = .ok ()

section Case

variable {case : XdpOracleCase D} {t : XdpCaseTrace D} {n : NormalizedObservation D}

theorem caseValid (h : case.validate = .ok ()) : CaseValid case := by
  obtain ⟨hid, h⟩ := seq_eq_ok.1 h
  obtain ⟨hinput, h⟩ := seq_eq_ok.1 h
  obtain ⟨hrules, h⟩ := seq_eq_ok.1 h
  obtain ⟨h, -⟩ := seq_eq_ok.1 h
  have hassertions := refuse_at h 0 rfl
  simp only [Bool.not_eq_false', Bool.and_eq_true, decide_eq_true_eq, all_eq_true]
    at hassertions
  refine ⟨by simpa using refuse_at hid 0 rfl, hinput, hassertions.1, hassertions.2,
    by simpa using refuse_at h 2 rfl, by simpa using refuse_at h 1 rfl, fun r hr => ?_,
    by simpa using refuse_at h 5 rfl, by simpa using refuse_at h 6 rfl⟩
  simpa using refuse_at (seq_eq_ok.1 (forM_eq_ok.1 hrules r hr)).1 0 rfl

theorem observe_kind {o : XdpRawObservation} {a : XdpAssertion} {u : ObservedValue}
    (h : observe case o a = .ok u) : u.kind = a.target.kind := by
  unfold observe at h
  cases htarget : a.target <;> simp only [htarget] at h
  case retval => cases h; rfl
  case packetBytes => obtain ⟨_, -, h⟩ := bind_eq_ok.1 h; cases h; rfl
  case contextBytes => obtain ⟨_, -, h⟩ := bind_eq_ok.1 h; cases h; rfl
  case mapSnapshot => obtain ⟨_, -, h⟩ := bind_eq_ok.1 h; cases h; rfl
  case mapDelta =>
    obtain ⟨_, -, h⟩ := bind_eq_ok.1 h
    obtain ⟨_, -, h⟩ := bind_eq_ok.1 h
    cases h
    rfl
  case orderedEvents =>
    obtain ⟨_, -, h⟩ := bind_eq_ok.1 h
    obtain ⟨_, -, h⟩ := bind_eq_ok.1 h
    cases h
    rfl
  case counter => obtain ⟨_, -, h⟩ := bind_eq_ok.1 h; cases h; rfl

/-- What is observed for an assertion is a valid observation of its ID and kind. -/
theorem observeAssertion_spec {o : XdpRawObservation} {a : XdpAssertion} {v : AssertionObservation}
    (h : observeAssertion case o a = .ok v) :
    v.validate = .ok () ∧ v.assertionId = a.assertionId ∧ v.value.kind = a.target.kind := by
  obtain ⟨u, hu, h⟩ := bind_eq_ok.1 h
  obtain ⟨hvalid, h⟩ := seq_eq_ok.1 h
  cases h
  exact ⟨mapError_eq_ok.1 hvalid, rfl, observe_kind hu⟩

theorem aligned_normalizeCase (h : normalizeCase case t = .ok n) : Aligned case n := by
  obtain ⟨-, h⟩ := seq_eq_ok.1 h
  obtain ⟨observations, hobs, h⟩ := bind_eq_ok.1 h
  obtain ⟨hvalid, h⟩ := seq_eq_ok.1 h
  cases h
  refine ⟨rfl, rfl, map_of_mapM hobs fun a v hv => ?_, mapError_eq_ok.1 hvalid⟩
  obtain ⟨-, hid, hkind⟩ := observeAssertion_spec hv
  rw [hid, hkind]

/-- A case is normalized exactly if its deltas are within the bound. -/
theorem normalizeCase_ok_iff (hcase : CaseValid case) (ho : t.observation.validate = .ok ())
    (hnames : NamesUnique t.observation)
    (hshape : validateObservationShape case t.observation = .ok ())
    (hw : WellMasked case t.observation) :
    (∃ n, normalizeCase case t = .ok n) ↔
      ∀ a ∈ case.assertions, DeltaWithin case t.observation a := by
  have hiff := fun a ha => observeAssertion_ok_iff ho hnames hshape hw ha (hcase.assertions a ha)
  constructor
  · rintro ⟨n, h⟩ a ha
    obtain ⟨-, h⟩ := seq_eq_ok.1 h
    obtain ⟨observations, hobs, -⟩ := bind_eq_ok.1 h
    obtain ⟨v, -, hv⟩ := mem_of_mapM hobs ha
    exact (hiff a ha).1 ⟨v, hv⟩
  · intro hwithin
    obtain ⟨observations, hobs⟩ := mapM_ok fun a ha => (hiff a ha).2 (hwithin a ha)
    have hids : observations.map (·.assertionId) = case.assertions.map (·.assertionId) :=
      map_of_mapM hobs fun a v hv => (observeAssertion_spec hv).2.1
    have hlength : observations.length = case.assertions.length := by
      simpa using congrArg length hids
    refine ⟨_, seq_eq_ok.2 ⟨hshape, bind_eq_ok.2 ⟨observations, hobs,
      seq_eq_ok.2 ⟨mapError_eq_ok.2 ?_, rfl⟩⟩⟩⟩
    refine seq_eq_ok.2 ⟨refuse_eq_ok.2 (by simp [hcase.caseId]), seq_eq_ok.2 ⟨hcase.input,
      seq_eq_ok.2 ⟨forM_eq_ok.2 fun v hv => ?_, refuse_eq_ok.2 ?_⟩⟩⟩
    · obtain ⟨a, -, ha⟩ := exists_of_mapM hobs hv
      exact (observeAssertion_spec ha).1
    · have hrules : (case.normalizations.map (·.normalizationId)).all isStableId := by
        rw [all_map, all_eq_true]
        exact hcase.ruleIds
      simp [hids, hlength, hcase.count, hcase.ids, hcase.ruleCount, -all_map, hrules,
        hcase.ruleNodup, hcase.ruleSorted]

end Case

/-! ## The report -/

section Report

variable (K : Digests D) [DecidableEq D] (i : Nat) (first : Option (FirstDivergence D))

/-- The loop over the assertions ends, and the validator's loop comes to what it
found. -/
theorem compareAssertions_ok (caseIndex : Nat) (caseId : String) {ds : List XdpAssertion}
    {as es : List AssertionObservation}
    (ha : as.map (fun o => (o.assertionId, o.value.kind)) =
      ds.map fun a => (a.assertionId, a.target.kind))
    (he : es.map (fun o => (o.assertionId, o.value.kind)) =
      ds.map fun a => (a.assertionId, a.target.kind)) :
    ∃ out, compareAssertions K caseIndex caseId i first ds as es = .ok out ∧
      checkAssertions K caseIndex caseId i first as es out.1 = .ok out.2 ∧
      out.1.map (fun c => (c.assertionId, c.weight)) =
        ds.map fun d => (d.assertionId, d.weight) := by
  induction ds generalizing i first as es with
  | nil =>
    rw [map_eq_nil_iff.1 ha, map_eq_nil_iff.1 he]
    exact ⟨_, rfl, rfl, rfl⟩
  | cons d ds ih =>
    obtain ⟨a, as, rfl, had, ha⟩ := map_eq_cons_iff.1 ha
    obtain ⟨e, es, rfl, hed, he⟩ := map_eq_cons_iff.1 he
    obtain ⟨out, hout, hcheck, hviews⟩ :=
      ih (i + 1) (nextDivergence first caseIndex i caseId (compareOne K d a e)) ha he
    obtain ⟨haid, hakind⟩ := Prod.mk.inj had
    obtain ⟨heid, hekind⟩ := Prod.mk.inj hed
    refine ⟨_, bind_eq_ok.2 ⟨out, hout, rfl⟩, ?_, ?_⟩
    · refine seq_eq_ok.2 ⟨refuse_eq_ok.2 ?_, hcheck⟩
      simp [compareOne, haid, heid, hakind, hekind]
    · rw [map_cons, map_cons, hviews]
      rfl

theorem compareCases_ok {cs : List (XdpOracleCase D)} {as es : List (NormalizedObservation D)}
    (ha : List.Forall₂ Aligned cs as) (he : List.Forall₂ Aligned cs es)
    (hcs : ∀ c ∈ cs, CaseValid c) :
    ∃ out, compareCases K i first cs as es = .ok out ∧
      checkCases K i first as es out.1 = .ok out.2 ∧ out.1.length = cs.length ∧
      ∀ r ∈ out.1, r.validate = .ok () := by
  induction ha generalizing i first es with
  | nil =>
    cases he
    exact ⟨_, rfl, rfl, rfl, fun r hr => absurd hr not_mem_nil⟩
  | @cons c a cs as hca _ ih =>
    obtain ⟨e, es, hce, hes, rfl⟩ := forall₂_cons_left_iff.1 he
    obtain ⟨hc, hcs⟩ := forall_mem_cons.1 hcs
    obtain ⟨compared, hcompared, hcheck, hviews⟩ :=
      compareAssertions_ok K 0 first i c.caseId hca.kinds hce.kinds
    obtain ⟨out, hout, hchecks, hlength, hvalid⟩ := ih (i + 1) compared.2 hes hcs
    have hsize : compared.1.length = c.assertions.length := by
      simpa using congrArg length hviews
    have hasize : a.assertions.length = c.assertions.length := by
      simpa using congrArg length hca.kinds
    have hesize : e.assertions.length = c.assertions.length := by
      simpa using congrArg length hce.kinds
    refine ⟨_, bind_eq_ok.2 ⟨compared, hcompared, bind_eq_ok.2 ⟨out, hout, rfl⟩⟩, ?_, ?_,
      forall_mem_cons.2 ⟨?_, hvalid⟩⟩
    · refine seq_eq_ok.2 ⟨refuse_eq_ok.2 ?_, bind_eq_ok.2 ⟨_, hcheck, hchecks⟩⟩
      simp [hca.caseId, hce.caseId, hca.input, hce.input, hasize, hesize, hsize]
    · rw [length_cons, length_cons, hlength]
    · refine seq_eq_ok.2 ⟨refuse_eq_ok.2 (by simp [hc.caseId]), seq_eq_ok.2 ⟨hc.input,
        refuse_eq_ok.2 ?_⟩⟩
      have hall : compared.1.all fun x => isStableId x.assertionId && validWeight x.weight := by
        have hds : (c.assertions.map fun d => (d.assertionId, d.weight)).all fun p =>
            isStableId p.1 && validWeight p.2 := by
          rw [all_map, all_eq_true]
          intro d hd
          have := hc.assertions d hd
          simp only [XdpAssertion.valid, Bool.and_eq_true] at this
          simp [this.1]
        rwa [← hviews, all_map] at hds
      simp [hsize, hc.count, hall]

variable {K} {contract : XdpOracleContract D} {candidate reference trace : XdpTrace D} {role : Role}

omit [DecidableEq D] in
theorem normalizeCases_ok_iff (hlength : trace.cases.length = contract.cases.length) :
    (∃ ns, normalizeCases contract trace = .ok ns) ↔
      ∀ p ∈ contract.cases.zip trace.cases, ∃ n, normalizeCase p.1 p.2 = .ok n := by
  constructor
  · rintro ⟨ns, h⟩ p hp
    obtain ⟨n, -, hn⟩ := mem_of_mapM (ite_error_eq_ok.1 h).2 hp
    exact ⟨n, hn⟩
  · intro h
    obtain ⟨ns, hns⟩ := mapM_ok h
    exact ⟨ns, ite_error_eq_ok.2 ⟨not_not.2 hlength.symm, hns⟩⟩

omit [DecidableEq D] in
theorem aligned_normalizeCases {ns : List (NormalizedObservation D)}
    (h : normalizeCases contract trace = .ok ns) : List.Forall₂ Aligned contract.cases ns := by
  obtain ⟨hlength, hmap⟩ := ite_error_eq_ok.1 h
  have hns : contract.cases.length = ns.length := by
    have hzip : (contract.cases.zip trace.cases).length = ns.length := by
      simpa using congrArg length (mapM_eq_ok.1 hmap)
    rw [length_zip] at hzip
    omega
  refine forall₂_iff_get.2 ⟨hns, fun i hi hi' => ?_⟩
  obtain ⟨t, n, -, hn, hnorm⟩ := getElem?_normalizeCases h (getElem?_eq_getElem hi)
  rw [getElem?_eq_getElem hi', Option.some.injEq] at hn
  rw [get_eq_getElem, get_eq_getElem, hn]
  exact aligned_normalizeCase hnorm

theorem validateTrace_eq_ok (h : validateTrace contract trace role = .ok ()) :
    trace.cases.length = contract.cases.length ∧
      ∀ p ∈ contract.cases.zip trace.cases,
        validateObservationShape p.1 p.2.observation = .ok () := by
  obtain ⟨hchecks, h⟩ := seq_eq_ok.1 h
  refine ⟨by simpa using refuse_at (mapError_eq_ok.1 hchecks) 3 rfl, fun p hp => ?_⟩
  exact (seq_eq_ok.1 (forM_eq_ok.1 h p hp)).2

omit [DecidableEq D] in
theorem cases_valid (h : contract.validate = .ok ()) :
    (∀ c ∈ contract.cases, CaseValid c) ∧ caseCountValid contract.cases.length := by
  obtain ⟨-, h⟩ := seq_eq_ok.1 h
  obtain ⟨-, h⟩ := seq_eq_ok.1 h
  obtain ⟨-, h⟩ := seq_eq_ok.1 h
  obtain ⟨hcases, h⟩ := seq_eq_ok.1 h
  refine ⟨fun c hc => caseValid (forM_eq_ok.1 hcases c hc), ?_⟩
  have hcount := refuse_at h 0 rfl
  rw [Bool.not_eq_false'] at hcount
  exact hcount

omit [DecidableEq D] in
/-- A trace that passed its checks is normalized exactly if its deltas are within the
bound. -/
theorem normalizeCases_iff_deltas (hcases : ∀ c ∈ contract.cases, CaseValid c)
    (htrace : trace.validate = .ok ()) (hlength : trace.cases.length = contract.cases.length)
    (hshape : ∀ p ∈ contract.cases.zip trace.cases,
      validateObservationShape p.1 p.2.observation = .ok ())
    (hw : ∀ p ∈ contract.cases.zip trace.cases, WellMasked p.1 p.2.observation) :
    (∃ ns, normalizeCases contract trace = .ok ns) ↔
      ∀ p ∈ contract.cases.zip trace.cases, ∀ a ∈ p.1.assertions,
        DeltaWithin p.1 p.2.observation a := by
  rw [normalizeCases_ok_iff hlength]
  refine forall₂_congr fun p hp => ?_
  obtain ⟨hcase, htr⟩ := of_mem_zip hp
  obtain ⟨-, h⟩ := seq_eq_ok.1 htrace
  obtain ⟨-, h⟩ := seq_eq_ok.1 h
  obtain ⟨-, ht⟩ := seq_eq_ok.1 (forM_eq_ok.1 (seq_eq_ok.1 h).1 p.2 htr)
  exact normalizeCase_ok_iff (hcases p.1 hcase) (seq_eq_ok.1 ht).2 (namesUnique htrace htr)
    (hshape p hp) (hw p hp)

omit [DecidableEq D] in
theorem firstDivergence_valid {actual expected : List (NormalizedObservation D)}
    {out : List (OracleCaseResult D) × Option (FirstDivergence D)}
    (hcases : ∀ c ∈ contract.cases, CaseValid c) (hcount : caseCountValid contract.cases.length)
    (h : compareCases K 0 none contract.cases actual expected = .ok out) :
    out.2.all (·.valid) := by
  rw [Option.all_eq_true]
  intro f hf
  rw [(compareCases_spec h).1, Option.none_or] at hf
  obtain ⟨j, c, a, e, hc, -, -, hmem⟩ := mem_allMismatches.1 (mem_of_head? hf)
  obtain ⟨k, d, a', e', hd, -, -, -, -, rfl⟩ := mem_mismatches.1 hmem
  have hvalid := hcases c (mem_of_getElem? hc)
  have hdvalid := hvalid.assertions d (mem_of_getElem? hd)
  simp only [XdpAssertion.valid, Bool.and_eq_true] at hdvalid
  simp only [caseCountValid, Bool.and_eq_true, decide_eq_true_eq] at hcount
  have hj := (List.getElem?_eq_some_iff.1 hc).1
  have hk := (List.getElem?_eq_some_iff.1 hd).1
  have hcount' := hvalid.count.2
  have hcaseIndex : 0 + j < maxOracleCases := by omega
  have hassertionIndex : 0 + k < maxAssertionsPerCase := by omega
  simp only [FirstDivergence.valid, divergence, Bool.and_eq_true]
  exact ⟨⟨⟨decide_eq_true hcaseIndex, decide_eq_true hassertionIndex⟩, hvalid.caseId⟩, hdvalid.1.1⟩

/-- The report of two normalized traces is built, and passes its own checks. -/
theorem report_ok {actual expected : List (NormalizedObservation D)}
    (hcontract : contract.validate = .ok ()) (hcandidate : candidate.validate = .ok ())
    (hreference : reference.validate = .ok ())
    (hactual : normalizeCases contract candidate = .ok actual)
    (hexpected : normalizeCases contract reference = .ok expected) :
    ∃ compared, compareCases K 0 none contract.cases actual expected = .ok compared ∧
      (reportOf K contract candidate reference actual expected compared).validate K = .ok () := by
  obtain ⟨hcases, hcount⟩ := cases_valid hcontract
  have ha := aligned_normalizeCases hactual
  have he := aligned_normalizeCases hexpected
  obtain ⟨out, hout, hchecks, hlength, hresults⟩ := compareCases_ok K 0 none ha he hcases
  have hvalid : ∀ {ns : List (NormalizedObservation D)}, List.Forall₂ Aligned contract.cases ns →
      ns.forM NormalizedObservation.validate = .ok () := by
    intro ns hns
    refine forM_eq_ok.2 fun n hn => ?_
    obtain ⟨j, hj, rfl⟩ := mem_iff_getElem.1 hn
    exact ((forall₂_iff_get.1 hns).2 j (hns.length_eq ▸ hj) hj).valid
  obtain ⟨hidentity, hrest⟩ := seq_eq_ok.1 hcontract
  have hprogram : ∀ {t : XdpTrace D}, t.validate = .ok () → t.program.validate = .ok () :=
    fun h => (seq_eq_ok.1 (seq_eq_ok.1 h).2).1
  refine ⟨out, hout, seq_eq_ok.2 ⟨hidentity, seq_eq_ok.2 ⟨(seq_eq_ok.1 hrest).1,
    seq_eq_ok.2 ⟨hprogram hcandidate, seq_eq_ok.2 ⟨hprogram hreference,
      seq_eq_ok.2 ⟨hvalid ha, seq_eq_ok.2 ⟨hvalid he, seq_eq_ok.2 ⟨forM_eq_ok.2 hresults,
        seq_eq_ok.2 ⟨refuse_eq_ok.2 ?_, bind_eq_ok.2 ⟨_, hchecks, refuse_eq_ok.2 ?_⟩⟩⟩⟩⟩⟩⟩⟩⟩⟩
  · have hfirst := firstDivergence_valid hcases hcount hout
    simp [reportOf, ← ha.length_eq, ← he.length_eq, hlength, hcount, hfirst]
  · simp [reportOf]

/-- On valid records that pass `_validate_trace`, with masks within the bytes they mask
and keys that stay distinct, a report is returned exactly if, for every map delta
that is asserted, at most as many keys change as a `MapDeltaObservation` holds. -/
theorem deriveOracleReport_returns_iff (K : Digests D) (contract : XdpOracleContract D)
    (candidate reference : XdpTrace D) (hcontract : contract.validate = .ok ())
    (hcandidate : candidate.validate = .ok ()) (hreference : reference.validate = .ok ())
    (hc : validateTrace contract candidate .candidate = .ok ())
    (hr : validateTrace contract reference .reference = .ok ())
    (hmasks : ∀ p ∈ contract.cases.zip candidate.cases ++ contract.cases.zip reference.cases,
      WellMasked p.1 p.2.observation) :
    (∃ report, deriveOracleReport K contract candidate reference = .ok report) ↔
      ∀ p ∈ contract.cases.zip candidate.cases ++ contract.cases.zip reference.cases,
        ∀ a ∈ p.1.assertions, DeltaWithin p.1 p.2.observation a := by
  obtain ⟨hcases, -⟩ := cases_valid hcontract
  obtain ⟨hclength, hcshape⟩ := validateTrace_eq_ok hc
  obtain ⟨hrlength, hrshape⟩ := validateTrace_eq_ok hr
  obtain ⟨hcmasks, hrmasks⟩ := forall_mem_append.1 hmasks
  rw [forall_mem_append,
    ← normalizeCases_iff_deltas hcases hcandidate hclength hcshape hcmasks,
    ← normalizeCases_iff_deltas hcases hreference hrlength hrshape hrmasks]
  constructor
  · rintro ⟨report, h⟩
    obtain ⟨-, -, actual, expected, -, hactual, hexpected, -⟩ := deriveOracleReport_eq_ok h
    exact ⟨⟨actual, hactual⟩, ⟨expected, hexpected⟩⟩
  · rintro ⟨⟨actual, hactual⟩, ⟨expected, hexpected⟩⟩
    obtain ⟨compared, hcompared, hreport⟩ :=
      report_ok hcontract hcandidate hreference hactual hexpected
    exact ⟨_, seq_eq_ok.2 ⟨mapError_eq_ok.2 hcontract, seq_eq_ok.2 ⟨mapError_eq_ok.2 hcandidate,
      seq_eq_ok.2 ⟨mapError_eq_ok.2 hreference, seq_eq_ok.2 ⟨hc, seq_eq_ok.2 ⟨hr,
        bind_eq_ok.2 ⟨_, hactual, bind_eq_ok.2 ⟨_, hexpected, bind_eq_ok.2 ⟨_, hcompared,
          seq_eq_ok.2 ⟨mapError_eq_ok.2 hreport, rfl⟩⟩⟩⟩⟩⟩⟩⟩⟩⟩

end Report

/-! ## A delta that is too large -/

section Sample

variable {before after : List MapEntry} {role : Role}

theorem fits_nil {x : Bytes} : Fits [] x := fun _ hr => absurd hr not_mem_nil

theorem keysStay_nil : KeysStay [] before := fun e _ e' _ h => by rwa [zeroed_nil, zeroed_nil] at h

theorem sample_wellMasked : WellMasked sampleCase (sampleObservation before after) := by
  exact ⟨fun _ _ _ _ _ => fits_nil, fun _ _ _ _ _ => ⟨keysStay_nil, keysStay_nil⟩⟩

theorem sample_validate (hbefore : before.length ≤ maxCollectionItems)
    (hafter : after.length ≤ maxCollectionItems) (hbkeys : (before.map (·.key)).Pairwise (· < ·))
    (hakeys : (after.map (·.key)).Pairwise (· < ·))
    (hsize : (sampleObservation before after).byteSize ≤ maxObservationBytes) :
    (sampleTrace role before after).validate = .ok () := by
  have hidentity : sampleIdentity.validate = .ok () := by decide +kernel
  have hprogram : sampleProgram.validate = .ok () := by decide +kernel
  have hinput : sampleInput.fixture.validate = .ok () := by decide +kernel
  have hids : isStableId "case" ∧ isStableId "counts" := by decide +kernel
  have hmap : (⟨"counts", before, after⟩ : MapStateTrace).validate = .ok () := by
    have hb : isSorted (before.map (·.key)) := isSorted_iff.2 (hbkeys.imp le_of_lt)
    have ha : isSorted (after.map (·.key)) := isSorted_iff.2 (hakeys.imp le_of_lt)
    have hbn : (before.map (·.key)).Nodup := hbkeys.imp ne_of_lt
    have han : (after.map (·.key)).Nodup := hakeys.imp ne_of_lt
    rw [MapStateTrace.validate, refuse_eq_ok]
    simp [hids.2, hbefore, hafter, hb, ha, hbn, han]
  have hobservation : (sampleObservation before after).validate = .ok () := by
    have hbytes : decide ((sampleObservation before after).byteSize > maxObservationBytes) =
        false := decide_eq_false (not_lt.2 hsize)
    refine seq_eq_ok.2 ⟨rfl, seq_eq_ok.2 ⟨forM_eq_ok.2 (forall_mem_singleton.2 hmap), ?_⟩⟩
    rw [hbytes]
    rfl
  have hcase : XdpCaseTrace.validate ⟨"case", sampleInput, sampleObservation before after⟩ =
      .ok () :=
    seq_eq_ok.2 ⟨refuse_eq_ok.2 (by simp [hids.1]), seq_eq_ok.2 ⟨hinput, hobservation⟩⟩
  have htotal : [(sampleObservation before after).byteSize].sum ≤ maxTraceObservationBytes := by
    rw [sum_singleton]
    exact hsize.trans (by decide)
  refine seq_eq_ok.2 ⟨hidentity, seq_eq_ok.2 ⟨hprogram, seq_eq_ok.2
    ⟨forM_eq_ok.2 (forall_mem_singleton.2 hcase), refuse_eq_ok.2 ?_⟩⟩⟩
  simpa [sampleTrace, maxOracleCases] using htotal

theorem sample_validateTrace :
    validateTrace sampleContract (sampleTrace role before after) role = .ok () := by
  cases role <;> rfl

theorem sampleContract_validate : sampleContract.validate = .ok () := by decide +kernel

theorem deriveOracleReport_returns_iff_sample :
    (∃ report, deriveOracleReport sampleDigests sampleContract
        (sampleTrace .candidate [] [smallEntry 1 5])
        (sampleTrace .reference [] [smallEntry 1 6]) = .ok report) ↔
      ∀ p ∈ sampleContract.cases.zip (sampleTrace .candidate [] [smallEntry 1 5]).cases ++
          sampleContract.cases.zip (sampleTrace .reference [] [smallEntry 1 6]).cases,
        ∀ a ∈ p.1.assertions, DeltaWithin p.1 p.2.observation a :=
  deriveOracleReport_returns_iff _ _ _ _ sampleContract_validate
    (sample_validate (by decide) (by decide) (by decide) (by decide) (by decide))
    (sample_validate (by decide) (by decide) (by decide) (by decide) (by decide))
    sample_validateTrace sample_validateTrace
    (forall_mem_cons.2 ⟨sample_wellMasked, forall_mem_singleton.2 sample_wellMasked⟩)

theorem wide_valid (n : Nat) : nonEmptyHexBytes [byte (n / 256), byte n] := by
  simp [nonEmptyHexBytes, hexBytes, maxObservationBytes]

/-- An entry with a number as its key of two bytes. -/
def wideEntry (n : Nat) : MapEntry :=
  ⟨[byte (n / 256), byte n], [byte 0], wide_valid n, byte_valid 0⟩

def manyEntries : List MapEntry := (range maxCollectionItems).map wideEntry

theorem wideEntry_lt {m n : Nat} (hmn : m < n) (hn : n < 65536) :
    (wideEntry m).key < (wideEntry n).key := by
  have hle : m / 256 ≤ n / 256 := Nat.div_le_div_right (le_of_lt hmn)
  have hbyte : ∀ k < 65536, k / 256 % 256 = k / 256 := fun k hk => Nat.mod_eq_of_lt (by omega)
  have hm := hbyte m (by omega)
  have hn := hbyte n hn
  show [byte (m / 256), byte m] < [byte (n / 256), byte n]
  rw [cons_lt_cons_iff, cons_lt_cons_iff]
  rcases lt_or_eq_of_le hle with hlt | heq
  · refine .inl (Fin.lt_def.2 ?_)
    simp only [byte, hm, hn]
    exact hlt
  · refine .inr ⟨by rw [heq], .inl (Fin.lt_def.2 ?_)⟩
    simp only [byte]
    omega

theorem manyEntries_keys : ((manyEntries ++ [wideEntry maxCollectionItems]).map (·.key)).Pairwise
    (· < ·) := by
  have hrange : manyEntries ++ [wideEntry maxCollectionItems] =
      (range (maxCollectionItems + 1)).map wideEntry := by
    rw [range_succ, map_append]
    rfl
  rw [hrange, map_map, pairwise_map]
  refine pairwise_lt_range.imp_of_mem fun hm hn hmn => wideEntry_lt hmn ?_
  have := mem_range.1 hn
  simp only [maxCollectionItems] at this
  omega

/-- Where no key is on both sides, every entry is a change. -/
theorem length_le_changesOf {ns ms : List MapEntry} (h : ((ns ++ ms).map (·.key)).Nodup) :
    ns.length + ms.length ≤ (changesOf ns ms).length := by
  have hsub : (ns ++ ms).map (·.key) ⊆ (changesOf ns ms).map (·.key) := by
    intro key hkey
    rw [map_key_changesOf, mem_differing mem_union_of_differ]
    intro heq
    rw [map_append] at h hkey
    have hiff : key ∈ ns.map (·.key) ↔ key ∈ ms.map (·.key) := by
      have hnone := congrArg (· = none) heq
      simp only [byKey_eq_none, eq_iff_iff, not_iff_not] at hnone
      exact hnone
    have hboth : key ∈ ns.map (·.key) ∧ key ∈ ms.map (·.key) := by
      rcases mem_append.1 hkey with hk | hk
      · exact ⟨hk, hiff.1 hk⟩
      · exact ⟨hiff.2 hk, hk⟩
    exact (disjoint_of_nodup_append h) hboth.1 hboth.2
  simpa using (h.subperm hsub).length_le

theorem normalized_keys (entries : List MapEntry) (h : (entries.map (·.key)).Nodup) :
    ∃ ns, normalizedEntries entries [] [] = .ok ns ∧
      (ns.map (·.key)).Perm (entries.map (·.key)) := by
  obtain ⟨ns, hns, hperm, -⟩ := @normalizedEntries_ok [] [] _ h
    (fun e _ => ⟨fits_nil, fits_nil⟩) keysStay_nil
  exact ⟨ns, hns, hperm.trans (List.Perm.of_eq (map_congr_left fun e _ => zeroed_nil))⟩

/-- The sample's delta of disjoint maps with too many entries is not derived. -/
theorem sample_too_large {reference : XdpTrace Nat}
    (hkeys : ((before ++ after).map (·.key)).Pairwise (· < ·))
    (hvalid : (sampleTrace .candidate before after).validate = .ok ())
    (hlarge : maxCollectionItems < before.length + after.length) :
    ¬ ∃ report, deriveOracleReport sampleDigests sampleContract
      (sampleTrace .candidate before after) reference = .ok report := by
  rintro ⟨report, h⟩
  obtain ⟨-, -, actual, expected, -, hactual, -⟩ := deriveOracleReport_eq_ok h
  have hwithin := (normalizeCases_iff_deltas (cases_valid sampleContract_validate).1 hvalid rfl
    (validateTrace_eq_ok sample_validateTrace).2
    (forall_mem_singleton.2 sample_wellMasked)).1 ⟨actual, hactual⟩ _ mem_cons_self
    ⟨"changes", true, 1, .mapDelta "counts"⟩ (mem_cons_of_mem _ mem_cons_self) _
    mem_cons_self rfl
  have hsplit := hkeys
  rw [map_append, pairwise_append] at hsplit
  obtain ⟨ns, hns, hnkeys⟩ := normalized_keys before (hsplit.1.imp ne_of_lt)
  obtain ⟨ms, hms, hmkeys⟩ := normalized_keys after (hsplit.2.1.imp ne_of_lt)
  have hnodup : ((ns ++ ms).map (·.key)).Nodup := by
    rw [map_append, (hnkeys.append hmkeys).nodup_iff, ← map_append]
    exact hkeys.imp ne_of_lt
  have hchanges := length_le_changesOf hnodup
  have hn : ns.length = before.length := by simpa using hnkeys.length_eq
  have hm : ms.length = after.length := by simpa using hmkeys.length_eq
  rw [length_changesOf (s := ⟨"counts", before, after⟩) hns hms, hn, hm] at hchanges
  exact absurd (hchanges.trans hwithin) (not_le.2 hlarge)

/-- A map that loses all of its entries but for a new one changes at more keys than a
delta holds: no report is derived, though every record is valid. -/
theorem deriveOracleReport_raises :
    let candidate := sampleTrace .candidate manyEntries [wideEntry maxCollectionItems]
    let reference := sampleTrace .reference [] []
    sampleContract.validate = .ok () ∧ candidate.validate = .ok () ∧
      reference.validate = .ok () ∧ validateTrace sampleContract candidate .candidate = .ok () ∧
      validateTrace sampleContract reference .reference = .ok () ∧
      (∀ p ∈ sampleContract.cases.zip candidate.cases ++ sampleContract.cases.zip reference.cases,
        WellMasked p.1 p.2.observation) ∧
      ¬ ∃ report, deriveOracleReport sampleDigests sampleContract candidate reference =
        .ok report := by
  have hkeys := manyEntries_keys
  rw [map_append, pairwise_append] at hkeys
  have hlength : manyEntries.length = maxCollectionItems := by simp [manyEntries]
  have hsize : (sampleObservation manyEntries [wideEntry maxCollectionItems]).byteSize ≤
      maxObservationBytes := by
    have hthree : (manyEntries ++ [wideEntry maxCollectionItems]).map
        (fun e => e.key.length + e.value.length) =
          replicate (maxCollectionItems + 1) 3 := by
      refine eq_replicate_iff.2 ⟨by simp [hlength], fun n hn => ?_⟩
      obtain ⟨e, he, rfl⟩ := mem_map.1 hn
      rcases mem_append.1 he with he | he
      · obtain ⟨m, -, rfl⟩ := mem_map.1 he
        rfl
      · rw [mem_singleton.1 he]
        rfl
    simp only [XdpRawObservation.byteSize, sampleObservation, map_cons, hthree,
      sum_replicate]
    decide
  have hvalid : (sampleTrace .candidate manyEntries [wideEntry maxCollectionItems]).validate =
      .ok () :=
    sample_validate (le_of_eq hlength) (by decide) hkeys.1 hkeys.2.1 hsize
  refine ⟨sampleContract_validate, hvalid,
    sample_validate (by decide) (by decide) (by decide) (by decide) (by decide),
    sample_validateTrace, sample_validateTrace,
    forall_mem_cons.2 ⟨sample_wellMasked, forall_mem_singleton.2 sample_wellMasked⟩, ?_⟩
  exact sample_too_large manyEntries_keys hvalid (by rw [hlength]; exact Nat.lt_succ_self _)

end Sample

end Bpe.Oracle
