import Bpe.Oracle.Mask

/-!
# The verdict

A report is a strict success exactly if every required assertion of every case
agrees between the two traces, and its first divergence is the first that does not.
-/

namespace Bpe.Oracle

open List Option

variable {D : Type}

/-! ## Agreement of one assertion -/

/-- The ranges that are declared for a component of an assertion. -/
def maskRanges (case : XdpOracleCase D) (a : XdpAssertion) (component : Component) :
    List ByteRange :=
  rangesOf (rulesFor case a.assertionId component)

/-- The masked key changed from the one masked value to the other; an absent key has
no value. -/
def Changed (rs ss : List ByteRange) (s : MapStateTrace) (key : Bytes) (old new : Option Bytes) :
    Prop :=
  old ≠ new ∧ (∀ value, old = some value ↔ MaskedIn rs ss s.before key value) ∧
    ∀ value, new = some value ↔ MaskedIn rs ss s.after key value

/-- Two runs agree on what an assertion declares. -/
def Agrees (case : XdpOracleCase D) (a : XdpAssertion) (c r : XdpRawObservation) : Prop :=
  match a.target with
  | .retval => c.retval = r.retval
  | .packetBytes => ∃ x y, c.packetBytes = some x ∧ r.packetBytes = some y ∧
      BytesAgree (maskRanges case a .bytes) x y
  | .contextBytes => ∃ x y, c.contextBytes = some x ∧ r.contextBytes = some y ∧
      BytesAgree (maskRanges case a .bytes) x y
  | .mapSnapshot i => ∃ s ∈ c.maps, ∃ t ∈ r.maps, s.mapId = i ∧ t.mapId = i ∧ ∀ key value,
      MaskedIn (maskRanges case a .key) (maskRanges case a .value) s.after key value ↔
        MaskedIn (maskRanges case a .key) (maskRanges case a .value) t.after key value
  | .mapDelta i => ∃ s ∈ c.maps, ∃ t ∈ r.maps, s.mapId = i ∧ t.mapId = i ∧ ∀ key old new,
      Changed (maskRanges case a .key) (maskRanges case a .value) s key old new ↔
        Changed (maskRanges case a .key) (maskRanges case a .value) t key old new
  | .orderedEvents i => ∃ s ∈ c.events, ∃ t ∈ r.events, s.streamId = i ∧ t.streamId = i ∧
      List.Forall₂ (BytesAgree (maskRanges case a .record)) s.records t.records
  | .counter i mode => ∃ s ∈ c.counters, ∃ t ∈ r.counters, s.counterId = i ∧ t.counterId = i ∧
      s.value mode = t.value mode

/-- The named traces of an observation have distinct names. -/
structure NamesUnique (o : XdpRawObservation) : Prop where
  maps : (o.maps.map (·.mapId)).Nodup
  events : (o.events.map (·.streamId)).Nodup
  counters : (o.counters.map (·.counterId)).Nodup

theorem lookup_eq_ok {α : Type} {key : α → String} {items : List α} {k : String} {s : α}
    (hitems : (items.map key).Nodup) : lookup key items k = .ok s ↔ s ∈ items ∧ key s = k := by
  have hsome : dictOf key id items k = some s ↔ s ∈ items ∧ key s = k := by
    rw [dictOf_eq_some hitems]
    exact ⟨fun ⟨e, he, hk, hs⟩ => hs ▸ ⟨he, hk⟩, fun ⟨hs, hk⟩ => ⟨s, hs, hk, rfl⟩⟩
  rw [← hsome, lookup]
  cases dictOf key id items k <;> simp

/-- Where two names are looked up, the traces that have them are the ones found. -/
theorem exists_lookup_iff {α : Type} {key : α → String} {items items' : List α} {k : String}
    {s t : α} {P : α → α → Prop} (hitems : (items.map key).Nodup)
    (hitems' : (items'.map key).Nodup) (hs : lookup key items k = .ok s)
    (ht : lookup key items' k = .ok t) :
    (∃ s ∈ items, ∃ t ∈ items', key s = k ∧ key t = k ∧ P s t) ↔ P s t := by
  obtain ⟨hmem, hkey⟩ := (lookup_eq_ok hitems).1 hs
  obtain ⟨hmem', hkey'⟩ := (lookup_eq_ok hitems').1 ht
  constructor
  · rintro ⟨s', hs', t', ht', hk, hk', hP⟩
    rwa [inj_on_of_nodup_map hitems hs' hmem (hk.trans hkey.symm),
      inj_on_of_nodup_map hitems' ht' hmem' (hk'.trans hkey'.symm)] at hP
  · intro hP
    exact ⟨s, hmem, t, hmem', hkey, hkey', hP⟩

theorem normalizedState_eq_ok {case : XdpOracleCase D} {raw : XdpRawObservation}
    {assertionId mapId : String} {states : List MapEntry × List MapEntry} :
    normalizedState case raw assertionId mapId = .ok states ↔
      ∃ state, lookup (·.mapId) raw.maps mapId = .ok state ∧
        normalizedEntries state.before (rulesFor case assertionId .key)
          (rulesFor case assertionId .value) = .ok states.1 ∧
        normalizedEntries state.after (rulesFor case assertionId .key)
          (rulesFor case assertionId .value) = .ok states.2 := by
  rw [normalizedState, bind_eq_ok]
  refine exists_congr fun state => and_congr_right fun _ => ?_
  rw [bind_eq_ok]
  constructor
  · rintro ⟨before, hbefore, h⟩
    obtain ⟨after, hafter, h⟩ := bind_eq_ok.1 h
    cases h
    exact ⟨hbefore, hafter⟩
  · rintro ⟨hbefore, hafter⟩
    exact ⟨_, hbefore, bind_eq_ok.2 ⟨_, hafter, rfl⟩⟩

variable {rules : List MaskByteRanges}

theorem maskPresent_eq_ok {missing : String} {bytes : Option Bytes} {x : Bytes} :
    maskPresent missing bytes rules = .ok x ↔
      ∃ b, bytes = some b ∧ Fits (rangesOf rules) b ∧ x = zeroed (rangesOf rules) b := by
  cases bytes with
  | none => simp [maskPresent]
  | some b => simp [maskPresent, maskBytes_eq_ok]

theorem maskPresent_eq_iff {missing : String} {bytes bytes' : Option Bytes} {x y : Bytes}
    (hx : maskPresent missing bytes rules = .ok x) (hy : maskPresent missing bytes' rules = .ok y) :
    x = y ↔ ∃ b b', bytes = some b ∧ bytes' = some b' ∧ BytesAgree (rangesOf rules) b b' := by
  obtain ⟨b, rfl, -, rfl⟩ := maskPresent_eq_ok.1 hx
  obtain ⟨b', rfl, -, rfl⟩ := maskPresent_eq_ok.1 hy
  rw [zeroed_eq_iff]
  simp

theorem mapM_maskBytes_eq_ok {records masked : List Bytes} :
    (records.mapM fun r => maskBytes r rules) = .ok masked ↔
      (∀ r ∈ records, Fits (rangesOf rules) r) ∧
      masked = records.map (zeroed (rangesOf rules)) := by
  rw [mapM_eq_ok]
  induction records generalizing masked with
  | nil => simp [eq_comm]
  | cons r records ih =>
    cases masked with
    | nil => simp
    | cons m masked =>
      rw [map_cons, map_cons, cons.injEq, ih, maskBytes_eq_ok, map_cons,
        cons.injEq, forall_mem_cons]
      tauto

/-- The normalized observations of an assertion are equal exactly if the runs agree
on it. -/
theorem observe_eq_iff {case : XdpOracleCase D} {a : XdpAssertion} {c r : XdpRawObservation}
    {u v : ObservedValue} (hu : observe case c a = .ok u) (hv : observe case r a = .ok v)
    (hc : NamesUnique c) (hr : NamesUnique r) : u = v ↔ Agrees case a c r := by
  unfold observe at hu hv
  unfold Agrees
  cases htarget : a.target with
  | retval =>
    simp only [htarget, Except.ok.injEq] at hu hv
    rw [← hu, ← hv, ObservedValue.retval.injEq]
  | packetBytes =>
    simp only [htarget] at hu hv
    obtain ⟨x, hx, hu⟩ := bind_eq_ok.1 hu
    obtain ⟨y, hy, hv⟩ := bind_eq_ok.1 hv
    cases hu
    cases hv
    rw [ObservedValue.packetBytes.injEq]
    exact maskPresent_eq_iff hx hy
  | contextBytes =>
    simp only [htarget] at hu hv
    obtain ⟨x, hx, hu⟩ := bind_eq_ok.1 hu
    obtain ⟨y, hy, hv⟩ := bind_eq_ok.1 hv
    cases hu
    cases hv
    rw [ObservedValue.contextBytes.injEq]
    exact maskPresent_eq_iff hx hy
  | mapSnapshot i =>
    simp only [htarget] at hu hv
    obtain ⟨m, hm, hu⟩ := bind_eq_ok.1 hu
    obtain ⟨n, hn, hv⟩ := bind_eq_ok.1 hv
    cases hu
    cases hv
    obtain ⟨s, hs, -, hsa⟩ := normalizedState_eq_ok.1 hm
    obtain ⟨t, ht, -, hta⟩ := normalizedState_eq_ok.1 hn
    rw [ObservedValue.mapSnapshot.injEq, eq_self, true_and, normalized_eq_iff hsa hta]
    dsimp only
    rw [exists_lookup_iff hc.maps hr.maps hs ht]
    exact Iff.rfl
  | mapDelta i =>
    simp only [htarget, mapDelta_eq] at hu hv
    obtain ⟨m, hm, hu⟩ := bind_eq_ok.1 hu
    obtain ⟨n, hn, hv⟩ := bind_eq_ok.1 hv
    cases hu
    cases hv
    obtain ⟨s, hs, hsb, hsa⟩ := normalizedState_eq_ok.1 hm
    obtain ⟨t, ht, htb, hta⟩ := normalizedState_eq_ok.1 hn
    rw [ObservedValue.mapDelta.injEq, eq_self, true_and, changesOf_eq_iff_changed]
    simp only [byKey_normalized hsb, byKey_normalized hsa, byKey_normalized htb,
      byKey_normalized hta]
    rw [exists_lookup_iff hc.maps hr.maps hs ht]
    exact Iff.rfl
  | orderedEvents i =>
    simp only [htarget] at hu hv
    obtain ⟨s, hs, hu⟩ := bind_eq_ok.1 hu
    obtain ⟨t, ht, hv⟩ := bind_eq_ok.1 hv
    obtain ⟨x, hx, hu⟩ := bind_eq_ok.1 hu
    obtain ⟨y, hy, hv⟩ := bind_eq_ok.1 hv
    cases hu
    cases hv
    rw [ObservedValue.orderedEvents.injEq, eq_self, true_and, (mapM_maskBytes_eq_ok.1 hx).2,
      (mapM_maskBytes_eq_ok.1 hy).2, ← forall₂_eq_eq_eq, forall₂_map_left_iff,
      forall₂_map_right_iff]
    simp only [zeroed_eq_iff]
    rw [exists_lookup_iff hc.events hr.events hs ht]
    exact Iff.rfl
  | counter i mode =>
    simp only [htarget] at hu hv
    obtain ⟨s, hs, hu⟩ := bind_eq_ok.1 hu
    obtain ⟨t, ht, hv⟩ := bind_eq_ok.1 hv
    cases hu
    cases hv
    rw [ObservedValue.counter.injEq, eq_self, eq_self, true_and, true_and]
    dsimp only
    rw [exists_lookup_iff hc.counters hr.counters hs ht]

/-! ## The loops -/

section Loops

variable {K : Digests D} {caseIndex i : Nat} {caseId : String}
  {first : Option (FirstDivergence D)}

def divergence (K : Digests D) (caseIndex i : Nat) (caseId : String) (d : XdpAssertion)
    (a e : AssertionObservation) : FirstDivergence D :=
  ⟨caseIndex, i, caseId, d.assertionId, d.target.kind, K.assertion e, K.assertion a⟩

/-- What `f` gives at each place of three lists, in order. -/
def along {α β γ δ : Type} (f : Nat → α → β → γ → List δ) :
    Nat → List α → List β → List γ → List δ
  | i, x :: xs, y :: ys, z :: zs => f i x y z ++ along f (i + 1) xs ys zs
  | _, _, _, _ => []

section Along

variable {α β γ δ : Type} {f : Nat → α → β → γ → List δ} {xs : List α} {ys : List β}
  {zs : List γ}

theorem mem_along {w : δ} : w ∈ along f i xs ys zs ↔ ∃ j x y z, xs[j]? = some x ∧
    ys[j]? = some y ∧ zs[j]? = some z ∧ w ∈ f (i + j) x y z := by
  induction xs generalizing i ys zs with
  | nil => simp [along]
  | cons x xs ih =>
    cases ys with
    | nil => simp [along]
    | cons y ys =>
      cases zs with
      | nil => simp [along]
      | cons z zs =>
        rw [along, mem_append, ih]
        constructor
        · rintro (h | ⟨j, x', y', z', h⟩)
          · exact ⟨0, x, y, z, rfl, rfl, rfl, h⟩
          · rw [Nat.add_right_comm] at h
            exact ⟨j + 1, x', y', z', h⟩
        · rintro ⟨_ | j, x', y', z', hx, hy, hz, h⟩
          · cases hx
            cases hy
            cases hz
            exact .inl h
          · rw [Nat.add_comm j, ← Nat.add_assoc] at h
            exact .inr ⟨j, x', y', z', hx, hy, hz, h⟩

theorem pairwise_along {r : δ → δ → Prop} (hplace : ∀ i x y z, (f i x y z).Pairwise r)
    (hlater : ∀ i j x y z x' y' z', i < j → ∀ v ∈ f i x y z, ∀ w ∈ f j x' y' z', r v w) :
    (along f i xs ys zs).Pairwise r := by
  induction xs generalizing i ys zs with
  | nil => simp [along]
  | cons x xs ih =>
    cases ys with
    | nil => simp [along]
    | cons y ys =>
      cases zs with
      | nil => simp [along]
      | cons z zs =>
        refine pairwise_append.2 ⟨hplace i x y z, ih, fun v hv w hw => ?_⟩
        obtain ⟨j, x', y', z', -, -, -, hw⟩ := mem_along.1 hw
        exact hlater i (i + 1 + j) x y z x' y' z' (by omega) v hv w hw

end Along

/-- The required mismatches of a case, in the order of its assertions. -/
def mismatches (K : Digests D) (caseIndex : Nat) (caseId : String) :
    Nat → List XdpAssertion → List AssertionObservation → List AssertionObservation →
      List (FirstDivergence D) :=
  along fun i d a e =>
    if d.required && !decide (a = e) then [divergence K caseIndex i caseId d a e] else []

/-- The required mismatches of all cases, in the order of the cases. -/
def allMismatches (K : Digests D) : Nat → List (XdpOracleCase D) →
    List (NormalizedObservation D) → List (NormalizedObservation D) → List (FirstDivergence D) :=
  along fun i c a e => mismatches K i c.caseId 0 c.assertions a.assertions e.assertions

theorem mem_mismatches {ds : List XdpAssertion} {as es : List AssertionObservation}
    {f : FirstDivergence D} : f ∈ mismatches K caseIndex caseId i ds as es ↔
      ∃ j d a e, ds[j]? = some d ∧ as[j]? = some a ∧ es[j]? = some e ∧ d.required ∧ a ≠ e ∧
        f = divergence K caseIndex (i + j) caseId d a e := by
  simp only [mismatches, mem_along, mem_ite_nil_right, Bool.and_eq_true, Bool.not_eq_true',
    decide_eq_false_iff_not, mem_singleton, and_assoc, ne_eq]

variable {as es : List (NormalizedObservation D)} {cs : List (XdpOracleCase D)}

theorem mem_allMismatches {f : FirstDivergence D} : f ∈ allMismatches K i cs as es ↔
      ∃ j c a e, cs[j]? = some c ∧ as[j]? = some a ∧ es[j]? = some e ∧
        f ∈ mismatches K (i + j) c.caseId 0 c.assertions a.assertions e.assertions :=
  mem_along

/-- The order in which a report comes to its assertions. -/
def FirstDivergence.Before (f g : FirstDivergence D) : Prop :=
  f.caseIndex < g.caseIndex ∨ f.caseIndex = g.caseIndex ∧ f.assertionIndex < g.assertionIndex

theorem pairwise_mismatches {ds : List XdpAssertion} {as es : List AssertionObservation} :
    (mismatches K caseIndex caseId i ds as es).Pairwise FirstDivergence.Before := by
  refine pairwise_along (fun i d a e => ?_) fun i j _ _ _ _ _ _ hij f hf g hg => ?_
  · split <;> simp
  · obtain ⟨-, hf⟩ := mem_ite_nil_right.1 hf
    obtain ⟨-, hg⟩ := mem_ite_nil_right.1 hg
    rw [eq_of_mem_singleton hf, eq_of_mem_singleton hg]
    exact .inr ⟨rfl, hij⟩

theorem pairwise_allMismatches :
    (allMismatches K i cs as es).Pairwise FirstDivergence.Before := by
  refine pairwise_along (fun _ _ _ _ => pairwise_mismatches) ?_
  intro i j _ _ _ _ _ _ hij f hf g hg
  obtain ⟨_, _, _, _, -, -, -, -, -, rfl⟩ := mem_mismatches.1 hf
  obtain ⟨_, _, _, _, -, -, -, -, -, rfl⟩ := mem_mismatches.1 hg
  exact .inl hij

theorem nextDivergence_compareOne {d : XdpAssertion} {a e : AssertionObservation} :
    nextDivergence first caseIndex i caseId (compareOne K d a e) =
      first.or (if d.required && !decide (a = e) then [divergence K caseIndex i caseId d a e]
        else []).head? := by
  unfold nextDivergence compareOne
  cases first with
  | some f => rfl
  | none =>
    rw [none_or, apply_ite head?]
    rfl

/-- The loop keeps the divergence it starts with, and else takes the first mismatch. -/
theorem compareAssertions_spec {ds : List XdpAssertion} {as es : List AssertionObservation}
    {out : List (AssertionComparison D) × Option (FirstDivergence D)}
    (h : compareAssertions K caseIndex caseId i first ds as es = .ok out) :
    out.2 = first.or (mismatches K caseIndex caseId i ds as es).head? ∧
      (requiredMatched out.1 ↔ mismatches K caseIndex caseId i ds as es = []) := by
  induction ds generalizing i first as es out with
  | nil =>
    cases as <;> cases es <;> cases h
    exact ⟨(or_none).symm, by simp [requiredMatched, mismatches, along]⟩
  | cons d ds ih =>
    cases as with
    | nil => cases es <;> cases h
    | cons a as =>
      cases es with
      | nil => cases h
      | cons e es =>
        obtain ⟨rest, hrest, hout⟩ := bind_eq_ok.1 h
        cases hout
        obtain ⟨hfirst, hmatched⟩ := ih hrest
        refine ⟨?_, ?_⟩
        · rw [hfirst, nextDivergence_compareOne, Option.or_assoc, mismatches, along, head?_append]
        · rw [mismatches] at hmatched ⊢
          rw [along, append_eq_nil_iff, ← hmatched]
          by_cases hd : d.required <;> by_cases hae : a = e <;>
            simp [requiredMatched, compareOne, hd, hae]

theorem compareCases_spec {out : List (OracleCaseResult D) × Option (FirstDivergence D)}
    (h : compareCases K i first cs as es = .ok out) :
    out.2 = first.or (allMismatches K i cs as es).head? ∧
      (out.1.all (·.passed) ↔ allMismatches K i cs as es = []) := by
  induction cs generalizing i first as es out with
  | nil =>
    cases as <;> cases es <;> cases h
    exact ⟨(or_none).symm, by simp [allMismatches, along]⟩
  | cons c cs ih =>
    cases as with
    | nil => cases es <;> cases h
    | cons a as =>
      cases es with
      | nil => cases h
      | cons e es =>
        obtain ⟨compared, hcompared, h⟩ := bind_eq_ok.1 h
        obtain ⟨rest, hrest, hout⟩ := bind_eq_ok.1 h
        cases hout
        obtain ⟨hfirst, hmatched⟩ := compareAssertions_spec hcompared
        obtain ⟨hlater, hpassed⟩ := ih hrest
        refine ⟨?_, ?_⟩
        · rw [hlater, hfirst, Option.or_assoc, allMismatches, along, head?_append]
        · rw [allMismatches] at hpassed ⊢
          rw [along, append_eq_nil_iff, ← hmatched, ← hpassed, all_cons, Bool.and_eq_true]

end Loops

/-! ## The report -/

section Report

variable [DecidableEq D] {K : Digests D} {contract : XdpOracleContract D}
  {candidate reference trace : XdpTrace D} {report : OracleReport D}

/-- A required assertion of a case that the two traces do not agree on, by its place. -/
def Diverges (contract : XdpOracleContract D) (candidate reference : XdpTrace D) (i j : Nat)
    (case : XdpOracleCase D) (d : XdpAssertion) : Prop :=
  ∃ c r, contract.cases[i]? = some case ∧ candidate.cases[i]? = some c ∧
    reference.cases[i]? = some r ∧ case.assertions[j]? = some d ∧ d.required ∧
    ¬ Agrees case d c.observation r.observation

omit [DecidableEq D] in
/-- A normalized case has, for each assertion, what is observed for it. -/
theorem getElem?_normalizeCase {case : XdpOracleCase D} {t : XdpCaseTrace D}
    {n : NormalizedObservation D} (h : normalizeCase case t = .ok n) {j : Nat} {d : XdpAssertion}
    (hd : case.assertions[j]? = some d) :
    ∃ u, n.assertions[j]? = some ⟨d.assertionId, u⟩ ∧ observe case t.observation d = .ok u := by
  obtain ⟨-, h⟩ := seq_eq_ok.1 h
  obtain ⟨observations, hobs, h⟩ := bind_eq_ok.1 h
  obtain ⟨-, h⟩ := seq_eq_ok.1 h
  cases h
  have hj := getElem?_of_mapM hobs j
  rw [hd, map_some, eq_comm, map_eq_some_iff] at hj
  obtain ⟨o, ho, hod⟩ := hj
  obtain ⟨u, hu, hod⟩ := bind_eq_ok.1 hod.symm
  obtain ⟨-, hod⟩ := seq_eq_ok.1 hod
  cases hod
  exact ⟨u, ho, hu⟩

omit [DecidableEq D] in
theorem getElem?_normalizeCases {ns : List (NormalizedObservation D)}
    (h : normalizeCases contract trace = .ok ns) {i : Nat} {case : XdpOracleCase D}
    (hcase : contract.cases[i]? = some case) :
    ∃ t n, trace.cases[i]? = some t ∧ ns[i]? = some n ∧ normalizeCase case t = .ok n := by
  obtain ⟨hlength, h⟩ := ite_error_eq_ok.1 h
  have hlt : i < trace.cases.length :=
    not_not.1 hlength ▸ (List.getElem?_eq_some_iff.1 hcase).1
  have ht : trace.cases[i]? = some trace.cases[i] := getElem?_eq_getElem hlt
  have hi := getElem?_of_mapM h i
  have hzip : (contract.cases.zip trace.cases)[i]? = some (case, trace.cases[i]) :=
    getElem?_zip_eq_some.2 ⟨hcase, ht⟩
  rw [hzip, map_some, eq_comm, map_eq_some_iff] at hi
  obtain ⟨n, hn, hnorm⟩ := hi
  exact ⟨_, n, ht, hn, hnorm.symm⟩

omit [DecidableEq D] in
theorem namesUnique {t : XdpCaseTrace D} (h : trace.validate = .ok ()) (ht : t ∈ trace.cases) :
    NamesUnique t.observation := by
  obtain ⟨-, h⟩ := seq_eq_ok.1 h
  obtain ⟨-, h⟩ := seq_eq_ok.1 h
  obtain ⟨hcases, -⟩ := seq_eq_ok.1 h
  obtain ⟨-, ht⟩ := seq_eq_ok.1 (forM_eq_ok.1 hcases t ht)
  obtain ⟨-, ht⟩ := seq_eq_ok.1 ht
  obtain ⟨-, ht⟩ := seq_eq_ok.1 ht
  obtain ⟨-, ht⟩ := seq_eq_ok.1 ht
  exact ⟨by simpa using refuse_at ht 4 rfl, by simpa using refuse_at ht 6 rfl,
    by simpa using refuse_at ht 8 rfl⟩

theorem deriveOracleReport_eq_ok
    (h : deriveOracleReport K contract candidate reference = .ok report) :
    candidate.validate = .ok () ∧ reference.validate = .ok () ∧
      ∃ actual expected compared, normalizeCases contract candidate = .ok actual ∧
        normalizeCases contract reference = .ok expected ∧
        compareCases K 0 none contract.cases actual expected = .ok compared ∧
        report = reportOf K contract candidate reference actual expected compared := by
  obtain ⟨-, h⟩ := seq_eq_ok.1 h
  obtain ⟨hcandidate, h⟩ := seq_eq_ok.1 h
  obtain ⟨hreference, h⟩ := seq_eq_ok.1 h
  obtain ⟨-, h⟩ := seq_eq_ok.1 h
  obtain ⟨-, h⟩ := seq_eq_ok.1 h
  obtain ⟨actual, hactual, h⟩ := bind_eq_ok.1 h
  obtain ⟨expected, hexpected, h⟩ := bind_eq_ok.1 h
  obtain ⟨compared, hcompared, h⟩ := bind_eq_ok.1 h
  obtain ⟨-, h⟩ := seq_eq_ok.1 h
  exact ⟨mapError_eq_ok.1 hcandidate, mapError_eq_ok.1 hreference, actual, expected, compared,
    hactual, hexpected, hcompared, (Except.ok.inj h).symm⟩

omit [DecidableEq D] in
/-- The mismatches of the normalized observations are the divergences of the traces. -/
theorem mem_allMismatches_iff {actual expected : List (NormalizedObservation D)}
    (hcandidate : candidate.validate = .ok ()) (hreference : reference.validate = .ok ())
    (hactual : normalizeCases contract candidate = .ok actual)
    (hexpected : normalizeCases contract reference = .ok expected) {f : FirstDivergence D} :
    f ∈ allMismatches K 0 contract.cases actual expected ↔
      ∃ i j case d a e, Diverges contract candidate reference i j case d ∧
        f = divergence K i j case.caseId d a e ∧
        (∃ n, actual[i]? = some n ∧ n.assertions[j]? = some a) ∧
        ∃ m, expected[i]? = some m ∧ m.assertions[j]? = some e := by
  have hagree : ∀ {i j case d n m a e}, contract.cases[i]? = some case →
      case.assertions[j]? = some d → actual[i]? = some n → n.assertions[j]? = some a →
      expected[i]? = some m → m.assertions[j]? = some e →
      (d.required ∧ a ≠ e ↔ Diverges contract candidate reference i j case d) := by
    intro i j case d n m a e hcase hd hn ha hm he
    obtain ⟨t, n', ht, hn', hnorm⟩ := getElem?_normalizeCases hactual hcase
    obtain ⟨t', m', ht', hm', hnorm'⟩ := getElem?_normalizeCases hexpected hcase
    cases hn.symm.trans hn'
    cases hm.symm.trans hm'
    obtain ⟨u, hu, hobs⟩ := getElem?_normalizeCase hnorm hd
    obtain ⟨v, hv, hobs'⟩ := getElem?_normalizeCase hnorm' hd
    cases ha.symm.trans hu
    cases he.symm.trans hv
    have hiff := observe_eq_iff hobs hobs' (namesUnique hcandidate (mem_of_getElem? ht))
      (namesUnique hreference (mem_of_getElem? ht'))
    rw [Ne, AssertionObservation.mk.injEq, eq_self, true_and, hiff]
    constructor
    · rintro ⟨hreq, hnot⟩
      exact ⟨t, t', hcase, ht, ht', hd, hreq, hnot⟩
    · rintro ⟨c, r, -, hc, hr, -, hreq, hnot⟩
      cases ht.symm.trans hc
      cases ht'.symm.trans hr
      exact ⟨hreq, hnot⟩
  rw [mem_allMismatches]
  constructor
  · rintro ⟨i, case, n, m, hcase, hn, hm, hf⟩
    obtain ⟨j, d, a, e, hd, ha, he, hreq, hne, rfl⟩ := mem_mismatches.1 hf
    rw [Nat.zero_add, Nat.zero_add]
    exact ⟨i, j, case, d, a, e, (hagree hcase hd hn ha hm he).1 ⟨hreq, hne⟩, rfl, ⟨n, hn, ha⟩,
      m, hm, he⟩
  · rintro ⟨i, j, case, d, a, e, hdiv, rfl, ⟨n, hn, ha⟩, m, hm, he⟩
    obtain ⟨-, -, hcase, -, -, hd, -, -⟩ := id hdiv
    obtain ⟨hreq, hne⟩ := (hagree hcase hd hn ha hm he).2 hdiv
    refine ⟨i, case, n, m, hcase, hn, hm, mem_mismatches.2 ⟨j, d, a, e, hd, ha, he, hreq, hne, ?_⟩⟩
    rw [Nat.zero_add, Nat.zero_add]

omit [DecidableEq D] in
/-- Every divergence of the traces is a mismatch at its place. -/
theorem exists_mismatch {actual expected : List (NormalizedObservation D)}
    (hcandidate : candidate.validate = .ok ()) (hreference : reference.validate = .ok ())
    (hactual : normalizeCases contract candidate = .ok actual)
    (hexpected : normalizeCases contract reference = .ok expected) {i j : Nat}
    {case : XdpOracleCase D} {d : XdpAssertion}
    (h : Diverges contract candidate reference i j case d) :
    ∃ f ∈ allMismatches K 0 contract.cases actual expected,
      f.caseIndex = i ∧ f.assertionIndex = j := by
  obtain ⟨-, -, hcase, -, -, hd, -, -⟩ := id h
  obtain ⟨t, n, -, hn, hnorm⟩ := getElem?_normalizeCases hactual hcase
  obtain ⟨t', m, -, hm, hnorm'⟩ := getElem?_normalizeCases hexpected hcase
  obtain ⟨u, hu, -⟩ := getElem?_normalizeCase hnorm hd
  obtain ⟨v, hv, -⟩ := getElem?_normalizeCase hnorm' hd
  exact ⟨_, (mem_allMismatches_iff hcandidate hreference hactual hexpected).2
    ⟨i, j, case, d, _, _, h, rfl, ⟨n, hn, hu⟩, m, hm, hv⟩, rfl, rfl⟩

/-- A report is a strict success exactly if, in every case, every required assertion
agrees between the two runs; it has a first divergence exactly if it is none; and
the first divergence is the first required assertion, in the order of the cases and
of their assertions, that does not agree. -/
theorem strictSuccess_iff_agreement (K : Digests D) (contract : XdpOracleContract D)
    (candidate reference : XdpTrace D) (report : OracleReport D)
    (h : deriveOracleReport K contract candidate reference = .ok report) :
    (report.strictSuccess = true ↔ ∀ (i : Nat) case, contract.cases[i]? = some case →
      ∃ c r : XdpCaseTrace D, candidate.cases[i]? = some c ∧ reference.cases[i]? = some r ∧
        ∀ d ∈ case.assertions, d.required → Agrees case d c.observation r.observation) ∧
    (report.firstDivergence = none ↔ report.strictSuccess = true) ∧
    ∀ f, report.firstDivergence = some f →
      (∃ case d, Diverges contract candidate reference f.caseIndex f.assertionIndex case d ∧
        f.caseId = case.caseId ∧ f.assertionId = d.assertionId ∧ f.kind = d.target.kind) ∧
      ∀ i j case d, Diverges contract candidate reference i j case d →
        f.caseIndex < i ∨ f.caseIndex = i ∧ f.assertionIndex ≤ j := by
  obtain ⟨hcandidate, hreference, actual, expected, compared, hactual, hexpected, hcompared, rfl⟩ :=
    deriveOracleReport_eq_ok h
  obtain ⟨hfirst, hpassed⟩ := compareCases_spec hcompared
  rw [none_or] at hfirst
  have hmem := @mem_allMismatches_iff D K _ _ _ _ _ hcandidate hreference hactual hexpected
  refine ⟨hpassed.trans ⟨fun hnone i case hcase => ?_, fun hall => ?_⟩, ?_, fun f hf => ?_⟩
  · obtain ⟨c, -, hc, -⟩ := getElem?_normalizeCases hactual hcase
    obtain ⟨r, -, hr, -⟩ := getElem?_normalizeCases hexpected hcase
    refine ⟨c, r, hc, hr, fun d hd hreq => ?_⟩
    by_contra hnot
    obtain ⟨j, hj⟩ := getElem?_of_mem hd
    obtain ⟨f, hf, -⟩ := exists_mismatch (K := K) hcandidate hreference hactual hexpected
      ⟨c, r, hcase, hc, hr, hj, hreq, hnot⟩
    rw [hnone] at hf
    cases hf
  · refine eq_nil_iff_forall_not_mem.2 fun f hf => ?_
    obtain ⟨i, j, case, d, a, e, ⟨c, r, hcase, hc, hr, hd, hreq, hnot⟩, -⟩ := hmem.1 hf
    obtain ⟨c', r', hc', hr', hagree⟩ := hall i case hcase
    cases hc.symm.trans hc'
    cases hr.symm.trans hr'
    exact hnot (hagree d (mem_of_getElem? hd) hreq)
  · refine Iff.trans ?_ hpassed.symm
    rw [← head?_eq_none_iff, ← hfirst]
    rfl
  · have hhead : (allMismatches K 0 contract.cases actual expected).head? = some f :=
      hfirst.symm.trans hf
    obtain ⟨rest, hlist⟩ := head?_eq_some_iff.1 hhead
    obtain ⟨i, j, case, d, a, e, hdiv, rfl, -⟩ := hmem.1 (hlist ▸ mem_cons_self)
    refine ⟨⟨case, d, hdiv, rfl, rfl, rfl⟩, fun i' j' case' d' hdiv' => ?_⟩
    obtain ⟨g, hg, rfl, rfl⟩ :=
      exists_mismatch (K := K) hcandidate hreference hactual hexpected hdiv'
    have hsorted : (allMismatches K 0 contract.cases actual expected).Pairwise
        FirstDivergence.Before := pairwise_allMismatches
    rw [hlist] at hg hsorted
    rcases mem_cons.1 hg with rfl | hg
    · exact .inr ⟨rfl, le_refl _⟩
    · exact ((pairwise_cons.1 hsorted).1 g hg).imp_right fun hlt => ⟨hlt.1, le_of_lt hlt.2⟩

/-! A contract that compares the return value and the changes of one map, and traces
for it. -/

def sampleIdentity : TraceIdentity Nat :=
  ⟨"task", "v1", 1, 2, 3, "env", 4, "0000000000000000000000000000000000000000"⟩

def sampleProgram : ContentIdentity Nat := ⟨5, 64, "application/x-elf"⟩

def sampleInput : XdpCaseInput Nat := ⟨⟨6, 64, "application/octet-stream"⟩⟩

def sampleCase : XdpOracleCase Nat :=
  ⟨"case", sampleInput,
    [⟨"return", true, 1, .retval⟩, ⟨"changes", true, 1, .mapDelta "counts"⟩], []⟩

def sampleContract : XdpOracleContract Nat where
  toTraceIdentity := sampleIdentity
  normalizerVersion := "v1"
  normalizerSha256 := 7
  referenceProgram := sampleProgram
  cases := [sampleCase]

def sampleObservation (before after : List MapEntry) : XdpRawObservation :=
  ⟨2, none, none, [⟨"counts", before, after⟩], [], []⟩

def sampleTrace (role : Role) (before after : List MapEntry) : XdpTrace Nat where
  toTraceIdentity := sampleIdentity
  role := role
  program := sampleProgram
  cases := [⟨"case", sampleInput, sampleObservation before after⟩]

def sampleDigests : Digests Nat := ⟨fun _ => 8, fun _ => 9, fun _ => 10, fun _ => 11⟩

theorem strictSuccess_iff_agreement_sample :
    ∃ report, deriveOracleReport sampleDigests sampleContract
        (sampleTrace .candidate [] [smallEntry 1 5])
        (sampleTrace .reference [] [smallEntry 1 6]) = .ok report ∧
      (report.firstDivergence = none ↔ report.strictSuccess = true) := by
  have hok : (deriveOracleReport sampleDigests sampleContract
      (sampleTrace .candidate [] [smallEntry 1 5])
      (sampleTrace .reference [] [smallEntry 1 6])).isOk = true := by decide +kernel
  obtain ⟨report, hreport⟩ := exists_of_isOk hok
  exact ⟨report, hreport, (strictSuccess_iff_agreement _ _ _ _ report hreport).2.1⟩

end Report

end Bpe.Oracle
