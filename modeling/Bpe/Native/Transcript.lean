import Bpe.Lib.Except
import Bpe.Native.Codec

/-!
# Accepted transcripts

`parse_inert_native_transcript` accepts exactly two shapes: the four success
frames and FINAL, or a prefix of the success frames and an ERROR frame that
passes `_validate_error_frame`.
-/

namespace Bpe.Native

open List

/-! ## The frames of the protocol -/

/-- The four frames before FINAL. -/
def successFrames (launcherPid child : Nat) : List InertNativeFrame :=
  [⟨.hello, 0, .ok, .startup, .none, 0, launcherPid, 0⟩,
   ⟨.childReady, 1, .ok, .childReady, .none, 0, child, requiredCloneFlags⟩,
   ⟨.childSignaled, 2, .ok, .pidfdSignal, .none, 0, cldStopped, sigstop⟩,
   ⟨.childObserved, 3, .ok, .childObservation, .none, 0, cldKilled, sigkill⟩]

def successRecords (launcherPid child k : Nat) : List (List UInt8) :=
  ((successFrames launcherPid child).take k).map InertNativeFrame.encode

def finalFrame (elapsed : Nat) : InertNativeFrame :=
  ⟨.final, 4, .ok, .cleanup, .none, 0, achievedResultMask, elapsed⟩

/-- The ERROR frame after `k` success frames. -/
def errorFrame (k : Nat) (reason : NativeReason) (stage : NativeStage) (mask e : Nat) :
    InertNativeFrame :=
  ⟨.error, k, .failed, stage, reason, e, mask, 0⟩

/-! ## The first loop -/

variable {records : List InertNativeSocketRecord} {frames : List InertNativeFrame}

theorem decodeRecords_eq_ok {i : Nat} : decodeRecords i records = .ok frames ↔
      records = frames.map InertNativeFrame.record ∧ (∀ f ∈ frames, f.Fits) ∧
        frames.map (·.sequence) = range' i frames.length := by
  induction records generalizing i frames with
  | nil =>
    simp only [decodeRecords, Except.ok.injEq]
    constructor
    · rintro rfl; simp
    · rintro ⟨h, -⟩; simpa [eq_comm] using h
  | cons record records ih =>
    rw [decodeRecords]
    constructor
    · intro h
      split at h
      · cases h
      next f hf =>
      split at h
      · cases h
      next hseq =>
      split at h
      · cases h
      next rest hrest =>
      cases h
      obtain ⟨hfits, rfl⟩ := decodeRecord_eq_ok.1 hf
      obtain ⟨rfl, hall, hrange⟩ := ih.1 hrest
      have hseq : f.sequence = i := by simpa using hseq
      exact ⟨rfl, by simpa using ⟨hfits, hall⟩, by simp [hseq, hrange, range'_succ]⟩
    · rintro ⟨hrec, hall, hrange⟩
      rcases frames with _ | ⟨f, frames⟩
      · cases hrec
      simp only [map_cons, cons.injEq] at hrec
      simp only [map_cons, length_cons, range'_succ, cons.injEq] at hrange
      rw [hrec.1, decodeRecord_record (hall f (by simp))]
      simp only [hrange.1, ne_eq, not_true_eq_false, if_false]
      rw [ih.2 ⟨hrec.2, fun f hf => hall f (by simp [hf]), hrange.2⟩]

/-! ## Success frames -/

def SuccessValues (index value0 value1 : Nat) : Prop :=
  match index with
  | 0 => (1 ≤ value0 ∧ value0 ≤ linuxMaxPid) ∧ value1 = 0
  | 1 => (1 ≤ value0 ∧ value0 ≤ linuxMaxPid) ∧ value1 = requiredCloneFlags
  | 2 => value0 = cldStopped ∧ value1 = sigstop
  | 3 => value0 = cldKilled ∧ value1 = sigkill
  | _ => value0 = achievedResultMask ∧ value1 ≠ 0

theorem validateSuccessFrame_eq_ok {f : InertNativeFrame} {i : Nat} :
    validateSuccessFrame f i = .ok () ↔ some f.frameType = successTypes[i]? ∧ f.status = .ok ∧
      some f.stage = successStages[i]? ∧ f.reason = .none ∧ f.systemErrno = 0 ∧
        SuccessValues i f.value0 f.value1 := by
  simp only [validateSuccessFrame, ite_error_eq_ok, not_not, ne_eq, not_or, and_assoc]
  refine and_congr_right fun _ => and_congr_right fun _ => and_congr_right fun _ =>
    and_congr_right fun _ => and_congr_right fun _ => ?_
  rcases i with _ | _ | _ | _ | i <;> simp [SuccessValues, ite_error_eq_ok, and_assoc]

/-- The child's PID is in range and is not the launcher's. -/
def ValidChild (launcherPid child : Nat) : Prop :=
  1 ≤ child ∧ child ≤ linuxMaxPid ∧ child ≠ launcherPid

/-- The first `i` frames of a successful run. -/
def SuccessPrefix (launcherPid i : Nat) (frames : List InertNativeFrame) : Prop :=
  ∃ child elapsed, frames = (successFrames launcherPid child ++ [finalFrame elapsed]).take i ∧
    (2 ≤ i → ValidChild launcherPid child) ∧ (i = 5 → elapsed ≠ 0)

theorem SuccessPrefix.snoc {launcherPid i : Nat} {f : InertNativeFrame}
    (h : SuccessPrefix launcherPid i frames) (hi : i < 5) (hok : validateSuccessFrame f i = .ok ())
    (hseq : f.sequence = i) (h0 : i = 0 → f.value0 = launcherPid)
    (h1 : i = 1 → f.value0 ≠ launcherPid) :
    SuccessPrefix launcherPid (i + 1) (frames ++ [f]) := by
  obtain ⟨child, elapsed, rfl, hchild, -⟩ := h
  obtain ⟨htype, hstatus, hstage, hreason, herrno, hvalues⟩ := validateSuccessFrame_eq_ok.1 hok
  rcases f with ⟨type, seq, status, stage, reason, errno, v0, v1⟩
  dsimp only at hseq hstatus hreason herrno hvalues h0 h1
  subst hseq hstatus hreason herrno
  interval_cases seq
  · cases htype; cases hstage
    obtain ⟨-, rfl⟩ := hvalues
    exact ⟨child, elapsed, by rw [h0 rfl]; rfl, by omega, by omega⟩
  · cases htype; cases hstage
    obtain ⟨hpid, rfl⟩ := hvalues
    exact ⟨v0, elapsed, rfl, fun _ => ⟨hpid.1, hpid.2, h1 rfl⟩, by omega⟩
  · cases htype; cases hstage
    obtain ⟨rfl, rfl⟩ := hvalues
    exact ⟨child, elapsed, rfl, fun _ => hchild (by omega), by omega⟩
  · cases htype; cases hstage
    obtain ⟨rfl, rfl⟩ := hvalues
    exact ⟨child, elapsed, rfl, fun _ => hchild (by omega), by omega⟩
  · cases htype; cases hstage
    obtain ⟨rfl, hne⟩ := hvalues
    exact ⟨child, v1, rfl, fun _ => hchild (by omega), fun _ => hne⟩

/-! ## Error frames -/

/-- The ERROR states `_validate_error_frame` accepts: success frames before
it, reason, stage, mask, errno. -/
def ErrorAccepted (k : Nat) (reason : NativeReason) (stage : NativeStage) (mask e : Nat) : Prop :=
  reason ≠ .none ∧ mask &&& achievedResultMask = mask ∧
    mask ∈ (errorGrammar.lookup (k, reason, stage)).getD [] ∧
    ((k, reason, stage) ∈ zeroErrnoErrorKeys → e = 0) ∧
    (((k, reason, stage), mask) ∈ zeroErrnoErrorStates → e = 0) ∧
    (reason = .clone3Unavailable → e = linuxEnosys) ∧
    (reason = .resourceExhausted → stage = .clone3 → e ∈ linuxCloneResourceErrnos) ∧
    (reason = .clone3Rejected → e ≠ 0 ∧ e ∉ linuxClassifiedCloneErrnos) ∧
    (reason = .pidfdSignalFailed → e ≠ 0) ∧
    (((k, reason, stage), mask) ∈ nonzeroErrnoErrorStates → e ≠ 0)

instance (k : Nat) (reason : NativeReason) (stage : NativeStage) (mask e : Nat) :
    Decidable (ErrorAccepted k reason stage mask e) := by
  unfold ErrorAccepted; infer_instance

theorem validateErrorFrame_eq_ok {f : InertNativeFrame} {k : Nat} {returncode : Int}
    {exit : NativeExitCode} : validateErrorFrame f k returncode = .ok exit ↔
      f.status = .failed ∧ f.value1 = 0 ∧ ErrorAccepted k f.reason f.stage f.value0 f.systemErrno ∧
        exitCodeForReason f.reason = .ok exit ∧ returncode = exit.code := by
  simp only [validateErrorFrame, ite_error_eq_ok, ErrorAccepted, not_not, ne_eq]
  cases hlookup : errorGrammar.lookup (k, f.reason, f.stage) with
  | none => simp
  | some masks =>
    cases hexit : exitCodeForReason f.reason with
    | error e => simp only [ite_error_eq_ok, reduceCtorEq, and_false, false_and]
    | ok exit' =>
      simp only [ite_error_eq_ok, Except.ok.injEq, Option.getD_some, not_and, not_not, not_or]
      constructor
      · rintro ⟨h₁, h₂, h₃, h₄, h₅, h₆, h₇, h₈, h₉, h₁₀, h₁₁, h₁₂, h₁₃, rfl⟩
        exact ⟨h₁, h₄, ⟨h₂, h₃, h₅, h₆, h₇, h₈, h₉, h₁₀, h₁₁, h₁₂⟩, rfl, h₁₃⟩
      · rintro ⟨h₁, h₄, ⟨h₂, h₃, h₅, h₆, h₇, h₈, h₉, h₁₀, h₁₁, h₁₂⟩, rfl, h₁₃⟩
        exact ⟨h₁, h₂, h₃, h₄, h₅, h₆, h₇, h₈, h₉, h₁₀, h₁₁, h₁₂, h₁₃, rfl⟩

/-! ## Whole transcripts -/

/-- The frames and return code of an accepted transcript. -/
inductive Accepted (launcherPid : Nat) (returncode : Int) : List InertNativeFrame → Prop where
  | final (child elapsed : Nat) (hchild : ValidChild launcherPid child) (helapsed : elapsed ≠ 0)
      (hlt : elapsed < 2 ^ 64) (hcode : returncode = NativeExitCode.ok.code) :
      Accepted launcherPid returncode (successFrames launcherPid child ++ [finalFrame elapsed])
  | error (k child : Nat) (reason : NativeReason) (stage : NativeStage) (mask e : Nat)
      (exit : NativeExitCode) (hk : k ≤ 4) (hchild : 2 ≤ k → ValidChild launcherPid child)
      (haccept : ErrorAccepted k reason stage mask e) (he : e ≤ protocolMaxErrno)
      (hexit : exitCodeForReason reason = .ok exit) (hcode : returncode = exit.code) :
      Accepted launcherPid returncode
        ((successFrames launcherPid child).take k ++ [errorFrame k reason stage mask e])

variable {transcript : InertNativeTranscript}

theorem validateFrames_sound {launcherPid : Nat} {returncode : Int}
    {pre rest : List InertNativeFrame} {i : Nat} {childPid : Option Int} (hi : i ≤ 5)
    (hpre : SuccessPrefix launcherPid i pre) (hlen : pre.length = i)
    (hfits : ∀ f ∈ pre ++ rest, f.Fits) (hseq : rest.map (·.sequence) = range' i rest.length)
    (h : validateFrames returncode launcherPid (pre ++ rest) i childPid rest = .ok transcript) :
    Accepted launcherPid returncode (pre ++ rest) := by
  induction rest generalizing i pre childPid with
  | nil =>
    simp only [validateFrames, ite_error_eq_ok, append_nil, ne_eq, not_not] at h
    obtain ⟨hfive, hcode, -⟩ := h
    obtain rfl : i = 5 := hlen.symm.trans hfive
    obtain ⟨child, elapsed, rfl, hchild, hne⟩ := hpre
    have hlt := (hfits (finalFrame elapsed) (by simp [successFrames])).value1
    rw [append_nil]
    exact .final child elapsed (hchild (by decide)) (hne rfl) hlt hcode
  | cons f rest ih =>
    simp only [map_cons, length_cons, range'_succ, cons.injEq] at hseq
    simp only [validateFrames] at h
    split at h
    · next htype =>
      simp only [ite_error_eq_ok, ge_iff_le, not_le, ne_eq, not_not] at h
      obtain ⟨hlt, hlast, h⟩ := h
      obtain rfl : rest = [] := by
        simp only [length_append, length_cons, hlen] at hlast
        exact eq_nil_of_length_eq_zero (by omega)
      cases herr : validateErrorFrame f i returncode with
      | error e => rw [herr] at h; cases h
      | ok exit =>
      obtain ⟨hstatus, hv1, haccept, hexit, hcode⟩ := validateErrorFrame_eq_ok.1 herr
      obtain ⟨child, elapsed, rfl, hchild, -⟩ := hpre
      have hlt : i < 5 := hlt
      have hf : f = errorFrame i f.reason f.stage f.value0 f.systemErrno := by
        rcases f with ⟨type, seq, status, stage, reason, errno, v0, v1⟩
        dsimp only at htype hstatus hv1 hseq
        rw [htype, hstatus, hv1, hseq.1]
        rfl
      have htake : (successFrames launcherPid child ++ [finalFrame elapsed]).take i =
          (successFrames launcherPid child).take i :=
        take_append_of_le_length (by simp [successFrames]; omega)
      have he := (hfits f (by simp)).systemErrno
      rw [htake, hf]
      exact .error i child _ _ _ _ exit (by omega) hchild haccept he hexit hcode
    · simp only [ite_error_eq_ok, ge_iff_le, not_le] at h
      obtain ⟨hlt, h⟩ := h
      have hlt : i < 5 := hlt
      cases hok : validateSuccessFrame f i with
      | error e => rw [hok] at h; cases h
      | ok u =>
      rw [hok] at h
      simp only [ite_error_eq_ok, not_and, ne_eq, not_not] at h
      obtain ⟨h0, h1, h⟩ := h
      have hsnoc := hpre.snoc hlt hok hseq.1 (fun hi => by exact_mod_cast h0 hi)
        fun hi he => h1 hi (by rw [he])
      have hrest := ih (by omega) hsnoc (by simp [hlen]) (by simpa using hfits) hseq.2
        (by simpa using h)
      simpa using hrest

section Complete

variable {launcherPid child : Nat} {returncode : Int}

theorem validateFrames_step {frames rest : List InertNativeFrame} {f : InertNativeFrame} {i : Nat}
    {childPid : Option Int} (hi : i < 5) (htype : f.frameType ≠ .error)
    (hok : validateSuccessFrame f i = .ok ()) (h0 : i = 0 → f.value0 = launcherPid)
    (h1 : i = 1 → f.value0 ≠ launcherPid) :
    validateFrames returncode launcherPid frames i childPid (f :: rest) =
      validateFrames returncode launcherPid frames (i + 1)
        (if i = 1 then some (f.value0 : Int) else childPid) rest := by
  have hlen : ¬ i ≥ successTypes.length := Nat.not_le.2 hi
  have h0' : ¬ (i = 0 ∧ (f.value0 : Int) ≠ launcherPid) := fun h => h.2 (by rw [h0 h.1])
  have h1' : ¬ (i = 1 ∧ (f.value0 : Int) = launcherPid) :=
    fun h => h1 h.1 (by exact_mod_cast h.2)
  rw [validateFrames, if_neg htype, if_neg hlen, hok]
  dsimp only
  rw [if_neg h0', if_neg h1']

theorem validateFrames_successFrames (returncode : Int)
    (hpid : 1 ≤ launcherPid ∧ launcherPid ≤ linuxMaxPid) (k : Nat) (hk : k ≤ 4)
    (hchild : 2 ≤ k → ValidChild launcherPid child)
    (frames rest : List InertNativeFrame) : ∃ childPid,
      validateFrames returncode launcherPid frames 0 none
        ((successFrames launcherPid child).take k ++ rest) =
      validateFrames returncode launcherPid frames k childPid rest := by
  induction k generalizing rest with
  | zero => exact ⟨none, rfl⟩
  | succ k ih =>
    have hlt : k < (successFrames launcherPid child).length := hk
    obtain ⟨childPid, hpre⟩ := ih (by omega) (fun h => hchild (by omega))
      ((successFrames launcherPid child)[k] :: rest)
    rw [take_succ_eq_append_getElem hlt, append_assoc, singleton_append, hpre]
    have hok : validateSuccessFrame (successFrames launcherPid child)[k] k = .ok () ∧
        (successFrames launcherPid child)[k].frameType ≠ .error ∧
        (k = 0 → (successFrames launcherPid child)[k].value0 = launcherPid) ∧
        (k = 1 → (successFrames launcherPid child)[k].value0 ≠ launcherPid) := by
      rw [validateSuccessFrame_eq_ok]
      have hk4 : k < 4 := hk
      interval_cases k
      · exact ⟨⟨rfl, rfl, rfl, rfl, rfl, hpid, rfl⟩, nofun, fun _ => rfl, nofun⟩
      · obtain ⟨h1, h2, h3⟩ := hchild (by decide)
        exact ⟨⟨rfl, rfl, rfl, rfl, rfl, ⟨h1, h2⟩, rfl⟩, nofun, nofun, fun _ => h3⟩
      · exact ⟨⟨rfl, rfl, rfl, rfl, rfl, rfl, rfl⟩, nofun, nofun, nofun⟩
      · exact ⟨⟨rfl, rfl, rfl, rfl, rfl, rfl, rfl⟩, nofun, nofun, nofun⟩
    exact ⟨_, validateFrames_step (by omega) hok.2.1 hok.1 hok.2.2.1 hok.2.2.2⟩

theorem validateFrames_complete {frames : List InertNativeFrame}
    (hpid : 1 ≤ launcherPid ∧ launcherPid ≤ linuxMaxPid)
    (h : Accepted launcherPid returncode frames) :
    ∃ transcript, validateFrames returncode launcherPid frames 0 none frames = .ok transcript := by
  cases h with
  | final child elapsed hchild helapsed hlt hcode =>
    have htype : (finalFrame elapsed).frameType ≠ .error := by simp [finalFrame]
    have hok : validateSuccessFrame (finalFrame elapsed) 4 = .ok () :=
      validateSuccessFrame_eq_ok.2 ⟨rfl, rfl, rfl, rfl, rfl, rfl, helapsed⟩
    obtain ⟨childPid, hpre⟩ := validateFrames_successFrames returncode hpid 4 (by decide)
      (fun _ => hchild) (successFrames launcherPid child ++ [finalFrame elapsed])
      [finalFrame elapsed]
    rw [show take 4 (successFrames launcherPid child) = successFrames launcherPid child from rfl,
      validateFrames_step (by decide) htype hok nofun nofun, validateFrames,
      if_neg (by simp [successFrames, successTypes]), if_neg (by simp [hcode])] at hpre
    exact ⟨_, hpre⟩
  | error k child reason stage mask e exit hk hchild haccept he hexit hcode =>
    have herr : validateErrorFrame (errorFrame k reason stage mask e) k returncode = .ok exit :=
      validateErrorFrame_eq_ok.2 ⟨rfl, rfl, haccept, hexit, hcode⟩
    obtain ⟨childPid, hpre⟩ := validateFrames_successFrames returncode hpid k hk hchild
      ((successFrames launcherPid child).take k ++ [errorFrame k reason stage mask e])
      [errorFrame k reason stage mask e]
    have hlen : k + 1 = ((successFrames launcherPid child).take k ++
        [errorFrame k reason stage mask e]).length := by
      simp [successFrames]; omega
    have hlt : ¬ k ≥ successTypes.length := by simp [successTypes]; omega
    have htype : (errorFrame k reason stage mask e).frameType = .error := rfl
    rw [hpre, validateFrames, if_pos htype, if_neg hlt, if_neg (fun h => h hlen), herr]
    exact ⟨_, rfl⟩

end Complete

/-! ## The parser -/

theorem fits_mk {type : NativeFrameType} {status : NativeStatus} {stage : NativeStage}
    {reason : NativeReason} {seq e v₀ v₁ : Nat} (hseq : seq < 2 ^ 64) (he : e ≤ protocolMaxErrno)
    (h₀ : v₀ < 2 ^ 64) (h₁ : v₁ < 2 ^ 64) :
    (⟨type, seq, status, stage, reason, e, v₀, v₁⟩ : InertNativeFrame).Fits :=
  ⟨hseq, he, h₀, h₁⟩

/-- The first `k` success frames fit the wire and count from zero. -/
theorem successFrames_take {launcherPid child k : Nat} (hpid : launcherPid ≤ linuxMaxPid)
    (hk : k ≤ 4) (hchild : 2 ≤ k → ValidChild launcherPid child) :
    (∀ f ∈ (successFrames launcherPid child).take k, f.Fits) ∧
      ((successFrames launcherPid child).take k).map (·.sequence) = range' 0 k := by
  have hmax : linuxMaxPid < 2 ^ 64 := by decide
  constructor
  · intro f hf
    obtain ⟨i, hi, rfl⟩ := mem_take_iff_getElem.1 hf
    have hi : i < k := lt_of_lt_of_le hi (Nat.min_le_left _ _)
    have h4 : i < 4 := by omega
    interval_cases i
    · exact fits_mk (by decide) (by decide) (lt_of_le_of_lt hpid hmax) (by decide)
    · obtain ⟨-, h2, -⟩ := hchild hi
      exact fits_mk (by decide) (by decide) (lt_of_le_of_lt h2 hmax) (by decide)
    · exact fits_mk (by decide) (by decide) (by decide) (by decide)
    · exact fits_mk (by decide) (by decide) (by decide) (by decide)
  · interval_cases k <;> rfl

/-- What the first loop asks of the frames of an accepted transcript. -/
theorem Accepted.frames_ok {launcherPid : Nat} {returncode : Int} (hpid : launcherPid ≤ linuxMaxPid)
    (h : Accepted launcherPid returncode frames) :
    (0 < frames.length ∧ frames.length ≤ protocolMaxFrames) ∧ (∀ f ∈ frames, f.Fits) ∧
      frames.map (·.sequence) = range' 0 frames.length := by
  cases h with
  | final child elapsed hchild helapsed hlt hcode =>
    obtain ⟨hfits, hseq⟩ := successFrames_take hpid (le_refl 4) fun _ => hchild
    refine ⟨by simp [successFrames, protocolMaxFrames], fun f hf => ?_, rfl⟩
    rcases mem_append.1 hf with hf | hf
    · exact hfits f hf
    · obtain rfl := mem_singleton.1 hf
      exact fits_mk (by decide) (by decide) (by decide) hlt
  | error k child reason stage mask e exit hk hchild haccept he hexit hcode =>
    obtain ⟨hfits, hseq⟩ := successFrames_take hpid hk hchild
    have hlen : ((successFrames launcherPid child).take k).length = k := by
      simp [successFrames]; omega
    refine ⟨?_, fun f hf => ?_, ?_⟩
    · simp only [length_append, hlen, length_singleton, protocolMaxFrames]
      omega
    · rcases mem_append.1 hf with hf | hf
      · exact hfits f hf
      · obtain rfl := mem_singleton.1 hf
        have hmask : mask ≤ achievedResultMask := haccept.2.1 ▸ Nat.and_le_right
        exact fits_mk (by omega) he (lt_of_le_of_lt hmask (by decide)) (by decide)
    · rw [map_append, hseq, length_append, hlen, length_singleton,
        range'_1_concat, Nat.zero_add]
      rfl

/-- The transcripts `parse_inert_native_transcript` accepts. -/
theorem parse_eq_ok {returncode pid : Int} :
    (∃ transcript, parseInertNativeTranscript records returncode true pid = .ok transcript) ↔
      ∃ launcherPid : Nat, pid = launcherPid ∧ (1 ≤ launcherPid ∧ launcherPid ≤ linuxMaxPid) ∧
        ∃ frames, records = frames.map InertNativeFrame.record ∧
          Accepted launcherPid returncode frames := by
  simp only [parseInertNativeTranscript, ite_error_eq_ok, not_true_eq_false, not_false_eq_true,
    true_and, not_not]
  constructor
  · rintro ⟨transcript, hpid, hne, hle, h⟩
    obtain ⟨launcherPid, rfl⟩ := Int.eq_ofNat_of_zero_le (show 0 ≤ pid by omega)
    refine ⟨launcherPid, rfl, by exact_mod_cast hpid, ?_⟩
    cases hdec : decodeRecords 0 records with
    | error e => rw [hdec] at h; cases h
    | ok frames =>
      rw [hdec] at h
      obtain ⟨rfl, hfits, hseq⟩ := decodeRecords_eq_ok.1 hdec
      refine ⟨frames, rfl, ?_⟩
      have hnil : SuccessPrefix launcherPid 0 [] := ⟨0, 0, rfl, nofun, nofun⟩
      exact validateFrames_sound (by decide) hnil rfl hfits hseq h
  · rintro ⟨launcherPid, rfl, hpid, frames, rfl, h⟩
    obtain ⟨transcript, hok⟩ := validateFrames_complete hpid h
    obtain ⟨⟨hpos, hle⟩, hfits, hseq⟩ := h.frames_ok hpid.2
    refine ⟨transcript, by exact_mod_cast hpid, ?_, ?_, ?_⟩
    · rw [length_map]; omega
    · rw [length_map]; omega
    · rw [decodeRecords_eq_ok.2 ⟨rfl, hfits, hseq⟩]
      exact hok

/-! ## The bounds of a transcript -/

/-- The values of an accepted transcript lie in their declared ranges. -/
structure BoundedTranscript (t : InertNativeTranscript) : Prop where
  childPid : ∀ n ∈ t.childPid, 1 ≤ n ∧ n ≤ linuxMaxPid
  mask : t.achievedResultMask ≤ achievedResultMask
  elapsedNs : ∀ n ∈ t.elapsedNs, 1 ≤ n ∧ n < 2 ^ 64
  failureErrno : ∀ n ∈ t.failureErrno, n ≤ protocolMaxErrno

/-- The second loop, from a place where the child's PID is in range and the last
of five frames was a FINAL frame. -/
theorem validateFrames_bounded {returncode launcherPid : Int} {pre rest : List InertNativeFrame}
    {i : Nat} {childPid : Option Int} (hfits : ∀ f ∈ pre ++ rest, f.Fits) (hlen : pre.length = i)
    (hchild : ∀ n ∈ childPid, 1 ≤ n ∧ n ≤ (linuxMaxPid : Int))
    (hlast : i = 5 → ∀ f ∈ pre.getLast?, f.value0 = achievedResultMask ∧ f.value1 ≠ 0)
    (h : validateFrames returncode launcherPid (pre ++ rest) i childPid rest = .ok transcript) :
    BoundedTranscript transcript := by
  induction rest generalizing i pre childPid with
  | nil =>
    simp only [validateFrames, ite_error_eq_ok, append_nil, ne_eq, not_not] at h hfits
    obtain ⟨hfive, -, h⟩ := h
    cases h
    have hfinal := hlast (hlen.symm.trans hfive)
    refine ⟨hchild, ?_, fun n hn => ?_, fun n hn => by cases hn⟩
    · cases hget : pre.getLast? with
      | none => simp
      | some f => simp [(hfinal f hget).1]
    · obtain ⟨f, hf, rfl⟩ := Option.map_eq_some_iff.1 hn
      have hne := (hfinal f hf).2
      exact ⟨by omega, (hfits f (mem_of_getLast? hf)).value1⟩
  | cons f rest ih =>
    have hf := hfits f (by simp)
    simp only [validateFrames] at h
    split at h
    · simp only [ite_error_eq_ok] at h
      obtain ⟨-, -, h⟩ := h
      cases herr : validateErrorFrame f i returncode with
      | error e => rw [herr] at h; cases h
      | ok exit =>
        obtain ⟨-, -, haccept, -⟩ := validateErrorFrame_eq_ok.1 herr
        rw [herr] at h
        cases h
        refine ⟨hchild, haccept.2.1 ▸ Nat.and_le_right, fun n hn => ?_, fun n hn => ?_⟩
        · cases hn
        · cases hn
          exact hf.systemErrno
    · simp only [ite_error_eq_ok] at h
      obtain ⟨-, h⟩ := h
      cases hok : validateSuccessFrame f i with
      | error e => rw [hok] at h; cases h
      | ok u =>
        rw [hok] at h
        simp only [ite_error_eq_ok] at h
        obtain ⟨-, -, -, -, -, hvalues⟩ := validateSuccessFrame_eq_ok.1 hok
        rw [append_cons] at hfits h
        refine ih hfits (by simp [hlen]) (fun n hn => ?_) (fun hi g hg => ?_) h.2.2
        · by_cases hone : i = 1
          · subst hone
            rw [if_pos rfl] at hn
            cases hn
            obtain ⟨hpid, -⟩ : (1 ≤ f.value0 ∧ f.value0 ≤ linuxMaxPid) ∧ _ := hvalues
            omega
          · rw [if_neg hone] at hn
            exact hchild n hn
        · obtain rfl : i = 4 := by omega
          rw [getLast?_concat] at hg
          cases hg
          exact hvalues

theorem parse_bounded {returncode pid : Int} {eof : Bool}
    (h : parseInertNativeTranscript records returncode eof pid = .ok transcript) :
    BoundedTranscript transcript := by
  simp only [parseInertNativeTranscript, ite_error_eq_ok] at h
  obtain ⟨-, -, -, -, h⟩ := h
  split at h
  · cases h
  · next frames hdec =>
    have hfits : ∀ f ∈ [] ++ frames, f.Fits := (decodeRecords_eq_ok.1 hdec).2.1
    refine validateFrames_bounded hfits length_nil (fun n hn => ?_) (fun hi => ?_) h
    · cases hn
    · cases hi

/-- A record of an accepted transcript came untruncated and without ancillary
data. -/
theorem parse_records {returncode pid : Int} {eof : Bool}
    (h : parseInertNativeTranscript records returncode eof pid = .ok transcript) :
    ∀ r ∈ records, r = { payload := r.payload } := by
  simp only [parseInertNativeTranscript, ite_error_eq_ok] at h
  obtain ⟨-, -, -, -, h⟩ := h
  split at h
  · cases h
  · next frames hdec =>
    intro r hr
    rw [(decodeRecords_eq_ok.1 hdec).1] at hr
    obtain ⟨f, -, rfl⟩ := mem_map.1 hr
    rfl

end Bpe.Native
