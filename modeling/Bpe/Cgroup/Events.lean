import Bpe.Launcher.Fixture
import Bpe.Lib.Decimal
import Bpe.Lib.Except

/-!
# Two readings of `cgroup.events`

`_parse_events` of `cgroup.py` takes any canonical `key value` lines; `bpe_parse_events` of the
launcher takes only the two keys it knows. What the first returns prints back to the bytes
(`parseEvents_print`), and the two agree on every input.
-/

namespace Bpe.Cgroup

open Launcher List

/-- The reasons of `LinuxCgroupRejected` that the parsers give. -/
inductive RejectionReason where
  | controllerStateMismatch
  deriving DecidableEq

structure LinuxCgroupRejected where
  reason : RejectionReason
  message : String
  deriving DecidableEq

def mismatch {α : Type} (message : String) : Except LinuxCgroupRejected α :=
  .error ⟨.controllerStateMismatch, message⟩

/-- `content.decode("ascii")`. -/
def decodeAscii (content : List UInt8) : Option (List Char) :=
  if content.all (· < 128) then some (content.map fun b => Char.ofNat b.toNat) else none

def isAscii (text : List Char) : Bool := text.all fun c => c.toNat < 128

/-- `str.isdecimal`, of an ASCII text. -/
def isDecimal (text : List Char) : Bool := !text.isEmpty && text.all fun c => '0' ≤ c ∧ c ≤ '9'

def digitOf (c : Char) : Nat := c.toNat - '0'.toNat

/-- `int(encoded_value)`, of decimal digits. -/
def decimalValue (text : List Char) : Nat := digitsValue 0 (text.map digitOf)

/-- A `dict[str, int]`, in the order of its insertions. -/
abbrev EventMap : Type := List (List Char × Nat)

/-- The body of the loop over the lines. -/
def parseEventLine (result : EventMap) (line : List Char) :
    Except LinuxCgroupRejected EventMap :=
  match line.splitOn ' ' with
  | [key, encodedValue] =>
    if key.isEmpty || key.length > 64 || !isAscii key ||
        key.any (fun c => c ∉ ['.', '_'] ∧ ¬ ('a' ≤ c ∧ c ≤ 'z')) ||
        key ∈ result.map Prod.fst || !isAscii encodedValue || !isDecimal encodedValue ||
        (encodedValue.length > 1 && encodedValue.head? == some '0') then
      mismatch "cgroup events have a noncanonical field"
    else
      let parsed := decimalValue encodedValue
      if parsed > 2 ^ 63 - 1 then mismatch "cgroup events exceed the fixed integer bound"
      else .ok (result ++ [(key, parsed)])
  | _ => mismatch "cgroup events have an invalid field"

def parseEvents (content : List UInt8) : Except LinuxCgroupRejected EventMap :=
  match decodeAscii content with
  | none => mismatch "cgroup events are not canonical ASCII"
  | some value =>
    if value.getLast? ≠ some '\n' ∨ Char.ofNat 0 ∈ value ∨ '\r' ∈ value then
      mismatch "cgroup events are malformed"
    else
      let lines := value.dropLast.splitOn '\n'
      if lines.isEmpty || lines.length > 64 then
        mismatch "cgroup events have an invalid field count"
      else lines.foldlM parseEventLine []

/-! ## Printing the mapping -/

def printEvent (entry : List Char × Nat) : List Char :=
  entry.1 ++ ' ' :: (decimalDigits entry.2).map fun d => Char.ofNat (48 + d)

/-- The file whose lines are the entries. -/
def printEvents (events : EventMap) : List UInt8 :=
  events.flatMap fun entry => (printEvent entry ++ ['\n']).map fun c => UInt8.ofNat c.toNat

theorem toNat_ofNat_ascii {n : Nat} (h : n < 128) : (Char.ofNat n).toNat = n := by
  have hvalid : n.isValidChar := .inl (by omega)
  unfold Char.ofNat
  rw [dif_pos hvalid]
  rfl

theorem encode_decodeAscii {content : List UInt8} {value : List Char}
    (h : decodeAscii content = some value) :
    value.map (fun c => UInt8.ofNat c.toNat) = content := by
  unfold decodeAscii at h
  split at h
  · next hascii =>
    cases h
    rw [map_map]
    refine (map_congr_left fun b hb => ?_).trans (map_id content)
    have hlt : b < 128 := by simpa using all_eq_true.1 hascii b hb
    have hnat : b.toNat < 128 := UInt8.lt_iff_toNat_lt.1 hlt
    show UInt8.ofNat (Char.ofNat b.toNat).toNat = b
    rw [toNat_ofNat_ascii hnat, UInt8.ofNat_toNat]
  · cases h

theorem print_digitOf {c : Char} (hlow : '0' ≤ c) : Char.ofNat (48 + digitOf c) = c := by
  have hnat : 48 ≤ c.toNat := hlow
  have hsum : 48 + digitOf c = c.toNat := by
    unfold digitOf
    show 48 + (c.toNat - 48) = c.toNat
    omega
  rw [hsum, Char.ofNat_toNat]

/-- A canonical value prints as it was written. -/
theorem print_decimalValue {text : List Char} (hdec : isDecimal text)
    (hzero : ¬ (text.length > 1 ∧ text.head? = some '0')) :
    (decimalDigits (decimalValue text)).map (fun d => Char.ofNat (48 + d)) = text := by
  obtain ⟨hne, hdigits⟩ : text ≠ [] ∧ ∀ c ∈ text, '0' ≤ c ∧ c ≤ '9' := by
    simpa [isDecimal] using hdec
  refine map_decimalDigits ⟨by simpa using hne, forall_mem_map.2 fun c hc => ?_, ?_⟩
    fun c hc => print_digitOf (hdigits c hc).1
  · have hhigh : c.toNat ≤ 57 := (hdigits c hc).2
    show c.toNat - 48 < 10
    omega
  · intro hlen hfirst
    rw [head?_map, Option.map_eq_some_iff] at hfirst
    obtain ⟨c, hc, hdigit⟩ := hfirst
    have hprint := print_digitOf (hdigits c (mem_of_mem_head? hc)).1
    rw [hdigit] at hprint
    refine hzero ⟨by simpa using hlen, ?_⟩
    rw [hc, ← hprint]

theorem intercalate_concat {α : Type} (x : α) {lines : List (List α)} (h : lines ≠ []) :
    [x].intercalate lines ++ [x] = lines.flatMap (· ++ [x]) := by
  induction lines with
  | nil => exact absurd rfl h
  | cons line lines ih =>
    cases lines with
    | nil => simp
    | cons next lines =>
      rw [intercalate_cons_cons, append_assoc, ih (cons_ne_nil _ _)]
      rfl

theorem parseEventLine_ok {result result' : EventMap} {line : List Char}
    (h : parseEventLine result line = .ok result') : ∃ entry,
      result' = result ++ [entry] ∧ entry.1 ∉ result.map Prod.fst ∧ line = printEvent entry := by
  unfold parseEventLine at h
  split at h
  · next key encodedValue hparts =>
    obtain ⟨hcanonical, h⟩ := ite_error_eq_ok.1 h
    obtain ⟨-, h⟩ := ite_error_eq_ok.1 h
    cases h
    simp only [Bool.or_eq_true, not_or, decide_eq_true_eq, Bool.not_eq_true', Bool.not_eq_false,
      Bool.and_eq_true, beq_iff_eq] at hcanonical
    obtain ⟨⟨⟨⟨-, hnew⟩, -⟩, hdec⟩, hzero⟩ := hcanonical
    refine ⟨(key, decimalValue encodedValue), rfl, hnew, ?_⟩
    have hline : [' '].intercalate (line.splitOn ' ') = line := intercalate_splitOn ' '
    rw [hparts, intercalate_cons_cons, intercalate_singleton] at hline
    rw [printEvent, print_decimalValue hdec hzero, ← hline, append_assoc,
      singleton_append]
  · cases h

/-- The whole loop: the lines are the entries added, under new keys. -/
theorem parseEventLines_ok {lines : List (List Char)} {result result' : EventMap}
    (h : lines.foldlM parseEventLine result = .ok result')
    (hnodup : (result.map Prod.fst).Nodup) :
    ∃ entries, result' = result ++ entries ∧ (result'.map Prod.fst).Nodup ∧
      lines = entries.map printEvent := by
  induction lines generalizing result with
  | nil =>
    cases h
    exact ⟨[], by simp, hnodup, rfl⟩
  | cons line lines ih =>
    rw [foldlM_cons] at h
    obtain ⟨next, hline, hrest⟩ := bind_eq_ok.1 h
    obtain ⟨entry, rfl, hnew, rfl⟩ := parseEventLine_ok hline
    have hnext : ((result ++ [entry]).map Prod.fst).Nodup := by
      rw [map_append, map_singleton, ← concat_eq_append]
      exact hnodup.concat hnew
    obtain ⟨entries, rfl, hkeys, rfl⟩ := ih hrest hnext
    exact ⟨entry :: entries, by simp, hkeys, rfl⟩

/-- What is accepted is the print of what is returned. -/
theorem parseEvents_print {content : List UInt8} {events : EventMap}
    (h : parseEvents content = .ok events) :
    (events.map Prod.fst).Nodup ∧ content = printEvents events := by
  unfold parseEvents at h
  split at h
  · cases h
  next value hvalue =>
  obtain ⟨hshape, h⟩ := ite_error_eq_ok.1 h
  obtain ⟨hcount, h⟩ := ite_error_eq_ok.1 h
  obtain ⟨_, rfl, hkeys, hlines⟩ := parseEventLines_ok h nodup_nil
  refine ⟨hkeys, ?_⟩
  have hlast : value.getLast? = some '\n' := by
    by_contra hne
    exact hshape (.inl hne)
  have hne : events ≠ [] := by
    rintro rfl
    exact splitOn_ne_nil _ _ hlines
  have htext : value = events.flatMap fun entry => printEvent entry ++ ['\n'] := by
    calc value = value.dropLast ++ ['\n'] := (dropLast_append_getLast? _ hlast).symm
      _ = ['\n'].intercalate (events.map printEvent) ++ ['\n'] := by
        rw [← hlines, intercalate_splitOn]
      _ = events.flatMap fun entry => printEvent entry ++ ['\n'] := by
        rw [intercalate_concat _ (by simpa using hne), flatMap_map]
  rw [← encode_decodeAscii hvalue, htext, printEvents, map_flatMap]

/-! ## The launcher's texts -/

/-- A line `key0` or `key1`. -/
def flagText (key : List UInt8) (flag : Bool) : List UInt8 := key ++ [if flag then 49 else 48, 10]

theorem flagLine_eq_some {key line : List UInt8} {n : Int} (h : flagLine key line = some n) :
    ∃ flag : Bool, line ++ [10] = flagText key flag ∧ n = if flag then 1 else 0 := by
  unfold flagLine at h
  split at h
  · next hline =>
    cases h
    exact ⟨false, by rw [hline, append_assoc]; rfl, rfl⟩
  · split at h
    · next hline =>
      cases h
      exact ⟨true, by rw [hline, append_assoc]; rfl, rfl⟩
    · cases h

/-- The input is its first line, the newline that ends it and what follows. -/
theorem line_append_rest {input : List UInt8}
    (h : (input.takeWhile (· ≠ 10)).length ≠ input.length) :
    input = (input.takeWhile (· ≠ 10) ++ [10]) ++
      input.drop ((input.takeWhile (· ≠ 10)).length + 1) := by
  have hsplit := takeWhile_append_dropWhile (p := fun b : UInt8 => b ≠ 10) (l := input)
  cases hrest : input.dropWhile (· ≠ 10) with
  | nil =>
    rw [hrest, append_nil] at hsplit
    exact absurd (congrArg length hsplit) h
  | cons b rest =>
    have hb : b = 10 := by
      have hhead := head?_dropWhile_not (fun b : UInt8 => decide (b ≠ 10)) input
      rw [hrest] at hhead
      simpa using hhead
    rw [hrest, hb] at hsplit
    generalize input.takeWhile (· ≠ 10) = line at hsplit ⊢
    have hdrop : input.drop (line.length + 1) = rest := by
      rw [← hsplit, append_cons]
      exact drop_left' (by simp)
    rw [hdrop, append_assoc]
    exact hsplit.symm

theorem parseEventLines_cases {fuel : Nat} {input : List UInt8} {events events' : Events}
    {sawPopulated : Bool} (h : parseEventLines fuel input events sawPopulated = some events') :
    (input = [] ∧ sawPopulated = true ∧ (events.sawFrozen = true → events.frozen = 0) ∧
      events' = events) ∨
    (∃ (flag : Bool) (rest : List UInt8) (fuel' : Nat), input = flagText populatedKey flag ++ rest ∧
      sawPopulated = false ∧ parseEventLines fuel' rest
        { events with populated := if flag then 1 else 0 } true = some events') ∨
    (∃ (flag : Bool) (rest : List UInt8) (fuel' : Nat), input = flagText frozenKey flag ++ rest ∧
      events.sawFrozen = false ∧ parseEventLines fuel' rest
        { events with frozen := if flag then 1 else 0, sawFrozen := true } sawPopulated =
          some events') := by
  cases fuel with
  | zero => cases h
  | succ fuel =>
  rw [parseEventLines] at h
  split at h
  · next hempty =>
    split at h
    · next hdone =>
      cases h
      refine .inl ⟨eq_nil_of_length_eq_zero hempty, hdone.1, fun hsaw => ?_, rfl⟩
      simpa [hsaw] using hdone.2
    · cases h
  · simp only at h
    split at h
    · cases h
    next hline =>
    have hinput := line_append_rest hline
    generalize hl : input.takeWhile (· ≠ 10) = line at *
    split at h
    · next hflag =>
      split at h
      · cases h
      next hsaw =>
      obtain ⟨flag, htext, rfl⟩ := flagLine_eq_some hflag
      rw [htext] at hinput
      exact .inr (.inl ⟨flag, _, fuel, hinput, by simpa using hsaw, h⟩)
    · next hflag =>
      split at h
      · cases h
      next hsaw =>
      obtain ⟨flag, htext, rfl⟩ := flagLine_eq_some hflag
      rw [htext] at hinput
      exact .inr (.inr ⟨flag, _, fuel, hinput, by simpa using hsaw, h⟩)
    · cases h

/-- The six texts the launcher accepts. -/
theorem bpeParseEvents_eq_some {input : List UInt8} {events : Events}
    (h : bpeParseEvents input = some events) : ∃ flag : Bool,
      (input = flagText populatedKey flag ∧
        events = ⟨if flag then 1 else 0, -1, false⟩) ∨
      ((input = flagText populatedKey flag ++ flagText frozenKey false ∨
        input = flagText frozenKey false ++ flagText populatedKey flag) ∧
        events = ⟨if flag then 1 else 0, 0, true⟩) := by
  unfold bpeParseEvents at h
  split at h
  · cases h
  obtain ⟨-, hsaw, -⟩ | ⟨flag, rest, fuel, rfl, -, h⟩ | ⟨frozen, rest, fuel, rfl, -, h⟩ :=
    parseEventLines_cases h
  · cases hsaw
  · refine ⟨flag, ?_⟩
    obtain ⟨rfl, -, -, rfl⟩ | ⟨_, _, _, -, hsaw, -⟩ | ⟨frozen, rest, fuel, rfl, -, h⟩ :=
      parseEventLines_cases h
    · exact .inl ⟨append_nil _, rfl⟩
    · cases hsaw
    obtain ⟨rfl, -, hfrozen, rfl⟩ | ⟨_, _, _, -, hsaw, -⟩ | ⟨_, _, _, -, hsaw, -⟩ :=
      parseEventLines_cases h
    · cases frozen with
      | false => exact .inr ⟨.inl (by rw [append_nil]), rfl⟩
      | true => cases hfrozen rfl
    · cases hsaw
    · cases hsaw
  · obtain ⟨-, hsaw, -⟩ | ⟨flag, rest, fuel, rfl, -, h⟩ | ⟨_, _, _, -, hsaw, -⟩ :=
      parseEventLines_cases h
    · cases hsaw
    · refine ⟨flag, ?_⟩
      obtain ⟨rfl, -, hfrozen, rfl⟩ | ⟨_, _, _, -, hsaw, -⟩ | ⟨_, _, _, -, hsaw, -⟩ :=
        parseEventLines_cases h
      · cases frozen with
        | false => exact .inr ⟨.inr (by rw [append_nil]), rfl⟩
        | true => cases hfrozen rfl
      · cases hsaw
      · cases hsaw
    · cases hsaw

/-! ## Agreement -/

def populatedName : List Char := "populated".toList
def frozenName : List Char := "frozen".toList

/-- The mapping of `_parse_events` that stands for the launcher's record. -/
structure Agrees (events : Events) (mapping : EventMap) : Prop where
  populated : ∃ n, mapping.lookup populatedName = some n ∧ events.populated = n
  frozen : mapping.lookup frozenName = if events.sawFrozen then some 0 else none
  value : events.sawFrozen = true → events.frozen = 0
  keys : ∀ key ∈ mapping.map Prod.fst, key = populatedName ∨ key = frozenName

/-- A mapping the launcher has a record for. -/
structure Known (mapping : EventMap) (populated : Nat) : Prop where
  keys : ∀ key ∈ mapping.map Prod.fst, key = populatedName ∨ key = frozenName
  found : mapping.lookup populatedName = some populated
  flag : populated = 0 ∨ populated = 1
  frozen : ∀ n, mapping.lookup frozenName = some n → n = 0

theorem populatedName_ne_frozenName : populatedName ≠ frozenName := by decide

theorem lookup_cons_self (key : List Char) (n : Nat) (rest : EventMap) :
    lookup key ((key, n) :: rest) = some n := by
  rw [lookup_cons, beq_self_eq_true]

theorem lookup_cons_ne {key other : List Char} (h : key ≠ other) (n : Nat) (rest : EventMap) :
    lookup key ((other, n) :: rest) = lookup key rest := by
  rw [lookup_cons, beq_eq_false_iff_ne.2 h]

theorem Known.eq_entries {mapping : EventMap} {populated : Nat} (h : Known mapping populated)
    (hnodup : (mapping.map Prod.fst).Nodup) :
    mapping = [(populatedName, populated)] ∨
      mapping = [(populatedName, populated), (frozenName, 0)] ∨
      mapping = [(frozenName, 0), (populatedName, populated)] := by
  have hdiff := populatedName_ne_frozenName
  obtain ⟨hkeys, hfound, -, hfrozen⟩ := h
  match mapping with
  | [] => cases hfound
  | [(key, n)] =>
    rcases hkeys key (by simp) with rfl | rfl
    · rw [lookup_cons_self] at hfound
      exact .inl (by rw [Option.some.inj hfound])
    · rw [lookup_cons_ne hdiff] at hfound
      cases hfound
  | [(key, n), (key', n')] =>
    have hne : key ≠ key' := by simpa using hnodup
    rcases hkeys key (by simp) with rfl | rfl <;> rcases hkeys key' (by simp) with rfl | rfl
    · exact absurd rfl hne
    · rw [lookup_cons_self] at hfound
      rw [lookup_cons_ne hdiff.symm, lookup_cons_self] at hfrozen
      exact .inr (.inl (by rw [Option.some.inj hfound, hfrozen n' rfl]))
    · rw [lookup_cons_ne hdiff, lookup_cons_self] at hfound
      rw [lookup_cons_self] at hfrozen
      exact .inr (.inr (by rw [Option.some.inj hfound, hfrozen n rfl]))
    · exact absurd rfl hne
  | (key, n) :: (key', n') :: (key'', n'') :: rest =>
    -- three different keys among two
    exfalso
    simp only [map_cons, nodup_cons, mem_cons, not_or] at hnodup
    obtain ⟨⟨h₁, h₂, -⟩, ⟨h₃, -⟩, -⟩ := hnodup
    rcases hkeys key (by simp) with rfl | rfl <;> rcases hkeys key' (by simp) with rfl | rfl <;>
      rcases hkeys key'' (by simp) with rfl | rfl <;> contradiction

theorem parseEvents_flagText : ∀ flag : Bool,
    parseEvents (flagText populatedKey flag) =
      .ok [(populatedName, if flag then 1 else 0)] ∧
    parseEvents (flagText populatedKey flag ++ flagText frozenKey false) =
      .ok [(populatedName, if flag then 1 else 0), (frozenName, 0)] ∧
    parseEvents (flagText frozenKey false ++ flagText populatedKey flag) =
      .ok [(frozenName, 0), (populatedName, if flag then 1 else 0)] := by
  decide

theorem bpeParseEvents_print : ∀ flag : Bool,
    bpeParseEvents (printEvents [(populatedName, if flag then 1 else 0)]) =
      some ⟨if flag then 1 else 0, -1, false⟩ ∧
    bpeParseEvents (printEvents [(populatedName, if flag then 1 else 0), (frozenName, 0)]) =
      some ⟨if flag then 1 else 0, 0, true⟩ ∧
    bpeParseEvents (printEvents [(frozenName, 0), (populatedName, if flag then 1 else 0)]) =
      some ⟨if flag then 1 else 0, 0, true⟩ := by
  decide

/-- **The two parsers agree.** -/
theorem event_parsers_agree (content : List UInt8) :
    (∀ events, bpeParseEvents content = some events →
      ∃ mapping, parseEvents content = .ok mapping ∧ Agrees events mapping) ∧
    (∀ mapping populated, parseEvents content = .ok mapping → Known mapping populated →
      bpeParseEvents content = some
        { populated := populated
          frozen := if (mapping.lookup frozenName).isSome then 0 else -1
          sawFrozen := (mapping.lookup frozenName).isSome }) := by
  constructor
  · intro events h
    obtain ⟨flag, ⟨rfl, rfl⟩ | ⟨rfl | rfl, rfl⟩⟩ := bpeParseEvents_eq_some h
    · refine ⟨_, (parseEvents_flagText flag).1, ?_⟩
      cases flag <;> exact ⟨⟨_, rfl, rfl⟩, rfl, by decide, by decide⟩
    · refine ⟨_, (parseEvents_flagText flag).2.1, ?_⟩
      cases flag <;> exact ⟨⟨_, rfl, rfl⟩, rfl, by decide, by decide⟩
    · refine ⟨_, (parseEvents_flagText flag).2.2, ?_⟩
      cases flag <;> exact ⟨⟨_, rfl, rfl⟩, rfl, by decide, by decide⟩
  · intro mapping populated hparse hknown
    obtain ⟨hnodup, rfl⟩ := parseEvents_print hparse
    obtain ⟨flag, rfl⟩ : ∃ flag : Bool, populated = if flag then 1 else 0 := by
      rcases hknown.flag with rfl | rfl
      · exact ⟨false, rfl⟩
      · exact ⟨true, rfl⟩
    obtain rfl | rfl | rfl := hknown.eq_entries hnodup
    · rw [(bpeParseEvents_print flag).1]
      cases flag <;> rfl
    · rw [(bpeParseEvents_print flag).2.1]
      cases flag <;> rfl
    · rw [(bpeParseEvents_print flag).2.2]
      cases flag <;> rfl

/-- `populated 1` and a newline, for both parsers. -/
theorem event_parsers_agree_populated :
    (∃ mapping, parseEvents (flagText populatedKey true) = .ok mapping ∧
      Agrees ⟨1, -1, false⟩ mapping) ∧
    bpeParseEvents (flagText populatedKey true) = some ⟨1, -1, false⟩ :=
  ⟨(event_parsers_agree _).1 _ (by decide),
    (event_parsers_agree (flagText populatedKey true)).2 [(populatedName, 1)] 1 (by decide)
      ⟨by decide, rfl, .inr rfl, fun _ h => by cases h⟩⟩

end Bpe.Cgroup
