import Bpe.Lib.Base64
import Mathlib.Data.List.DropRight
import Mathlib.Logic.ExistsUnique

/-!
# Key and signature texts

`_decode_base64url` of `dispatch.py`, which `inert_fixture.py` repeats, and the patterns of the
schema. The library's decoder ignores padding bits, so it is the check against the encoding that
makes a text canonical: what is accepted is the encoding of what is returned
(`decodeBase64url_eq_ok`).
-/

namespace Bpe.Dispatch

open List

/-- `[A-Za-z0-9_-]`. -/
def isBase64url (c : Char) : Bool :=
  ('A' ≤ c ∧ c ≤ 'Z') ∨ ('a' ≤ c ∧ c ≤ 'z') ∨ ('0' ≤ c ∧ c ≤ '9') ∨ c = '_' ∨ c = '-'

/-- `[A-Za-z0-9_-]{count}[tail]`. -/
def matchesText (count : Nat) (tail : List Char) (value : List Char) : Bool :=
  value.length = count + 1 ∧ (value.take count).all isBase64url ∧ value.getLast?.all (· ∈ tail)

def publicKeyPattern : List Char → Bool := matchesText 42 "AEIMQUYcgkosw048".toList

def signaturePattern : List Char → Bool := matchesText 85 "AQgw".toList

/-! ## The library -/

def base64Alphabet : List Char :=
  "ABCDEFGHIJKLMNOPQRSTUVWXYZabcdefghijklmnopqrstuvwxyz0123456789+/".toList

def base64Value (c : Char) : Option Nat := base64Alphabet.idxOf? c

def base64Char (n : Nat) : Char := base64Alphabet.getD n '='

/-- The number of `=` after `length` characters: `-length % 4`. -/
def paddingLength (length : Nat) : Nat := (4 - length % 4) % 4

/-- The alphabet's last two characters for `altchars=b"-_"`, and back. -/
def toAltchars (c : Char) : Char := if c = '+' then '-' else if c = '/' then '_' else c

def fromAltchars (c : Char) : Char := if c = '-' then '+' else if c = '_' then '/' else c

/-- `base64.b64decode(…, altchars=b"-_", validate=True)`: the two characters are replaced, and
the text is refused unless characters of the alphabet come with their padding. -/
def b64decode (text : List Char) : Option (List UInt8) :=
  let text := text.map fromAltchars
  let data := text.takeWhile (· ≠ '=')
  if text.drop data.length = replicate (paddingLength data.length) '=' then
    (data.mapM base64Value).bind octets
  else none

def urlsafeB64encode (bytes : List UInt8) : List Char :=
  let text := (sextets bytes).map base64Char
  (text ++ replicate (paddingLength text.length) '=').map toAltchars

/-! ## The source -/

def decodeBase64url (value : List Char) (expectedBytes : Nat) (label : String) :
    Except String (List UInt8) :=
  if ¬ (value ≠ [] ∧ value.all isBase64url) ∨ '=' ∈ value then
    .error s!"{label} must be unpadded base64url"
  else
    match b64decode (value ++ replicate (paddingLength value.length) '=') with
    | none => .error s!"{label} must be unpadded base64url"
    | some decoded =>
      if decoded.length ≠ expectedBytes then .error s!"{label} has the wrong decoded length"
      else
        let canonical := (urlsafeB64encode decoded).rdropWhile (· = '=')
        if canonical ≠ value then .error s!"{label} is not canonical base64url"
        else .ok decoded

/-! ## Characters and groups -/

def urlChar (n : Nat) : Char := toAltchars (base64Char n)

/-- The text of some bytes, without padding. -/
def encodeText (bytes : List UInt8) : List Char := (sextets bytes).map urlChar

theorem urlChar_cases : ∀ n < 64, isBase64url (urlChar n) = true ∧ urlChar n ≠ '=' ∧
    fromAltchars (urlChar n) ≠ '=' ∧ base64Value (fromAltchars (urlChar n)) = some n ∧
    (urlChar n ∈ "AEIMQUYcgkosw048".toList ↔ n % 4 = 0) ∧
    (urlChar n ∈ "AQgw".toList ↔ n % 16 = 0) := by
  decide +kernel

theorem exists_urlChar_ascii : ∀ k < 128, isBase64url (Char.ofNat k) = true →
    ∃ n < 64, urlChar n = Char.ofNat k := by
  decide +kernel

theorem exists_urlChar {c : Char} (h : isBase64url c) : ∃ n < 64, urlChar n = c := by
  have hascii : c.toNat < 128 := by
    have hle : ∀ {d : Char}, c ≤ d → d.toNat < 128 → c.toNat < 128 := fun hcd hd =>
      Nat.lt_of_le_of_lt hcd hd
    unfold isBase64url at h
    rcases of_decide_eq_true h with h | h | h | rfl | rfl
    · exact hle h.2 (by decide)
    · exact hle h.2 (by decide)
    · exact hle h.2 (by decide)
    · decide
    · decide
  have := exists_urlChar_ascii c.toNat hascii
  rw [Char.ofNat_toNat] at this
  exact this h

theorem exists_groups {value : List Char} (h : ∀ c ∈ value, isBase64url c) :
    ∃ groups : List Nat, (∀ n ∈ groups, n < 64) ∧ groups.map urlChar = value := by
  induction value with
  | nil => exact ⟨[], by simp, rfl⟩
  | cons c value ih =>
    obtain ⟨n, hn, rfl⟩ := exists_urlChar (h c mem_cons_self)
    obtain ⟨groups, hgroups, rfl⟩ := ih fun d hd => h d (mem_cons_of_mem _ hd)
    exact ⟨n :: groups, forall_mem_cons.2 ⟨hn, hgroups⟩, rfl⟩

/-! ## The library on groups -/

section Groups

variable {groups : List Nat} (hlt : ∀ n ∈ groups, n < 64)
include hlt

theorem map_urlChar_base64url : ∀ c ∈ groups.map urlChar, isBase64url c = true :=
  forall_mem_map.2 fun n hn => (urlChar_cases n (hlt n hn)).1

theorem map_urlChar_ne_pad : '=' ∉ groups.map urlChar := by
  intro hmem
  obtain ⟨n, hn, hpad⟩ := mem_map.1 hmem
  exact (urlChar_cases n (hlt n hn)).2.1 hpad

theorem mapM_base64Value :
    (groups.map fun n => fromAltchars (urlChar n)).mapM base64Value = some groups := by
  induction groups with
  | nil => rfl
  | cons n groups ih =>
    obtain ⟨hn, hrest⟩ := forall_mem_cons.1 hlt
    rw [map_cons, mapM_cons, (urlChar_cases n hn).2.2.2.1, ih hrest]
    rfl

theorem b64decode_map_urlChar :
    b64decode (groups.map urlChar ++ replicate (paddingLength groups.length) '=') =
      octets groups := by
  have hdata : ∀ c ∈ groups.map fun n => fromAltchars (urlChar n), c ≠ '=' :=
    forall_mem_map.2 fun n hn => (urlChar_cases n (hlt n hn)).2.2.1
  have hpads : (replicate (paddingLength groups.length) '=').map fromAltchars =
      replicate (paddingLength groups.length) '=' := by
    rw [map_replicate]
    rfl
  have htake : ((groups.map fun n => fromAltchars (urlChar n)) ++
      replicate (paddingLength groups.length) '=').takeWhile (· ≠ '=') =
        groups.map fun n => fromAltchars (urlChar n) := by
    rw [takeWhile_append_of_pos (by simpa using hdata), takeWhile_replicate]
    simp
  unfold b64decode
  simp only [map_append, map_map, hpads]
  rw [show fromAltchars ∘ urlChar = fun n => fromAltchars (urlChar n) from rfl, htake,
    drop_left, length_map, if_pos rfl, mapM_base64Value hlt]
  rfl

end Groups

theorem rdropWhile_urlsafeB64encode (bytes : List UInt8) :
    (urlsafeB64encode bytes).rdropWhile (· = '=') = encodeText bytes := by
  have hpads : ∀ n, (replicate n '=').map toAltchars = replicate n '=' := by
    intro n
    rw [map_replicate]
    rfl
  have hstrip : ∀ n (text : List Char), (text ++ replicate n '=').rdropWhile (· = '=') =
      text.rdropWhile (· = '=') := by
    intro n text
    induction n with
    | zero => rw [replicate_zero, append_nil]
    | succ n ih =>
      rw [replicate_succ', ← append_assoc, rdropWhile_concat_pos _ _ _ (by simp), ih]
  unfold urlsafeB64encode
  simp only [map_append, map_map, hpads]
  rw [hstrip]
  refine rdropWhile_eq_self_iff.2 fun hne hlast => ?_
  have hmem := getLast_mem hne
  rw [of_decide_eq_true hlast] at hmem
  exact map_urlChar_ne_pad (sextets_lt bytes) hmem

/-! ## What is accepted -/

/-- A text is accepted when it is the encoding of what is returned. -/
theorem decodeBase64url_eq_ok {value : List Char} {expectedBytes : Nat} {label : String}
    {bytes : List UInt8} (hpos : 0 < expectedBytes) :
    decodeBase64url value expectedBytes label = .ok bytes ↔
      bytes.length = expectedBytes ∧ value = encodeText bytes := by
  constructor
  · intro h
    unfold decodeBase64url at h
    split at h
    · cases h
    split at h
    · cases h
    next decoded hdecoded =>
    split at h
    · cases h
    next hlen =>
    simp only [rdropWhile_urlsafeB64encode] at h
    split at h
    · cases h
    next hcanonical =>
    cases h
    exact ⟨not_not.1 hlen, (not_not.1 hcanonical).symm⟩
  · rintro ⟨hlen, rfl⟩
    have hlt := sextets_lt bytes
    have hne : encodeText bytes ≠ [] := by
      apply ne_nil_of_length_pos
      rw [encodeText, length_map, length_sextets]
      omega
    unfold decodeBase64url
    rw [if_neg, encodeText, length_map, b64decode_map_urlChar hlt, octets_sextets]
    · simp only
      rw [if_neg (not_not.2 hlen), rdropWhile_urlsafeB64encode, encodeText,
        if_neg (not_not.2 rfl)]
    · rw [not_or, not_not]
      exact ⟨⟨hne, all_eq_true.2 (map_urlChar_base64url hlt)⟩, map_urlChar_ne_pad hlt⟩

/-- A pattern whose last character leaves the padding bits clear. -/
theorem matchesText_iff {count size : Nat} {tail : List Char}
    (hlen : count + 1 = (4 * size + 2) / 3)
    (hsize : (count + 1) * 3 / 4 = size) (halphabet : ∀ c ∈ tail, isBase64url c)
    (htail : ∀ groups : List Nat, groups.length = count + 1 → (∀ n ∈ groups, n < 64) →
      ((∀ n ∈ groups.getLast?, urlChar n ∈ tail) ↔ PaddingZero groups)) (value : List Char) :
    matchesText count tail value ↔ ∃ bytes, bytes.length = size ∧ value = encodeText bytes := by
  simp only [matchesText, decide_eq_true_iff, all_eq_true, Option.all_eq_true]
  constructor
  · rintro ⟨hvalue, hfront, hlast⟩
    have hall : ∀ c ∈ value, isBase64url c = true := by
      have hne : value ≠ [] := ne_nil_of_length_pos (by omega)
      have hdrop : value.dropLast = value.take count := by
        rw [dropLast_eq_take, hvalue, Nat.add_sub_cancel]
      rw [← dropLast_append_getLast hne, hdrop, forall_mem_append]
      refine ⟨hfront, forall_mem_singleton.2 (halphabet _ (hlast _ ?_))⟩
      rw [getLast?_eq_some_getLast hne]
    obtain ⟨groups, hlt, rfl⟩ := exists_groups hall
    rw [length_map] at hvalue
    have hzero : PaddingZero groups := by
      refine (htail groups hvalue hlt).1 fun n hn => hlast _ ?_
      rw [getLast?_map, Option.mem_def.1 hn]
      rfl
    have hwhole : groups.length % 4 ≠ 1 := by omega
    obtain ⟨bytes, hbytes, hlength⟩ := octets_isSome hwhole
    refine ⟨bytes, by rw [hlength, hvalue, hsize], ?_⟩
    rw [encodeText, sextets_octets hlt hzero hbytes]
  · rintro ⟨bytes, rfl, rfl⟩
    have hlt := sextets_lt bytes
    have hlength : (sextets bytes).length = count + 1 := by rw [length_sextets, hlen]
    refine ⟨by rw [encodeText, length_map, hlength], fun c hc => ?_, fun c hc => ?_⟩
    · exact map_urlChar_base64url hlt c (mem_of_mem_take hc)
    · rw [encodeText, getLast?_map, Option.map_eq_some_iff] at hc
      obtain ⟨n, hn, rfl⟩ := hc
      exact (htail _ hlength hlt).2 (paddingZero_sextets bytes) n hn

theorem publicKeyPattern_iff (value : List Char) :
    publicKeyPattern value ↔ ∃ bytes, bytes.length = 32 ∧ value = encodeText bytes := by
  refine matchesText_iff (by decide) (by decide) (all_eq_true.1 rfl) ?_ value
  intro groups hlen hlt
  rw [paddingZero_iff, hlen]
  have hcases : ∀ n ∈ groups.getLast?, (urlChar n ∈ "AEIMQUYcgkosw048".toList ↔ n % 4 = 0) :=
    fun n hn => (urlChar_cases n (hlt n (mem_of_getLast? hn))).2.2.2.2.1
  simpa using forall₂_congr hcases

theorem signaturePattern_iff (value : List Char) :
    signaturePattern value ↔ ∃ bytes, bytes.length = 64 ∧ value = encodeText bytes := by
  refine matchesText_iff (by decide) (by decide) (all_eq_true.1 rfl) ?_ value
  intro groups hlen hlt
  rw [paddingZero_iff, hlen]
  have hcases : ∀ n ∈ groups.getLast?, (urlChar n ∈ "AQgw".toList ↔ n % 16 = 0) :=
    fun n hn => (urlChar_cases n (hlt n (mem_of_getLast? hn))).2.2.2.2.2
  simpa using forall₂_congr hcases

/-- A pattern for exactly the texts that decode, one for each byte string. -/
structure Canonical (pattern : List Char → Bool) (size : Nat) (label : String) : Prop where
  accepts : ∀ value, pattern value ↔ ∃ bytes, decodeBase64url value size label = .ok bytes
  length : ∀ value bytes, decodeBase64url value size label = .ok bytes → bytes.length = size
  unique : ∀ bytes : List UInt8, bytes.length = size →
    ∃! value, decodeBase64url value size label = .ok bytes

theorem canonical_of_pattern {pattern : List Char → Bool} {size : Nat} (hpos : 0 < size)
    (label : String) (h : ∀ value, pattern value ↔
      ∃ bytes, bytes.length = size ∧ value = encodeText bytes) : Canonical pattern size label where
  accepts value := by
    rw [h]
    exact exists_congr fun bytes => (decodeBase64url_eq_ok hpos).symm
  length value bytes hok := ((decodeBase64url_eq_ok hpos).1 hok).1
  unique bytes hlen := by
    refine ⟨encodeText bytes, (decodeBase64url_eq_ok hpos).2 ⟨hlen, rfl⟩, fun value hok => ?_⟩
    exact ((decodeBase64url_eq_ok hpos).1 hok).2

/-- **Key and signature texts are canonical.** -/
theorem key_and_signature_text_canonical (label : String) :
    Canonical publicKeyPattern 32 label ∧ Canonical signaturePattern 64 label :=
  ⟨canonical_of_pattern (by decide) label publicKeyPattern_iff,
    canonical_of_pattern (by decide) label signaturePattern_iff⟩

end Bpe.Dispatch
