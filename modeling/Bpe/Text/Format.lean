import Bpe.Text.Comment

/-!
# Formatting does not change the tokens

A text is written from tokens with whitespace and comments before, between and after
them. `IsToken` is the language of the token pattern, said without its matcher: the
texts that the pattern matches as a whole. Both tokenizers read the tokens back
(`tokenize_written`). The walk copies tokens and turns a separator into whitespace;
whitespace ends the token before it, so that the scan stops where the token does.
-/

namespace Bpe.Text

open List Option

variable {U : Unicode}

/-! ## The language of the pattern -/

/-- What stands between the quotes of a literal. -/
inductive LiteralBody (quote : Char) : Source → Prop
  | nil : LiteralBody quote []
  | plain {c : Char} {rest : Source} : c ≠ quote → c ≠ '\\' → LiteralBody quote rest →
      LiteralBody quote (c :: rest)
  | escape {d : Char} {rest : Source} : d ≠ '\n' → LiteralBody quote rest →
      LiteralBody quote ('\\' :: d :: rest)

inductive IsMantissa (U : Unicode) : Source → Prop
  | point {whole fraction : Source} : whole ≠ [] ∨ fraction ≠ [] →
      (∀ c ∈ whole, U.isDecimal c = true) → (∀ c ∈ fraction, U.isDecimal c = true) →
      IsMantissa U (whole ++ '.' :: fraction)
  | whole {whole : Source} : whole ≠ [] → (∀ c ∈ whole, U.isDecimal c = true) →
      IsMantissa U whole

inductive IsExponent (U : Unicode) : Source → Prop
  | none : IsExponent U []
  | some {e : Char} {sign digits : Source} : isExponentMark e = true →
      sign = [] ∨ sign = ['+'] ∨ sign = ['-'] → digits ≠ [] →
      (∀ c ∈ digits, U.isDecimal c = true) → IsExponent U (e :: sign ++ digits)

inductive IsRadixNumber (markers : List Char) (isDigit : Char → Bool) : Source → Prop
  | mk {x : Char} {digits : Source} : x ∈ markers → digits ≠ [] →
      (∀ c ∈ digits, isDigit c = true) → IsRadixNumber markers isDigit ('0' :: x :: digits)

inductive IsNumberBody (U : Unicode) : Source → Prop
  | hex {n : Source} : IsRadixNumber ['x', 'X'] isHexDigit n → IsNumberBody U n
  | binary {n : Source} : IsRadixNumber ['b', 'B'] isBinaryDigit n → IsNumberBody U n
  | decimal {m e : Source} : IsMantissa U m → IsExponent U e → IsNumberBody U (m ++ e)

/-- The tokens that hold no quote. -/
inductive IsPlain (U : Unicode) : Source → Prop
  | identifier {c : Char} {rest : Source} : isIdentifierStart c = true →
      (∀ x ∈ rest, isIdentifierChar x = true) → IsPlain U (c :: rest)
  | number {n suffix : Source} : IsNumberBody U n → (∀ c ∈ suffix, isNumberSuffix c = true) →
      IsPlain U (n ++ suffix)
  | operator {op : Source} : op ∈ operators → IsPlain U op
  | single {c : Char} : isSpace c = false → IsPlain U [c]

/-- The texts that the token pattern matches as a whole. -/
inductive IsToken (U : Unicode) : Source → Prop
  | string {p body : Source} : p ∈ stringPrefixes → LiteralBody '"' body →
      IsToken U (p ++ '"' :: (body ++ ['"']))
  | character {p body : Source} : p ∈ characterPrefixes → LiteralBody '\'' body →
      IsToken U (p ++ '\'' :: (body ++ ['\'']))
  | plain {t : Source} : IsPlain U t → IsToken U t

/-! ## Written text -/

inductive Piece where
  | space (c : Char)
  | block (body : Source)
  | line (body : Source)

namespace Piece

def text : Piece → Source
  | space c => [c]
  | block body => '/' :: '*' :: body ++ ['*', '/']
  | line body => '/' :: '/' :: body ++ ['\n']

/-- What `strip` leaves of the piece. -/
def stripped : Piece → Source
  | space c => [c]
  | block _ => [' ']
  | line _ => ['\n']

/-- A comment holds neither its own end nor a line splice. -/
def Fits : Piece → Prop
  | space c => isSpace c = true
  | block body => ¬ ['*', '/'] <:+: body ∧ ¬ spliceLf <:+: body ∧ ¬ spliceCrLf <:+: body
  | line body => '\n' ∉ body ∧ ¬ spliceLf <:+: body ++ ['\n'] ∧ ¬ spliceCrLf <:+: body ++ ['\n']

end Piece

/-- A token, and what separates it from the next. -/
structure Item where
  token : Source
  space : Char
  pieces : List Piece

namespace Item

def separator (item : Item) : List Piece := .space item.space :: item.pieces

structure Fits (U : Unicode) (item : Item) : Prop where
  token : IsToken U item.token
  lone : item.token ≠ ['"'] ∧ item.token ≠ ['\''] ∧ item.token ≠ ['\\']
  splices : ¬ spliceLf <:+: item.token ∧ ¬ spliceCrLf <:+: item.token
  separator : ∀ p ∈ item.separator, p.Fits

def text (item : Item) : Source := item.token ++ item.separator.flatMap Piece.text

def stripped (item : Item) : Source := item.token ++ item.separator.flatMap Piece.stripped

end Item

def written (lead : List Piece) (items : List Item) : Source :=
  lead.flatMap Piece.text ++ items.flatMap Item.text

/-! ## The matcher takes the whole token -/

theorem decimal_not_identifierStart {c : Char} (h : U.isDecimal c = true) :
    isIdentifierStart c = false := by
  by_contra hne
  have hstart := Bool.eq_true_of_not_eq_false hne
  obtain ⟨-, hhigh⟩ := isIdentifierChar_lt (c := c) (by rw [isIdentifierChar, hstart]; rfl)
  rw [U.ascii c hhigh] at h
  simp only [isIdentifierStart, within, Bool.or_eq_true, Bool.and_eq_true,
    decide_eq_true_eq, Char.reduceToNat, beq_iff_eq] at h hstart
  rcases hstart with (hstart | hstart) | rfl
  · omega
  · omega
  · exact absurd h.2 (by decide)

variable {s t n m e suffix : Source} {c : Char}

variable {p : Char → Bool}

theorem dropWhile_self_of_head (h : ∀ x ∈ s.head?, p x = false) :
    s.dropWhile p = s := by
  cases s with
  | nil => rfl
  | cons x s => rw [dropWhile_cons, h x rfl]; rfl

/-- A part that the class covers, and then one that does not begin in it. -/
theorem takeWhile_append_of_head (ht : ∀ x ∈ t, p x = true) (h : ∀ x ∈ s.head?, p x = false) :
    (t ++ s).takeWhile p = t := by
  rw [takeWhile_append_of_pos ht, takeWhile_nil_of_head h, append_nil]

theorem dropWhile_append_of_head (ht : ∀ x ∈ t, p x = true) (h : ∀ x ∈ s.head?, p x = false) :
    (t ++ s).dropWhile p = s := by
  rw [dropWhile_append_of_pos ht, dropWhile_self_of_head h]

theorem takeWhile_all (h : ∀ x ∈ s, p x = true) : s.takeWhile p = s := by
  simpa using takeWhile_append_of_head (s := []) h (by simp)

/-! ### Numbers -/

theorem not_decimal_of_mem (letters : List Char)
    (hall : letters.all (fun c => decide (c.toNat < 128) && !within '0' '9' c) = true)
    (h : c ∈ letters) : U.isDecimal c = false := by
  have := all_eq_true.1 hall c h
  simp only [Bool.and_eq_true, decide_eq_true_eq, Bool.not_eq_true'] at this
  exact not_decimal this.1 this.2

theorem isNumberSuffix_not_decimal (h : isNumberSuffix c = true) : U.isDecimal c = false :=
  not_decimal_of_mem ['u', 'U', 'l', 'L', 'f', 'F'] rfl
    (by simpa [isNumberSuffix] using h)

theorem isExponentMark_not_decimal (h : isExponentMark c = true) : U.isDecimal c = false :=
  not_decimal_of_mem ['e', 'E', 'p', 'P'] rfl
    (by simpa [isExponentMark] using h)

/-- The digits go on into the suffix where its letters are digits too. -/
theorem radixNumber_append_suffix {markers : List Char} {isDigit : Char → Bool}
    (suffix : Source) (h : IsRadixNumber markers isDigit n) :
    ∃ more rest, radixNumber markers isDigit (n ++ suffix) = some (n ++ more) ∧
      suffix = more ++ rest := by
  obtain ⟨hx, hne, hdigits⟩ := h
  refine ⟨suffix.takeWhile isDigit, suffix.dropWhile isDigit, ?_,
    takeWhile_append_dropWhile.symm⟩
  rw [cons_append, cons_append, radixNumber, takeWhile_append_of_pos hdigits,
    if_pos]
  · rfl
  · simp [hx, hne]

theorem radixNumber_eq_none {markers : List Char} {isDigit : Char → Bool}
    (h : ∀ c ∈ s, c ∉ markers) : radixNumber markers isDigit s = none := by
  unfold radixNumber
  split
  next x rest =>
    refine if_neg ?_
    have := h x (by simp)
    simp [this]
  next => rfl

/-- The tail of a decimal number begins with neither a digit nor a point. -/
theorem exponent_suffix_head (he : IsExponent U e)
    (hsuffix : ∀ c ∈ suffix, isNumberSuffix c = true) :
    ∀ x ∈ (e ++ suffix).head?, U.isDecimal x = false ∧ x ≠ '.' := by
  intro x hx
  cases he with
  | none =>
    have hmem := hsuffix x (mem_of_mem_head? (by simpa using hx))
    refine ⟨isNumberSuffix_not_decimal hmem, ?_⟩
    rintro rfl
    cases hmem
  | some hmark =>
    cases hx
    refine ⟨isExponentMark_not_decimal hmark, ?_⟩
    rintro rfl
    cases hmark

theorem mantissa_append_tail (hm : IsMantissa U m)
    (htail : ∀ x ∈ s.head?, U.isDecimal x = false ∧ x ≠ '.') :
    mantissa U (m ++ s) = some m := by
  have hdot : U.isDecimal '.' = false := not_decimal (by decide) rfl
  cases hm with
  | @point whole fraction hne hwhole hfraction =>
    have hhead : ∀ x ∈ ('.' :: fraction ++ s).head?, U.isDecimal x = false := by
      rintro x hx
      cases hx
      exact hdot
    rw [mantissa, append_assoc, takeWhile_append_of_head hwhole hhead,
      dropWhile_append_of_head hwhole hhead]
    simp only [cons_append,
      takeWhile_append_of_head hfraction fun x hx => (htail x hx).1]
    rw [if_neg]
    rcases hne with hne | hne
    · simp [hne]
    · simp [hne]
  | whole hne hwhole =>
    rw [mantissa, takeWhile_append_of_head hwhole fun x hx => (htail x hx).1,
      dropWhile_append_of_head hwhole fun x hx => (htail x hx).1]
    rcases s with _ | ⟨x, s⟩
    · simp [hne]
    · simp [hne, (htail x rfl).2]

theorem exponent_append_suffix (he : IsExponent U e)
    (hsuffix : ∀ c ∈ suffix, isNumberSuffix c = true) : exponent U (e ++ suffix) = e := by
  cases he with
  | none =>
    cases suffix with
    | nil => rfl
    | cons c suffix =>
      have hmark : isExponentMark c = false := by
        have hall : ['u', 'U', 'l', 'L', 'f', 'F'].all (!isExponentMark ·) = true := rfl
        have hmem := hsuffix c mem_cons_self
        simpa using all_eq_true.1 hall c (by simpa [isNumberSuffix] using hmem)
      rw [nil_append, exponent, hmark]
      rfl
  | @some e sign digits hmark hsign hne hdigits =>
    have hhead : ∀ x ∈ suffix.head?, U.isDecimal x = false := fun x hx =>
      isNumberSuffix_not_decimal (hsuffix x (mem_of_mem_head? hx))
    have htaken := takeWhile_append_of_head hdigits hhead
    have hsigned : Text.sign (sign ++ (digits ++ suffix)) = sign := by
      obtain ⟨d, digits, rfl⟩ := exists_cons_of_ne_nil hne
      have hd := hdigits d mem_cons_self
      rcases hsign with rfl | rfl | rfl
      · refine if_neg ?_
        rintro (rfl | rfl)
        · rw [not_decimal (by decide) rfl] at hd
          cases hd
        · rw [not_decimal (by decide) rfl] at hd
          cases hd
      · rfl
      · rfl
    rw [cons_append, cons_append, append_assoc, exponent]
    simp only [hsigned, drop_left, htaken]
    rw [if_pos (by simp [hmark, hne])]
    rfl

theorem decimalNumber_append_suffix (hm : IsMantissa U m) (he : IsExponent U e)
    (hsuffix : ∀ c ∈ suffix, isNumberSuffix c = true) :
    decimalNumber U (m ++ e ++ suffix) = some (m ++ e) := by
  rw [decimalNumber, append_assoc,
    mantissa_append_tail hm (exponent_suffix_head he hsuffix), map_some, drop_left,
    exponent_append_suffix he hsuffix]

/-- The characters of a decimal number and its suffix beside the digits. -/
def decimalChars : List Char :=
  ['.', '+', '-', 'e', 'E', 'p', 'P', 'u', 'U', 'l', 'L', 'f', 'F']

theorem decimal_chars (hm : IsMantissa U m) (he : IsExponent U e)
    (hsuffix : ∀ c ∈ suffix, isNumberSuffix c = true) :
    ∀ c ∈ m ++ e ++ suffix, U.isDecimal c = true ∨ c ∈ decimalChars := by
  intro c hc
  rcases mem_append.1 hc with hc | hc
  · rcases mem_append.1 hc with hc | hc
    · cases hm with
      | point _ hwhole hfraction =>
        rcases mem_append.1 hc with hc | hc
        · exact .inl (hwhole c hc)
        rcases mem_cons.1 hc with rfl | hc
        · exact .inr (by decide)
        · exact .inl (hfraction c hc)
      | whole _ hwhole => exact .inl (hwhole c hc)
    · cases he with
      | none => cases hc
      | some hmark hsign _ hdigits =>
        rcases mem_append.1 hc with hc | hc
        · refine .inr ?_
          rcases mem_cons.1 hc with rfl | hc
          · simp only [isExponentMark, contains_iff_mem] at hmark
            simp only [decimalChars, mem_cons] at hmark ⊢
            tauto
          · rcases hsign with rfl | rfl | rfl
            · cases hc
            · rw [mem_singleton.1 hc]
              decide
            · rw [mem_singleton.1 hc]
              decide
        · exact .inl (hdigits c hc)
  · have := hsuffix c hc
    simp only [isNumberSuffix, contains_iff_mem] at this
    simp only [decimalChars, mem_cons] at this ⊢
    tauto

theorem decimal_not_marker {markers : List Char}
    (hmarkers : markers.all (fun x => decide (x.toNat < 128) && !within '0' '9' x &&
      !decimalChars.contains x) = true) (h : U.isDecimal c = true ∨ c ∈ decimalChars) :
    c ∉ markers := by
  intro hc
  have := all_eq_true.1 hmarkers c hc
  simp only [Bool.and_eq_true, decide_eq_true_eq, Bool.not_eq_true'] at this
  rcases h with h | h
  · rw [not_decimal this.1.1 this.1.2] at h
    cases h
  · have hnot := this.2
    rw [contains_iff_mem.2 h] at hnot
    cases hnot

theorem numberBody_append_suffix (h : IsNumberBody U n)
    (hsuffix : ∀ c ∈ suffix, isNumberSuffix c = true) :
    ∃ more rest, numberBody U (n ++ suffix) = some (n ++ more) ∧ suffix = more ++ rest := by
  cases h with
  | hex h =>
    obtain ⟨more, rest, hmatch, hsplit⟩ := radixNumber_append_suffix suffix h
    exact ⟨more, rest, by rw [numberBody, hmatch, some_or], hsplit⟩
  | binary h =>
    obtain ⟨more, rest, hmatch, hsplit⟩ := radixNumber_append_suffix suffix h
    refine ⟨more, rest, ?_, hsplit⟩
    have hhex : radixNumber ['x', 'X'] isHexDigit (n ++ suffix) = none := by
      obtain ⟨hx, -, -⟩ := h
      rcases mem_pair.1 hx with rfl | rfl
      · rfl
      · rfl
    rw [numberBody, hhex, hmatch, none_or, some_or]
  | decimal hm he =>
    refine ⟨[], suffix, ?_, rfl⟩
    have hchars := decimal_chars hm he hsuffix
    rw [numberBody, radixNumber_eq_none fun c hc => decimal_not_marker rfl (hchars c hc),
      radixNumber_eq_none fun c hc => decimal_not_marker rfl (hchars c hc), none_or,
      none_or, decimalNumber_append_suffix hm he hsuffix, append_nil]

theorem number_append_suffix (h : IsNumberBody U n)
    (hsuffix : ∀ c ∈ suffix, isNumberSuffix c = true) :
    number U (n ++ suffix) = some (n ++ suffix) := by
  obtain ⟨more, rest, hbody, rfl⟩ := numberBody_append_suffix h hsuffix
  rw [number, hbody, map_some, ← append_assoc, drop_left,
    takeWhile_all fun c hc => hsuffix c (mem_append_right _ hc)]

/-! ### The other tokens -/

theorem IsMantissa.head (h : IsMantissa U m) :
    ∃ c rest, m = c :: rest ∧ isIdentifierStart c = false := by
  cases h with
  | @point whole fraction _ hwhole _ =>
    cases whole with
    | nil => exact ⟨'.', fraction, rfl, rfl⟩
    | cons c whole =>
      exact ⟨c, _, rfl, decimal_not_identifierStart (hwhole c mem_cons_self)⟩
  | whole hne hwhole =>
    obtain ⟨c, rest, rfl⟩ := exists_cons_of_ne_nil hne
    exact ⟨c, rest, rfl, decimal_not_identifierStart (hwhole c mem_cons_self)⟩

theorem IsNumberBody.head (h : IsNumberBody U n) :
    ∃ c rest, n = c :: rest ∧ isIdentifierStart c = false := by
  cases h with
  | hex h =>
    cases h
    exact ⟨_, _, rfl, rfl⟩
  | binary h =>
    cases h
    exact ⟨_, _, rfl, rfl⟩
  | decimal hm =>
    obtain ⟨c, rest, rfl, hc⟩ := hm.head
    exact ⟨c, _, rfl, hc⟩

theorem operator_not_number (h : t ∈ operators) : number U t = none := by
  have hall : operators.all (fun op => op.take 1 |>.all fun c =>
      decide (c.toNat < 128) && !within '0' '9' c && (c != '.' || op == ['.', '.', '.'])) =
      true := rfl
  have hop := all_eq_true.1 hall t h
  rcases t with _ | ⟨c, t⟩
  · rfl
  simp only [take_succ_cons, take_zero, all_cons, all_nil, Bool.and_true,
    Bool.and_eq_true, decide_eq_true_eq, Bool.not_eq_true'] at hop
  refine number_eq_none (not_decimal hop.1.1 hop.1.2) ?_
  rintro rfl x hx
  have hdots : t = ['.', '.'] := by simpa using hop.2
  rw [hdots] at hx
  cases hx
  exact not_decimal (by decide) rfl

theorem operator_self (h : t ∈ operators) : operator t = some t := by
  have hall : operators.all (fun op => operator op == some op) = true := by decide
  simpa using all_eq_true.1 hall t h

theorem operator_not_identifier (h : t ∈ operators) : identifier t = none := by
  have hall : operators.all (fun op => identifier op == none) = true := rfl
  simpa using all_eq_true.1 hall t h

theorem operator_singleton : operator [c] = none := by
  have hall : operators.all (fun op => decide (1 < op.length)) = true := rfl
  refine find?_eq_none.2 fun op hop hfits => ?_
  have hlong := all_eq_true.1 hall op hop
  have := IsPrefix.length_le <| isPrefixOf_iff_prefix.1 hfits
  simp only [decide_eq_true_eq, length_singleton] at hlong this
  omega

theorem plainToken_self (h : IsPlain U t) : plainToken U t = some t := by
  cases h with
  | identifier hc hrest =>
    rw [plainToken, identifier, if_pos hc, takeWhile_all hrest, some_or]
  | number hn hsuffix =>
    obtain ⟨c, rest, rfl, hc⟩ := hn.head
    rw [plainToken, number_append_suffix hn hsuffix, cons_append, identifier_eq_none hc,
      none_or, some_or]
  | operator hop =>
    rw [plainToken, operator_not_identifier hop, operator_not_number hop, operator_self hop,
      none_or, none_or, some_or]
  | @single c hspace =>
    by_cases hstart : isIdentifierStart c = true
    · rw [plainToken, identifier, if_pos hstart]
      rfl
    have hstart := Bool.eq_false_of_not_eq_true hstart
    by_cases hdecimal : U.isDecimal c = true
    · have hn : number U ([c] ++ []) = some ([c] ++ []) := number_append_suffix
        (.decimal (m := [c]) (e := []) (.whole (by simp) (by simpa using hdecimal)) .none) (by simp)
      rw [append_nil] at hn
      rw [plainToken, identifier_eq_none hstart, hn]
      rfl
    · rw [plainToken, identifier_eq_none hstart,
        number_eq_none (Bool.eq_false_of_not_eq_true hdecimal) (by simp), operator_singleton,
        single, hspace]
      rfl

/-! ### Literals -/

theorem literalRest_body {quote : Char} (hquote : quote ≠ '\\') {body : Source} (rest : Source)
    (h : LiteralBody quote body) :
    literalRest quote (body ++ quote :: rest) = some (body ++ [quote]) := by
  induction h with
  | nil => exact literalRest_quote
  | plain hne hslash _ ih => rw [cons_append, literalRest_plain hne hslash, ih]; rfl
  | escape hd _ ih =>
    rw [cons_append, cons_append, literalRest_escape hquote.symm hd, ih]
    rfl

theorem stringLiteral_self {p body rest : Source} (hp : p ∈ stringPrefixes)
    (h : LiteralBody '"' body) :
    stringLiteral (p ++ '"' :: (body ++ '"' :: rest)) = some (p ++ '"' :: (body ++ ['"'])) := by
  have hbody := literalRest_body (by decide) rest h
  simp only [stringPrefixes, mem_cons, not_mem_nil, or_false] at hp
  rcases hp with rfl | rfl | rfl | rfl | rfl
  all_goals simp [stringLiteral, literal, stringPrefixes, findSome?, hbody]

theorem characterLiteral_self {p body rest : Source} (hp : p ∈ characterPrefixes)
    (h : LiteralBody '\'' body) :
    characterLiteral (p ++ '\'' :: (body ++ '\'' :: rest)) =
      some (p ++ '\'' :: (body ++ ['\''])) := by
  have hbody := literalRest_body (by decide) rest h
  simp only [characterPrefixes, mem_cons, not_mem_nil, or_false] at hp
  rcases hp with rfl | rfl | rfl | rfl
  all_goals simp [characterLiteral, literal, characterPrefixes, findSome?, hbody]

theorem stringLiteral_character {p rest : Source} (hp : p ∈ characterPrefixes) :
    stringLiteral (p ++ '\'' :: rest) = none := by
  simp only [characterPrefixes, mem_cons, not_mem_nil, or_false] at hp
  rcases hp with rfl | rfl | rfl | rfl
  all_goals simp [stringLiteral, literal, stringPrefixes, findSome?]

/-! ## What plain tokens do not hold -/

theorem number_chars (h : IsNumberBody U n) (hsuffix : ∀ c ∈ suffix, isNumberSuffix c = true) :
    ∀ c ∈ n ++ suffix, isIdentifierChar c = true ∨ U.isDecimal c = true ∨ c ∈ decimalChars := by
  have hletters : ['u', 'U', 'l', 'L', 'f', 'F'].all isIdentifierChar = true := rfl
  have htail : ∀ c ∈ suffix, isIdentifierChar c = true := fun c hc =>
    all_eq_true.1 hletters c (by simpa [isNumberSuffix] using hsuffix c hc)
  have hradix : ∀ {markers : List Char} {isDigit : Char → Bool},
      markers.all isIdentifierChar = true → (∀ c, isDigit c = true → isIdentifierChar c = true) →
      IsRadixNumber markers isDigit n → ∀ c ∈ n ++ suffix, isIdentifierChar c = true := by
    intro markers isDigit hmarkers hdigit ⟨hx, _, hdigits⟩ c hc
    rcases mem_append.1 hc with hc | hc
    · rcases mem_cons.1 hc with rfl | hc
      · rfl
      rcases mem_cons.1 hc with rfl | hc
      · exact all_eq_true.1 hmarkers _ hx
      · exact hdigit c (hdigits c hc)
    · exact htail c hc
  intro c hc
  cases h with
  | hex h => exact .inl (hradix rfl (fun _ => isIdentifierChar_of_isHexDigit) h c hc)
  | binary h => exact .inl (hradix rfl (fun _ => isIdentifierChar_of_isBinaryDigit) h c hc)
  | decimal hm he => exact .inr (decimal_chars hm he hsuffix c hc)

/-- A character that no identifier and no number holds stands in an operator or alone. -/
theorem IsPlain.of_mem {x : Char} (h : IsPlain U t) (hx : x ∈ t)
    (hout : (decide (x.toNat < 128) && !isIdentifierChar x && !decimalChars.contains x) = true) :
    t ∈ operators ∨ t = [x] := by
  simp only [Bool.and_eq_true, decide_eq_true_eq, Bool.not_eq_true'] at hout
  obtain ⟨⟨hascii, hidentifier⟩, hchars⟩ := hout
  have hdecimal : U.isDecimal x = false := by
    refine not_decimal hascii ?_
    exact (Bool.or_eq_false_iff.1 hidentifier).2
  cases h with
  | @identifier c rest hc hrest =>
    exfalso
    have : isIdentifierChar x = true := by
      rcases mem_cons.1 hx with rfl | hx
      · rw [isIdentifierChar, hc]
        rfl
      · exact hrest x hx
    rw [hidentifier] at this
    cases this
  | number hn hsuffix =>
    exfalso
    rcases number_chars hn hsuffix x hx with h | h | h
    · rw [hidentifier] at h
      cases h
    · rw [hdecimal] at h
      cases h
    · rw [contains_iff_mem.2 h] at hchars
      cases hchars
  | operator hop => exact .inl hop
  | single => exact .inr (by rw [mem_singleton.1 hx])

theorem IsPlain.not_mem {x : Char} (h : IsPlain U t) (hone : t ≠ [x])
    (hout : (decide (x.toNat < 128) && !isIdentifierChar x && !decimalChars.contains x) = true)
    (hoperator : operators.all (!·.contains x) = true) : x ∉ t := by
  intro hx
  rcases h.of_mem hx hout with hop | hone'
  · have := all_eq_true.1 hoperator t hop
    rw [contains_iff_mem.2 hx] at this
    cases this
  · exact hone hone'

theorem IsPlain.slash (h : IsPlain U t) : '/' ∉ t ∨ t = ['/'] ∨ t = ['/', '='] := by
  by_cases hx : '/' ∈ t
  · right
    rcases h.of_mem hx rfl with hop | hone
    · right
      have hall : operators.all (fun op => !op.contains '/' || op == ['/', '=']) = true := rfl
      have := all_eq_true.1 hall t hop
      rw [contains_iff_mem.2 hx] at this
      simpa using this
    · exact .inl hone
  · exact .inl hx

/-- Whitespace ends the token before it. -/
theorem matchToken_self {w : Char} {rest : Source} (h : IsToken U t)
    (hlone : t ≠ ['"'] ∧ t ≠ ['\'']) (hw : isSpace w = true) :
    matchToken U (t ++ w :: rest) = some t := by
  cases h with
  | string hp hbody =>
    rw [append_assoc, cons_append, append_assoc, singleton_append,
      matchToken, stringLiteral_self hp hbody, some_or]
  | character hp hbody =>
    rw [append_assoc, cons_append, append_assoc, singleton_append,
      matchToken, stringLiteral_character hp, characterLiteral_self hp hbody, none_or,
      some_or]
  | plain h =>
    have hstop : Stop U w := isSpace_stop hw
    have hself := plainToken_self h
    have hne := (plainToken_isPrefix hself).2
    have hwstring : w ≠ '"' := fun hq => by rw [hq] at hw; cases hw
    have hwcharacter : w ≠ '\'' := fun hq => by rw [hq] at hw; cases hw
    rw [matchToken, stringLiteral, characterLiteral,
      literal_eq_none hne (hstop.stringPrefixes hwstring) (h.not_mem hlone.1 rfl rfl),
      literal_eq_none hne (Stop.characterPrefixes hwcharacter) (h.not_mem hlone.2 rfl rfl),
      hstop.plainToken_append hne, hself]
    rfl

/-! ## Whitespace -/

theorem Piece.stripped_space {p : Piece} (h : p.Fits) : ∀ w ∈ p.stripped, isSpace w = true := by
  cases p with
  | space c =>
    rintro w hw
    rw [mem_singleton.1 hw]
    exact h
  | block body =>
    rintro w hw
    rw [mem_singleton.1 hw]
    rfl
  | line body =>
    rintro w hw
    rw [mem_singleton.1 hw]
    rfl

variable {items : List Item}

theorem tokens_stripped (h : ∀ item ∈ items, item.Fits U) :
    tokens U (items.flatMap Item.stripped) = items.map Item.token := by
  induction items with
  | nil => rfl
  | cons item items ih =>
    have hitem := h item mem_cons_self
    have hsep : ∀ w ∈ item.separator.flatMap Piece.stripped, isSpace w = true := by
      intro w hw
      obtain ⟨p, hp, hw⟩ := mem_flatMap.1 hw
      exact Piece.stripped_space (hitem.separator p hp) w hw
    rw [flatMap_cons, Item.stripped, append_assoc, map_cons, tokens_of_match,
      tokens_spaces hsep, ih fun item hmem => h item (mem_cons_of_mem _ hmem)]
    exact matchToken_self hitem.token ⟨hitem.lone.1, hitem.lone.2.1⟩
      (hitem.separator (.space item.space) mem_cons_self)

/-! ## The walk over written text -/

def emitAll (out : Source) (r : Source × Mode) : Source × Mode := (out ++ r.1, r.2)

theorem emitAll_append {a b : Source} {r : Source × Mode} :
    emitAll (a ++ b) r = emitAll a (emitAll b r) := by
  rw [emitAll, emitAll, emitAll, append_assoc]

variable {rest : Source}

theorem strip_word (hstring : '"' ∉ t) (hcharacter : '\'' ∉ t) (hslash : '/' ∉ t) :
    strip 0 .code (t ++ rest) = emitAll t (strip 0 .code rest) := by
  induction t with
  | nil => rfl
  | cons x t ih =>
    simp only [mem_cons, not_or] at hstring hcharacter hslash
    rw [cons_append, strip_plain (Ne.symm hstring.1) (Ne.symm hcharacter.1),
      ih hstring.2 hcharacter.2 hslash.2]
    · rfl
    · simp [hslash.1]
    · simp [hslash.1]

theorem strip_body {quote : Char} {body : Source} (hquote : quote ≠ '\\')
    (h : LiteralBody quote body) :
    strip 0 (.quoted quote) (body ++ quote :: rest) =
      emitAll (body ++ [quote]) (strip 0 .code rest) := by
  induction h with
  | nil => rw [nil_append, strip, if_neg hquote, if_pos rfl]; rfl
  | plain hne hslash _ ih => rw [cons_append, strip, if_neg hslash, if_neg hne, ih]; rfl
  | escape _ _ ih => rw [cons_append, cons_append, strip, if_pos rfl, strip, ih]; rfl

theorem strip_literal {quote : Char} {p body : Source} (hquote : quote = '"' ∨ quote = '\'')
    (hp : p.all isIdentifierChar = true) (h : LiteralBody quote body) :
    strip 0 .code (p ++ quote :: (body ++ [quote]) ++ rest) =
      emitAll (p ++ quote :: (body ++ [quote])) (strip 0 .code rest) := by
  have hnot : ∀ x : Char, isIdentifierChar x = false → x ∉ p := by
    intro x hx hmem
    rw [all_eq_true.1 hp x hmem] at hx
    cases hx
  have hslash : quote ≠ '\\' := by
    rcases hquote with rfl | rfl
    · decide
    · decide
  rw [append_assoc, strip_word (hnot '"' rfl) (hnot '\'' rfl) (hnot '/' rfl),
    cons_append, strip_open hquote, append_assoc, singleton_append,
    strip_body hslash h]
  exact (emitAll_append (b := quote :: (body ++ [quote]))).symm

/-- The walk copies a token that whitespace follows. -/
theorem strip_token {w : Char} (rest : Source) (h : IsToken U t) (hlone : t ≠ ['"'] ∧ t ≠ ['\''])
    (hw : isSpace w = true) :
    strip 0 .code (t ++ w :: rest) = emitAll t (strip 0 .code (w :: rest)) := by
  cases h with
  | string hp hbody =>
    refine strip_literal (.inl rfl) ?_ hbody
    have hall : stringPrefixes.all (·.all isIdentifierChar) = true := rfl
    exact all_eq_true.1 hall _ hp
  | character hp hbody =>
    refine strip_literal (.inr rfl) ?_ hbody
    have hall : characterPrefixes.all (·.all isIdentifierChar) = true := rfl
    exact all_eq_true.1 hall _ hp
  | plain h =>
    have hne : ∀ x : Char, isSpace x = false → w ≠ x := by
      rintro x hx rfl
      rw [hw] at hx
      cases hx
    rcases h.slash with hslash | rfl | rfl
    · exact strip_word (h.not_mem hlone.1 rfl rfl) (h.not_mem hlone.2 rfl rfl) hslash
    · rw [singleton_append, strip_plain (by decide) (by decide)]
      · rfl
      · simp [(hne '/' rfl).symm]
      · simp [(hne '*' rfl).symm]
    · rw [cons_append, strip_plain (by decide) (by decide) (by simp) (by simp),
        singleton_append, strip_plain (by decide) (by decide) (by simp) (by simp)]
      rfl

theorem strip_piece {p : Piece} (h : p.Fits) :
    strip 0 .code (p.text ++ rest) = emitAll p.stripped (strip 0 .code rest) := by
  cases p with
  | space c =>
    have hne : ∀ x : Char, isSpace x = false → x ∉ [c] := by
      intro x hx hmem
      rw [mem_singleton.1 hmem, show isSpace c = true from h] at hx
      cases hx
    exact strip_word (hne '"' rfl) (hne '\'' rfl) (hne '/' rfl)
  | block body =>
    rw [Piece.text, append_assoc]
    exact strip_blockComment h.1
  | line body =>
    rw [Piece.text, append_assoc]
    exact strip_lineComment h.1

theorem strip_pieces {pieces : List Piece} (rest : Source) (h : ∀ p ∈ pieces, p.Fits) :
    strip 0 .code (pieces.flatMap Piece.text ++ rest) =
      emitAll (pieces.flatMap Piece.stripped) (strip 0 .code rest) := by
  induction pieces with
  | nil => rfl
  | cons p pieces ih =>
    rw [flatMap_cons, append_assoc, strip_piece (h p mem_cons_self),
      ih fun q hq => h q (mem_cons_of_mem p hq), flatMap_cons, emitAll_append]

theorem strip_items (h : ∀ item ∈ items, item.Fits U) :
    strip 0 .code (items.flatMap Item.text) = (items.flatMap Item.stripped, .code) := by
  induction items with
  | nil => rfl
  | cons item items ih =>
    have hitem := h item mem_cons_self
    have htoken := strip_token
      (item.pieces.flatMap Piece.text ++ items.flatMap Item.text) hitem.token
      ⟨hitem.lone.1, hitem.lone.2.1⟩ (hitem.separator (.space item.space) mem_cons_self)
    have hsep := strip_pieces (items.flatMap Item.text) hitem.separator
    rw [ih fun item hmem => h item (mem_cons_of_mem _ hmem)] at hsep
    rw [flatMap_cons, Item.text, append_assoc]
    refine htoken.trans ((congrArg (emitAll item.token) hsep).trans ?_)
    rw [← emitAll_append]
    rfl

/-! ## Line splices -/

theorem IsToken.clear {old : Source} (h : IsToken U t) (hlone : t ≠ ['\\'])
    (hold : old = spliceLf ∨ old = spliceCrLf) (hi : ¬ old <:+: t) : Clear old t := by
  have hquoted : ∀ {quote : Char} {s : Source}, ¬ old <:+: s ++ [quote] →
      quote = '"' ∨ quote = '\'' → Clear old (s ++ [quote]) := by
    intro quote s hi hquote
    refine Clear.of_getLast hi ?_
    rcases hold with rfl | rfl <;> rcases hquote with rfl | rfl <;> decide
  cases h with
  | string hp hbody =>
    rw [← cons_append, ← append_assoc] at hi ⊢
    exact hquoted hi (.inl rfl)
  | character hp hbody =>
    rw [← cons_append, ← append_assoc] at hi ⊢
    exact hquoted hi (.inr rfl)
  | plain h =>
    have hslash := h.not_mem hlone rfl rfl
    rcases hold with rfl | rfl
    · exact Clear.of_not_mem hslash
    · exact Clear.of_not_mem hslash

theorem Piece.clear {old : Source} {p : Piece} (h : p.Fits)
    (hold : old = spliceLf ∨ old = spliceCrLf) : Clear old p.text := by
  have hslash : '/' ∉ old := by rcases hold with rfl | rfl <;> decide
  have hstar : '*' ∉ old := by rcases hold with rfl | rfl <;> decide
  have hnil : ¬ old <:+: [] := by rcases hold with rfl | rfl <;> simp [spliceLf, spliceCrLf]
  cases p with
  | space c =>
    have hc : '\\' ∉ [c] := by
      intro hmem
      rw [← mem_singleton.1 hmem] at h
      cases h
    rcases hold with rfl | rfl
    · exact Clear.of_not_mem hc
    · exact Clear.of_not_mem hc
  | block body =>
    have hbody : ¬ old <:+: body := by
      rcases hold with rfl | rfl
      · exact h.2.1
      · exact h.2.2
    have hi : ¬ old <:+: ('/' :: '*' :: body ++ ['*']) ++ ['/'] := by
      intro hi
      rcases infix_append_cons hslash hi with hi | hi
      · rcases infix_append_cons (A := '/' :: '*' :: body) hstar hi with hi | hi
        · rcases infix_append_cons (A := []) hslash hi with hi | hi
          · exact hnil hi
          rcases infix_append_cons (A := []) hstar hi with hi | hi
          · exact hnil hi
          · exact hbody hi
        · exact hnil hi
      · exact hnil hi
    have hclear := Clear.of_getLast hi fun hmem => hslash (mem_of_mem_dropLast hmem)
    rw [append_assoc] at hclear
    exact hclear
  | line body =>
    have hbody : ¬ old <:+: body ++ ['\n'] := by
      rcases hold with rfl | rfl
      · exact h.2.1
      · exact h.2.2
    refine Clear.of_getLast (s := '/' :: '/' :: body) ?_ ?_
    · intro hi
      rcases infix_append_cons (A := []) hslash hi with hi | hi
      · exact hnil hi
      rcases infix_append_cons (A := []) hslash hi with hi | hi
      · exact hnil hi
      · exact hbody hi
    · rcases hold with rfl | rfl <;> decide

theorem Clear.flatMap {β : Type} {old : Source} {f : β → Source} {l : List β} (hold : old ≠ [])
    (h : ∀ b ∈ l, Clear old (f b)) : Clear old (l.flatMap f) := by
  induction l with
  | nil => exact ⟨by simpa using hold, by simp⟩
  | cons b l ih =>
    exact (h b mem_cons_self).append (ih fun x hx => h x (mem_cons_of_mem b hx))

variable {lead : List Piece}

theorem removeByteOrderMark_written (hne : lead ≠ []) (hlead : ∀ p ∈ lead, p.Fits) :
    removeByteOrderMark (written lead items) = written lead items := by
  obtain ⟨p, lead, rfl⟩ := exists_cons_of_ne_nil hne
  cases p with
  | space c =>
    refine if_neg ?_
    rintro rfl
    have hspace : isSpace '\uFEFF' = true := hlead _ mem_cons_self
    cases hspace
  | block body => rfl
  | line body => rfl

section Written

variable (hlead : ∀ p ∈ lead, p.Fits) (hitems : ∀ item ∈ items, item.Fits U)

include hlead hitems

theorem written_clear {old : Source} (hold : old = spliceLf ∨ old = spliceCrLf) :
    Clear old (written lead items) := by
  have hne : old ≠ [] := by rcases hold with rfl | rfl <;> simp [spliceLf, spliceCrLf]
  refine (Clear.flatMap hne fun p hp => Piece.clear (hlead p hp) hold).append
    (Clear.flatMap hne fun item hmem => ?_)
  have hitem := hitems item hmem
  refine (hitem.token.clear hitem.lone.2.2 hold ?_).append
    (Clear.flatMap hne fun p hp => Piece.clear (hitem.separator p hp) hold)
  rcases hold with rfl | rfl
  · exact hitem.splices.1
  · exact hitem.splices.2

theorem joinLines_written :
    joinLines (written lead items) = written lead items := by
  rw [joinLines, (written_clear hlead hitems (.inr rfl)).replace_eq,
    (written_clear hlead hitems (.inl rfl)).replace_eq]

theorem strip_written :
    strip 0 .code (written lead items) =
      (lead.flatMap Piece.stripped ++ items.flatMap Item.stripped, .code) := by
  rw [written, strip_pieces _ hlead, strip_items hitems]
  rfl

theorem tokens_written :
    tokens U (lead.flatMap Piece.stripped ++ items.flatMap Item.stripped) =
      items.map Item.token := by
  rw [tokens_spaces, tokens_stripped hitems]
  intro w hw
  obtain ⟨p, hp, hw⟩ := mem_flatMap.1 hw
  exact Piece.stripped_space (hlead p hp) w hw

end Written

/-- **Both tokenizers read back the tokens that a text is written from.** -/
theorem tokenize_written (U : Unicode) (lead : List Piece) (items : List Item) (hne : lead ≠ [])
    (hlead : ∀ p ∈ lead, p.Fits) (hitems : ∀ item ∈ items, item.Fits U) :
    tokenizeC U (String.ofList (written lead items)).toUTF8 = .ok (items.map Item.token) ∧
      normalizedTextTokens U (written lead items) = items.map Item.token := by
  constructor
  · rw [tokenizeC, fromUTF8_toUTF8]
    simp only [String.toList_ofList]
    rw [removeByteOrderMark_written hne hlead, stripStrict, joinLines_written hlead hitems,
      strip_written hlead hitems]
    exact congrArg Except.ok (tokens_written hlead hitems)
  · rw [normalizedTextTokens, normalizedText, removeByteOrderMark_written hne hlead,
      joinLines_written hlead hitems, strip_written hlead hitems, tokens_written hlead hitems]

theorem isSpace_digit {c : Char} (h : within '0' '9' c = true) : isSpace c = false := by
  simp only [within, Bool.and_eq_true, decide_eq_true_eq, Char.reduceToNat] at h
  exact isSpace_of_lt (by omega) (by omega)

/-- The decimal digits of ASCII alone. -/
def asciiUnicode : Unicode where
  isDecimal c := within '0' '9' c
  ascii _ _ := rfl
  notSpace _ h := isSpace_digit h
  notMark := rfl

/-- A comment, `n`, a comment over the line's end, `"/*"`, and a last newline. -/
theorem tokenize_written_comment :
    tokenizeC asciiUnicode (String.ofList
      (written [.space ' ', .block ['x']]
        [⟨['n'], ' ', [.line ['"']]⟩, ⟨['"', '/', '*', '"'], '\n', []⟩])).toUTF8 =
      .ok [['n'], ['"', '/', '*', '"']] ∧
    normalizedTextTokens asciiUnicode
      (written [.space ' ', .block ['x']]
        [⟨['n'], ' ', [.line ['"']]⟩, ⟨['"', '/', '*', '"'], '\n', []⟩]) =
      [['n'], ['"', '/', '*', '"']] := by
  refine tokenize_written asciiUnicode _ _ (by simp) ?_ ?_
  · intro p hp
    rcases mem_pair.1 hp with rfl | rfl
    · exact (rfl : isSpace ' ' = true)
    · exact ⟨by decide, by decide, by decide⟩
  · intro item hitem
    rcases mem_pair.1 hitem with rfl | rfl
    · refine ⟨.plain (.identifier rfl (by simp)), by decide, by decide, ?_⟩
      intro p hp
      rcases mem_pair.1 hp with rfl | rfl
      · exact (rfl : isSpace ' ' = true)
      · exact ⟨by decide, by decide, by decide⟩
    · have hbody : LiteralBody '"' ['/', '*'] :=
        .plain (by decide) (by decide) (.plain (by decide) (by decide) .nil)
      refine ⟨.string (p := []) (by decide) hbody, by decide, by decide, ?_⟩
      intro p hp
      rw [mem_singleton.1 hp]
      exact (rfl : isSpace '\n' = true)

end Bpe.Text
