import Mathlib.Tactic

/-!
# The C token pattern

`_C_TOKEN` of `corpus.py` and `_TEXT_TOKEN` of `task.py` are one regular
expression. `matchToken` is its match at the front of a text: the alternatives in
their order, each as long as its repetitions go. No repetition has to give
characters back: what follows it is optional, or begins with a character that the
repetition does not take.
`tokens` is `finditer`.
-/

namespace Bpe.Text

open List Bool

abbrev Source : Type := List Char

/-- `\s` -/
def isSpace (c : Char) : Bool :=
  (9 ≤ c.toNat && c.toNat ≤ 13) || (28 ≤ c.toNat && c.toNat ≤ 32) ||
    (0x2000 ≤ c.toNat && c.toNat ≤ 0x200A) ||
    [0x85, 0xA0, 0x1680, 0x2028, 0x2029, 0x202F, 0x205F, 0x3000].contains c.toNat

/-- A range of a character class. -/
def within (low high c : Char) : Bool := low.toNat ≤ c.toNat && c.toNat ≤ high.toNat

/-- The characters of `\d` beyond ASCII are those of the interpreter's Unicode
tables. -/
structure Unicode where
  isDecimal : Char → Bool
  ascii : ∀ c : Char, c.toNat < 128 → isDecimal c = within '0' '9' c
  notSpace : ∀ c : Char, isDecimal c = true → isSpace c = false
  notMark : isDecimal '\uFEFF' = false

variable (U : Unicode)

/-! ## The alternatives -/

/-- `(?:\\.|[^"\\])*"`, for either quote: the text up to the closing quote. -/
def literalRest (quote : Char) : Source → Option Source
  | [] => none
  | c :: rest =>
    if c = quote then some [c]
    else if c = '\\' then
      match rest with
      | [] => none
      | d :: rest => if d = '\n' then none else (literalRest quote rest).map (c :: d :: ·)
    else (literalRest quote rest).map (c :: ·)

/-- A literal with one of the prefixes, in their order. -/
def literal (prefixes : List Source) (quote : Char) (s : Source) : Option Source :=
  prefixes.findSome? fun p =>
    if (p ++ [quote]).isPrefixOf s then
      (literalRest quote (s.drop (p.length + 1))).map (p ++ quote :: ·)
    else none

def stringPrefixes : List Source := [['u', '8'], ['u'], ['U'], ['L'], []]

def characterPrefixes : List Source := [['u'], ['U'], ['L'], []]

/-- `(?:u8|u|U|L)?"…"` -/
def stringLiteral : Source → Option Source := literal stringPrefixes '"'

/-- `(?:u|U|L)?'…'` -/
def characterLiteral : Source → Option Source := literal characterPrefixes '\''

/-- `[A-Za-z_]` -/
def isIdentifierStart (c : Char) : Bool := within 'A' 'Z' c || within 'a' 'z' c || c == '_'

/-- `[A-Za-z0-9_]` -/
def isIdentifierChar (c : Char) : Bool := isIdentifierStart c || within '0' '9' c

/-- `[A-Za-z_][A-Za-z0-9_]*` -/
def identifier : Source → Option Source
  | c :: rest => if isIdentifierStart c then some (c :: rest.takeWhile isIdentifierChar) else none
  | [] => none

/-- `[0-9A-Fa-f]` -/
def isHexDigit (c : Char) : Bool :=
  within '0' '9' c || within 'A' 'F' c || within 'a' 'f' c

/-- `[01]` -/
def isBinaryDigit (c : Char) : Bool := c == '0' || c == '1'

/-- `0[xX][0-9A-Fa-f]+` and `0[bB][01]+` -/
def radixNumber (markers : List Char) (isDigit : Char → Bool) : Source → Option Source
  | '0' :: x :: rest =>
    if markers.contains x && !(rest.takeWhile isDigit).isEmpty then
      some ('0' :: x :: rest.takeWhile isDigit)
    else none
  | _ => none

/-- `\d+\.\d*|\.\d+|\d+` -/
def mantissa (s : Source) : Option Source :=
  let whole := s.takeWhile U.isDecimal
  match s.dropWhile U.isDecimal with
  | '.' :: rest =>
    let fraction := rest.takeWhile U.isDecimal
    if whole.isEmpty && fraction.isEmpty then none else some (whole ++ '.' :: fraction)
  | _ => if whole.isEmpty then none else some whole

/-- `[+-]?` -/
def sign : Source → Source
  | c :: _ => if c = '+' ∨ c = '-' then [c] else []
  | [] => []

/-- `[eEpP]` -/
def isExponentMark (c : Char) : Bool := ['e', 'E', 'p', 'P'].contains c

/-- `(?:[eEpP][+-]?\d+)?` -/
def exponent : Source → Source
  | e :: rest =>
    let digits := (rest.drop (sign rest).length).takeWhile U.isDecimal
    if isExponentMark e && !digits.isEmpty then e :: sign rest ++ digits else []
  | [] => []

def decimalNumber (s : Source) : Option Source :=
  (mantissa U s).map fun m => m ++ exponent U (s.drop m.length)

/-- `[uUlLfF]` -/
def isNumberSuffix (c : Char) : Bool := ['u', 'U', 'l', 'L', 'f', 'F'].contains c

def numberBody (s : Source) : Option Source :=
  (radixNumber ['x', 'X'] isHexDigit s).or
    ((radixNumber ['b', 'B'] isBinaryDigit s).or (decimalNumber U s))

def number (s : Source) : Option Source :=
  (numberBody U s).map fun n => n ++ (s.drop n.length).takeWhile isNumberSuffix

def operators : List Source :=
  [['>', '>', '='], ['<', '<', '='], ['.', '.', '.'], ['-', '>'], ['+', '+'], ['-', '-'],
    ['&', '&'], ['|', '|'], ['<', '='], ['>', '='], ['=', '='], ['!', '='], ['<', '<'],
    ['>', '>'], ['+', '='], ['-', '='], ['*', '='], ['/', '='], ['%', '='], ['&', '='],
    ['|', '='], ['^', '='], ['#', '#']]

def operator (s : Source) : Option Source := operators.find? fun op => op.isPrefixOf s

/-- `[^\s]` -/
def single : Source → Option Source
  | c :: _ => if isSpace c then none else some [c]
  | [] => none

/-- The alternatives without a quote. -/
def plainToken (s : Source) : Option Source :=
  (identifier s).or ((number U s).or ((operator s).or (single s)))

def matchToken (s : Source) : Option Source :=
  (stringLiteral s).or ((characterLiteral s).or (plainToken U s))

/-! ## `finditer` -/

/-- The matches in a text no longer than the fuel. -/
def tokensFrom : Nat → Source → List Source
  | 0, _ => []
  | _, [] => []
  | fuel + 1, c :: rest =>
    match matchToken U (c :: rest) with
    | some t => t :: tokensFrom fuel ((c :: rest).drop t.length)
    | none => tokensFrom fuel rest

def tokens (s : Source) : List Source := tokensFrom U s.length s

/-! ## A match is a part of the text -/

variable {U} {s t : Source}

theorem literalRest_isPrefix {quote : Char} (h : literalRest quote s = some t) : t <+: s := by
  fun_induction literalRest quote s generalizing t with
  | case1 => cases h
  | case2 rest =>
    cases h
    exact ⟨rest, rfl⟩
  | case3 => cases h
  | case4 => cases h
  | case5 _ d rest _ ih =>
    obtain ⟨body, hbody, rfl⟩ := Option.map_eq_some_iff.1 h
    obtain ⟨tail, rfl⟩ := ih hbody
    exact ⟨tail, rfl⟩
  | case6 c rest _ _ ih =>
    obtain ⟨body, hbody, rfl⟩ := Option.map_eq_some_iff.1 h
    obtain ⟨tail, rfl⟩ := ih hbody
    exact ⟨tail, rfl⟩

theorem literal_isPrefix {prefixes : List Source} {quote : Char}
    (h : literal prefixes quote s = some t) : t <+: s ∧ t ≠ [] := by
  obtain ⟨p, -, hp⟩ := exists_of_findSome?_eq_some h
  split at hp
  next hfits =>
    obtain ⟨rest, rfl⟩ := isPrefixOf_iff_prefix.1 hfits
    obtain ⟨body, hbody, rfl⟩ := Option.map_eq_some_iff.1 hp
    rw [append_assoc, drop_append, drop_of_length_le (by omega)] at hbody
    simp only [Nat.add_sub_cancel_left, nil_append, drop_succ_cons, drop_zero,
      singleton_append] at hbody
    refine ⟨?_, by simp⟩
    rw [append_assoc]
    exact (prefix_append_right_inj p).2 (cons_prefix_cons.2
      ⟨rfl, literalRest_isPrefix hbody⟩)
  next => cases hp

theorem identifier_isPrefix (h : identifier s = some t) : t <+: s ∧ t ≠ [] := by
  cases s with
  | nil => cases h
  | cons c rest =>
    rw [identifier] at h
    split at h
    · cases h
      exact ⟨cons_prefix_cons.2 ⟨rfl, takeWhile_prefix _⟩, by simp⟩
    · cases h

theorem radixNumber_isPrefix {markers : List Char} {isDigit : Char → Bool}
    (h : radixNumber markers isDigit s = some t) : t <+: s ∧ t ≠ [] := by
  unfold radixNumber at h
  split at h
  next x rest =>
    split at h
    · cases h
      refine ⟨?_, by simp⟩
      exact cons_prefix_cons.2 ⟨rfl, cons_prefix_cons.2 ⟨rfl, takeWhile_prefix _⟩⟩
    · cases h
  next => cases h

variable {rest : Source} {p : Char → Bool}

theorem takeWhile_cons_isPrefix {c : Char} (h : s.dropWhile p = c :: rest) :
    s.takeWhile p ++ c :: rest.takeWhile p <+: s := by
  conv_rhs => rw [← takeWhile_append_dropWhile (p := p) (l := s), h]
  exact (prefix_append_right_inj _).2
    (cons_prefix_cons.2 ⟨rfl, takeWhile_prefix _⟩)

theorem mantissa_isPrefix (h : mantissa U s = some t) : t <+: s ∧ t ≠ [] := by
  simp only [mantissa] at h
  split at h
  next rest hrest =>
    split at h
    · cases h
    · cases h
      exact ⟨takeWhile_cons_isPrefix hrest, by simp⟩
  next =>
    split at h
    · cases h
    next hne =>
      cases h
      refine ⟨?_, fun hnil => hne (by rw [hnil]; rfl)⟩
      exact takeWhile_prefix _

theorem sign_isPrefix : sign s <+: s := by
  cases s with
  | nil => exact prefix_rfl
  | cons c rest =>
    rw [sign]
    split
    · exact ⟨rest, rfl⟩
    · exact nil_prefix

theorem exponent_isPrefix : exponent U s <+: s := by
  cases s with
  | nil => exact prefix_rfl
  | cons e rest =>
    rw [exponent]
    split
    · obtain ⟨tail, htail⟩ := sign_isPrefix (s := rest)
      rw [cons_append, cons_prefix_cons]
      refine ⟨rfl, ?_⟩
      conv_rhs => rw [← htail]
      rw [prefix_append_right_inj, ← htail, drop_left' (by rw [htail])]
      exact takeWhile_prefix _
    · exact nil_prefix

/-- A match goes on with a part of what it left. -/
theorem append_isPrefix {m u : Source} (hm : m <+: s) (hu : u <+: s.drop m.length) :
    m ++ u <+: s := by
  obtain ⟨rest, rfl⟩ := hm
  rw [drop_left] at hu
  exact (prefix_append_right_inj m).2 hu

theorem decimalNumber_isPrefix (h : decimalNumber U s = some t) : t <+: s ∧ t ≠ [] := by
  obtain ⟨m, hm, rfl⟩ := Option.map_eq_some_iff.1 h
  obtain ⟨hfront, hne⟩ := mantissa_isPrefix hm
  exact ⟨append_isPrefix hfront exponent_isPrefix, by simp [hne]⟩

theorem numberBody_isPrefix (h : numberBody U s = some t) : t <+: s ∧ t ≠ [] := by
  rcases Option.or_eq_some_iff.1 h with h | ⟨-, h⟩
  · exact radixNumber_isPrefix h
  rcases Option.or_eq_some_iff.1 h with h | ⟨-, h⟩
  · exact radixNumber_isPrefix h
  · exact decimalNumber_isPrefix h

theorem number_isPrefix (h : number U s = some t) : t <+: s ∧ t ≠ [] := by
  obtain ⟨n, hn, rfl⟩ := Option.map_eq_some_iff.1 h
  obtain ⟨hfront, hne⟩ := numberBody_isPrefix hn
  exact ⟨append_isPrefix hfront <| takeWhile_prefix _, by simp [hne]⟩

theorem operator_isPrefix (h : operator s = some t) : t <+: s ∧ t ≠ [] := by
  rw [operator] at h
  have hfits := find?_some h
  have hfront := isPrefixOf_iff_prefix.1 hfits
  refine ⟨hfront, ?_⟩
  have hne : operators.all (!·.isEmpty) = true := rfl
  have := all_eq_true.1 hne t (mem_of_find?_eq_some h)
  rintro rfl
  cases this

theorem single_isPrefix (h : single s = some t) : t <+: s ∧ t ≠ [] := by
  cases s with
  | nil => cases h
  | cons c rest =>
    rw [single] at h
    split at h
    · cases h
    · cases h
      exact ⟨⟨rest, rfl⟩, by simp⟩

theorem plainToken_eq_some (h : plainToken U s = some t) :
    identifier s = some t ∨ number U s = some t ∨ operator s = some t ∨ single s = some t := by
  simp only [plainToken, Option.or_eq_some_iff] at h
  tauto

theorem matchToken_eq_some (h : matchToken U s = some t) :
    stringLiteral s = some t ∨ characterLiteral s = some t ∨ plainToken U s = some t := by
  simp only [matchToken, Option.or_eq_some_iff] at h
  tauto

theorem plainToken_isPrefix (h : plainToken U s = some t) : t <+: s ∧ t ≠ [] := by
  rcases plainToken_eq_some h with h | h | h | h
  · exact identifier_isPrefix h
  · exact number_isPrefix h
  · exact operator_isPrefix h
  · exact single_isPrefix h

theorem matchToken_isPrefix (h : matchToken U s = some t) : t <+: s ∧ t ≠ [] := by
  rcases matchToken_eq_some h with h | h | h
  · exact literal_isPrefix h
  · exact literal_isPrefix h
  · exact plainToken_isPrefix h

/-! ## A character that ends every token before it -/

/-- The characters that an operator has after its first one. -/
def operatorTail : List Char := ['=', '.', '>', '<', '+', '-', '&', '|', '#']

/-- No plain token goes on with the character. -/
structure Stop (U : Unicode) (c : Char) : Prop where
  identifier : isIdentifierChar c = false
  decimal : U.isDecimal c = false
  operator : c ∉ operatorTail

variable {Y Z : Source} {c : Char}

theorem takeWhile_append_stop (h : p c = false) :
    (Y ++ c :: Z).takeWhile p = Y.takeWhile p := by
  induction Y with
  | nil => simp [h]
  | cons y Y ih => simp only [cons_append, takeWhile_cons, ih]

theorem dropWhile_append_stop (h : p c = false) :
    (Y ++ c :: Z).dropWhile p = Y.dropWhile p ++ c :: Z := by
  induction Y with
  | nil => simp [h]
  | cons y Y ih =>
    simp only [cons_append, dropWhile_cons, ih]
    split <;> rfl

theorem isPrefixOf_append_stop {p : Source} (h : c ∉ p) :
    p.isPrefixOf (Y ++ c :: Z) = p.isPrefixOf Y := by
  induction p generalizing Y with
  | nil => simp
  | cons x p ih =>
    obtain ⟨hx, hp⟩ := not_or.1 (mt mem_cons.2 h)
    cases Y with
    | nil => simp [isPrefixOf, Ne.symm hx]
    | cons y Y => simp [isPrefixOf, ih hp]

/-- The first character of the pattern meets one of the text before the stop. -/
theorem isPrefixOf_cons_append_stop {p : Source} {y : Char} (h : c ∉ p.tail) :
    p.isPrefixOf (y :: Y ++ c :: Z) = p.isPrefixOf (y :: Y) := by
  cases p with
  | nil => rfl
  | cons x p =>
    rw [cons_append, isPrefixOf_cons_cons, isPrefixOf_cons_cons,
      isPrefixOf_append_stop (p := p) h]

theorem isIdentifierChar_of_isHexDigit {x : Char} (h : isHexDigit x = true) :
    isIdentifierChar x = true := by
  simp only [isHexDigit, isIdentifierChar, isIdentifierStart, within, or_eq_true,
    and_eq_true, decide_eq_true_eq, Char.reduceToNat] at *
  omega

theorem isIdentifierChar_of_isBinaryDigit {x : Char} (h : isBinaryDigit x = true) :
    isIdentifierChar x = true := by
  simp only [isBinaryDigit, or_eq_true, beq_iff_eq] at h
  rcases h with rfl | rfl
  · rfl
  · rfl

namespace Stop

theorem of_identifier (h : Stop U c) {p : Char → Bool}
    (hp : ∀ x, p x = true → isIdentifierChar x = true) : p c = false := by
  by_contra hne
  have := hp c (by simpa using hne)
  rw [h.identifier] at this
  cases this

/-- A class given by its characters, all of which an identifier may have. -/
theorem of_list (h : Stop U c) {xs : List Char} (hxs : xs.all isIdentifierChar = true) :
    xs.contains c = false :=
  h.of_identifier (p := xs.contains) fun x hx => all_eq_true.1 hxs x (by simpa using hx)

theorem hexDigit (h : Stop U c) : isHexDigit c = false :=
  h.of_identifier fun _ => isIdentifierChar_of_isHexDigit

theorem binaryDigit (h : Stop U c) : isBinaryDigit c = false :=
  h.of_identifier fun _ => isIdentifierChar_of_isBinaryDigit

theorem identifier_append (h : Stop U c) (hY : Y ≠ []) :
    Text.identifier (Y ++ c :: Z) = Text.identifier Y := by
  cases Y with
  | nil => exact absurd rfl hY
  | cons y Y =>
    rw [cons_append, Text.identifier, Text.identifier, takeWhile_append_stop h.identifier]

theorem radixNumber_append {markers : List Char} {isDigit : Char → Bool} (hY : Y ≠ [])
    (hmarker : markers.contains c = false) (hdigit : isDigit c = false) :
    radixNumber markers isDigit (Y ++ c :: Z) = radixNumber markers isDigit Y := by
  rcases Y with _ | ⟨y, _ | ⟨x, Y⟩⟩
  · exact absurd rfl hY
  · by_cases hy : y = '0'
    · subst hy
      simp only [radixNumber, cons_append, nil_append, hmarker, Bool.false_and,
        false_eq_true, if_false]
    · simp [radixNumber, hy]
  · by_cases hy : y = '0'
    · subst hy
      simp only [radixNumber, cons_append, takeWhile_append_stop hdigit]
    · simp [radixNumber, hy]

section

variable (h : Stop U c)

include h

theorem mantissa_append : mantissa U (Y ++ c :: Z) = mantissa U Y := by
  have hdot : c ≠ '.' := fun hc => h.operator (hc ▸ by decide)
  rw [mantissa, mantissa, takeWhile_append_stop h.decimal, dropWhile_append_stop h.decimal]
  rcases Y.dropWhile U.isDecimal with _ | ⟨y, rest⟩
  · simp [hdot]
  · by_cases hy : y = '.'
    · subst hy
      simp only [cons_append, takeWhile_append_stop h.decimal]
    · simp [hy]

theorem sign_append : sign (Y ++ c :: Z) = sign Y := by
  cases Y with
  | nil =>
    refine if_neg ?_
    rintro (rfl | rfl)
    · exact h.operator (by decide)
    · exact h.operator (by decide)
  | cons y Y => rfl

theorem exponent_append : exponent U (Y ++ c :: Z) = exponent U Y := by
  cases Y with
  | nil =>
    have hmark : isExponentMark c = false := h.of_list rfl
    simp [exponent, hmark]
  | cons y Y =>
    rw [cons_append, exponent, exponent, h.sign_append,
      drop_append_of_le_length sign_isPrefix.length_le, takeWhile_append_stop h.decimal]

theorem decimalNumber_append :
    decimalNumber U (Y ++ c :: Z) = decimalNumber U Y := by
  rw [decimalNumber, decimalNumber, h.mantissa_append]
  refine Option.map_congr fun m hm => ?_
  rw [drop_append_of_le_length (mantissa_isPrefix hm).1.length_le, h.exponent_append]

theorem numberBody_append (hY : Y ≠ []) :
    numberBody U (Y ++ c :: Z) = numberBody U Y := by
  rw [numberBody, numberBody, radixNumber_append hY (h.of_list rfl) h.hexDigit,
    radixNumber_append hY (h.of_list rfl) h.binaryDigit, h.decimalNumber_append]

theorem number_append (hY : Y ≠ []) :
    number U (Y ++ c :: Z) = number U Y := by
  rw [number, number, h.numberBody_append hY]
  refine Option.map_congr fun n hn => ?_
  have hsuffix : isNumberSuffix c = false := h.of_list rfl
  rw [drop_append_of_le_length (numberBody_isPrefix hn).1.length_le,
    takeWhile_append_stop hsuffix]

theorem operator_append (hY : Y ≠ []) :
    Text.operator (Y ++ c :: Z) = Text.operator Y := by
  obtain ⟨y, Y, rfl⟩ := exists_cons_of_ne_nil hY
  have htail : operators.all (fun op => op.tail.all operatorTail.contains) = true := rfl
  refine find?_congr fun op hop => isPrefixOf_cons_append_stop fun hc => h.operator ?_
  simpa using all_eq_true.1 (all_eq_true.1 htail op hop) c hc

theorem plainToken_append (hY : Y ≠ []) :
    plainToken U (Y ++ c :: Z) = plainToken U Y := by
  have hsingle : single (Y ++ c :: Z) = single Y := by
    obtain ⟨y, Y, rfl⟩ := exists_cons_of_ne_nil hY
    rfl
  rw [plainToken, plainToken, h.identifier_append hY, h.number_append hY, h.operator_append hY,
    hsingle]

end

end Stop

/-! ## Literals and what follows them -/

variable {prefixes : List Source} {quote : Char} {rest : Source}

theorem literalRest_quote : literalRest quote (quote :: rest) = some [quote] := by
  cases rest <;> simp [literalRest]

theorem literalRest_plain (hquote : c ≠ quote) (hslash : c ≠ '\\') :
    literalRest quote (c :: rest) = (literalRest quote rest).map (c :: ·) := by
  cases rest <;> simp [literalRest, hquote, hslash]

theorem literalRest_escape {d : Char} (hquote : '\\' ≠ quote) (hd : d ≠ '\n') :
    literalRest quote ('\\' :: d :: rest) =
      (literalRest quote rest).map ('\\' :: d :: ·) := by
  simp [literalRest, hquote, hd]

theorem literalRest_eq_none (h : quote ∉ s) : literalRest quote s = none := by
  fun_induction literalRest quote s with
  | case1 => rfl
  | case2 => exact absurd mem_cons_self h
  | case3 => rfl
  | case4 => rfl
  | case5 _ d rest _ ih =>
    rw [ih fun hrest => h (mem_cons_of_mem _ (mem_cons_of_mem _ hrest))]
    rfl
  | case6 _ rest _ _ ih =>
    rw [ih fun hrest => h (mem_cons_of_mem _ hrest)]
    rfl

/-- An open literal stays open over a text without its quote. -/
theorem literalRest_append (h : quote ∉ Z) :
    literalRest quote (Y ++ Z) = literalRest quote Y := by
  fun_induction literalRest quote Y with
  | case1 => exact literalRest_eq_none h
  | case2 rest => exact literalRest_quote
  | case3 hne =>
    refine literalRest_eq_none fun hmem => ?_
    rcases mem_cons.1 hmem with hq | hq
    · exact hne hq.symm
    · exact h hq
  | case4 rest hne => simp [literalRest, hne]
  | case5 d rest hd hne ih =>
    rw [← ih]
    exact literalRest_escape hne hd
  | case6 c rest hne hslash ih =>
    rw [← ih]
    exact literalRest_plain hne hslash

theorem literal_append_stop (hY : Y ≠ []) (hstop : ∀ p ∈ prefixes, c ∉ (p ++ [quote]).tail)
    (hrest : ∀ p ∈ prefixes, ∀ R, Y = p ++ quote :: R →
      literalRest quote (R ++ c :: Z) = literalRest quote R) :
    literal prefixes quote (Y ++ c :: Z) = literal prefixes quote Y := by
  obtain ⟨y, Y, rfl⟩ := exists_cons_of_ne_nil hY
  induction prefixes with
  | nil => rfl
  | cons p prefixes ih =>
    have htail := ih (fun p hp => hstop p (mem_cons_of_mem _ hp))
      fun p hp => hrest p (mem_cons_of_mem _ hp)
    rw [literal, literal] at htail ⊢
    rw [findSome?_cons, findSome?_cons, htail,
      isPrefixOf_cons_append_stop (hstop p mem_cons_self)]
    by_cases hfits : (p ++ [quote]).isPrefixOf (y :: Y)
    · obtain ⟨R, hR⟩ := List.isPrefixOf_iff_prefix.1 hfits
      rw [append_assoc, singleton_append] at hR
      have hdrop : ∀ z : Source, (p ++ quote :: z).drop (p.length + 1) = z := by simp
      have hsame := hrest p mem_cons_self R hR.symm
      rw [← hR, append_assoc, cons_append, hdrop, hdrop, hsame]
    · rw [if_neg hfits, if_neg hfits]

/-- A text without the quote up to the stop begins with no literal. -/
theorem literal_eq_none (hY : Y ≠ []) (hstop : ∀ p ∈ prefixes, c ∉ (p ++ [quote]).tail)
    (hquote : quote ∉ Y) : literal prefixes quote (Y ++ c :: Z) = none := by
  obtain ⟨y, Y, rfl⟩ := exists_cons_of_ne_nil hY
  refine findSome?_eq_none_iff.2 fun p hp => ?_
  rw [isPrefixOf_cons_append_stop (hstop p hp)]
  refine if_neg fun hfits => ?_
  have hfront := isPrefixOf_iff_prefix.1 hfits
  exact hquote (hfront.subset (by simp))

theorem Stop.stringPrefixes (h : Stop U c) (hquote : c ≠ '"') :
    ∀ p ∈ stringPrefixes, c ∉ (p ++ ['"']).tail := by
  have height : c ≠ '8' := by
    rintro rfl
    cases h.identifier
  simp [Text.stringPrefixes, hquote, height]

theorem Stop.characterPrefixes (hquote : c ≠ '\'') :
    ∀ p ∈ characterPrefixes, c ∉ (p ++ ['\'']).tail := by
  simp [Text.characterPrefixes, hquote]

/-! ## Scanning -/

theorem tokensFrom_eq_of_le {fuel fuel' : Nat} (h : s.length ≤ fuel) (h' : s.length ≤ fuel') :
    tokensFrom U fuel s = tokensFrom U fuel' s := by
  induction fuel generalizing s fuel' with
  | zero =>
    rw [eq_nil_of_length_eq_zero (Nat.le_zero.1 h)]
    cases fuel' <;> rfl
  | succ fuel ih =>
    cases s with
    | nil => cases fuel' <;> rfl
    | cons c rest =>
      cases fuel' with
      | zero => simp at h'
      | succ fuel' =>
        rw [length_cons] at h h'
        rw [tokensFrom, tokensFrom]
        split
        next t ht =>
          have hpos := length_pos_iff.2 (matchToken_isPrefix ht).2
          have hdrop : ((c :: rest).drop t.length).length ≤ rest.length := by
            rw [length_drop, length_cons]
            omega
          exact congrArg (t :: ·) (ih (by omega) (by omega))
        next => exact ih (by omega) (by omega)

@[simp] theorem tokens_nil : tokens U [] = [] := rfl

theorem tokens_of_match (h : matchToken U (t ++ rest) = some t) :
    tokens U (t ++ rest) = t :: tokens U rest := by
  obtain ⟨c, t, rfl⟩ := exists_cons_of_ne_nil (matchToken_isPrefix h).2
  rw [tokens, cons_append, length_cons, tokensFrom]
  rw [cons_append] at h
  rw [h]
  show _ :: tokensFrom U _ ((c :: t ++ rest).drop (c :: t).length) = _
  rw [drop_left, tokens, tokensFrom_eq_of_le (by simp) le_rfl]

theorem tokens_of_none (h : matchToken U (c :: rest) = none) :
    tokens U (c :: rest) = tokens U rest := by
  rw [tokens, length_cons, tokensFrom, h]
  rfl

theorem scan_induction {motive : Source → Prop} (nil : motive [])
    (token : ∀ t rest, matchToken U (t ++ rest) = some t → t ≠ [] → motive rest →
      motive (t ++ rest))
    (skip : ∀ c rest, matchToken U (c :: rest) = none → motive rest → motive (c :: rest))
    (s : Source) : motive s := by
  induction h : s.length using Nat.strong_induction_on generalizing s with
  | _ n ih =>
    cases s with
    | nil => exact nil
    | cons c rest =>
      rcases hm : matchToken U (c :: rest) with _ | t
      · exact skip c rest hm (ih rest.length (by rw [← h]; simp) rest rfl)
      · obtain ⟨⟨tail, htail⟩, hne⟩ := matchToken_isPrefix hm
        rw [← htail] at hm ⊢ h
        refine token t tail hm hne (ih tail.length ?_ tail rfl)
        have := length_pos_iff.2 hne
        rw [← h, length_append]
        omega

theorem Stop.matchToken_append (h : Stop U c) (hY : Y ≠ []) (hstring : '"' ∉ c :: Z)
    (hcharacter : '\'' ∉ c :: Z) : matchToken U (Y ++ c :: Z) = matchToken U Y := by
  rw [matchToken, matchToken, h.plainToken_append hY, stringLiteral, characterLiteral,
    literal_append_stop hY (h.stringPrefixes ?_) fun _ _ _ _ => literalRest_append hstring,
    literal_append_stop hY (Stop.characterPrefixes ?_)
      fun _ _ _ _ => literalRest_append hcharacter]
  · exact fun hc => hcharacter (hc ▸ mem_cons_self)
  · exact fun hc => hstring (hc ▸ mem_cons_self)

/-- What begins with a stop and has no quote is scanned on its own. -/
theorem tokens_append_stop (h : Stop U c) (hstring : '"' ∉ c :: Z)
    (hcharacter : '\'' ∉ c :: Z) :
    tokens U (Y ++ c :: Z) = tokens U Y ++ tokens U (c :: Z) := by
  induction Y using scan_induction (U := U) with
  | nil => rfl
  | token t rest ht hne ih =>
    rw [tokens_of_match ht, append_assoc, tokens_of_match, ih, cons_append]
    rw [← append_assoc, h.matchToken_append (by simp [hne]) hstring hcharacter, ht]
  | skip c rest hc ih =>
    rw [tokens_of_none hc, cons_append, tokens_of_none, ih]
    rw [← cons_append, h.matchToken_append (by simp) hstring hcharacter, hc]

/-! ## Whitespace -/

theorem isIdentifierChar_lt {c : Char} (h : isIdentifierChar c = true) :
    48 ≤ c.toNat ∧ c.toNat < 128 := by
  simp only [isIdentifierChar, isIdentifierStart, within, or_eq_true, and_eq_true,
    decide_eq_true_eq, Char.reduceToNat, beq_iff_eq] at h
  rcases h with ((h | h) | rfl) | h
  · omega
  · omega
  · decide
  · omega

theorem isSpace_of_lt {c : Char} (h : 33 ≤ c.toNat) (h' : c.toNat < 128) : isSpace c = false := by
  simp only [isSpace, contains_cons, contains_nil, Bool.or_false, Bool.or_eq_false_iff,
    and_eq_false_iff, decide_eq_false_iff_not, beq_eq_false_iff_ne]
  omega

theorem isSpace_stop {c : Char} (h : isSpace c = true) : Stop U c where
  identifier := by
    by_contra hne
    obtain ⟨hlow, hhigh⟩ := isIdentifierChar_lt (eq_true_of_not_eq_false hne)
    rw [isSpace_of_lt (by omega) hhigh] at h
    cases h
  decimal := by
    by_contra hne
    have := U.notSpace c (eq_true_of_not_eq_false hne)
    rw [h] at this
    cases this
  operator hmem := by
    have hall : operatorTail.all (!isSpace ·) = true := rfl
    have := all_eq_true.1 hall c hmem
    rw [h] at this
    cases this

theorem not_decimal {c : Char} (h : c.toNat < 128) (hdigit : within '0' '9' c = false) :
    U.isDecimal c = false := by
  rw [U.ascii c h, hdigit]

theorem takeWhile_nil_of_head (h : ∀ x ∈ s.head?, p x = false) :
    s.takeWhile p = [] := by
  cases s with
  | nil => rfl
  | cons x s => rw [takeWhile_cons, h x rfl]; rfl

theorem number_eq_none (hdigit : U.isDecimal c = false)
    (hdot : c = '.' → ∀ x ∈ s.head?, U.isDecimal x = false) : number U (c :: s) = none := by
  have hzero : c ≠ '0' := by
    rintro rfl
    rw [U.ascii '0' (by decide)] at hdigit
    cases hdigit
  have hmantissa : mantissa U (c :: s) = none := by
    rw [mantissa, takeWhile_cons, dropWhile_cons, hdigit]
    by_cases hc : c = '.'
    · subst hc
      simp [takeWhile_nil_of_head (hdot rfl)]
    · simp [hc]
  rw [number, numberBody, decimalNumber, hmantissa]
  simp [radixNumber, hzero]

theorem identifier_eq_none (h : isIdentifierStart c = false) : identifier (c :: s) = none := by
  rw [identifier, h]
  rfl

/-- The characters that begin a literal or an operator, and the decimal point. -/
def tokenHeads : List Char :=
  ['u', 'U', 'L', '"', '\'', '.', '>', '<', '-', '+', '&', '|', '=', '!', '*', '/', '%', '^', '#']

/-- A character that begins none of the longer alternatives. -/
theorem matchToken_single (hidentifier : isIdentifierStart c = false)
    (hdecimal : U.isDecimal c = false) (hheads : c ∉ tokenHeads) :
    matchToken U (c :: rest) = single (c :: rest) := by
  have hne : ∀ x ∈ tokenHeads, x ≠ c := by
    rintro x hx rfl
    exact hheads hx
  have hfront : ∀ p : Source, p.take 1 ≠ [] → (∀ x ∈ p.take 1, x ∈ tokenHeads) →
      p.isPrefixOf (c :: rest) = false := by
    intro p hp hall
    rcases p with _ | ⟨x, p⟩
    · exact absurd rfl hp
    · rw [isPrefixOf_cons_cons, beq_eq_false_iff_ne.2 (hne x (hall x (by simp)))]
      rfl
  have hstring : stringLiteral (c :: rest) = none := by
    have hall : stringPrefixes.all (fun p => (p ++ ['"']).take 1 != [] &&
        ((p ++ ['"']).take 1).all tokenHeads.contains) = true := rfl
    refine findSome?_eq_none_iff.2 fun p hp => if_neg ?_
    have := all_eq_true.1 hall p hp
    simp only [and_eq_true, bne_iff_ne, all_eq_true, contains_iff_mem] at this
    rw [hfront _ this.1 this.2]
    simp
  have hcharacter : characterLiteral (c :: rest) = none := by
    have hall : characterPrefixes.all (fun p => (p ++ ['\'']).take 1 != [] &&
        ((p ++ ['\'']).take 1).all tokenHeads.contains) = true := rfl
    refine findSome?_eq_none_iff.2 fun p hp => if_neg ?_
    have := all_eq_true.1 hall p hp
    simp only [and_eq_true, bne_iff_ne, all_eq_true, contains_iff_mem] at this
    rw [hfront _ this.1 this.2]
    simp
  have hoperator : operator (c :: rest) = none := by
    have hall : operators.all (fun op => op.take 1 != [] &&
        (op.take 1).all tokenHeads.contains) = true := rfl
    refine find?_eq_none.2 fun op hop => ?_
    have := all_eq_true.1 hall op hop
    simp only [and_eq_true, bne_iff_ne, all_eq_true, contains_iff_mem] at this
    rw [hfront _ this.1 this.2]
    simp
  rw [matchToken, hstring, hcharacter, plainToken, identifier_eq_none hidentifier,
    number_eq_none hdecimal fun hdot => absurd hdot.symm (hne '.' (by decide)), hoperator]
  rfl

theorem matchToken_space {w : Char} (hw : isSpace w = true) :
    matchToken U (w :: rest) = none := by
  have hstop : Stop U w := isSpace_stop hw
  rw [matchToken_single (or_eq_false_iff.1 hstop.identifier).1 hstop.decimal, single, hw]
  · rfl
  · intro hmem
    have hall : tokenHeads.all (!isSpace ·) = true := rfl
    have := all_eq_true.1 hall w hmem
    rw [hw] at this
    cases this

theorem tokens_spaces {spaces rest : Source} (h : ∀ w ∈ spaces, isSpace w = true) :
    tokens U (spaces ++ rest) = tokens U rest := by
  induction spaces with
  | nil => rfl
  | cons w spaces ih =>
    rw [cons_append, tokens_of_none (matchToken_space (h w mem_cons_self)),
      ih fun x hx => h x (mem_cons_of_mem w hx)]

end Bpe.Text
