import Bpe.Text.Format
import Bpe.Text.Visible

/-!
# Text between other texts

The tokens of a text stand together in those of `A`, the text and `B` on lines of their
own where nothing runs from `A` into the text or from the text into `B`: no literal, no
comment and no line splice. `Settled` says so of a text on its own, in the language of
the pieces it is put together of and without the walk or the pattern. `B` may be
anything.

The two views differ in what a comment is. `Closed true` reads comments as comments, so
that a quote in one opens nothing; `Closed false` reads them as text.
-/

namespace Bpe.Text

open List

variable {U : Unicode} {s t u v body rest : Source} {c w quote : Char} {comments : Bool}

def IsQuote (c : Char) : Prop := c = '"' ∨ c = '\''

theorem IsQuote.ne_slash (h : IsQuote quote) : quote ≠ '\\' := by
  rcases h with rfl | rfl <;> decide

theorem IsQuote.not_space (h : IsQuote quote) : isSpace quote = false := by
  rcases h with rfl | rfl <;> rfl

theorem IsQuote.stop (h : IsQuote quote) : Stop U quote := by
  rcases h with rfl | rfl
  · exact ⟨rfl, U.ascii '"' (by decide), by decide⟩
  · exact ⟨rfl, U.ascii '\'' (by decide), by decide⟩

/-! ## Texts in which nothing stays open -/

/-- The text is put together of whole literals, whole comments and other characters. A
line comment may go on to the end. -/
inductive Closed (comments : Bool) : Source → Prop
  | nil : Closed comments []
  | plain {c : Char} {rest : Source} : ¬ IsQuote c →
      (comments = true → ¬ ['/', '/'] <+: c :: rest ∧ ¬ ['/', '*'] <+: c :: rest) →
      Closed comments rest → Closed comments (c :: rest)
  | literal {quote : Char} {body rest : Source} : IsQuote quote → LiteralBody quote body →
      Closed comments rest → Closed comments (quote :: (body ++ quote :: rest))
  | lineComment {body rest : Source} : comments = true → '\n' ∉ body →
      Closed comments rest → Closed comments ('/' :: '/' :: body ++ '\n' :: rest)
  | blockComment {body rest : Source} : comments = true → ¬ ['*', '/'] <:+: body →
      Closed comments rest → Closed comments ('/' :: '*' :: body ++ '*' :: '/' :: rest)
  | lastLine {body : Source} : comments = true → '\n' ∉ body →
      Closed comments ('/' :: '/' :: body)

/-- Nothing of the text runs over a newline that follows it. A splice of a carriage
return at the end may leave a backslash there. -/
structure Settled (comments : Bool) (s : Source) : Prop where
  unspliced : ∀ tail ∈ [[], ['\r'], ['\r', '\n']], ¬ '\\' :: tail <:+ s
  closed : Closed comments (joinLines s)

theorem Closed.plain_append (hu : ∀ c ∈ u, ¬ IsQuote c) (hv : Closed false v) :
    Closed false (u ++ v) := by
  induction u with
  | nil => exact hv
  | cons c u ih =>
    exact .plain (hu c mem_cons_self) Bool.noConfusion
      (ih fun c hc => hu c (mem_cons_of_mem _ hc))

/-- A closed text up to its first literal. -/
theorem Closed.split (h : Closed false s) : ∃ u v, s = u ++ v ∧ (∀ c ∈ u, ¬ IsQuote c) ∧
    (v = [] ∨ ∃ quote body rest, v = quote :: (body ++ quote :: rest) ∧ IsQuote quote ∧
      LiteralBody quote body ∧ Closed false rest) := by
  induction h with
  | nil => exact ⟨[], [], rfl, by simp, .inl rfl⟩
  | @plain c rest hc _ _ ih =>
    obtain ⟨u, v, rfl, hu, hv⟩ := ih
    exact ⟨c :: u, v, rfl, forall_mem_cons.2 ⟨hc, hu⟩, hv⟩
  | literal hquote hbody hrest =>
    exact ⟨[], _, rfl, by simp, .inr ⟨_, _, _, rfl, hquote, hbody, hrest⟩⟩
  | lineComment h => cases h
  | blockComment h => cases h
  | lastLine h => cases h

theorem Closed.tail (h : Closed comments (c :: s)) (hquote : ¬ IsQuote c)
    (hc : comments = true → c ≠ '/') : Closed comments s := by
  cases h with
  | plain _ _ hs => exact hs
  | literal hq => exact absurd hq hquote
  | lineComment h => exact absurd rfl (hc h)
  | blockComment h => exact absurd rfl (hc h)
  | lastLine h => exact absurd rfl (hc h)

/-- The first quote of a closed text opens a literal that the text closes. -/
theorem Closed.opens (h : Closed false (u ++ quote :: s)) (hu : ∀ c ∈ u, ¬ IsQuote c)
    (hquote : IsQuote quote) : ∃ body rest, s = body ++ quote :: rest ∧
      LiteralBody quote body ∧ Closed false rest := by
  induction u with
  | nil =>
    cases h with
    | plain hc => exact absurd hquote hc
    | literal _ hbody hrest => exact ⟨_, _, rfl, hbody, hrest⟩
    | lineComment h => cases h
    | blockComment h => cases h
    | lastLine h => cases h
  | cons c u ih =>
    exact ih (h.tail (hu c mem_cons_self) Bool.noConfusion)
      fun c hc => hu c (mem_cons_of_mem _ hc)

/-! ## The scan of a closed text -/

/-- A literal at the front of a closed text ends in it. -/
theorem Closed.literal_append (h : Closed false s) (hs : s ≠ []) {prefixes : List Source}
    (hplain : ∀ p ∈ prefixes, ∀ c ∈ p, ¬ IsQuote c) (hquote : IsQuote quote)
    (hstop : ∀ p ∈ prefixes, w ∉ (p ++ [quote]).tail) :
    Text.literal prefixes quote (s ++ w :: rest) = Text.literal prefixes quote s := by
  refine literal_append_stop hs hstop fun p hp R hR => ?_
  rw [hR] at h
  obtain ⟨body, after, rfl, hbody, -⟩ := h.opens (hplain p hp) hquote
  rw [append_assoc, cons_append, literalRest_body hquote.ne_slash _ hbody,
    literalRest_body hquote.ne_slash _ hbody]

theorem stringPrefixes_plain : ∀ p ∈ stringPrefixes, ∀ c ∈ p, ¬ IsQuote c := by
  simp [stringPrefixes, IsQuote]

theorem characterPrefixes_plain : ∀ p ∈ characterPrefixes, ∀ c ∈ p, ¬ IsQuote c := by
  simp [characterPrefixes, IsQuote]

theorem Closed.matchToken_append (h : Closed false s) (hs : s ≠ []) (hw : isSpace w = true) :
    matchToken U (s ++ w :: rest) = matchToken U s := by
  have hstop : Stop U w := isSpace_stop hw
  have hne : ∀ {quote : Char}, IsQuote quote → w ≠ quote := by
    rintro quote hquote rfl
    rw [hquote.not_space] at hw
    cases hw
  rw [matchToken, matchToken, hstop.plainToken_append hs, stringLiteral, characterLiteral,
    h.literal_append hs stringPrefixes_plain (.inl rfl) (hstop.stringPrefixes (hne (.inl rfl))),
    h.literal_append hs characterPrefixes_plain (.inr rfl)
      (Stop.characterPrefixes (hne (.inr rfl)))]

/-- A quote at the front of a closed text is the front of a literal. -/
theorem Closed.front (h : Closed false (c :: s)) (hstring : stringLiteral (c :: s) = none)
    (hcharacter : characterLiteral (c :: s) = none) : ¬ IsQuote c := by
  intro hquote
  obtain ⟨body, after, rfl, hbody, -⟩ := Closed.opens (u := []) h (by simp) hquote
  rcases hquote with rfl | rfl
  · rw [show '"' :: (body ++ '"' :: after) = [] ++ '"' :: (body ++ '"' :: after) from rfl,
      stringLiteral_self (by decide) hbody] at hstring
    cases hstring
  · rw [show '\'' :: (body ++ '\'' :: after) = [] ++ '\'' :: (body ++ '\'' :: after) from rfl,
      characterLiteral_self (by decide) hbody] at hcharacter
    cases hcharacter

theorem strip_trailing (h : '\n' ∉ body) :
    strip 0 .code ('/' :: '/' :: body) = ([], .lineComment) := by
  have hbody : strip 0 .lineComment body = ([], .lineComment) := by
    induction body with
    | nil => rfl
    | cons b body ih =>
      have hb : b ≠ '\n' := fun hb => h (hb ▸ mem_cons_self)
      rw [strip, if_neg hb, ih fun hmem => h (mem_cons_of_mem b hmem)]
  rw [← hbody]
  rfl

/-- The walk leaves a closed text closed, and is in no literal or comment behind a
newline. -/
theorem Closed.strip (h : Closed true s) : ∃ out mode, Closed false out ∧
    Text.strip 0 .code s = (out, mode) ∧ ∀ rest, Text.strip 0 .code (s ++ '\n' :: rest) =
      emitAll (out ++ ['\n']) (Text.strip 0 .code rest) := by
  have hnewline : ∀ rest, Text.strip 0 .code ('\n' :: rest) =
      emit '\n' (Text.strip 0 .code rest) := fun rest =>
    strip_plain (by decide) (by decide) (by simp) (by simp)
  induction h with
  | nil => exact ⟨[], .code, .nil, rfl, hnewline⟩
  | @plain c s hc hopen _ ih =>
    obtain ⟨out, mode, hout, hstrip, happend⟩ := ih
    obtain ⟨hline, hblock⟩ := hopen rfl
    obtain ⟨hstring, hcharacter⟩ := not_or.1 hc
    refine ⟨c :: out, mode, .plain hc Bool.noConfusion hout, ?_, fun rest => ?_⟩
    · rw [strip_plain hstring hcharacter hline hblock, hstrip]
      rfl
    · rw [cons_append, strip_plain hstring hcharacter, happend]
      · rfl
      · cases s with
        | nil => simp
        | cons d s => simpa using hline
      · cases s with
        | nil => simp
        | cons d s => simpa using hblock
  | @literal quote body s hquote hbody _ ih =>
    obtain ⟨out, mode, hout, hstrip, happend⟩ := ih
    refine ⟨quote :: (body ++ quote :: out), mode, .literal hquote hbody hout, ?_, fun rest => ?_⟩
    · rw [strip_open hquote, strip_body hquote.ne_slash hbody, hstrip]
      simp [emit, emitAll]
    · rw [cons_append, append_assoc, cons_append, strip_open hquote,
        strip_body hquote.ne_slash hbody, happend]
      simp [emit, emitAll]
  | @lineComment body s _ hbody _ ih =>
    obtain ⟨out, mode, hout, hstrip, happend⟩ := ih
    refine ⟨'\n' :: out, mode, .plain (by simp [IsQuote]) Bool.noConfusion hout, ?_, fun rest => ?_⟩
    · rw [strip_lineComment hbody, hstrip]
      rfl
    · rw [append_assoc]
      exact (strip_lineComment hbody).trans (congrArg (emit '\n') (happend rest))
  | @blockComment body s _ hbody _ ih =>
    obtain ⟨out, mode, hout, hstrip, happend⟩ := ih
    refine ⟨' ' :: out, mode, .plain (by simp [IsQuote]) Bool.noConfusion hout, ?_, fun rest => ?_⟩
    · rw [strip_blockComment hbody, hstrip]
      rfl
    · rw [append_assoc]
      exact (strip_blockComment hbody).trans (congrArg (emit ' ') (happend rest))
  | lastLine _ hbody =>
    exact ⟨[], .lineComment, .nil, strip_trailing hbody, fun rest => strip_lineComment hbody⟩

/-! ## The delimiters of a closed text -/

section Delimiters

variable {x y : Char}

theorem LiteralBody.of_cons (h : LiteralBody quote (x :: s)) (hx : x ≠ '\\') :
    LiteralBody quote s := by
  cases h with
  | plain _ _ hs => exact hs
  | escape => exact absurd rfl hx

/-- Neither character of the pair closes a literal or escapes one. -/
structure Bare (x y : Char) : Prop where
  first : ¬ IsQuote x ∧ x ≠ '\\'
  second : ¬ IsQuote y ∧ y ≠ '\\'

theorem LiteralBody.replace (hxy : Bare x y) (hquote : IsQuote quote) (h : LiteralBody quote s) :
    LiteralBody quote (replace [x, y] [' '] s) := by
  have hspace : ' ' ≠ quote := by rcases hquote with rfl | rfl <;> decide
  induction hn : s.length using Nat.strong_induction_on generalizing s with
  | _ n ih =>
    -- The pair is replaced at the front of what follows a backslash, too.
    have hpair : ∀ s' : Source, s'.length < n → LiteralBody quote (x :: y :: s') →
        LiteralBody quote (Bpe.replace [x, y] [' '] s') := fun s' hlt hs =>
      ih _ hlt ((hs.of_cons hxy.first.2).of_cons hxy.second.2) rfl
    cases h with
    | nil => exact .nil
    | @plain c s hne hslash hs =>
      by_cases hfront : [x, y] <+: c :: s
      · obtain ⟨s', hs'⟩ := hfront
        cases hs'
        have hrest := hpair s' (by rw [← hn]; simp) (.plain hne hslash hs)
        exact (replace_match (cons_ne_nil x [y])).symm ▸ .plain hspace (by decide) hrest
      · rw [replace_cons hfront]
        exact .plain hne hslash (ih _ (by rw [← hn]; simp) hs rfl)
    | @escape d s hd hs =>
      rw [replace_cons_of_not_mem (by simp) (by simp [hxy.first.2.symm, hxy.second.2.symm])]
      by_cases hfront : [x, y] <+: d :: s
      · obtain ⟨s', hs'⟩ := hfront
        cases hs'
        have hrest := ih s'.length (by rw [← hn]; simp; omega) (hs.of_cons hxy.second.2) rfl
        exact (replace_match (cons_ne_nil x [y])).symm ▸ .escape (by decide) hrest
      · rw [replace_cons hfront]
        exact .escape hd (ih _ (by rw [← hn]; simp) hs rfl)

theorem mem_replace_pair (h : c ∈ replace [x, y] [' '] s) : c = ' ' ∨ c ∈ s := by
  induction hn : s.length using Nat.strong_induction_on generalizing s with
  | _ n ih =>
    cases s with
    | nil => cases h
    | cons d s =>
      by_cases hfront : [x, y] <+: d :: s
      · obtain ⟨s', hs'⟩ := hfront
        rw [← hs', replace_match (by simp)] at h
        rw [← hs'] at hn ⊢
        rcases mem_cons.1 h with hc | hc
        · exact .inl hc
        · exact (ih _ (by rw [← hn]; simp) hc rfl).imp_right (mem_append_right _)
      · rw [replace_cons hfront] at h
        rcases mem_cons.1 h with hc | hc
        · exact .inr (hc ▸ mem_cons_self)
        · exact (ih _ (by rw [← hn]; simp) hc rfl).imp_right (mem_cons_of_mem _)

theorem Closed.replace (hxy : Bare x y) (h : Closed false s) :
    Closed false (replace [x, y] [' '] s) := by
  induction hn : s.length using Nat.strong_induction_on generalizing s with
  | _ n ih =>
    obtain ⟨u, v, rfl, hu, hv⟩ := h.split
    have hplain : ∀ c ∈ Bpe.replace [x, y] [' '] u, ¬ IsQuote c := fun c hc => by
      rcases mem_replace_pair hc with rfl | hmem
      · simp [IsQuote]
      · exact hu c hmem
    rcases hv with rfl | ⟨quote, body, rest, rfl, hquote, hbody, hrest⟩
    · rw [append_nil, ← append_nil (Bpe.replace _ _ _)]
      exact Closed.nil.plain_append hplain
    · have hnot : quote ∉ [x, y] := by
        simp only [mem_cons, not_mem_nil, or_false, not_or]
        exact ⟨fun h => hxy.first.1 (h ▸ hquote), fun h => hxy.second.1 (h ▸ hquote)⟩
      rw [replace_append_cons (by simp) hnot, replace_cons_of_not_mem (by simp) hnot,
        replace_append_cons (by simp) hnot, replace_cons_of_not_mem (by simp) hnot]
      have hshort : rest.length < n := by
        rw [← hn]
        simp
        omega
      exact Closed.plain_append hplain
        (.literal hquote (hbody.replace hxy hquote) (ih _ hshort hrest rfl))

theorem Closed.dropDelimiters (h : Closed false s) : Closed false (dropDelimiters s) := by
  have hslash : ¬ IsQuote '/' ∧ '/' ≠ '\\' := by simp [IsQuote]
  have hstar : ¬ IsQuote '*' ∧ '*' ≠ '\\' := by simp [IsQuote]
  exact Closed.replace ⟨hstar, hslash⟩ (Closed.replace ⟨hslash, hstar⟩
    (Closed.replace ⟨hslash, hslash⟩ h))

end Delimiters

/-! ## Splices -/

theorem joinLines_cons_mark : joinLines ('\uFEFF' :: s) = '\uFEFF' :: joinLines s := by
  rw [joinLines, replace_cons_of_not_mem (by simp [spliceCrLf]) (by decide),
    replace_cons_of_not_mem (by simp [spliceLf]) (by decide), joinLines]

/-- A mark at the front opens nothing. -/
theorem Settled.removeByteOrderMark (h : Settled comments s) :
    Settled comments (removeByteOrderMark s) := by
  cases s with
  | nil => exact h
  | cons c s =>
    by_cases hc : c = '\uFEFF'
    · subst hc
      refine ⟨fun tail htail hs => h.unspliced tail htail (hs.trans (suffix_cons _ _)), ?_⟩
      have hclosed := h.closed
      rw [joinLines_cons_mark] at hclosed
      exact hclosed.tail (by simp [IsQuote]) fun _ => by decide
    · rwa [Text.removeByteOrderMark, if_neg hc]

/-! ## Embedded texts -/

variable {before text behind : Source}

end Bpe.Text
