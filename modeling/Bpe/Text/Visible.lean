import Bpe.Text.Comment

/-!
# Text inside a block comment

`_comment_visible_text_tokens` of `/*` + text + `*/` holds the tokens of the text. The
replacements of the delimiters work on the text alone, except where its end and the
added `*/` make a delimiter together: a text that ends in `/` then ends in a space and
`/`, whatever was before it.
-/

namespace Bpe.Text

open List

variable {U : Unicode} {s t J : Source}

def commented (text : Source) : Source := '/' :: '*' :: (text ++ ['*', '/'])

/-- The replacements of the three delimiters. -/
def dropDelimiters (s : Source) : Source :=
  replace ['*', '/'] [' '] (replace ['/', '*'] [' '] (replace ['/', '/'] [' '] s))

theorem replace_splice_commented {old : Source} (hold : old = spliceLf ∨ old = spliceCrLf) :
    replace old [] (commented s) = commented (replace old [] s) := by
  have hslash : '/' ∉ old := by rcases hold with rfl | rfl <;> decide
  have hstar : '*' ∉ old := by rcases hold with rfl | rfl <;> decide
  have hne : old ≠ [] := by rcases hold with rfl | rfl <;> simp [spliceLf, spliceCrLf]
  rw [commented, replace_cons_of_not_mem hne hslash, replace_cons_of_not_mem hne hstar,
    replace_append_cons hne hstar, replace_cons_of_not_mem hne hstar,
    replace_cons_of_not_mem hne hslash]
  rfl

theorem joinLines_commented : joinLines (commented s) = commented (joinLines s) := by
  rw [joinLines, replace_splice_commented (.inr rfl), replace_splice_commented (.inl rfl),
    joinLines]

/-- What the first two replacements leave, up to the end of the text. -/
theorem replace_line_commented :
    replace ['/', '/'] [' '] (commented s) = commented (replace ['/', '/'] [' '] s) := by
  rw [commented, replace_cons (by simp), replace_cons (by simp),
    replace_append_cons (by simp) (by decide)]
  rfl

theorem replace_block_commented :
    replace ['/', '*'] [' '] (commented s) =
      ' ' :: replace ['/', '*'] [' '] (s ++ ['*', '/']) :=
  replace_match (by simp)

/-! ## The tokens -/

theorem isSpace_space : isSpace ' ' = true := rfl

theorem stop_slash : Stop U '/' := ⟨rfl, U.ascii '/' (by decide), by decide⟩

theorem stop_star : Stop U '*' := ⟨rfl, U.ascii '*' (by decide), by decide⟩

theorem tokens_cons_space : tokens U (' ' :: s) = tokens U s :=
  tokens_of_none (matchToken_space isSpace_space)

/-- A space is where a text without quotes begins to be scanned on its own. -/
theorem tokens_append_space (hstring : '"' ∉ t) (hcharacter : '\'' ∉ t) :
    tokens U (s ++ ' ' :: t) = tokens U s ++ tokens U t := by
  rw [tokens_append_stop (isSpace_stop isSpace_space) (by simpa using hstring)
    (by simpa using hcharacter), tokens_cons_space]

/-- The last replacement, where the text does not end in `/`. -/
theorem visible_plain (h : ¬ ['/'] <:+ s) :
    tokens U (replace ['*', '/'] [' '] (replace ['/', '*'] [' '] (s ++ ['*', '/']))) =
      tokens U (replace ['*', '/'] [' '] (replace ['/', '*'] [' '] s)) := by
  have hblock : replace ['/', '*'] [' '] (s ++ ['*', '/']) =
      replace ['/', '*'] [' '] s ++ ['*', '/'] := replace_pair_append fun hb => h hb.1
  have hend : ∀ r : Source, replace ['*', '/'] [' '] (r ++ ['*', '/']) =
      replace ['*', '/'] [' '] r ++ [' '] := fun r => replace_pair_append fun hb => by simp at hb
  rw [hblock, hend, tokens_append_space (by simp) (by simp), tokens_nil, append_nil]

/-- The added `*` makes a delimiter with the last `/` of the text, and the added `/`
stays behind a space. -/
theorem visible_slash :
    replace ['*', '/'] [' '] (replace ['/', '*'] [' '] (s ++ ['/'] ++ ['*', '/'])) =
      replace ['*', '/'] [' '] (replace ['/', '*'] [' '] s ++ [' ', '/']) := by
  have hblock : replace ['/', '*'] [' '] (s ++ ['/', '*', '/']) =
      replace ['/', '*'] [' '] s ++ [' ', '/'] := replace_pair_append fun hb => by simp at hb
  rw [append_assoc]
  exact congrArg _ hblock

theorem visible_slash_infix :
    tokens U (replace ['*', '/'] [' '] (replace ['/', '*'] [' '] (s ++ ['/']))) <:+:
      tokens U (replace ['*', '/'] [' ']
        (replace ['/', '*'] [' '] (s ++ ['/'] ++ ['*', '/']))) := by
  have hlast : replace ['/', '*'] [' '] (s ++ ['/']) = replace ['/', '*'] [' '] s ++ ['/'] :=
    replace_pair_append fun hb => by simp at hb
  rw [visible_slash, hlast]
  generalize replace ['/', '*'] [' '] s = y
  have hpublic : replace ['*', '/'] [' '] (y ++ [' ', '/']) =
      replace ['*', '/'] [' '] y ++ [' ', '/'] := replace_pair_append fun hb => by simp at hb
  by_cases hstar : ['*'] <:+ y
  · obtain ⟨x, rfl⟩ := hstar
    -- the private text ends in `*/`, which is dropped; the public one keeps both characters
    have hprivate : replace ['*', '/'] [' '] (x ++ ['*', '/']) =
        replace ['*', '/'] [' '] x ++ [' '] := replace_pair_append fun hb => by simp at hb
    have hopen : replace ['*', '/'] [' '] (x ++ ['*']) = replace ['*', '/'] [' '] x ++ ['*'] :=
      replace_pair_append fun hb => by simp at hb
    rw [hpublic, hopen, append_assoc, append_assoc, singleton_append, hprivate,
      tokens_append_space (by simp) (by simp), tokens_nil, append_nil, singleton_append,
      tokens_append_stop stop_star (by simp) (by simp)]
    exact infix_append' [] _ _
  · have hprivate : replace ['*', '/'] [' '] (y ++ ['/']) = replace ['*', '/'] [' '] y ++ ['/'] :=
      replace_pair_append fun hb => hstar hb.1
    rw [hpublic, hprivate, tokens_append_space (by simp) (by simp),
      tokens_append_stop stop_slash (by simp) (by simp)]

theorem dropDelimiters_commented_infix :
    tokens U (dropDelimiters s) <:+: tokens U (dropDelimiters (commented s)) := by
  rw [dropDelimiters, dropDelimiters, replace_line_commented, replace_block_commented]
  generalize replace ['/', '/'] [' '] s = J
  rw [replace_cons_of_not_mem (by simp) (by simp), tokens_cons_space]
  by_cases hslash : ['/'] <:+ J
  · obtain ⟨s, rfl⟩ := hslash
    exact visible_slash_infix
  · rw [visible_plain hslash]

/-! ## The byte-order mark -/

theorem tokens_cons_mark : tokens U ('\uFEFF' :: s) = ['\uFEFF'] :: tokens U s :=
  tokens_of_match (t := ['\uFEFF']) (matchToken_single rfl U.notMark (by decide))

theorem dropDelimiters_joinLines_mark :
    dropDelimiters (joinLines ('\uFEFF' :: s)) = '\uFEFF' :: dropDelimiters (joinLines s) := by
  simp only [dropDelimiters, joinLines, spliceLf, spliceCrLf]
  rw [replace_cons_of_not_mem (by simp) (by decide), replace_cons_of_not_mem (by simp) (by decide),
    replace_cons_of_not_mem (by simp) (by decide), replace_cons_of_not_mem (by simp) (by decide),
    replace_cons_of_not_mem (by simp) (by decide)]

theorem commentVisibleText_eq :
    commentVisibleText s = dropDelimiters (joinLines (removeByteOrderMark s)) := rfl

/-- **The visible tokens of a text stand together in those of the text in a comment.** -/
theorem commentVisible_infix_commented :
    commentVisibleTextTokens U s <:+: commentVisibleTextTokens U (commented s) := by
  have hpublic : commentVisibleText (commented s) = dropDelimiters (commented (joinLines s)) := by
    rw [← joinLines_commented]
    rfl
  rw [commentVisibleTextTokens, commentVisibleTextTokens, hpublic, commentVisibleText_eq]
  refine List.IsInfix.trans ?_ dropDelimiters_commented_infix
  cases s with
  | nil => exact infix_rfl
  | cons c s =>
    by_cases hc : c = '\uFEFF'
    · rw [hc, removeByteOrderMark, if_pos rfl, dropDelimiters_joinLines_mark, tokens_cons_mark]
      exact (suffix_cons _ _).isInfix
    · rw [removeByteOrderMark, if_neg hc]

end Bpe.Text
