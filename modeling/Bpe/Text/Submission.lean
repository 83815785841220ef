import Bpe.Lib.Backtrack
import Bpe.Text.Comment
import Mathlib.Data.List.DropRight

/-!
# Extraction of the candidate source

`extract_c_source` of `submission.py` with its pattern `_FENCE`. The white space after the
language of a fence is taken greedily, and so with it the blank lines that the source begins with
(`extractCSource_fenced`).
-/

namespace Bpe.Text

open List

/-- `str.count`: occurrences from left to right, none within another. The number is what is left
of the last one. -/
def countFrom (needle : Source) : Nat → Source → Nat
  | _, [] => 0
  | skip + 1, _ :: rest => countFrom needle skip rest
  | 0, c :: rest =>
    if needle.isPrefixOf (c :: rest) then countFrom needle (needle.length - 1) rest + 1
    else countFrom needle 0 rest

def backticks : Source := ['`', '`', '`']

/-- `_FENCE` with its group `source`. -/
def fence : Matcher Char Source := do
  .greedy isSpace
  .text backticks
  .oneOf ['c', 'C']
  .greedy isSpace
  .text ['\n']
  let source ← .lazyAny
  .text ('\n' :: backticks)
  .greedy isSpace
  .atEnd
  return source

/-- `not text.strip()` -/
def isBlank (text : Source) : Bool := text.all isSpace

def extractCSource (raw : ByteArray) (maxBytes : Nat) (allowFence : Bool) :
    Except String ByteArray :=
  if raw.size > maxBytes then .error s!"response is {raw.size} bytes; limit is {maxBytes}"
  else match String.fromUTF8? raw with
    | none => .error "response is not valid UTF-8"
    | some decoded =>
      let text := decoded.toList
      if Char.ofNat 0 ∈ text then .error "response contains a NUL byte"
      else if ¬ backticks <:+: text then
        if isBlank text then .error "response is empty" else .ok raw
      else if !allowFence then .error "Markdown fences are disabled for this task"
      else if countFrom backticks 0 text ≠ 2 then
        .error "response must contain exactly one Markdown fence"
      else match fence.capture text with
        | none => .error "response must contain exactly one C fence and only whitespace outside it"
        | some source =>
          if isBlank source then .error "C fence is empty"
          else .ok (String.ofList source).toUTF8

/-! ## Occurrences of the fence -/

theorem isPrefix_append_cons {needle A B : Source} {c : Char} (hc : c ∉ needle)
    (h : needle <+: A ++ c :: B) : needle <+: A := by
  induction A generalizing needle with
  | nil =>
    rcases prefix_cons_iff.1 h with rfl | ⟨tail, rfl, -⟩
    · exact nil_prefix
    · exact absurd mem_cons_self hc
  | cons a A ih =>
    rcases prefix_cons_iff.1 h with rfl | ⟨tail, rfl, htail⟩
    · exact nil_prefix
    · exact prefix_cons_inj a |>.2 (ih (fun hmem => hc (mem_cons_of_mem _ hmem)) htail)

theorem newline_not_mem_backticks : '\n' ∉ backticks := by decide

theorem countFrom_closed {s : Source} (h : ¬ backticks <:+: s) :
    countFrom backticks 0 (s ++ '\n' :: backticks) = 1 := by
  induction s with
  | nil => rfl
  | cons c s ih =>
    have hfront : ¬ backticks <+: c :: (s ++ '\n' :: backticks) := fun hp =>
      h (isPrefix_append_cons (A := c :: s) newline_not_mem_backticks hp).isInfix
    rw [cons_append, countFrom, if_neg (mt isPrefixOf_iff_prefix.1 hfront)]
    exact ih fun hi => h (hi.trans (suffix_cons c s).isInfix)

/-! ## The match -/

/-- What is left of a source when the blank lines it begins with are taken from it. -/
def dropBlankLines (s : Source) : Source :=
  s.drop ((s.takeWhile isSpace).rdropWhile (· ≠ '\n')).length

/-- Three backticks, `c`, a newline, the source, a newline and three backticks. -/
def fenced (s : Source) : Source := backticks ++ 'c' :: '\n' :: s ++ '\n' :: backticks

/-- A source that is not blank: the blank lines it begins with, the white space of its first
line, and the rest. -/
structure Split (s before indent rest : Source) (c : Char) : Prop where
  eq : s = before ++ (indent ++ c :: rest)
  lines : before = [] ∨ ∃ front, before = front ++ ['\n']
  space : ∀ d ∈ before ++ indent, isSpace d = true
  indent : '\n' ∉ indent
  first : isSpace c = false

theorem exists_split {s : Source} (h : isBlank s = false) :
    ∃ before indent rest c, Split s before indent rest c ∧
      s.takeWhile isSpace = before ++ indent ∧ dropBlankLines s = indent ++ c :: rest := by
  let run := s.takeWhile isSpace
  have hrun : run = run.rdropWhile (· ≠ '\n') ++ run.rtakeWhile (· ≠ '\n') :=
    rdropWhile_append_rtakeWhile.symm
  cases hrest : s.dropWhile isSpace with
  | nil =>
    rw [dropWhile_eq_nil_iff] at hrest
    rw [isBlank, all_eq_true.2 hrest] at h
    cases h
  | cons c rest =>
    have hs : s = run ++ c :: rest := by rw [← hrest, takeWhile_append_dropWhile]
    refine ⟨run.rdropWhile (· ≠ '\n'), run.rtakeWhile (· ≠ '\n'), rest, c,
      ⟨?_, ?_, ?_, ?_, ?_⟩, hrun, ?_⟩
    · rw [← append_assoc, ← hrun]
      exact hs
    · by_cases hnil : run.rdropWhile (· ≠ '\n') = []
      · exact .inl hnil
      · have hlast := rdropWhile_last_not _ run hnil
        have hnewline : (run.rdropWhile (· ≠ '\n')).getLast hnil = '\n' := by simpa using hlast
        refine .inr ⟨(run.rdropWhile (· ≠ '\n')).dropLast, ?_⟩
        exact (dropLast_append_getLast hnil).symm.trans (by rw [hnewline])
    · rw [← hrun]
      exact fun d hd => mem_takeWhile_imp hd
    · intro hmem
      simpa using mem_rtakeWhile_imp hmem
    · have hhead := head?_dropWhile_not isSpace s
      rw [hrest] at hhead
      simpa using hhead
    · show s.drop (run.rdropWhile (· ≠ '\n')).length = _
      nth_rewrite 1 [hs]
      nth_rewrite 2 [hrun]
      rw [append_assoc, drop_left]

theorem best_body {body : Source} (h : ¬ backticks <:+: body) :
    Matcher.Best (do
      let source ← Matcher.lazyAny
      Matcher.text ('\n' :: backticks)
      Matcher.greedy isSpace
      Matcher.atEnd
      return source) (body ++ '\n' :: backticks) body [] := by
  refine Matcher.Best.lazyAny_bind body.length (by simp) (fun k hk => ?_) ?_
  · refine Matcher.text_bind_eq_nil fun hp => h ?_
    rw [drop_append_of_le_length hk.le] at hp
    cases hdrop : body.drop k with
    | nil =>
      have := drop_eq_nil_iff.1 hdrop
      omega
    | cons c rest =>
      rw [hdrop, cons_append] at hp
      have htail := (cons_prefix_cons.1 hp).2
      have hsuffix : rest <:+ body :=
        (suffix_cons _ rest).trans (hdrop ▸ drop_suffix k body)
      exact (isPrefix_append_cons newline_not_mem_backticks htail).isInfix.trans hsuffix.isInfix
  · rw [take_left, drop_left, ← append_nil ('\n' :: backticks)]
    refine Matcher.Best.text_bind (Matcher.Best.greedy_bind 0 (Nat.zero_le _) ?_ ?_)
    · intro k hk hle
      exact absurd hle (by simp; omega)
    · exact Matcher.Best.atEnd_bind (Matcher.best_pure body [])

/-- After a newline, only white space that is not one comes before the first character. -/
theorem not_newline_isPrefix {indent rest : Source} {c : Char} (hindent : '\n' ∉ indent)
    (hc : isSpace c = false) {j : Nat} (hj : j ≤ indent.length) :
    ¬ ['\n'] <+: (indent ++ c :: rest).drop j := by
  rw [drop_append_of_le_length hj]
  intro hp
  cases hdrop : indent.drop j with
  | nil =>
    rw [hdrop] at hp
    have hnewline : '\n' = c := (cons_prefix_cons.1 hp).1
    rw [← hnewline] at hc
    exact absurd hc (by decide)
  | cons d tail =>
    rw [hdrop] at hp
    have hnewline : '\n' = d := (cons_prefix_cons.1 hp).1
    have hmem : d ∈ indent.drop j := by
      rw [hdrop]
      exact mem_cons_self
    exact hindent (hnewline ▸ mem_of_mem_drop hmem)

theorem best_fence {s before indent rest : Source} {c : Char} (hs : Split s before indent rest c)
    (h : ¬ backticks <:+: s) : fence.Best (fenced s) (indent ++ c :: rest) [] := by
  have hbody : ¬ backticks <:+: indent ++ c :: rest := fun hi =>
    h (hi.trans (hs.eq ▸ (suffix_append before _).isInfix))
  have hclosed : fenced s = backticks ++ 'c' :: '\n' :: (before ++
      ((indent ++ c :: rest) ++ '\n' :: backticks)) := by
    rw [fenced, hs.eq]
    simp
  rw [hclosed]
  refine Matcher.Best.greedy_bind 0 (Nat.zero_le _) (fun k hk hle => ?_) ?_
  · exact absurd hle (by simp [backticks, isSpace]; omega)
  refine Matcher.Best.text_bind (Matcher.Best.oneOf_bind (by simp) ?_)
  -- the last newline among the white space is the one that ends the blank lines
  have hrun : ('\n' :: (before ++ ((indent ++ c :: rest) ++ '\n' :: backticks))).takeWhile isSpace =
      ('\n' :: before) ++ indent := by
    have hspace : ∀ d ∈ ('\n' :: before) ++ indent, isSpace d = true := by
      rw [cons_append]
      exact forall_mem_cons.2 ⟨by decide, hs.space⟩
    rw [show '\n' :: (before ++ ((indent ++ c :: rest) ++ '\n' :: backticks)) =
      (('\n' :: before) ++ indent) ++ c :: (rest ++ '\n' :: backticks) by simp,
      takeWhile_append_of_pos hspace, takeWhile_cons_of_neg (by simp [hs.first]),
      append_nil]
  have hlength : (('\n' :: before) ++ indent).length = before.length + 1 + indent.length := by
    rw [length_append, length_cons]
  refine Matcher.Best.greedy_bind before.length (by rw [hrun]; omega) (fun k hk hle => ?_) ?_
  · rw [hrun, hlength] at hle
    obtain ⟨j, rfl⟩ : ∃ j, k = ('\n' :: before).length + j :=
      ⟨k - (before.length + 1), by rw [length_cons]; omega⟩
    rw [length_cons] at hle
    rw [← cons_append, drop_length_add_append, append_assoc]
    exact Matcher.text_bind_eq_nil (not_newline_isPrefix hs.indent hs.first (by omega))
  · have hdrop : ('\n' :: (before ++ ((indent ++ c :: rest) ++ '\n' :: backticks))).drop
        before.length = ['\n'] ++ ((indent ++ c :: rest) ++ '\n' :: backticks) := by
      rcases hs.lines with rfl | ⟨front, rfl⟩
      · rfl
      · rw [show '\n' :: ((front ++ ['\n']) ++ ((indent ++ c :: rest) ++ '\n' :: backticks)) =
          ('\n' :: front) ++ (['\n'] ++ ((indent ++ c :: rest) ++ '\n' :: backticks)) by simp]
        exact drop_left' (by simp)
    rw [hdrop]
    exact Matcher.Best.text_bind (best_body hbody)

/-! ## Extraction -/

section Extract

variable {s : Source} {maxBytes : Nat}

theorem extractCSource_plain (hblank : isBlank s = false) (hnul : Char.ofNat 0 ∉ s)
    (hfence : ¬ backticks <:+: s) (hfit : (String.ofList s).toUTF8.size ≤ maxBytes)
    (allowFence : Bool) :
    extractCSource (String.ofList s).toUTF8 maxBytes allowFence =
      .ok (String.ofList s).toUTF8 := by
  unfold extractCSource
  rw [if_neg (by omega), fromUTF8_toUTF8]
  simp only [String.toList_ofList]
  rw [if_neg hnul, if_pos hfence, hblank]
  rfl

/-- A fence gives its source without the blank lines it begins with. -/
theorem extractCSource_fenced (hblank : isBlank s = false) (hnul : Char.ofNat 0 ∉ s)
    (hfence : ¬ backticks <:+: s) (hfit : (String.ofList (fenced s)).toUTF8.size ≤ maxBytes) :
    extractCSource (String.ofList (fenced s)).toUTF8 maxBytes true =
      .ok (String.ofList (dropBlankLines s)).toUTF8 := by
  obtain ⟨before, indent, rest, c, hs, -, hdrop⟩ := exists_split hblank
  have hclean : Char.ofNat 0 ∉ fenced s := by
    unfold fenced
    simp only [mem_append, mem_cons, not_or]
    exact ⟨⟨by decide, by decide, by decide, hnul⟩, by decide, by decide⟩
  have hoccurs : backticks <:+: fenced s :=
    ⟨[], _, by rw [fenced, nil_append, append_assoc]⟩
  have hcount : countFrom backticks 0 (fenced s) = 2 := by
    have hopened : countFrom backticks 0 (fenced s) =
        countFrom backticks 0 (s ++ '\n' :: backticks) + 1 := rfl
    rw [hopened, countFrom_closed hfence]
  have hsource : isBlank (indent ++ c :: rest) = false := by
    rw [isBlank, all_append, all_cons, hs.first, Bool.false_and, Bool.and_false]
  unfold extractCSource
  rw [if_neg (by omega), fromUTF8_toUTF8]
  simp only [String.toList_ofList]
  rw [if_neg hclean, if_neg (not_not.2 hoccurs), if_neg (by decide), if_neg (not_not.2 hcount),
    (best_fence hs hfence).capture, hdrop]
  simp only [hsource]
  rfl

theorem dropBlankLines_eq_self_iff (hblank : isBlank s = false) :
    dropBlankLines s = s ↔ '\n' ∉ s.takeWhile isSpace := by
  obtain ⟨before, indent, rest, c, hs, hrun, hdrop⟩ := exists_split hblank
  rw [hdrop, hrun, hs.eq, mem_append, not_or]
  rcases hs.lines with rfl | ⟨front, rfl⟩
  · simp [hs.indent]
  · refine iff_of_false (fun heq => ?_) fun hnone => hnone.1 (by simp)
    have hlength := congrArg length heq
    simp only [length_append, length_cons, length_nil] at hlength
    omega

theorem size_le_fenced (s : Source) :
    (String.ofList s).toUTF8.size ≤ (String.ofList (fenced s)).toUTF8.size := by
  show (String.ofList s).utf8ByteSize ≤ (String.ofList (fenced s)).utf8ByteSize
  have hparts : String.ofList (fenced s) = String.ofList (backticks ++ ['c', '\n']) ++
      (String.ofList s ++ String.ofList ('\n' :: backticks)) := by
    rw [← String.ofList_append, ← String.ofList_append]
    simp [fenced]
  rw [hparts, String.utf8ByteSize_append, String.utf8ByteSize_append]
  omega

end Extract

/-- **A fenced source is returned as it stands when its first line is not blank**, and only
then. -/
theorem fenced_submission_verbatim_iff (s : Source) (maxBytes : Nat) (hblank : isBlank s = false)
    (hnul : Char.ofNat 0 ∉ s) (hfence : ¬ backticks <:+: s)
    (hfit : (String.ofList (fenced s)).toUTF8.size ≤ maxBytes) :
    extractCSource (String.ofList s).toUTF8 maxBytes true = .ok (String.ofList s).toUTF8 ∧
    (extractCSource (String.ofList (fenced s)).toUTF8 maxBytes true =
      .ok (String.ofList s).toUTF8 ↔ '\n' ∉ s.takeWhile isSpace) := by
  refine ⟨extractCSource_plain hblank hnul hfence ((size_le_fenced s).trans hfit) true, ?_⟩
  rw [extractCSource_fenced hblank hnul hfence hfit, ← dropBlankLines_eq_self_iff hblank]
  constructor
  · intro h
    exact String.ofList_injective (toUTF8_injective (Except.ok.inj h))
  · intro h
    rw [h]

/-- A source whose first line is not blank. -/
theorem fenced_submission_verbatim_iff_line :
    extractCSource (String.ofList (fenced [' ', 'x', '\n'])).toUTF8 65536 true =
      .ok (String.ofList [' ', 'x', '\n']).toUTF8 :=
  (fenced_submission_verbatim_iff [' ', 'x', '\n'] 65536 rfl (by decide) (by decide)
    (by decide)).2.2 (by decide)

/-- A source that begins with an empty line: the line is lost in the fence and kept without it. -/
theorem fenced_submission_not_verbatim :
    extractCSource (String.ofList (fenced ['\n', 'x'])).toUTF8 65536 true =
        .ok (String.ofList ['x']).toUTF8 ∧
      extractCSource (String.ofList ['\n', 'x']).toUTF8 65536 true =
        .ok (String.ofList ['\n', 'x']).toUTF8 ∧
      (String.ofList ['x']).toUTF8 ≠ (String.ofList ['\n', 'x']).toUTF8 := by
  refine ⟨?_, ?_, by decide⟩
  · exact extractCSource_fenced (s := ['\n', 'x']) rfl (by decide) (by decide) (by decide)
  · exact extractCSource_plain (s := ['\n', 'x']) rfl (by decide) (by decide) (by decide) true

end Bpe.Text
