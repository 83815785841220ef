import Bpe.Lib.Replace
import Bpe.Text.Token

/-!
# Comment removal and the token views

`_strip_c_comments` of `corpus.py` and of `task.py` differ in what the end of the
text does inside a comment or a literal only. The `find` of a comment's end is a
mode of the walk that drops what it passes.
-/

namespace Bpe.Text

open List

/-- `removeprefix("\ufeff")` -/
def removeByteOrderMark : Source → Source
  | c :: rest => if c = '\uFEFF' then rest else c :: rest
  | [] => []

def spliceCrLf : Source := ['\\', '\r', '\n']

def spliceLf : Source := ['\\', '\n']

/-- `replace("\\\r\n", "").replace("\\\n", "")` -/
def joinLines (s : Source) : Source := replace spliceLf [] (replace spliceCrLf [] s)

inductive Mode where
  | code
  | quoted (quote : Char)
  /-- After a backslash in a literal. -/
  | escaped (quote : Char)
  | lineComment
  | blockComment

def emit (c : Char) (r : Source × Mode) : Source × Mode := (c :: r.1, r.2)

/-- The walk over the text, with the number of characters it still passes over: what
it copies, and the mode it ends in. -/
def strip : Nat → Mode → Source → Source × Mode
  | _, mode, [] => ([], mode)
  | skip + 1, mode, _ :: rest => strip skip mode rest
  | 0, .code, c :: rest =>
    if c = '"' ∨ c = '\'' then emit c (strip 0 (.quoted c) rest)
    else if ['/', '/'].isPrefixOf (c :: rest) then strip 1 .lineComment rest
    else if ['/', '*'].isPrefixOf (c :: rest) then emit ' ' (strip 1 .blockComment rest)
    else emit c (strip 0 .code rest)
  | 0, .quoted quote, c :: rest =>
    if c = '\\' then emit c (strip 0 (.escaped quote) rest)
    else if c = quote then emit c (strip 0 .code rest)
    else emit c (strip 0 (.quoted quote) rest)
  | 0, .escaped quote, c :: rest => emit c (strip 0 (.quoted quote) rest)
  | 0, .lineComment, c :: rest =>
    if c = '\n' then emit '\n' (strip 0 .code rest) else strip 0 .lineComment rest
  | 0, .blockComment, c :: rest =>
    if ['*', '/'].isPrefixOf (c :: rest) then strip 1 .code rest else strip 0 .blockComment rest

variable (U : Unicode)

/-! ## `task.py` -/

/-- Whatever is open at the end of the text ends there. -/
def normalizedText (text : Source) : Source :=
  (strip 0 .code (joinLines (removeByteOrderMark text))).1

def normalizedTextTokens (text : Source) : List Source := tokens U (normalizedText text)

def commentVisibleText (text : Source) : Source :=
  replace ['*', '/'] [' '] (replace ['/', '*'] [' '] (replace ['/', '/'] [' ']
    (joinLines (removeByteOrderMark text))))

def commentVisibleTextTokens (text : Source) : List Source := tokens U (commentVisibleText text)

/-! ## `corpus.py` -/

def stripStrict (source : Source) : Except String Source :=
  match strip 0 .code (joinLines source) with
  | (result, .code) => .ok result
  | (result, .lineComment) => .ok (result ++ [' '])
  | (_, .blockComment) => .error "unterminated C block comment"
  | (_, .quoted _) => .error "unterminated C string or character literal"
  | (_, .escaped _) => .error "unterminated C string or character literal"

def tokenizeC (content : ByteArray) : Except String (List Source) :=
  match String.fromUTF8? content with
  | some text => (stripStrict (removeByteOrderMark text.toList)).map (tokens U)
  | none => .error "C source is not valid UTF-8"

theorem fromUTF8_toUTF8 (text : String) : String.fromUTF8? text.toUTF8 = some text := by
  unfold String.fromUTF8?
  exact dif_pos text.isValidUTF8

theorem toUTF8_injective : Function.Injective String.toUTF8 := by
  intro a b h
  have htext := congrArg String.fromUTF8? h
  rwa [fromUTF8_toUTF8, fromUTF8_toUTF8, Option.some.injEq] at htext

/-! ## What the walk does with a part of the text -/

variable {c : Char} {rest : Source}

theorem strip_plain (hstring : c ≠ '"') (hcharacter : c ≠ '\'')
    (hline : ¬ ['/', '/'] <+: c :: rest) (hblock : ¬ ['/', '*'] <+: c :: rest) :
    strip 0 .code (c :: rest) = emit c (strip 0 .code rest) := by
  rw [strip, if_neg (by simp [hstring, hcharacter]),
    if_neg (mt isPrefixOf_iff_prefix.1 hline), if_neg (mt isPrefixOf_iff_prefix.1 hblock)]

theorem strip_open (h : c = '"' ∨ c = '\'') :
    strip 0 .code (c :: rest) = emit c (strip 0 (.quoted c) rest) := by
  rw [strip, if_pos h]

theorem strip_lineComment {body : Source} (h : '\n' ∉ body) :
    strip 0 .code ('/' :: '/' :: body ++ '\n' :: rest) = emit '\n' (strip 0 .code rest) := by
  have hbody : strip 0 .lineComment (body ++ '\n' :: rest) = emit '\n' (strip 0 .code rest) := by
    induction body with
    | nil => rw [nil_append, strip, if_pos rfl]
    | cons b body ih =>
      have hb : b ≠ '\n' := fun hb => h (hb ▸ mem_cons_self)
      rw [cons_append, strip, if_neg hb, ih fun hmem => h (mem_cons_of_mem b hmem)]
  rw [← hbody]
  rfl

theorem strip_blockComment {body : Source} (h : ¬ ['*', '/'] <:+: body) :
    strip 0 .code ('/' :: '*' :: body ++ '*' :: '/' :: rest) =
      emit ' ' (strip 0 .code rest) := by
  have hbody : strip 0 .blockComment (body ++ '*' :: '/' :: rest) = strip 0 .code rest := by
    induction body with
    | nil => rfl
    | cons b body ih =>
      have hend : ¬ ['*', '/'] <+: b :: (body ++ '*' :: '/' :: rest) := by
        cases body with
        | nil => simp
        | cons d body =>
          intro hp
          refine h (List.IsPrefix.isInfix ?_)
          simpa using hp
      rw [cons_append, strip, if_neg (mt isPrefixOf_iff_prefix.1 hend),
        ih fun hi => h (hi.trans (suffix_cons b body).isInfix)]
  rw [← hbody]
  rfl

end Bpe.Text
