import Bpe.Lib.Except
import Bpe.Text.Token
import Mathlib.Data.List.DropRight

/-!
# Repository identities

`normalize_repository_identity`. What Unicode normalization, case folding, `unquote` and
`urlsplit` do is a parameter, of which only the behaviour on plain ASCII text is used:
an identity re-enters as a bare path of such text. It is its own identity except where it
reads as something else there (`normalize_identity_iff`).
-/

namespace Bpe.Corpus

open Text List

structure SplitUrl where
  scheme : Source
  hostname : Option Source
  path : Source

/-- `unicodedata`, `str.casefold` and `urllib.parse`. -/
structure Library where
  nfkc : Source → Source
  casefold : Source → Source
  unquote : Source → Source
  urlsplit : Source → Except String SplitUrl

/-- What the documentation says of plain text. -/
structure Library.Documented (L : Library) : Prop where
  nfkc : ∀ s, (∀ c ∈ s, c.toNat < 128) → L.nfkc s = s
  casefold : ∀ s, (∀ c ∈ s, c.toNat < 128 ∧ within 'A' 'Z' c = false) → L.casefold s = s
  unquote : ∀ s, '%' ∉ s → L.unquote s = s

/-! ## Reading a locator -/

/-- `strip` of the characters of a class. -/
def stripOf (p : Char → Bool) (s : Source) : Source := (s.dropWhile p).rdropWhile p

def placeholders : List Source :=
  [['n', '/', 'a'], ['n', 'o', 'n', 'e'], ['t', 'b', 'd'], ['u', 'n', 'k', 'n', 'o', 'w', 'n'],
    ['u', 'n', 's', 'p', 'e', 'c', 'i', 'f', 'i', 'e', 'd']]

variable (L : Library)

def nonPlaceholderText (label : String) (value : Source) : Except String Source :=
  let stripped := stripOf isSpace value
  if stripped = [] then .error (label ++ " cannot be empty")
  else if placeholders.contains (L.casefold stripped) then
    .error (label ++ " cannot use a placeholder value")
  else .ok stripped

def normalizeHost (value : Source) : Except String Source :=
  let folded := L.casefold value
  let normalized := if ['.'].isSuffixOf folded then folded.dropLast else folded
  if normalized = [] ∨ ['.'].isSuffixOf normalized then
    .error "repository hostname has an invalid terminal dot"
  else .ok (if ['w', 'w', 'w', '.'].isPrefixOf normalized then normalized.drop 4 else normalized)

def schemes : List Source :=
  [['g', 'i', 't'], ['h', 't', 't', 'p'], ['h', 't', 't', 'p', 's'], ['s', 's', 'h']]

/-- `(?:[^@/:]+@)?([^/:]+):(.+)`: the colon is the first one, and the user is left out where
there is one before a hostname. -/
def matchScp (raw : Source) : Option (Source × Source) :=
  let before := raw.takeWhile (· ≠ ':')
  match raw.dropWhile (· ≠ ':') with
  | ':' :: path =>
    if before = [] ∨ before.contains '/' ∨ path = [] then none
    else
      match before.takeWhile (· ≠ '@'), before.dropWhile (· ≠ '@') with
      | _ :: _, '@' :: c :: host => some (c :: host, path)
      | _, _ => some (before, path)
  | _ => none

/-- The hostname, empty where there is none, and the path. -/
def locate (raw : Source) : Except String (Source × Source) :=
  if [':', '/', '/'] <:+: raw then do
    let parsed ← L.urlsplit raw
    if !schemes.contains (L.casefold parsed.scheme) then
      .error "repository URL uses an unsupported scheme"
    else if parsed.hostname.getD [] = [] then .error "repository URL requires a hostname"
    else do
      let host ← normalizeHost L (parsed.hostname.getD [])
      pure (host, L.unquote parsed.path)
  else
    match matchScp raw with
    | some (host, path) => do
      let host ← normalizeHost L host
      pure (host, L.unquote path)
    | none => .ok ([], L.unquote ((raw.takeWhile (· ≠ '#')).takeWhile (· ≠ '?')))

/-! ## The identity -/

def github : Source := ['g', 'i', 't', 'h', 'u', 'b', '.', 'c', 'o', 'm']

def githubContentHosts : List Source :=
  [['c', 'o', 'd', 'e', 'l', 'o', 'a', 'd', '.'] ++ github, ['r', 'a', 'w', '.'] ++ github,
    ['r', 'a', 'w', '.', 'g', 'i', 't', 'h', 'u', 'b', 'u', 's', 'e', 'r', 'c', 'o', 'n', 't', 'e',
      'n', 't', '.', 'c', 'o', 'm']]

def githubApi : Source := ['a', 'p', 'i', '.'] ++ github

def githubServices : List Source :=
  ['.' :: github, ['.', 'g', 'i', 't', 'h', 'u', 'b', 'u', 's', 'e', 'r', 'c', 'o', 'n', 't', 'e',
    'n', 't', '.', 'c', 'o', 'm']]

/-- The services of GitHub that show the repository in their path. -/
def githubIdentity (host : Source) (parts : List Source) : Except String (Source × List Source) :=
  if githubContentHosts.contains host then
    if parts.length < 2 then .error "GitHub content URL lacks an owner/repository identity"
    else .ok (github, parts.take 2)
  else if host = githubApi then
    if parts.length < 3 ∨ parts.head? ≠ some ['r', 'e', 'p', 'o', 's'] then
      .error "GitHub API URL is not a repository identity"
    else .ok (github, (parts.drop 1).take 2)
  else if githubServices.any (·.isSuffixOf host) then
    .error "unsupported GitHub service URL for repository provenance"
  else .ok (host, parts)

/-- A name from its end, with every `.git` there dropped. -/
def dropGitFrom : Source → Source
  | 't' :: 'i' :: 'g' :: '.' :: rest => dropGitFrom rest
  | s => s

def dropGit (name : Source) : Source := (dropGitFrom name.reverse).reverse

def isSegmentChar (c : Char) : Bool :=
  within 'a' 'z' c || within '0' '9' c || c == '.' || c == '_' || c == '-'

/-- `^[a-z0-9][a-z0-9._-]{0,127}$` -/
def isSegment : Source → Bool
  | [] => false
  | c :: rest => (within 'a' 'z' c || within '0' '9' c) && decide (rest.length ≤ 127) &&
    rest.all isSegmentChar

/-- `[a-z0-9.-]+` -/
def isHostname (host : Source) : Bool :=
  !host.isEmpty && host.all fun c => within 'a' 'z' c || within '0' '9' c || c == '.' || c == '-'

def components (path : Source) : List Source :=
  (((stripOf (· == '/') path).splitOn '/').filter (· ≠ [])).map L.casefold

def joinPath (parts : List Source) : Source := ['/'].intercalate parts

def identityOf (host path : Source) : Except String Source :=
  let parts := components L path
  if parts = [] then .error "repository identity has no path components"
  else do
    let host := if host = [] ∧ parts.length = 2 then github else host
    let (host, parts) ← githubIdentity host parts
    let parts := parts.dropLast ++ [dropGit (parts.getLastD [])]
    refuse [
      (decide (parts.getLastD [] = []), "repository identity has an empty repository name"),
      (decide (host = github) && decide (parts.length ≠ 2),
        "GitHub repository identities must be exactly owner/repository"),
      (!parts.all isSegment, "repository identity contains a non-ASCII or invalid component"),
      (decide (host ≠ []) && !isHostname host, "repository hostname is invalid")]
    pure (joinPath (if host = [] then parts else host :: parts))

def normalizeRepositoryIdentity (repository : Source) : Except String Source := do
  let text ← nonPlaceholderText L "repository" repository
  let raw := L.nfkc text
  if raw.any (fun c => decide (c.toNat < 32)) ∨ raw.contains '\\' then
    .error "repository identities cannot contain controls or backslashes"
  else do
    let (host, path) ← locate L raw
    identityOf L host path

/-! ## Joined paths -/

variable {L} {comps : List Source} {s : Source}

/-- Names of an identity: plain text, and no `.git` at the end. -/
structure Plain (comps : List Source) : Prop where
  ne_nil : comps ≠ []
  names : ∀ name ∈ comps, name ≠ [] ∧ ∀ c ∈ name, isSegmentChar c = true
  last : ¬ ['.', 'g', 'i', 't'] <:+ comps.getLastD []

theorem joinPath_cons_cons {a b : Source} {l : List Source} :
    joinPath (a :: b :: l) = a ++ '/' :: joinPath (b :: l) := by
  simp [joinPath, intercalate, intersperse]

theorem joinPath_singleton {a : Source} : joinPath [a] = a := by
  simp [joinPath, intercalate]

theorem mem_joinPath {c : Char} (h : c ∈ joinPath comps) : c = '/' ∨ ∃ name ∈ comps, c ∈ name := by
  induction comps with
  | nil => simp [joinPath, intercalate] at h
  | cons a comps ih =>
    cases comps with
    | nil =>
      rw [joinPath_singleton] at h
      exact .inr ⟨a, mem_cons_self, h⟩
    | cons b comps =>
      rw [joinPath_cons_cons] at h
      rcases mem_append.1 h with h | h
      · exact .inr ⟨a, mem_cons_self, h⟩
      rcases mem_cons.1 h with h | h
      · exact .inl h
      rcases ih h with h | ⟨name, hname, h⟩
      · exact .inl h
      · exact .inr ⟨name, mem_cons_of_mem a hname, h⟩

theorem joinPath_head {a : Source} {l : List Source} : a <+: joinPath (a :: l) := by
  cases l with
  | nil => rw [joinPath_singleton]
  | cons b l =>
    rw [joinPath_cons_cons]
    exact prefix_append _ _

theorem joinPath_last (h : comps ≠ []) : comps.getLast h <:+ joinPath comps := by
  induction comps with
  | nil => exact absurd rfl h
  | cons a comps ih =>
    cases comps with
    | nil => rw [joinPath_singleton]; exact suffix_rfl
    | cons b comps =>
      rw [joinPath_cons_cons, getLast_cons (by simp)]
      exact (ih (by simp)).trans ((suffix_cons _ _).trans (suffix_append _ _))

theorem isSegmentChar_bounds {c : Char} (h : isSegmentChar c = true) :
    45 ≤ c.toNat ∧ c.toNat < 128 ∧ c.toNat ≠ 47 ∧ c.toNat ≠ 58 ∧ c.toNat ≠ 63 ∧ c.toNat ≠ 64 ∧
      c.toNat ≠ 92 ∧ ¬ (65 ≤ c.toNat ∧ c.toNat ≤ 90) := by
  simp only [isSegmentChar, within, Bool.or_eq_true, Bool.and_eq_true, decide_eq_true_eq,
    beq_iff_eq, Char.reduceToNat] at h
  rcases h with (((h | h) | rfl) | rfl) | rfl
  · omega
  · omega
  · decide
  · decide
  · decide

namespace Plain

section

variable (h : Plain comps)

include h

theorem char {c : Char} (hc : c ∈ joinPath comps) :
    c = '/' ∨ isSegmentChar c = true := by
  rcases mem_joinPath hc with h' | ⟨name, hname, hc⟩
  · exact .inl h'
  · exact .inr ((h.names name hname).2 c hc)

theorem ascii {c : Char} (hc : c ∈ joinPath comps) :
    45 ≤ c.toNat ∧ c.toNat < 128 ∧ c.toNat ≠ 58 ∧ c.toNat ≠ 63 ∧ c.toNat ≠ 92 ∧
      ¬ (65 ≤ c.toNat ∧ c.toNat ≤ 90) := by
  rcases h.char hc with rfl | hc
  · decide
  · have := isSegmentChar_bounds hc
    omega

theorem not_mem {c : Char} (hc : c.toNat < 45 ∨ c.toNat = 58 ∨ c.toNat = 63 ∨ c.toNat = 92) :
    c ∉ joinPath comps := by
  intro hmem
  have := h.ascii hmem
  omega

theorem slash {name : Source} (hname : name ∈ comps) : '/' ∉ name := by
  intro hmem
  have := isSegmentChar_bounds ((h.names name hname).2 _ hmem)
  exact this.2.2.1 rfl

theorem casefold (hL : L.Documented) : L.casefold (joinPath comps) = joinPath comps := by
  refine hL.casefold _ fun c hc => ?_
  have := h.ascii hc
  simp only [within, Bool.and_eq_false_iff, decide_eq_false_iff_not, Char.reduceToNat]
  omega

theorem casefold_name (hL : L.Documented) {name : Source} (hname : name ∈ comps) :
    L.casefold name = name := by
  refine hL.casefold _ fun c hc => ?_
  have := isSegmentChar_bounds ((h.names name hname).2 c hc)
  simp only [within, Bool.and_eq_false_iff, decide_eq_false_iff_not, Char.reduceToNat]
  omega

end

end Plain

theorem stripOf_self {p : Char → Bool} (hhead : ∀ x ∈ s.head?, p x = false)
    (hlast : ∀ hs : s ≠ [], p (s.getLast hs) = false) : stripOf p s = s := by
  have hdrop : s.dropWhile p = s := by
    cases s with
    | nil => rfl
    | cons x s => rw [dropWhile_cons, hhead x rfl]; rfl
  rw [stripOf, hdrop, rdropWhile_eq_self_iff]
  intro hs
  rw [hlast hs]
  simp

theorem Plain.strip_space (h : Plain comps) :
    stripOf isSpace (joinPath comps) = joinPath comps := by
  have hnone : ∀ c ∈ joinPath comps, isSpace c = false := fun c hc => by
    have := h.ascii hc
    exact isSpace_of_lt (by omega) this.2.1
  exact stripOf_self (fun x hx => hnone x (mem_of_mem_head? hx))
    fun hs => hnone _ (getLast_mem hs)

theorem Plain.joinPath_ne_nil (h : Plain comps) : joinPath comps ≠ [] := by
  obtain ⟨a, comps, rfl⟩ := exists_cons_of_ne_nil h.ne_nil
  intro hnil
  have hfront := joinPath_head (a := a) (l := comps)
  rw [hnil, prefix_nil] at hfront
  exact (h.names a mem_cons_self).1 hfront

theorem Plain.strip_slash (h : Plain comps) :
    stripOf (· == '/') (joinPath comps) = joinPath comps := by
  refine stripOf_self ?_ ?_
  · intro x hx
    obtain ⟨a, comps, rfl⟩ := exists_cons_of_ne_nil h.ne_nil
    obtain ⟨y, a, rfl⟩ := exists_cons_of_ne_nil (h.names a mem_cons_self).1
    obtain ⟨tail, htail⟩ := joinPath_head (a := y :: a) (l := comps)
    rw [← htail] at hx
    cases hx
    refine beq_eq_false_iff_ne.2 ?_
    rintro rfl
    exact h.slash mem_cons_self mem_cons_self
  · intro hs
    obtain ⟨front, hfront⟩ := joinPath_last h.ne_nil
    have hmem := getLast_mem h.ne_nil
    have hne := (h.names _ hmem).1
    have hlast : (joinPath comps).getLast hs = (comps.getLast h.ne_nil).getLast hne := by
      simp only [← hfront]
      exact getLast_append_of_ne_nil _ hne
    rw [hlast]
    refine beq_eq_false_iff_ne.2 fun hslash => h.slash hmem ?_
    rw [← hslash]
    exact getLast_mem hne

theorem Plain.components (hL : L.Documented) (h : Plain comps) :
    components L (joinPath comps) = comps := by
  rw [Corpus.components, h.strip_slash, joinPath,
    splitOn_intercalate _ (fun name hname => h.slash hname) h.ne_nil,
    filter_eq_self.2 fun name hname => by simpa using (h.names name hname).1]
  conv_rhs => rw [← map_id comps]
  exact map_congr_left fun name hname => h.casefold_name hL hname

/-! ## The `.git` at the end of a name -/

theorem dropGitFrom_not_isPrefix : ¬ ['t', 'i', 'g', '.'] <+: dropGitFrom s := by
  fun_induction dropGitFrom s with
  | case1 rest ih => exact ih
  | case2 s hs =>
    rintro ⟨rest, rfl⟩
    exact hs rest rfl

theorem dropGitFrom_self (h : ¬ ['t', 'i', 'g', '.'] <+: s) : dropGitFrom s = s := by
  fun_cases dropGitFrom s with
  | case1 rest => exact absurd ⟨rest, rfl⟩ h
  | case2 => rfl

theorem dropGit_not_suffix : ¬ ['.', 'g', 'i', 't'] <:+ dropGit s := by
  rw [← reverse_prefix, dropGit, reverse_reverse]
  exact dropGitFrom_not_isPrefix

theorem dropGit_self (h : ¬ ['.', 'g', 'i', 't'] <:+ s) : dropGit s = s := by
  rw [← reverse_prefix] at h
  rw [dropGit, dropGitFrom_self h, reverse_reverse]

/-! ## An identity as a locator -/

theorem Plain.locate (hL : L.Documented) (h : Plain comps) :
    locate L (joinPath comps) = .ok ([], joinPath comps) := by
  have hcolon : ':' ∉ joinPath comps := h.not_mem (.inr (.inl rfl))
  have hscp : matchScp (joinPath comps) = none := by
    have hnone : (joinPath comps).dropWhile (· ≠ ':') = [] :=
      dropWhile_eq_nil_iff.2 fun c hc => by
        simpa using fun hc' : c = ':' => hcolon (hc' ▸ hc)
    rw [matchScp, hnone]
  have htake : ∀ x : Char, x ∉ joinPath comps →
      (joinPath comps).takeWhile (· ≠ x) = joinPath comps := fun x hx =>
    takeWhile_eq_self_iff.2 fun c hc => by simpa using fun hc' : c = x => hx (hc' ▸ hc)
  rw [Corpus.locate, if_neg fun hi => hcolon (hi.subset (by simp)), hscp]
  simp only
  rw [htake '#' (h.not_mem (.inl (by decide))), htake '?' (h.not_mem (.inr (.inr (.inl rfl)))),
    hL.unquote _ (h.not_mem (.inl (by decide)))]

theorem Plain.normalize (hL : L.Documented) (h : Plain comps) :
    normalizeRepositoryIdentity L (joinPath comps) =
      if placeholders.contains (joinPath comps) then
        .error "repository cannot use a placeholder value"
      else identityOf L [] (joinPath comps) := by
  have htext : nonPlaceholderText L "repository" (joinPath comps) =
      if placeholders.contains (joinPath comps) then
        .error "repository cannot use a placeholder value"
      else .ok (joinPath comps) := by
    rw [nonPlaceholderText, h.strip_space]
    simp only [h.joinPath_ne_nil, if_false, h.casefold hL]
    rfl
  have hcontrol : (joinPath comps).any (fun c => decide (c.toNat < 32)) = false := by
    refine any_eq_false.2 fun c hc => ?_
    have := h.ascii hc
    simp only [decide_eq_true_eq]
    omega
  have hslash : (joinPath comps).contains '\\' = false := by
    simpa using h.not_mem (c := '\\') (.inr (.inr (.inr rfl)))
  rw [normalizeRepositoryIdentity, htext]
  split
  · rfl
  · simp only [bind, Except.bind, hL.nfkc _ fun c hc => (h.ascii hc).2.1, hcontrol, hslash,
      h.locate hL]
    rfl

theorem Plain.dropGit (h : Plain comps) :
    comps.dropLast ++ [Corpus.dropGit (comps.getLastD [])] = comps := by
  rw [dropGit_self h.last, getLastD_eq_getLast?, getLast?_eq_some_getLast h.ne_nil,
    Option.getD_some, dropLast_append_getLast]

theorem githubIdentity_github : githubIdentity github comps = .ok (github, comps) := by
  have hcontent : githubContentHosts.contains github = false := by decide
  have hapi : github ≠ githubApi := by decide
  have hservice : githubServices.any (·.isSuffixOf github) = false := by decide
  rw [githubIdentity, hcontent, if_neg Bool.false_ne_true, if_neg hapi, hservice,
    if_neg Bool.false_ne_true]

theorem githubIdentity_nil : githubIdentity [] comps = .ok ([], comps) := by
  have hcontent : githubContentHosts.contains [] = false := by decide
  have hapi : ([] : Source) ≠ githubApi := by decide
  have hservice : githubServices.any (·.isSuffixOf []) = false := by decide
  rw [githubIdentity, hcontent, if_neg Bool.false_ne_true, if_neg hapi, hservice,
    if_neg Bool.false_ne_true]

/-- Two names re-enter as the owner and the repository of GitHub. -/
theorem Plain.identityOf_two (hL : L.Documented) (h : Plain comps) (htwo : comps.length = 2)
    {i : Source} (hi : identityOf L [] (joinPath comps) = .ok i) :
    i = joinPath (github :: comps) := by
  have hgithub : github ≠ [] := by decide
  rw [identityOf, h.components hL] at hi
  simp only [h.ne_nil, if_false, htwo, and_self, if_true] at hi
  obtain ⟨⟨host, parts⟩, hparts, hi⟩ := bind_eq_ok.1 hi
  rw [githubIdentity_github] at hparts
  cases hparts
  obtain ⟨-, hi⟩ := seq_eq_ok.1 hi
  rw [h.dropGit, if_neg hgithub] at hi
  exact (Except.ok.inj hi).symm

/-- Other identities are bare paths again. -/
theorem Plain.identityOf_ne_two (hL : L.Documented) (h : Plain comps) (htwo : comps.length ≠ 2)
    {i : Source} : identityOf L [] (joinPath comps) = .ok i ↔
      comps.all isSegment = true ∧ i = joinPath comps := by
  have hlast : comps.getLastD [] ≠ [] := by
    rw [getLastD_eq_getLast?, getLast?_eq_some_getLast h.ne_nil, Option.getD_some]
    exact (h.names _ (getLast_mem h.ne_nil)).1
  have hgithub : ([] : Source) ≠ github := by decide
  rw [identityOf, h.components hL]
  simp only [h.ne_nil, if_false, htwo, and_false]
  constructor
  · intro hi
    obtain ⟨⟨host, parts⟩, hparts, hi⟩ := bind_eq_ok.1 hi
    rw [githubIdentity_nil] at hparts
    cases hparts
    obtain ⟨hchecks, hi⟩ := seq_eq_ok.1 hi
    rw [h.dropGit] at hchecks hi
    have hsegments := refuse_at hchecks 2 rfl
    exact ⟨by simpa using hsegments, (Except.ok.inj hi).symm⟩
  · rintro ⟨hsegments, rfl⟩
    refine bind_eq_ok.2 ⟨([], comps), githubIdentity_nil, ?_⟩
    refine seq_eq_ok.2 ⟨?_, ?_⟩
    · rw [h.dropGit]
      refine refuse_eq_ok.2 ?_
      simpa [hgithub, hsegments] using hlast
    · rw [h.dropGit]
      rfl

/-! ## The identity of an identity -/

theorem isSegment_chars (h : isSegment s = true) : s ≠ [] ∧ ∀ c ∈ s, isSegmentChar c = true := by
  cases s with
  | nil => cases h
  | cons x s =>
    simp only [isSegment, Bool.and_eq_true, all_eq_true] at h
    refine ⟨by simp, fun c hc => ?_⟩
    rcases mem_cons.1 hc with rfl | hc
    · rw [isSegmentChar, h.1.1]
      rfl
    · exact h.2 c hc

theorem isHostname_chars (h : isHostname s = true) :
    s ≠ [] ∧ ∀ c ∈ s, isSegmentChar c = true := by
  simp only [isHostname, Bool.and_eq_true, Bool.not_eq_true', isEmpty_eq_false_iff,
    all_eq_true, Bool.or_eq_true] at h
  refine ⟨h.1, fun c hc => ?_⟩
  simp only [isSegmentChar, Bool.or_eq_true]
  have := h.2 c hc
  tauto

theorem identityOf_plain {host path i : Source} (h : identityOf L host path = .ok i) :
    ∃ comps, Plain comps ∧ i = joinPath comps := by
  rw [identityOf] at h
  simp only at h
  split at h
  · cases h
  obtain ⟨⟨host, parts⟩, -, h⟩ := bind_eq_ok.1 h
  obtain ⟨hchecks, h⟩ := seq_eq_ok.1 h
  have hsegments := refuse_at hchecks 2 rfl
  have hhost := refuse_at hchecks 3 rfl
  generalize hnew : parts.dropLast ++ [Corpus.dropGit (parts.getLastD [])] = names at *
  have hlast : names.getLastD [] = Corpus.dropGit (parts.getLastD []) := by
    rw [← hnew]
    simp
  have hnames : ∀ name ∈ names, name ≠ [] ∧ ∀ c ∈ name, isSegmentChar c = true := by
    intro name hname
    have : names.all isSegment = true := by simpa using hsegments
    exact isSegment_chars (all_eq_true.1 this name hname)
  have hne : names ≠ [] := by
    rw [← hnew]
    simp
  refine ⟨_, ?_, (Except.ok.inj h).symm⟩
  split
  next =>
    exact ⟨hne, hnames, hlast ▸ dropGit_not_suffix⟩
  next hsome =>
    refine ⟨by simp, ?_, ?_⟩
    · intro name hname
      rcases mem_cons.1 hname with rfl | hname
      · refine isHostname_chars ?_
        simpa [hsome] using hhost
      · exact hnames name hname
    · obtain ⟨name, names, rfl⟩ := exists_cons_of_ne_nil hne
      have hsame : (host :: name :: names).getLastD [] = (name :: names).getLastD [] := by simp
      rw [hsame, hlast]
      exact dropGit_not_suffix

/-- **The identity of an identity is itself exactly where it is no placeholder, has not the
two names that read as an owner and a repository, and all its names are repository
segments.** -/
theorem normalize_identity_iff (hL : L.Documented) {r i : Source}
    (h : normalizeRepositoryIdentity L r = .ok i) :
    normalizeRepositoryIdentity L i = .ok i ↔
      i ∉ placeholders ∧ (i.splitOn '/').length ≠ 2 ∧ (i.splitOn '/').all isSegment = true := by
  obtain ⟨comps, hplain, rfl⟩ : ∃ comps, Plain comps ∧ i = joinPath comps := by
    obtain ⟨text, -, h⟩ := bind_eq_ok.1 h
    simp only at h
    split at h
    · cases h
    · obtain ⟨⟨host, path⟩, -, h⟩ := bind_eq_ok.1 h
      exact identityOf_plain h
  have hsplit : (joinPath comps).splitOn '/' = comps :=
    splitOn_intercalate _ (fun name hname => hplain.slash hname) hplain.ne_nil
  rw [hplain.normalize hL, hsplit]
  by_cases hplaceholder : joinPath comps ∈ placeholders
  · simp [hplaceholder]
  rw [if_neg (by simpa using hplaceholder)]
  by_cases htwo : comps.length = 2
  · refine ⟨fun hi => ?_, fun hi => absurd htwo hi.2.1⟩
    have hsame := congrArg length (hplain.identityOf_two hL htwo hi)
    obtain ⟨a, comps, rfl⟩ := exists_cons_of_ne_nil hplain.ne_nil
    rw [joinPath_cons_cons, length_append, length_cons] at hsame
    omega
  · rw [hplain.identityOf_ne_two hL htwo]
    exact ⟨fun hi => ⟨hplaceholder, htwo, hi.1⟩, fun hi => ⟨hi.2.2, rfl⟩⟩

/-! ## A hostname and one name -/

/-- Case folding of ASCII letters; no other text is changed. -/
def asciiLibrary : Library where
  nfkc := id
  casefold := map fun c => if within 'A' 'Z' c then Char.ofNat (c.toNat + 32) else c
  unquote := id
  urlsplit _ := .error "no URL"

theorem asciiLibrary_documented : asciiLibrary.Documented where
  nfkc _ _ := rfl
  casefold s h := by
    conv_rhs => rw [← map_id s]
    refine map_congr_left fun c hc => if_neg ?_
    rw [(h c hc).2]
    simp
  unquote _ _ := rfl

theorem normalize_identity_iff_path :
    normalizeRepositoryIdentity asciiLibrary ['a', '/', 'b', '/', 'C', '.', 'g', 'i', 't'] =
        .ok ['a', '/', 'b', '/', 'c'] ∧
      normalizeRepositoryIdentity asciiLibrary ['a', '/', 'b', '/', 'c'] =
        .ok ['a', '/', 'b', '/', 'c'] := by
  have h : normalizeRepositoryIdentity asciiLibrary
      ['a', '/', 'b', '/', 'C', '.', 'g', 'i', 't'] = .ok ['a', '/', 'b', '/', 'c'] := by
    decide +kernel
  exact ⟨h, (normalize_identity_iff asciiLibrary_documented h).2 (by decide +kernel)⟩

/-- `h:x` is the repository `x` of the host `h`, and `h/x` one of GitHub. -/
theorem normalize_host_path_twice :
    normalizeRepositoryIdentity asciiLibrary ['h', ':', 'x'] = .ok ['h', '/', 'x'] ∧
      normalizeRepositoryIdentity asciiLibrary ['h', '/', 'x'] =
        .ok (github ++ ['/', 'h', '/', 'x']) ∧
      normalizeRepositoryIdentity asciiLibrary ['h', '/', 'x'] ≠ .ok ['h', '/', 'x'] := by
  decide +kernel

end Bpe.Corpus
