import Bpe.Qualification.Authority
import Bpe.Lib.Kmp
import Bpe.Text.Embed

/-!
# The static lint of a task

`lint_task` with the leakage comparison of every public text with every private one,
through two token views. A pair is reported exactly where a view shows the private text
in the public one (`reported_iff`), so that a private text inside a public comment always
is (`commented_artifact_reported`), and a text between others is where nothing runs from
the text before it into it, or from it into the text behind
(`embedded_artifact_reported`). What `str.lower` does and how a digest prints are
parameters.
-/

namespace Bpe.Task

open Models Text List
open Qualification (SealedBundle publicFiles privateFiles)

variable {D : Type}

inductive Severity where
  | error | notice

inductive LintCode where
  | publicPrivateLeak | contaminatedTrainingProvenance | missingNegativeControl
  | duplicateControlId | duplicateCaseId | publicPrivateArtifactOverlap
  | leakageComparisonBudgetExceeded | publicPrivateNormalizedTextLeak | publicContainsPrivateText
  | publicContentPrivateLeak | dynamicAdmissionRequired

structure LintIssue where
  severity : Severity
  code : LintCode
  message : String

structure Texts (D : Type) where
  unicode : Unicode
  lower : String → String
  hex : D → String

/-! ## What the metadata shows -/

/-- `needle in text` -/
def occursIn (needle text : String) : Bool := decide (needle.toList <:+: text.toList)

def publicBannedKeys : List String :=
  ["grader", "hidden", "reference", "root_cause", "mutation", "negative_control",
    "semantic_obligation"]

def trainingExcludedRepos : List String := ["cilium", "xdp-tools", "bpftime"]

/-- The required kinds by their names, in order. -/
def requiredControlKinds : List (ControlKind × String) :=
  [(.deleteOperation, "delete_operation"), (.hardcode, "hardcode"), (.noOp, "no_op"),
    (.zeroWork, "zero_work")]

def fileKeys : List String := ["path", "sha256", "size_bytes"]

/-- `_walk_keys` of the dumped public projection. -/
def publicKeys (t : PublicTask D) : List String :=
  ["schema_version", "task_id", "version", "family", "prompt"] ++ fileKeys ++ ["starter_source"] ++
    (if t.starterSource.isSome then fileKeys else []) ++
    ["candidate_contract", "format", "max_response_bytes", "fixed_filename",
      "allow_markdown_fence", "program", "program_type", "section", "entrypoint", "max_programs",
      "public_sdk_id", "environment_id", "max_attempts", "whole_attempt_timeout_seconds"]

section Lint

variable [DecidableEq D] (T : Texts D)

def metadataIssues (b : TaskBundle D) : List LintIssue :=
  let grader := b.privateGrader
  let overlap := ((publicFiles b.publicTask).map (·.sha256)).eraseDups.filter
    fun d => (privateFiles grader).any (·.sha256 = d)
  ((publicKeys b.publicTask).filter fun key => publicBannedKeys.any (occursIn · key)).map
      (fun key => ⟨.error, .publicPrivateLeak, "public field exposes private concept: " ++ key⟩) ++
    (if grader.split = .train ∧
        trainingExcludedRepos.any (occursIn · (T.lower grader.provenance.repository)) then
      [⟨.error, .contaminatedTrainingProvenance,
        "training provenance is from a repository excluded by bpfix-bench policy"⟩]
    else []) ++
    (requiredControlKinds.filter fun kind =>
        !grader.negativeControls.any (·.kind = kind.1)).map
      (fun kind => ⟨.error, .missingNegativeControl,
        "task lacks required '" ++ kind.2 ++ "' adversarial control"⟩) ++
    (if (grader.negativeControls.map (·.controlId)).Nodup then []
    else [⟨.error, .duplicateControlId, "negative control IDs repeat"⟩]) ++
    (if (grader.functionalCases.map (·.caseId)).Nodup then []
    else [⟨.error, .duplicateCaseId, "functional case IDs repeat"⟩]) ++
    (if overlap.isEmpty then []
    else [⟨.error, .publicPrivateArtifactOverlap,
      "public and private projections share artifact digests: " ++
        Admission.idsText (overlap.map T.hex)⟩])

/-! ## Texts and their views -/

def sealedArtifactContent (b : SealedBundle D) (projection path : String) :
    Except String (List UInt8) :=
  match b.artifactBytes.lookup (projection, path) with
  | some content => .ok content
  | none =>
    .error ("task bundle has no sealed bytes for declared artifact " ++ projection ++ "/" ++ path)

/-- `decode("utf-8")` -/
def decode (content : List UInt8) : Option Source :=
  (String.fromUTF8? ⟨content.toArray⟩).map String.toList

/-- `_text_artifact_text`: the texts by their paths; bytes that are no text are passed over. -/
def textArtifactText (b : SealedBundle D) (projection : String) (refs : List (FileRef D)) :
    Except String (List (String × Source)) :=
  refs.foldlM (fun result ref => do
    let content ← sealedArtifactContent b projection ref.path
    pure (match decode content with
      | some text => assignKey result ref.path text
      | none => result)) []

/-- The digest a path has in the dictionary of the references. -/
def digestAt (refs : List (FileRef D)) (path : String) : Option D :=
  (refs.reverse.find? (·.path = path)).map (·.sha256)

def textTokenViews (U : Unicode) (text : Source) : List (List Source) :=
  [normalizedTextTokens U text, commentVisibleTextTokens U text]

def minNormalizedTextTokens : Nat := 24
def minNormalizedTextCharacters : Nat := 80

def substantialText (tokens : List Source) : Bool :=
  decide (minNormalizedTextTokens ≤ tokens.length) &&
    decide (minNormalizedTextCharacters ≤ (tokens.map length).sum)

def containsTokenSequence (haystack needle : List Source) : Bool := Kmp.contains haystack needle

/-- The rounds of its two inner loops, both together. -/
def containsTokenSequenceRounds (haystack needle : List Source) : Nat :=
  Kmp.rounds haystack needle

/-- **The search is exact and linear.** -/
theorem containsTokenSequence_exact (haystack needle : List Source) :
    (containsTokenSequence haystack needle = true ↔ needle ≠ [] ∧ needle <:+: haystack) ∧
      containsTokenSequenceRounds haystack needle ≤ haystack.length + needle.length :=
  ⟨Kmp.contains_iff, Kmp.rounds_le⟩

/-- `Path(path).name` -/
def pathName (path : String) : String :=
  if path = "." then "" else String.ofList ((path.toList.splitOn '/').getLastD [])

def sensitiveTokens (g : PrivateGrader D) : List String :=
  ((g.rootCause.toList ++ (g.mutation.map (·.operator)).toList ++
      g.negativeControls.map (·.controlId) ++ (privateFiles g).map (pathName ·.path)).filter
    fun token => 5 ≤ token.length).map T.lower |>.eraseDups

/-! ## The work budget -/

def maxTaskLeakageComparisonWork : Nat := 64 * 1024 * 1024

def consume (remaining : Option Nat) (units : Nat) : Option Nat :=
  remaining.bind fun r => if units > r then none else some (r - units)

/-- The units of the comparisons, then of the identifier scans. -/
def leakageWork (publicText privateText : List (String × Source))
    (publicRefs privateRefs : List (FileRef D)) (sensitive : List String) : List Nat :=
  ((sortOn (·.1) publicText).flatMap fun p => (sortOn (·.1) privateText).filterMap fun q =>
    if digestAt publicRefs p.1 = digestAt privateRefs q.1 then none
    else some (1 + 8 * (p.2.length + q.2.length))) ++
  (sortOn (·.1) publicText).flatMap fun p =>
    p.2.length :: (sortOn id sensitive).map fun token => 1 + p.2.length + token.length

def leakageComparisonsFitBudget (publicText privateText : List (String × Source))
    (publicRefs privateRefs : List (FileRef D)) (sensitive : List String) : Bool :=
  ((leakageWork publicText privateText publicRefs privateRefs sensitive).foldl consume
    (some maxTaskLeakageComparisonWork)).isSome

/-! ## The lint -/

def equivalentIssue (publicPath privatePath : String) : LintIssue :=
  ⟨.error, .publicPrivateNormalizedTextLeak,
    publicPath ++ " is token-equivalent to private artifact " ++ privatePath ++
      " after comment and formatting normalization"⟩

def containedIssue (publicPath privatePath : String) : LintIssue :=
  ⟨.error, .publicContainsPrivateText,
    publicPath ++ " contains the complete normalized token sequence of private artifact " ++
      privatePath⟩

/-- The comparison of a public text with a private one. -/
def compareTexts (U : Unicode) (p q : String × Source) : Option LintIssue :=
  let views := (textTokenViews U p.2).zip (textTokenViews U q.2)
  if views.any fun v => substantialText v.2 && v.1 == v.2 then some (equivalentIssue p.1 q.1)
  else if views.any fun v => substantialText v.2 && containsTokenSequence v.1 v.2 then
    some (containedIssue p.1 q.1)
  else none

/-- The reports of the comparisons, with the paths they compare. -/
def leakReports (publicText privateText : List (String × Source))
    (publicRefs privateRefs : List (FileRef D)) : List ((String × String) × LintIssue) :=
  (sortOn (·.1) publicText).flatMap fun p => (sortOn (·.1) privateText).filterMap fun q =>
    if digestAt publicRefs p.1 = digestAt privateRefs q.1 then none
    else (compareTexts T.unicode p q).map fun issue => ((p.1, q.1), issue)

def leakIssues (publicText privateText : List (String × Source))
    (publicRefs privateRefs : List (FileRef D)) : List LintIssue :=
  (leakReports T publicText privateText publicRefs privateRefs).map (·.2)

def contentIssues (publicText : List (String × Source)) (publicRefs : List (FileRef D))
    (sensitive : List String) : List LintIssue :=
  publicRefs.filterMap fun ref => do
    let text ← publicText.lookup ref.path
    let leaked := sensitive.filter (occursIn · (T.lower (String.ofList text)))
    if leaked.isEmpty then none
    else some ⟨.error, .publicContentPrivateLeak,
      ref.path ++ " contains private identifiers: " ++ Admission.idsText leaked⟩

def admissionNotice : LintIssue :=
  ⟨.notice, .dynamicAdmissionRequired,
    "static lint completed; authoritative admission still requires reference, mutant, " ++
      "alternative, and negative controls to run in the pinned microVM"⟩

def lintTask (b : SealedBundle D) : Except String (List LintIssue) := do
  let publicRefs := publicFiles b.bundle.publicTask
  let privateRefs := privateFiles b.bundle.privateGrader
  let publicText ← textArtifactText b "public" publicRefs
  let privateText ← textArtifactText b "grader" privateRefs
  let sensitive := sensitiveTokens T b.bundle.privateGrader
  if leakageComparisonsFitBudget publicText privateText publicRefs privateRefs sensitive then
    pure (metadataIssues T b.bundle ++ leakIssues T publicText privateText publicRefs privateRefs ++
      contentIssues T publicText publicRefs sensitive ++ [admissionNotice])
  else
    pure (metadataIssues T b.bundle ++
      [⟨.error, .leakageComparisonBudgetExceeded,
        "static leakage comparisons exceed the 67108864-unit work budget"⟩, admissionNotice])

end Lint

theorem consume_isSome {work : List Nat} {remaining : Nat} (h : work.sum ≤ remaining) :
    (work.foldl consume (some remaining)).isSome = true := by
  induction work generalizing remaining with
  | nil => rfl
  | cons units work ih =>
    rw [sum_cons] at h
    rw [foldl_cons, consume, Option.bind_some, if_neg (by omega)]
    exact ih (by omega)

/-! ## Sealed bundles -/

/-- Every declared file has bytes with its digest and size, as `load_task_bundle` leaves
them. -/
structure Sealed (sha256 : List UInt8 → D) (b : SealedBundle D) (projection : String)
    (refs : List (FileRef D)) : Prop where
  bytes : ∀ r ∈ refs, ∃ content, b.artifactBytes.lookup (projection, r.path) = some content ∧
    sha256 content = r.sha256 ∧ content.length = r.sizeBytes

/-- The path has bytes that decode to the text. -/
def Decodes (b : SealedBundle D) (projection : String) (e : String × Source) : Prop :=
  ∃ content, b.artifactBytes.lookup (projection, e.1) = some content ∧ decode content = some e.2

section

variable {sha256 : List UInt8 → D} {b : SealedBundle D} {projection : String}
  {refs : List (FileRef D)}

theorem textArtifactText_step (acc : List (String × Source)) {refs : List (FileRef D)}
    (h : Sealed sha256 b projection refs) :
    ∃ texts, refs.foldlM (fun result ref => do
        let content ← sealedArtifactContent b projection ref.path
        pure (match decode content with
          | some text => assignKey result ref.path text
          | none => result)) acc = Except.ok texts ∧
      (∀ e ∈ acc, Decodes b projection e → e ∈ texts) ∧
      (∀ r ∈ refs, ∀ text, Decodes b projection (r.path, text) → (r.path, text) ∈ texts) ∧
      ∀ e ∈ texts, e ∈ acc ∨ Decodes b projection e := by
  induction refs generalizing acc with
  | nil =>
    refine ⟨acc, rfl, fun e he _ => he, ?_, fun e he => .inl he⟩
    intro r hr
    cases hr
  | cons r refs ih =>
    obtain ⟨content, hcontent, -, -⟩ := h.bytes r mem_cons_self
    have hread : sealedArtifactContent b projection r.path = .ok content := by
      rw [sealedArtifactContent, hcontent]
    obtain ⟨texts, hfold, hacc, hrefs, hback⟩ := ih
      (match decode content with
        | some text => assignKey acc r.path text
        | none => acc) ⟨fun q hq => h.bytes q (mem_cons_of_mem r hq)⟩
    have hkeep : ∀ e, (e ∈ acc ∨ e.1 = r.path) → Decodes b projection e → e ∈ texts := by
      rintro ⟨path, text⟩ he hdec
      refine hacc _ ?_ hdec
      obtain ⟨content', hcontent', hdecode⟩ := hdec
      by_cases hpath : path = r.path
      · subst hpath
        rw [hcontent] at hcontent'
        cases hcontent'
        rw [hdecode]
        exact mem_assignKey_self
      · have hmem := he.resolve_right hpath
        split
        · exact mem_assignKey_of_ne hmem hpath
        · exact hmem
    refine ⟨texts, ?_, fun e he => hkeep e (.inl he), fun q hq text hdec => ?_, fun e he => ?_⟩
    · rw [foldlM_cons, hread]
      exact hfold
    · rcases mem_cons.1 hq with rfl | hq
      · exact hkeep _ (.inr rfl) hdec
      · exact hrefs q hq text hdec
    · rcases hback e he with hmem | hdec
      · split at hmem
        next text hdecode =>
          rcases mem_of_mem_assignKey hmem with rfl | hmem
          · exact .inr ⟨content, hcontent, hdecode⟩
          · exact .inl hmem
        next => exact .inl hmem
      · exact .inr hdec

/-- The texts of a sealed projection are its files that decode. -/
theorem textArtifactText_sealed (h : Sealed sha256 b projection refs) :
    ∃ texts, textArtifactText b projection refs = .ok texts ∧
      (∀ r ∈ refs, ∀ text, Decodes b projection (r.path, text) → (r.path, text) ∈ texts) ∧
      ∀ e ∈ texts, Decodes b projection e := by
  obtain ⟨texts, hfold, -, hrefs, hback⟩ := textArtifactText_step [] h
  exact ⟨texts, hfold, hrefs, fun e he => (hback e he).resolve_left (by simp)⟩

theorem Decodes.unique {path : String} {t t' : Source} (h : Decodes b projection (path, t))
    (h' : Decodes b projection (path, t')) : t = t' := by
  obtain ⟨content, hcontent, hdecode⟩ := h
  obtain ⟨content', hcontent', hdecode'⟩ := h'
  cases hcontent.symm.trans hcontent'
  exact Option.some.inj (hdecode.symm.trans hdecode')

theorem Sealed.digestAt [DecidableEq D] (h : Sealed sha256 b projection refs) {r : FileRef D}
    (hr : r ∈ refs) : digestAt refs r.path = some r.sha256 := by
  obtain ⟨q, hq⟩ : ∃ q, refs.reverse.find? (·.path = r.path) = some q :=
    Option.isSome_iff_exists.1 (find?_isSome.2 ⟨r, mem_reverse.2 hr, by simp⟩)
  have hpath : q.path = r.path := by simpa using find?_some hq
  obtain ⟨content, hcontent, hsha, -⟩ := h.bytes r hr
  obtain ⟨content', hcontent', hsha', -⟩ :=
    h.bytes q (mem_reverse.1 (mem_of_find?_eq_some hq))
  rw [hpath, hcontent] at hcontent'
  cases hcontent'
  rw [Task.digestAt, hq, Option.map_some, ← hsha, ← hsha']

end

/-! ## Leaks are reported -/

section Leaks

variable [DecidableEq D] {T : Texts D} {sha256 : List UInt8 → D} {b : SealedBundle D}

/-- Both projections of the bundle are sealed, and the comparisons are within the budget. -/
structure Ready (T : Texts D) (sha256 : List UInt8 → D) (b : SealedBundle D) : Prop where
  publicSealed : Sealed sha256 b "public" (publicFiles b.bundle.publicTask)
  graderSealed : Sealed sha256 b "grader" (privateFiles b.bundle.privateGrader)
  fits : ∀ publicText privateText,
    textArtifactText b "public" (publicFiles b.bundle.publicTask) = .ok publicText →
    textArtifactText b "grader" (privateFiles b.bundle.privateGrader) = .ok privateText →
    leakageComparisonsFitBudget publicText privateText (publicFiles b.bundle.publicTask)
      (privateFiles b.bundle.privateGrader) (sensitiveTokens T b.bundle.privateGrader) = true

/-- The lint's comparison of the two files is among its issues. -/
def Reported (T : Texts D) (b : SealedBundle D) (publicPath privatePath : String) : Prop :=
  ∃ publicText privateText issues issue,
    textArtifactText b "public" (publicFiles b.bundle.publicTask) = .ok publicText ∧
    textArtifactText b "grader" (privateFiles b.bundle.privateGrader) = .ok privateText ∧
    lintTask T b = .ok issues ∧ issue ∈ issues ∧
    (issue.code = .publicPrivateNormalizedTextLeak ∨ issue.code = .publicContainsPrivateText) ∧
    ((publicPath, privatePath), issue) ∈ leakReports T publicText privateText
      (publicFiles b.bundle.publicTask) (privateFiles b.bundle.privateGrader)

/-- A view of the private text that is substantial and stands together in the public one. -/
def Shows (U : Unicode) (publicText privateText : Source) : Prop :=
  ∃ v ∈ (textTokenViews U publicText).zip (textTokenViews U privateText),
    substantialText v.2 = true ∧ v.2 <:+: v.1

theorem compareTexts_isSome_iff {U : Unicode} {p q : String × Source} :
    (∃ issue, compareTexts U p q = some issue ∧
      (issue.code = .publicPrivateNormalizedTextLeak ∨
        issue.code = .publicContainsPrivateText)) ↔ Shows U p.2 q.2 := by
  have hne : ∀ v : List Source, substantialText v = true → v ≠ [] := by
    rintro v hv rfl
    cases hv
  rw [compareTexts]
  split
  next hequal =>
    obtain ⟨v, hv, hboth⟩ := any_eq_true.1 hequal
    obtain ⟨hsubstantial, hsame⟩ := Bool.and_eq_true_iff.1 hboth
    refine ⟨fun _ => ⟨v, hv, hsubstantial, ?_⟩, fun _ => ⟨_, rfl, .inl rfl⟩⟩
    rw [eq_of_beq hsame]
  next =>
    split
    next hcontained =>
      obtain ⟨v, hv, hboth⟩ := any_eq_true.1 hcontained
      obtain ⟨hsubstantial, hfound⟩ := Bool.and_eq_true_iff.1 hboth
      exact ⟨fun _ => ⟨v, hv, hsubstantial, (Kmp.contains_iff.1 hfound).2⟩,
        fun _ => ⟨_, rfl, .inr rfl⟩⟩
    next hnone =>
      constructor
      · rintro ⟨issue, hissue, -⟩
        cases hissue
      · rintro ⟨v, hv, hsubstantial, hwithin⟩
        refine absurd (any_eq_true.2 ⟨v, hv, ?_⟩) hnone
        rw [hsubstantial, containsTokenSequence, Kmp.contains_iff.2 ⟨hne _ hsubstantial, hwithin⟩]
        rfl

/-- Files with different digests are reported exactly where a view shows the private text. -/
theorem reported_iff (h : Ready T sha256 b) {p q : FileRef D} {publicText privateText : Source}
    (hp : p ∈ publicFiles b.bundle.publicTask) (hq : q ∈ privateFiles b.bundle.privateGrader)
    (hpublic : Decodes b "public" (p.path, publicText))
    (hprivate : Decodes b "grader" (q.path, privateText)) (hdigest : p.sha256 ≠ q.sha256) :
    Reported T b p.path q.path ↔ Shows T.unicode publicText privateText := by
  obtain ⟨publicTexts, hpublicTexts, hpublicMem, hpublicAll⟩ :=
    textArtifactText_sealed h.publicSealed
  obtain ⟨privateTexts, hprivateTexts, hprivateMem, hprivateAll⟩ :=
    textArtifactText_sealed h.graderSealed
  have hcompare := compareTexts_isSome_iff (U := T.unicode) (p := (p.path, publicText))
    (q := (q.path, privateText))
  rw [← hcompare]
  constructor
  · rintro ⟨_, _, issues, issue, ht, ht', -, -, hcode, hreport⟩
    rw [hpublicTexts] at ht
    rw [hprivateTexts] at ht'
    cases ht
    cases ht'
    obtain ⟨⟨path, text⟩, hmem, hreport⟩ := mem_flatMap.1 hreport
    obtain ⟨⟨path', text'⟩, hmem', hreport⟩ := mem_filterMap.1 hreport
    split at hreport
    · cases hreport
    obtain ⟨issue, hissue, hpair⟩ := Option.map_eq_some_iff.1 hreport
    cases hpair
    cases (hpublicAll _ ((perm_sortOn _ _).mem_iff.1 hmem)).unique hpublic
    cases (hprivateAll _ ((perm_sortOn _ _).mem_iff.1 hmem')).unique hprivate
    exact ⟨issue, hissue, hcode⟩
  · rintro ⟨issue, hissue, hcode⟩
    have hreport : ((p.path, q.path), issue) ∈ leakReports T publicTexts privateTexts
        (publicFiles b.bundle.publicTask) (privateFiles b.bundle.privateGrader) := by
      refine mem_flatMap.2 ⟨(p.path, publicText),
        (perm_sortOn _ _).mem_iff.2 (hpublicMem p hp _ hpublic), ?_⟩
      refine mem_filterMap.2 ⟨(q.path, privateText),
        (perm_sortOn _ _).mem_iff.2 (hprivateMem q hq _ hprivate), ?_⟩
      rw [if_neg, hissue, Option.map_some]
      rw [h.publicSealed.digestAt hp, h.graderSealed.digestAt hq]
      exact fun heq => hdigest (Option.some.inj heq)
    have hlint : lintTask T b = .ok (metadataIssues T b.bundle ++
        leakIssues T publicTexts privateTexts (publicFiles b.bundle.publicTask)
          (privateFiles b.bundle.privateGrader) ++
        contentIssues T publicTexts (publicFiles b.bundle.publicTask)
          (sensitiveTokens T b.bundle.privateGrader) ++ [admissionNotice]) := by
      rw [lintTask, hpublicTexts, hprivateTexts]
      exact if_pos (h.fits _ _ hpublicTexts hprivateTexts)
    refine ⟨publicTexts, privateTexts, _, issue, hpublicTexts, hprivateTexts, hlint, ?_, hcode,
      hreport⟩
    have hleak := mem_map_of_mem (f := fun r : (String × String) × LintIssue => r.2) hreport
    exact mem_append_left _ (mem_append_left _ (mem_append_right _ hleak))

def encode (text : Source) : List UInt8 := (String.ofList text).toUTF8.data.toList

theorem decode_encode (text : Source) : decode (encode text) = some text := by
  rw [decode, encode, Array.toArray_toList]
  exact (congrArg (Option.map String.toList) (fromUTF8_toUTF8 (String.ofList text))).trans
    (congrArg some String.toList_ofList)

/-- **A private text inside a public block comment is reported.** -/
theorem commented_artifact_reported (h : Ready T sha256 b) {p q : FileRef D} {text : Source}
    (hp : p ∈ publicFiles b.bundle.publicTask) (hq : q ∈ privateFiles b.bundle.privateGrader)
    (hprivate : b.artifactBytes.lookup ("grader", q.path) = some (encode text))
    (hpublic : b.artifactBytes.lookup ("public", p.path) = some (encode (commented text)))
    (hdigest : p.sha256 ≠ q.sha256)
    (hsubstantial : substantialText (commentVisibleTextTokens T.unicode text) = true) :
    Reported T b p.path q.path := by
  refine (reported_iff h hp hq ⟨_, hpublic, decode_encode _⟩ ⟨_, hprivate, decode_encode _⟩
    hdigest).2 ⟨(commentVisibleTextTokens T.unicode (commented text),
      commentVisibleTextTokens T.unicode text), ?_, hsubstantial, commentVisible_infix_commented⟩
  exact mem_cons_of_mem _ mem_cons_self

end Leaks

/-! ## A leaking bundle -/

/-- A file that is its own digest. -/
def sampleRef (path : String) (text : Source) : FileRef (List UInt8) :=
  { path, sha256 := encode text, sizeBytes := (encode text).length }

/-- A generation task that shows one text and keeps another. -/
def sampleLeak (shown kept : Source) : SealedBundle (List UInt8) :=
  let file : ℕ → FileRef (List UInt8)
    | 0 => sampleRef "p" shown
    | 7 => sampleRef "r" kept
    | _ => sampleRef "c" ['c']
  let task := repairTask "t" .validation file [("c", "a")] fun _ => .functional
  { bundle :=
      { task with
        publicTask := { task.publicTask with family := .generation, starterSource := none }
        privateGrader := { task.privateGrader with rootCause := none, mutation := none } }
    artifactBytes := [(("public", "p"), encode shown), (("grader", "r"), encode kept),
      (("grader", "c"), encode ['c'])] }

def plainTexts : Texts (List UInt8) where
  unicode := asciiUnicode
  lower := id
  hex _ := ""

variable {shown kept : Source}

theorem sampleLeak_publicText :
    textArtifactText (sampleLeak shown kept) "public"
      (publicFiles (sampleLeak shown kept).bundle.publicTask) = .ok [("p", shown)] := by
  have hshown : sealedArtifactContent (sampleLeak shown kept) "public" "p" = .ok (encode shown) :=
    rfl
  have hrefs : publicFiles (sampleLeak shown kept).bundle.publicTask = [sampleRef "p" shown] := rfl
  rw [hrefs, textArtifactText]
  simp [sampleRef, hshown, decode_encode, assignKey]

theorem sampleLeak_privateFiles :
    privateFiles (sampleLeak shown kept).bundle.privateGrader =
      sampleRef "r" kept :: replicate 7 (sampleRef "c" ['c']) := rfl

theorem sampleLeak_privateText :
    textArtifactText (sampleLeak shown kept) "grader"
      (privateFiles (sampleLeak shown kept).bundle.privateGrader) =
        .ok [("r", kept), ("c", ['c'])] := by
  have hkept : sealedArtifactContent (sampleLeak shown kept) "grader" "r" = .ok (encode kept) := rfl
  have hother : sealedArtifactContent (sampleLeak shown kept) "grader" "c" = .ok (encode ['c']) :=
    rfl
  have hstep : ∀ l : List (String × Source),
      assignKey (("r", kept) :: ("c", ['c']) :: l) "c" ['c'] =
      ("r", kept) :: ("c", ['c']) :: l := fun _ => rfl
  rw [sampleLeak_privateFiles]
  simp only [textArtifactText, replicate, foldlM_cons, foldlM_nil, sampleRef, hkept,
    hother, decode_encode, Except.bind, bind, pure, Except.pure]
  rfl

theorem sampleLeak_sensitiveTokens :
    sensitiveTokens plainTexts (sampleLeak shown kept).bundle.privateGrader = [] := by
  have hkept : pathName "r" = "r" := by decide
  have hother : pathName "c" = "c" := by decide
  have hnamed : (sampleLeak shown kept).bundle.privateGrader.negativeControls.map (·.controlId) =
      ["c1", "c2", "c3", "c4"] := rfl
  simp only [sensitiveTokens, sampleLeak_privateFiles, hnamed, sampleRef, replicate, map_cons,
    map_nil, hkept, hother]
  rfl

theorem sum_filterMap_le {α : Type} {p : α → Prop} [DecidablePred p] {g : α → Nat} {l : List α} :
    (l.filterMap fun a => if p a then none else some (g a)).sum ≤ (l.map g).sum := by
  induction l with
  | nil => exact le_rfl
  | cons a l ih =>
    rw [filterMap_cons, map_cons, sum_cons]
    by_cases ha : p a
    · simp only [ha, if_true]
      omega
    · simp only [ha, if_false, sum_cons]
      omega

theorem sampleLeak_ready (h : shown.length + kept.length ≤ 65536) :
    Ready plainTexts id (sampleLeak shown kept) where
  publicSealed := by
    constructor
    intro r hr
    rw [mem_singleton.1 hr]
    exact ⟨encode shown, rfl, rfl, rfl⟩
  graderSealed := by
    constructor
    intro r hr
    rw [sampleLeak_privateFiles] at hr
    rcases mem_cons.1 hr with rfl | hr
    · exact ⟨encode kept, rfl, rfl, rfl⟩
    · rw [eq_of_mem_replicate hr]
      exact ⟨encode ['c'], rfl, rfl, rfl⟩
  fits := by
    intro publicText privateText hpublic hprivate
    rw [sampleLeak_publicText] at hpublic
    rw [sampleLeak_privateText] at hprivate
    cases hpublic
    cases hprivate
    refine consume_isSome ?_
    rw [sampleLeak_sensitiveTokens]
    have hshown : sortOn (·.1) [("p", shown)] = [("p", shown)] := rfl
    have hkept : sortOn (·.1) [("r", kept), ("c", ['c'])] = [("c", ['c']), ("r", kept)] := by
      simp [sortOn]
    have hnone : sortOn id ([] : List String) = [] := rfl
    simp only [leakageWork, hshown, hkept, hnone, flatMap_singleton, map_nil,
      sum_append, sum_singleton]
    refine (Nat.add_le_add_right sum_filterMap_le _).trans ?_
    simp only [map_cons, map_nil, sum_cons, sum_nil, length_singleton,
      maxTaskLeakageComparisonWork]
    omega

/-- Four letters and a space, as often as a private text needs them. -/
def privateSample : Source := (replicate 24 ['a', 'a', 'a', 'a', ' ']).flatten

theorem commented_artifact_reported_sample :
    Reported plainTexts (sampleLeak (commented privateSample) privateSample) "p" "r" :=
  commented_artifact_reported (p := sampleRef "p" (commented privateSample))
    (q := sampleRef "r" privateSample) (sampleLeak_ready (by decide +kernel)) mem_cons_self
    mem_cons_self rfl rfl (by decide +kernel) (by decide +kernel)

end Bpe.Task
