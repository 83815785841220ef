import Bpe.Lib.Branch
import Bpe.Lib.Collect
import Bpe.Task.Model

/-!
# The expected tree

`_expected_tree` collects the directories and files that the references of a projection
need. Whether it accepts them is said without their order (`Accepted`): each reference
alone, any two against each other, and the limits over all. So are the directories and
files of its result (`Built`).
-/

namespace Bpe.Task

open List

abbrev Name := List Char

abbrev Path := List Name

/-- The parts of `PurePosixPath`, of a relative path. -/
def pathParts (path : String) : Path :=
  (path.toList.splitOn '/').filter fun part => part ≠ [] ∧ part ≠ ['.']

def maxTaskArtifacts : Nat := 256

def maxTaskPathDepth : Nat := 32

def maxTaskTreeEntries : Nat := 4096

def maxTaskArtifactBytes : Nat := 16 * 1024 * 1024

variable {D : Type}

def FileRef.parts (ref : FileRef D) : Path := pathParts ref.path

/-- The files by their path; the metadata has no reference. -/
structure ExpectedTree (D : Type) where
  directories : Finset Path
  files : List (Path × Option (FileRef D))

/-- Equality of the sets and of the dictionaries. -/
def ExpectedTree.Same (t t' : ExpectedTree D) : Prop :=
  t.directories = t'.directories ∧ t.files.Perm t'.files

section

variable [DecidableEq D]

/-- One round of the loop over the references. -/
def addRef (metadata : Name) (tree : ExpectedTree D) (ref : FileRef D) :
    Except String (ExpectedTree D) := do
  refuse [
    (ref.parts.isEmpty || decide (ref.parts.length > maxTaskPathDepth),
      "artifact path exceeds the 32-component limit: " ++ ref.path),
    (ref.parts.any (·.contains '\x00'), "artifact path contains a null byte: " ++ ref.path),
    ((ancestors ref.parts).any (tree.files.map (·.1)).contains,
      "artifact path conflicts with a file: " ++ ref.path)]
  let directories := tree.directories ∪ (ancestors ref.parts).toFinset
  refuse [
    (decide (ref.parts ∈ directories) || decide (ref.parts = [metadata]),
      "artifact path conflicts with task metadata: " ++ ref.path),
    ((tree.files.find? (·.1 = ref.parts)).any fun file => file.2.any (· ≠ ref),
      "artifact path has inconsistent identities: " ++ ref.path)]
  pure { directories, files := assignKey tree.files ref.parts (some ref) }

def emptyTree (metadata : Name) : ExpectedTree D :=
  { directories := {[]}, files := [([metadata], none)] }

def checkTree (tree : ExpectedTree D) (budget : Nat) : Except String Unit :=
  let unique := tree.files.filterMap (·.2)
  refuse ((decide (tree.directories.card - 1 + tree.files.length > maxTaskTreeEntries),
      "task projection exceeds the 4096-entry tree limit") ::
    unique.map (fun ref => (decide (ref.sizeBytes > maxTaskArtifactBytes),
      "artifact " ++ ref.path ++ " exceeds the 16777216-byte limit")) ++
    [(decide ((unique.map (·.sizeBytes)).sum > budget),
      "task projection exceeds its " ++ toString budget ++ "-byte artifact limit")])

def expectedTree (metadata : Name) (refs : List (FileRef D)) (budget : Nat) :
    Except String (ExpectedTree D) := do
  refuse [(decide (refs.length > maxTaskArtifacts),
    "task projection exceeds the 256-artifact limit")]
  let tree ← refs.foldlM (addRef metadata) (emptyTree metadata)
  checkTree tree budget
  pure tree

end

/-! ## References without their order -/

variable {metadata : Name} {tree tree' : ExpectedTree D} {ref : FileRef D}
  {seen refs refs' : List (FileRef D)} {budget : Nat}

/-- What is asked of one reference. -/
structure FileRef.Alone (metadata : Name) (ref : FileRef D) : Prop where
  nonempty : ref.parts ≠ []
  depth : ref.parts.length ≤ maxTaskPathDepth
  noNull : ∀ part ∈ ref.parts, '\x00' ∉ part
  start : ref.parts.head? ≠ some metadata

/-- Neither file is a directory of the other, and one path has one reference. -/
structure FileRef.Compatible (r s : FileRef D) : Prop where
  above : r.parts ∉ ancestors s.parts
  below : s.parts ∉ ancestors r.parts
  same : r.parts = s.parts → r = s

theorem FileRef.Compatible.symm {r s : FileRef D} (h : r.Compatible s) : s.Compatible r :=
  ⟨h.below, h.above, fun heq => (h.same heq.symm).symm⟩

theorem FileRef.Compatible.rfl {r : FileRef D} : r.Compatible r :=
  ⟨not_mem_ancestors_self, not_mem_ancestors_self, fun _ => Eq.refl r⟩

/-- The tree of the references so far. -/
structure Built (metadata : Name) (seen : List (FileRef D)) (tree : ExpectedTree D) : Prop where
  directories : ∀ d, d ∈ tree.directories ↔ d = [] ∨ ∃ r ∈ seen, d ∈ ancestors r.parts
  files : ∀ f, f ∈ tree.files ↔ f = ([metadata], none) ∨ ∃ r ∈ seen, f = (r.parts, some r)
  keys : (tree.files.map Prod.fst).Nodup

theorem built_empty : Built metadata [] (emptyTree (D := D) metadata) where
  directories d := by simp [emptyTree]
  files f := by simp [emptyTree]
  keys := by simp [emptyTree]

theorem Built.mem_keys (hb : Built metadata seen tree) {p : Path} :
    p ∈ tree.files.map Prod.fst ↔ p = [metadata] ∨ ∃ r ∈ seen, p = r.parts := by
  rw [mem_map]
  constructor
  · rintro ⟨f, hf, rfl⟩
    rcases (hb.files f).1 hf with rfl | ⟨r, hr, rfl⟩
    · exact .inl rfl
    · exact .inr ⟨r, hr, rfl⟩
  · rintro (rfl | ⟨r, hr, rfl⟩)
    · exact ⟨_, (hb.files _).2 (.inl rfl), rfl⟩
    · exact ⟨_, (hb.files _).2 (.inr ⟨r, hr, rfl⟩), rfl⟩

theorem Built.files_above (hb : Built metadata seen tree) :
    (ancestors ref.parts).any (tree.files.map (·.1)).contains = false ↔
      [metadata] ∉ ancestors ref.parts ∧ ∀ r ∈ seen, r.parts ∉ ancestors ref.parts := by
  simp only [any_eq_false, contains_iff_mem]
  constructor
  · intro h
    exact ⟨fun hmem => h _ hmem (hb.mem_keys.2 (.inl rfl)),
      fun r hr hmem => h _ hmem (hb.mem_keys.2 (.inr ⟨r, hr, rfl⟩))⟩
  · rintro ⟨hmetadata, hseen⟩ p hp hmem
    rcases hb.mem_keys.1 hmem with rfl | ⟨r, hr, rfl⟩
    · exact hmetadata hp
    · exact hseen r hr hp

theorem Built.not_directory (hb : Built metadata seen tree) (hne : ref.parts ≠ []) :
    ref.parts ∉ tree.directories ∪ (ancestors ref.parts).toFinset ↔
      ∀ r ∈ seen, ref.parts ∉ ancestors r.parts := by
  rw [Finset.mem_union, mem_toFinset, not_or, hb.directories]
  simp only [hne, false_or, not_exists, not_and, not_mem_ancestors_self, not_false_eq_true,
    and_true]

def treeDirectories (refs : List (FileRef D)) : Finset Path :=
  (refs.flatMap fun r => ancestors r.parts).toFinset

section

variable (hb : Built metadata refs tree)

include hb

theorem Built.directories_eq :
    tree.directories = insert [] (treeDirectories refs) := by
  ext d
  rw [hb.directories, Finset.mem_insert, treeDirectories, mem_toFinset, mem_flatMap]

theorem Built.card_directories :
    tree.directories.card - 1 = (treeDirectories refs).card := by
  have hroot : [] ∉ treeDirectories refs := by
    rw [treeDirectories, mem_toFinset, mem_flatMap]
    rintro ⟨r, -, hmem⟩
    exact (mem_ancestors.1 hmem).1 rfl
  rw [hb.directories_eq, Finset.card_insert_of_notMem hroot, Nat.add_sub_cancel]

theorem Built.disjoint (halone : ∀ r ∈ refs, r.Alone metadata)
    (hcompatible : ∀ r ∈ refs, ∀ s ∈ refs, r.Compatible s) {p : Path}
    (hp : p ∈ tree.files.map Prod.fst) : p ∉ tree.directories := by
  intro hdirectory
  rcases hb.mem_keys.1 hp with rfl | ⟨r, hr, rfl⟩
  · rcases (hb.directories _).1 hdirectory with hnil | ⟨s, hs, hmem⟩
    · cases hnil
    · exact (halone s hs).start (singleton_mem_ancestors.1 hmem).1
  · rcases (hb.directories _).1 hdirectory with hnil | ⟨s, hs, hmem⟩
    · exact (halone r hr).nonempty hnil
    · exact (hcompatible r hr s hs).above hmem

theorem Built.listed {p d : Path} (hp : p ∈ tree.files.map Prod.fst) (hfront : d <+: p)
    (hne : d ≠ p) :
    d ∈ tree.directories := by
  rw [hb.directories]
  by_cases hnil : d = []
  · exact .inl hnil
  · rcases hb.mem_keys.1 hp with rfl | ⟨r, hr, rfl⟩
    · exact absurd (hfront.eq_of_length_le (length_pos_iff.2 hnil)) hne
    · exact .inr ⟨r, hr, mem_ancestors.2 ⟨hnil, hfront, hne⟩⟩

theorem Built.closed :
    ∀ q ∈ tree.directories, ∀ d ∈ ancestors q, d ∈ tree.directories := by
  intro q hq d hd
  rcases (hb.directories q).1 hq with rfl | ⟨r, hr, hmem⟩
  · cases hd
  · exact (hb.directories d).2 (.inr ⟨r, hr, ancestors_trans hmem hd⟩)

end

section

variable [DecidableEq D]

theorem Built.identities (hb : Built metadata seen tree) :
    ((tree.files.find? (·.1 = ref.parts)).any fun file => file.2.any (· ≠ ref)) = false ↔
      ∀ r ∈ seen, r.parts = ref.parts → r = ref := by
  constructor
  · intro h r hr hparts
    have hmem : (r.parts, some r) ∈ tree.files := (hb.files _).2 (.inr ⟨r, hr, rfl⟩)
    have hfound := find?_key hb.keys hmem
    simp only [hparts] at hfound
    rw [hfound] at h
    simpa using h
  · intro h
    rcases hfound : tree.files.find? (·.1 = ref.parts) with _ | f
    · rw [hfound]
      rfl
    · rw [hfound]
      have hparts : f.1 = ref.parts := by simpa using find?_some hfound
      rcases (hb.files f).1 (mem_of_find?_eq_some hfound) with rfl | ⟨r, hr, rfl⟩
      · rfl
      · simpa using h r hr hparts

/-- A round accepts a reference that is good alone and against all before it. -/
theorem Built.addRef_eq_ok (hb : Built metadata seen tree) :
    addRef metadata tree ref = .ok tree' ↔
      (ref.Alone metadata ∧ ∀ r ∈ seen, r.Compatible ref) ∧
        tree' = { directories := tree.directories ∪ (ancestors ref.parts).toFinset
                  files := assignKey tree.files ref.parts (some ref) } := by
  have hok : ∀ {a b : ExpectedTree D}, (pure a : Except String _) = .ok b ↔ b = a :=
    ⟨fun h => by cases h; rfl, fun h => by rw [h]; rfl⟩
  rw [addRef, seq_eq_ok, seq_eq_ok, refuse_eq_ok, refuse_eq_ok, hok, ← and_assoc]
  refine and_congr_left fun _ => ?_
  simp only [forall_mem_cons, not_mem_nil, IsEmpty.forall_iff, implies_true, and_true,
    hb.files_above, hb.identities, Bool.or_eq_false_iff, decide_eq_false_iff_not]
  constructor
  · rintro ⟨⟨⟨hne, hdepth⟩, hnull, hmetadata, hseen⟩, ⟨hdirectory, hself⟩, hsame⟩
    have hne : ref.parts ≠ [] := by simpa using hne
    refine ⟨⟨hne, not_lt.1 hdepth, by simpa using hnull, fun hstart => ?_⟩, fun r hr => ?_⟩
    · exact hmetadata (singleton_mem_ancestors.2 ⟨hstart, hself⟩)
    · exact ⟨hseen r hr, (hb.not_directory hne).1 hdirectory r hr, hsame r hr⟩
  · rintro ⟨halone, hcompatible⟩
    refine ⟨⟨⟨?_, not_lt.2 halone.depth⟩, ?_, fun hmem => ?_, fun r hr => (hcompatible r hr).above⟩,
      ⟨(hb.not_directory halone.nonempty).2 fun r hr => (hcompatible r hr).below, fun hself => ?_⟩,
      fun r hr => (hcompatible r hr).same⟩
    · simpa using halone.nonempty
    · simpa using halone.noNull
    · exact halone.start (singleton_mem_ancestors.1 hmem).1
    · exact halone.start (by rw [hself]; rfl)

theorem Built.addRef (hb : Built metadata seen tree) (h : addRef metadata tree ref = .ok tree') :
    Built metadata (seen ++ [ref]) tree' := by
  obtain ⟨⟨halone, hcompatible⟩, rfl⟩ := hb.addRef_eq_ok.1 h
  refine ⟨fun d => ?_, fun f => ?_, nodup_assignKey hb.keys _ _⟩
  · simp only [Finset.mem_union, mem_toFinset, hb.directories, mem_append,
      mem_singleton, or_and_right, exists_or, exists_eq_left, or_assoc]
  · rw [mem_assignKey hb.keys, hb.files]
    simp only [mem_append, mem_singleton, or_and_right, exists_or, exists_eq_left]
    constructor
    · rintro (rfl | ⟨-, hf | hf⟩)
      · exact .inr (.inr rfl)
      · exact .inl hf
      · exact .inr (.inl hf)
    · rintro (rfl | ⟨r, hr, rfl⟩ | rfl)
      · refine .inr ⟨fun heq => halone.start ?_, .inl rfl⟩
        rw [← heq]
        rfl
      · by_cases hparts : r.parts = ref.parts
        · left
          rw [(hcompatible r hr).same hparts]
        · exact .inr ⟨hparts, .inr ⟨r, hr, rfl⟩⟩
      · exact .inl rfl

/-! ## The whole loop -/

theorem built_of_foldlM (h : refs.foldlM (addRef metadata) (emptyTree metadata) = .ok tree) :
    Built metadata refs tree ∧ (∀ r ∈ refs, r.Alone metadata) ∧
      ∀ r ∈ refs, ∀ s ∈ refs, r.Compatible s := by
  refine foldlM_invariant h (fun seen tree => Built metadata seen tree ∧
    (∀ r ∈ seen, r.Alone metadata) ∧ ∀ r ∈ seen, ∀ s ∈ seen, r.Compatible s)
    ⟨built_empty, by simp, by simp⟩ ?_
  rintro seen ref tree tree' ⟨hb, halone, hcompatible⟩ hstep
  obtain ⟨⟨hone, hnew⟩, -⟩ := hb.addRef_eq_ok.1 hstep
  refine ⟨hb.addRef hstep, ?_, ?_⟩
  · intro r hr
    rcases mem_append.1 hr with hr | hr
    · exact halone r hr
    · rw [mem_singleton.1 hr]
      exact hone
  · intro r hr s hs
    rcases mem_append.1 hr with hr | hr <;> rcases mem_append.1 hs with hs | hs
    · exact hcompatible r hr s hs
    · rw [mem_singleton.1 hs]
      exact hnew r hr
    · rw [mem_singleton.1 hr]
      exact (hnew s hs).symm
    · rw [mem_singleton.1 hr, mem_singleton.1 hs]
      exact .rfl

theorem foldlM_ok (halone : ∀ r ∈ refs, r.Alone metadata)
    (hcompatible : ∀ r ∈ refs, ∀ s ∈ refs, r.Compatible s) :
    ∃ tree, refs.foldlM (addRef metadata) (emptyTree metadata) = .ok tree := by
  suffices ∀ (rest seen : List (FileRef D)) tree, Built metadata seen tree →
      (∀ r ∈ rest, r.Alone metadata) → (∀ r ∈ seen ++ rest, ∀ s ∈ seen ++ rest, r.Compatible s) →
      ∃ tree', rest.foldlM (addRef metadata) tree = .ok tree' from
    this refs [] _ built_empty halone hcompatible
  intro rest
  induction rest with
  | nil => exact fun _ tree _ _ _ => ⟨tree, rfl⟩
  | cons ref rest ih =>
    intro seen tree hb halone hcompatible
    have hstep := hb.addRef_eq_ok.2 ⟨⟨halone ref mem_cons_self, fun r hr =>
      hcompatible r (mem_append_left _ hr) ref
        (mem_append_right _ mem_cons_self)⟩, rfl⟩
    rw [append_cons] at hcompatible
    obtain ⟨tree', hrest⟩ := ih (seen ++ [ref]) _ (hb.addRef hstep)
      (fun r hr => halone r (mem_cons_of_mem _ hr)) hcompatible
    exact ⟨tree', by rw [foldlM_cons, hstep]; exact hrest⟩

/-! ## Acceptance -/

structure Accepted (metadata : Name) (refs : List (FileRef D)) (budget : Nat) : Prop where
  count : refs.length ≤ maxTaskArtifacts
  alone : ∀ r ∈ refs, r.Alone metadata
  compatible : ∀ r ∈ refs, ∀ s ∈ refs, r.Compatible s
  entries : (treeDirectories refs).card + (refs.dedup.length + 1) ≤ maxTaskTreeEntries
  sizes : ∀ r ∈ refs, r.sizeBytes ≤ maxTaskArtifactBytes
  total : (refs.dedup.map (·.sizeBytes)).sum ≤ budget

theorem Built.files_perm (hb : Built metadata refs tree) :
    tree.files.Perm (([metadata], none) :: refs.dedup.map fun r => (r.parts, some r)) := by
  refine (perm_ext_iff_of_nodup (List.Nodup.of_map _ hb.keys) ?_).2 fun f => ?_
  · refine nodup_cons.2 ⟨?_, refs.nodup_dedup.map fun r s h => ?_⟩
    · rw [mem_map]
      rintro ⟨r, -, hr⟩
      cases (Prod.mk.inj hr).2
    · exact Option.some.inj (Prod.mk.inj h).2
  · rw [hb.files, mem_cons, mem_map]
    simp only [mem_dedup, eq_comm]

theorem Built.unique_perm (hb : Built metadata refs tree) :
    (tree.files.filterMap (·.2)).Perm refs.dedup := by
  have hperm := hb.files_perm.filterMap (·.2)
  rw [filterMap_cons_none rfl, filterMap_map] at hperm
  have hid : refs.dedup.filterMap ((·.2) ∘ fun r => (r.parts, some r)) = refs.dedup := by
    simp
  rwa [hid] at hperm

theorem Built.checkTree_eq_ok (hb : Built metadata refs tree) :
    checkTree tree budget = .ok () ↔
      (treeDirectories refs).card + (refs.dedup.length + 1) ≤ maxTaskTreeEntries ∧
        (∀ r ∈ refs, r.sizeBytes ≤ maxTaskArtifactBytes) ∧
        (refs.dedup.map (·.sizeBytes)).sum ≤ budget := by
  have hlength : tree.files.length = refs.dedup.length + 1 := by
    rw [hb.files_perm.length_eq, length_cons, length_map]
  rw [checkTree, refuse_eq_ok, cons_append, forall_mem_cons, hb.card_directories, hlength,
    forall_mem_append, (hb.unique_perm.map _).sum_eq]
  simp only [forall_mem_map, forall_mem_singleton, decide_eq_false_iff_not, not_lt,
    hb.unique_perm.mem_iff, mem_dedup]

/-- **The tree is accepted exactly where its references are, and is theirs.** -/
theorem expectedTree_eq_ok :
    (∃ tree, expectedTree metadata refs budget = .ok tree) ↔ Accepted metadata refs budget := by
  constructor
  · rintro ⟨tree, h⟩
    obtain ⟨hcount, h⟩ := seq_eq_ok.1 h
    obtain ⟨tree', hfold, h⟩ := bind_eq_ok.1 h
    obtain ⟨hcheck, -⟩ := seq_eq_ok.1 h
    obtain ⟨hb, halone, hcompatible⟩ := built_of_foldlM hfold
    obtain ⟨hentries, hsizes, htotal⟩ := hb.checkTree_eq_ok.1 hcheck
    have hcount := refuse_at hcount 0 rfl
    exact ⟨not_lt.1 (of_decide_eq_false hcount), halone, hcompatible, hentries, hsizes, htotal⟩
  · intro h
    obtain ⟨tree, hfold⟩ := foldlM_ok h.alone h.compatible
    obtain ⟨hb, -, -⟩ := built_of_foldlM hfold
    have hcheck := hb.checkTree_eq_ok.2 ⟨h.entries, h.sizes, h.total⟩
    refine ⟨tree, seq_eq_ok.2 ⟨refuse_eq_ok.2 ?_, bind_eq_ok.2 ⟨tree, hfold,
      seq_eq_ok.2 ⟨hcheck, rfl⟩⟩⟩⟩
    rw [forall_mem_singleton]
    exact decide_eq_false (not_lt.2 h.count)

theorem built_of_expectedTree (h : expectedTree metadata refs budget = .ok tree) :
    Built metadata refs tree := by
  obtain ⟨-, h⟩ := seq_eq_ok.1 h
  obtain ⟨tree', hfold, h⟩ := bind_eq_ok.1 h
  obtain ⟨-, h⟩ := seq_eq_ok.1 h
  cases h
  exact (built_of_foldlM hfold).1

theorem Accepted.perm (h : Accepted metadata refs budget) (hperm : refs.Perm refs') :
    Accepted metadata refs' budget := by
  have hdirectories : treeDirectories refs' = treeDirectories refs :=
    toFinset_eq_of_perm _ _ (hperm.symm.flatMap_right _)
  refine ⟨hperm.length_eq ▸ h.count, fun r hr => h.alone r (hperm.mem_iff.2 hr),
    fun r hr s hs => h.compatible r (hperm.mem_iff.2 hr) s (hperm.mem_iff.2 hs), ?_,
    fun r hr => h.sizes r (hperm.mem_iff.2 hr), ?_⟩
  · rw [hdirectories, ← hperm.dedup.length_eq]
    exact h.entries
  · rw [← (hperm.dedup.map _).sum_eq]
    exact h.total

theorem Built.same (hb : Built metadata refs tree) (hb' : Built metadata refs' tree')
    (hperm : refs.Perm refs') : tree.Same tree' := by
  constructor
  · ext d
    rw [hb.directories, hb'.directories]
    simp only [hperm.mem_iff]
  · refine hb.files_perm.trans (List.Perm.trans ?_ hb'.files_perm.symm)
    exact (hperm.dedup.map _).cons _

/-- Whatever the order of the references, the tree is refused or is the same. -/
theorem expectedTree_perm (hperm : refs.Perm refs')
    (h : expectedTree metadata refs budget = .ok tree) :
    ∃ tree', expectedTree metadata refs' budget = .ok tree' ∧ tree.Same tree' := by
  obtain ⟨tree', h'⟩ := expectedTree_eq_ok.2 ((expectedTree_eq_ok.1 ⟨tree, h⟩).perm hperm)
  exact ⟨tree', h', (built_of_expectedTree h).same (built_of_expectedTree h') hperm⟩

end

end Bpe.Task
