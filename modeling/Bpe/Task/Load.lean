import Bpe.Task.Tree

/-!
# Loading a projection

`_load_projection` over a model filesystem that nothing changes, so that the checks a
directory gets after its walk repeat those before it. The walk lists the artifacts it
reads in its order. It accepts exactly the trees that are the metadata, the referenced
files and the directories above them (`Exact`).
-/

namespace Bpe.Task

open List Bool

/-! ## The filesystem -/

inductive Object where
  | file (device links : Nat) (content : List UInt8)
  | directory (device : Nat)
  | other (device : Nat)
  deriving DecidableEq

def Object.isDirectory : Object → Bool
  | .directory _ => true
  | _ => false

/-- What stands below a projection, by path. -/
structure Disk where
  objects : List (Path × Object)
  keys : (objects.map Prod.fst).Nodup
  rooted : ∀ p ∈ objects.map Prod.fst, p ≠ [] ∧
    (p.dropLast = [] ∨ ∃ device, (p.dropLast, .directory device) ∈ objects)
  named : ∀ p ∈ objects.map Prod.fst, ∀ name ∈ p, '\x00' ∉ name

namespace Disk

def paths (disk : Disk) : List Path := disk.objects.map Prod.fst

def find (disk : Disk) (p : Path) : Option Object := (disk.objects.find? (·.1 = p)).map (·.2)

def names (disk : Disk) (p : Path) : List Name := children disk.paths p

variable {disk : Disk} {p : Path} {o : Object}

theorem find_eq_some : disk.find p = some o ↔ (p, o) ∈ disk.objects := by
  rw [find, Option.map_eq_some_iff]
  constructor
  · rintro ⟨e, he, rfl⟩
    have hp : e.1 = p := by simpa using find?_some he
    rw [← hp]
    exact mem_of_find?_eq_some he
  · intro h
    exact ⟨(p, o), find?_key disk.keys h, rfl⟩

theorem mem_paths : p ∈ disk.paths ↔ ∃ o, disk.find p = some o := by
  simp only [paths, mem_map, find_eq_some, Prod.exists, exists_and_right, exists_eq_right]

end Disk

/-! ## Reading -/

def showPath (p : Path) : String := String.ofList (intercalate ['/'] p)

def maxTaskMetadataBytes : Nat := 256 * 1024

def maxTaskDirectoryEntries : Nat := 512

section Reading

variable (disk : Disk) (device : Nat)

/-- `_read_file_at`, with the checks of `_open_component` -/
def readFileAt (p : Path) (maxBytes : Nat) (label : String) : Except String (List UInt8) :=
  match disk.find p with
  | none => .error ("cannot inspect " ++ label)
  | some (.file device' links content) =>
    if device' ≠ device then .error (label ++ " is not a same-device non-symlink regular file")
    else if links ≠ 1 then .error (label ++ " must not be externally hard-linked")
    else if content.length > maxBytes then
      .error (label ++ " exceeds the " ++ toString maxBytes ++ "-byte limit")
    else .ok content
  | some _ => .error (label ++ " is not a same-device non-symlink regular file")

def openDirectory (p : Path) (label : String) : Except String Unit :=
  match disk.find p with
  | none => .error ("cannot inspect " ++ label)
  | some (.directory device') =>
    if device' ≠ device then .error (label ++ " is not a same-device non-symlink directory")
    else .ok ()
  | some _ => .error (label ++ " is not a same-device non-symlink directory")

def directoryLabel (p : Path) : String :=
  if p = [] then "projection root" else showPath p

def directoryEntries (p : Path) : Except String (List Name) :=
  if (disk.names p).length > maxTaskDirectoryEntries then
    .error ("task " ++ directoryLabel p ++ " exceeds the 512-entry limit")
  else .ok (disk.names p)

end Reading

section Reading

variable {disk : Disk} {device : Nat} {p : Path} {content : List UInt8} {maxBytes : Nat}
  {label : String}

theorem readFileAt_eq_ok : readFileAt disk device p maxBytes label = .ok content ↔
    disk.find p = some (.file device 1 content) ∧ content.length ≤ maxBytes := by
  rw [readFileAt]
  split
  next hnone => simp [hnone]
  next device' links content' hfile =>
    rw [hfile, ite_error_eq_ok, ite_error_eq_ok, ite_error_eq_ok]
    constructor
    · rintro ⟨hdevice, hlinks, hsize, hcontent⟩
      cases hcontent
      exact ⟨by rw [not_not.1 hdevice, not_not.1 hlinks], not_lt.1 hsize⟩
    · rintro ⟨hsame, hsize⟩
      cases hsame
      exact ⟨not_not.2 rfl, not_not.2 rfl, not_lt.2 hsize, rfl⟩
  next hother hfile =>
    refine iff_of_false (fun h => by cases h) ?_
    rintro ⟨hsame, -⟩
    rw [hfile] at hsame
    exact hother _ _ _ (Option.some.inj hsame)

theorem openDirectory_eq_ok : openDirectory disk device p label = .ok () ↔
    disk.find p = some (.directory device) := by
  rw [openDirectory]
  split
  next hnone => simp [hnone]
  next device' hdirectory =>
    rw [hdirectory, ite_error_eq_ok]
    constructor
    · rintro ⟨hdevice, -⟩
      rw [not_not.1 hdevice]
    · intro hsame
      cases hsame
      exact ⟨not_not.2 rfl, rfl⟩
  next hother hfound =>
    refine iff_of_false (fun h => by cases h) fun hsame => ?_
    rw [hfound] at hsame
    exact hother _ (Option.some.inj hsame)

end Reading

/-! ## The walk -/

variable {D M : Type} [DecidableEq D]

/-- SHA-256, and how a digest and a text print. -/
structure Hash (D : Type) where
  sha256 : List UInt8 → D
  hex : D → String
  repr : Name → String

/-- A class of metadata models: its parser and `_file_refs`. -/
structure ModelType (D M : Type) where
  read : List UInt8 → Except String M
  fileRefs : M → List (FileRef D)
  valid : ∀ raw model, read raw = .ok model → ∀ r ∈ fileRefs model, r.valid = true

namespace ExpectedTree

/-- `_children_at`, the directories in their order -/
def childDirectories (tree : ExpectedTree D) (p : Path) : List Name :=
  sortOn id (children (tree.directories.sort (· ≤ ·)) p)

def childFiles (tree : ExpectedTree D) (p : Path) : List (Name × Option (FileRef D)) :=
  tree.files.filterMap fun f =>
    (if f.1.dropLast = p then f.1.getLast? else none).map fun name => (name, f.2)

variable {tree : ExpectedTree D} {p : Path} {name : Name} {ref : Option (FileRef D)}

omit [DecidableEq D] in
theorem mem_childDirectories : name ∈ tree.childDirectories p ↔ p ++ [name] ∈ tree.directories := by
  rw [childDirectories, (perm_sortOn _ _).mem_iff, mem_children, Finset.mem_sort]

omit [DecidableEq D] in
theorem mem_childFiles : (name, ref) ∈ tree.childFiles p ↔ (p ++ [name], ref) ∈ tree.files := by
  rw [childFiles, mem_filterMap]
  constructor
  · rintro ⟨⟨q, ref'⟩, hf, h⟩
    obtain ⟨name', hname, hpair⟩ := Option.map_eq_some_iff.1 h
    cases hpair
    exact concat_of_child hname ▸ hf
  · intro hf
    exact ⟨_, hf, by rw [dropLast_concat, if_pos rfl, getLast?_concat]; rfl⟩

end ExpectedTree

section Walk

variable (H : Hash D) (disk : Disk) (device : Nat) (metadata : Name) (tree : ExpectedTree D)

/-- The artifact of a file, none for the metadata. -/
def loadFile (p : Path) (file : Name × Option (FileRef D)) :
    Except String (Option (String × List UInt8)) :=
  if p = [] ∧ file.1 = metadata then .ok none
  else
    match file.2 with
    | none =>
      .error ("task metadata appears at an invalid path: " ++ showPath (p ++ [file.1]))
    | some ref => do
      let content ← readFileAt disk device (p ++ [file.1]) maxTaskArtifactBytes
        ("task artifact " ++ showPath (p ++ [file.1]))
      refuse [(!(decide (H.sha256 content = ref.sha256) && decide (content.length = ref.sizeBytes)),
        "artifact integrity mismatch for " ++ ref.path ++ ": expected " ++
          H.hex ref.sha256 ++ "/" ++
          toString ref.sizeBytes ++ ", got " ++ H.hex (H.sha256 content) ++ "/" ++
          toString content.length)]
      pure (some (ref.path, content))

def showNames (names : List Name) : String :=
  "[" ++ ", ".intercalate ((sortOn id names).map H.repr) ++ "]"

def notClosed (p : Path) (actual expected : List Name) : String :=
  let unreferenced := actual.filter (!expected.contains ·)
  let directories := unreferenced.filter fun name =>
    (disk.find (p ++ [name])).any Object.isDirectory
  let missing := (expected.filter (!actual.contains ·)).dedup
  "task tree is not closed; at=" ++ directoryLabel p ++ ", unreferenced=" ++
    showNames H unreferenced ++ ", missing=" ++ showNames H missing ++
    ", unreferenced_directories=" ++ showNames H directories

/-- `_load_tree_directory`; the bound is on the depth, and `loadProjection` gives it the
depth of the tree. -/
def loadTreeDirectory : Nat → Path → Except String (List (String × List UInt8))
  | 0, _ => .error "maximum recursion depth exceeded"
  | n + 1, p => do
    let entries ← directoryEntries disk p
    let expected := tree.childDirectories p ++ (tree.childFiles p).map (·.1)
    refuse [(!sameSet entries expected, notClosed H disk p entries expected)]
    let files ← (sortOn (·.1) (tree.childFiles p)).mapM (loadFile H disk device metadata p)
    let below ← (tree.childDirectories p).mapM fun name => do
      openDirectory disk device (p ++ [name]) ("task directory " ++ showPath (p ++ [name]))
      loadTreeDirectory n (p ++ [name])
    pure (files.filterMap id ++ below.flatten)

def loadProjection (K : ModelType D M) (projection : String) (budget : Nat) :
    Except String (M × List (String × List UInt8)) := do
  let raw ← readFileAt disk device [metadata] maxTaskMetadataBytes (projection ++ " task metadata")
  let model ← K.read raw
  let tree ← expectedTree metadata (K.fileRefs model) budget
  let assigned ← loadTreeDirectory H disk device metadata tree
    (tree.directories.sup length + 1) []
  let artifactBytes := assigned.foldl (fun d a => assignKey d a.1 a.2) []
  pure (model, sortOn (·.1) artifactBytes)

end Walk

variable {H : Hash D} {disk : Disk} {device : Nat} {metadata : Name} {tree : ExpectedTree D}
  {p : Path}

/-- What the walk asks of one directory. -/
structure Loads (H : Hash D) (disk : Disk) (device : Nat) (metadata : Name)
    (tree : ExpectedTree D) (p : Path) : Prop where
  count : (disk.names p).length ≤ maxTaskDirectoryEntries
  entries : ∀ name, name ∈ disk.names p ↔
    p ++ [name] ∈ tree.directories ∨ p ++ [name] ∈ tree.files.map Prod.fst
  files : ∀ file ∈ tree.childFiles p, ∃ a, loadFile H disk device metadata p file = .ok a
  directories : ∀ name, p ++ [name] ∈ tree.directories →
    disk.find (p ++ [name]) = some (.directory device)

theorem loadTreeDirectory_succ {n : Nat} {l : List (String × List UInt8)} :
    loadTreeDirectory H disk device metadata tree (n + 1) p = .ok l ↔
      ∃ files below,
        (sortOn (·.1) (tree.childFiles p)).mapM (loadFile H disk device metadata p) = .ok files ∧
        (tree.childDirectories p).mapM (fun name =>
          loadTreeDirectory H disk device metadata tree n (p ++ [name])) = .ok below ∧
        Loads H disk device metadata tree p ∧ l = files.filterMap id ++ below.flatten := by
  have hentries : ∀ {entries}, directoryEntries disk p = .ok entries ↔
      (disk.names p).length ≤ maxTaskDirectoryEntries ∧ entries = disk.names p := by
    intro entries
    rw [directoryEntries, ite_error_eq_ok, not_lt]
    exact and_congr_right fun _ => ⟨fun h => by cases h; rfl, fun h => by rw [h]⟩
  have hclosed : sameSet (disk.names p)
      (tree.childDirectories p ++ (tree.childFiles p).map (·.1)) = true ↔
      ∀ name, name ∈ disk.names p ↔
        p ++ [name] ∈ tree.directories ∨ p ++ [name] ∈ tree.files.map Prod.fst := by
    rw [sameSet_iff]
    simp only [mem_append, ExpectedTree.mem_childDirectories, mem_map, Prod.exists,
      ExpectedTree.mem_childFiles, exists_and_right, exists_eq_right]
  constructor
  · intro h
    obtain ⟨entries, he, h⟩ := bind_eq_ok.1 h
    obtain ⟨hcount, rfl⟩ := hentries.1 he
    obtain ⟨hset, h⟩ := seq_eq_ok.1 h
    obtain ⟨files, hfiles, h⟩ := bind_eq_ok.1 h
    obtain ⟨below, hbelow, h⟩ := bind_eq_ok.1 h
    cases h
    obtain ⟨hopen, hbelow⟩ := mapM_seq_eq_ok.1 hbelow
    refine ⟨files, below, hfiles, hbelow, ⟨hcount, hclosed.1 ?_, fun file hfile => ?_, ?_⟩, rfl⟩
    · simpa using refuse_at hset 0 rfl
    · obtain ⟨a, -, ha⟩ := mem_of_mapM hfiles ((perm_sortOn _ _).mem_iff.2 hfile)
      exact ⟨a, ha⟩
    · intro name hname
      exact openDirectory_eq_ok.1 (hopen name (ExpectedTree.mem_childDirectories.2 hname))
  · rintro ⟨files, below, hfiles, hbelow, hloads, rfl⟩
    refine bind_eq_ok.2 ⟨_, hentries.2 ⟨hloads.count, rfl⟩, seq_eq_ok.2 ⟨refuse_eq_ok.2 ?_,
      bind_eq_ok.2 ⟨files, hfiles, bind_eq_ok.2 ⟨below, mapM_seq_eq_ok.2 ⟨?_, hbelow⟩, rfl⟩⟩⟩⟩
    · rw [forall_mem_singleton, hclosed.2 hloads.entries]
      rfl
    · intro name hname
      exact openDirectory_eq_ok.2 (hloads.directories name
        (ExpectedTree.mem_childDirectories.1 hname))

/-- The walk accepts a directory where each directory from it on is accepted. -/
theorem loadTreeDirectory_ok
    (hclosed : ∀ q ∈ tree.directories, ∀ d ∈ ancestors q, d ∈ tree.directories) {n : Nat}
    (hp : p ∈ tree.directories)
    (hn : ∀ q ∈ tree.directories, p <+: q → q.length < p.length + n) :
    (∃ l, loadTreeDirectory H disk device metadata tree n p = .ok l) ↔
      ∀ q ∈ tree.directories, p <+: q → Loads H disk device metadata tree q := by
  induction n generalizing p with
  | zero => exact absurd (hn p hp (prefix_refl p)) (lt_irrefl _)
  | succ n ih =>
    have hbelow : ∀ name, p ++ [name] ∈ tree.directories →
        ((∃ l, loadTreeDirectory H disk device metadata tree n (p ++ [name]) = .ok l) ↔
          ∀ q ∈ tree.directories, p ++ [name] <+: q → Loads H disk device metadata tree q) := by
      intro name hname
      refine ih hname fun q hq hfront => ?_
      have := hn q hq ((prefix_append p [name]).trans hfront)
      rw [length_append, length_singleton]
      omega
    constructor
    · rintro ⟨l, h⟩ q hq hfront
      obtain ⟨files, below, -, hmapM, hloads, -⟩ := loadTreeDirectory_succ.1 h
      by_cases hpq : p = q
      · exact hpq ▸ hloads
      obtain ⟨name, hname⟩ := exists_child hfront hpq
      have hdirectory : p ++ [name] ∈ tree.directories :=
        mem_of_isPrefix hclosed hq (by simp) hname
      obtain ⟨l', -, hl'⟩ := mem_of_mapM hmapM (ExpectedTree.mem_childDirectories.2 hdirectory)
      exact (hbelow name hdirectory).1 ⟨l', hl'⟩ q hq hname
    · intro hloads
      have hself := hloads p hp (prefix_refl p)
      obtain ⟨files, hfiles⟩ : ∃ files, (sortOn (·.1) (tree.childFiles p)).mapM
          (loadFile H disk device metadata p) = .ok files :=
        mapM_ok fun file hfile => hself.files file ((perm_sortOn _ _).mem_iff.1 hfile)
      obtain ⟨below, hmapM⟩ : ∃ below, (tree.childDirectories p).mapM (fun name =>
          loadTreeDirectory H disk device metadata tree n (p ++ [name])) = .ok below := by
        refine mapM_ok fun name hname => ?_
        refine (hbelow name (ExpectedTree.mem_childDirectories.1 hname)).2 fun q hq hfront => ?_
        exact hloads q hq ((prefix_append p [name]).trans hfront)
      exact ⟨_, loadTreeDirectory_succ.2 ⟨files, below, hfiles, hmapM, hself, rfl⟩⟩

theorem mem_loadTreeDirectory
    (hclosed : ∀ q ∈ tree.directories, ∀ d ∈ ancestors q, d ∈ tree.directories) {n : Nat}
    (hp : p ∈ tree.directories) {l : List (String × List UInt8)}
    (h : loadTreeDirectory H disk device metadata tree n p = .ok l) {a : String × List UInt8} :
    a ∈ l ↔ ∃ q ∈ tree.directories, p <+: q ∧
      ∃ file ∈ tree.childFiles q, loadFile H disk device metadata q file = .ok (some a) := by
  induction n generalizing p l with
  | zero => cases h
  | succ n ih =>
    obtain ⟨files, below, hfiles, hmapM, -, rfl⟩ := loadTreeDirectory_succ.1 h
    rw [mem_append, mem_filterMap, mem_flatten]
    constructor
    · rintro (⟨_, hmem, rfl⟩ | ⟨l, hl, ha⟩)
      · obtain ⟨file, hfile, hload⟩ := exists_of_mapM hfiles hmem
        exact ⟨p, hp, prefix_refl p, file, (perm_sortOn _ _).mem_iff.1 hfile, hload⟩
      · obtain ⟨name, hname, hload⟩ := exists_of_mapM hmapM hl
        obtain ⟨q, hq, hfront, hfile⟩ :=
          (ih (ExpectedTree.mem_childDirectories.1 hname) hload).1 ha
        exact ⟨q, hq, (prefix_append p [name]).trans hfront, hfile⟩
    · rintro ⟨q, hq, hfront, file, hfile, hload⟩
      by_cases hpq : p = q
      · subst hpq
        obtain ⟨a', ha', heq⟩ := mem_of_mapM hfiles ((perm_sortOn _ _).mem_iff.2 hfile)
        cases hload.symm.trans heq
        exact .inl ⟨_, ha', rfl⟩
      · obtain ⟨name, hname⟩ := exists_child hfront hpq
        have hdirectory : p ++ [name] ∈ tree.directories :=
          mem_of_isPrefix hclosed hq (by simp) hname
        obtain ⟨l', hl', heq⟩ := mem_of_mapM hmapM (ExpectedTree.mem_childDirectories.2 hdirectory)
        exact .inr ⟨l', hl', (ih hdirectory heq).2 ⟨q, hq, hname, file, hfile, hload⟩⟩

/-! ## Exact trees -/

/-- The tree is the metadata, the referenced files and the directories above them. -/
structure Exact (H : Hash D) (disk : Disk) (device : Nat) (metadata : Name)
    (refs : List (FileRef D)) : Prop where
  only : ∀ p ∈ disk.paths, p = [metadata] ∨ ∃ r ∈ refs, p = r.parts ∨ p ∈ ancestors r.parts
  separate : ∀ r ∈ refs, r.parts ≠ [metadata]
  files : ∀ r ∈ refs, ∃ content, disk.find r.parts = some (.file device 1 content) ∧
    H.sha256 content = r.sha256 ∧ content.length = r.sizeBytes
  directories : ∀ r ∈ refs, ∀ d ∈ ancestors r.parts, disk.find d = some (.directory device)

structure WithinLimits (disk : Disk) (refs : List (FileRef D)) (budget : Nat) : Prop where
  count : refs.length ≤ maxTaskArtifacts
  depth : ∀ r ∈ refs, r.parts.length ≤ maxTaskPathDepth
  entries : disk.objects.length ≤ maxTaskTreeEntries
  sizes : ∀ r ∈ refs, r.sizeBytes ≤ maxTaskArtifactBytes
  total : (refs.dedup.map (·.sizeBytes)).sum ≤ budget

variable {refs : List (FileRef D)} {budget : Nat} {raw : List UInt8}

omit [DecidableEq D] in
/-- A valid path is what its parts are joined to. -/
theorem FileRef.path_of_parts {r s : FileRef D} (hr : r.valid = true) (hs : s.valid = true)
    (hne : r.parts ≠ []) (h : r.parts = s.parts) : r.path = s.path := by
  have hjoin : ∀ {t : FileRef D}, t.valid = true → t.parts ≠ [] →
      ['/'].intercalate t.parts = t.path.toList := by
    intro t ht hparts
    rw [FileRef.valid, and_eq_true, isNormalizedPath, or_eq_true, beq_iff_eq] at ht
    rcases ht.2 with hdot | hall
    · rw [FileRef.parts, hdot] at hparts
      exact absurd (by decide) hparts
    · have hfilter : t.parts = t.path.toList.splitOn '/' := by
        refine filter_eq_self.2 fun part hpart => ?_
        have := all_eq_true.1 hall part hpart
        simp only [contains_cons, contains_nil, Bool.or_false, Bool.not_eq_true',
          or_eq_false_iff, beq_eq_false_iff_ne] at this
        exact decide_eq_true ⟨this.1, this.2.1⟩
      rw [hfilter, intercalate_splitOn]
  refine String.toList_injective ?_
  rw [← hjoin hr hne, ← hjoin hs (h ▸ hne), h]

/-- The file of a reference is loaded where it stands as referenced. -/
theorem loadFile_eq_ok {r : FileRef D} {name : Name} (hparts : p ++ [name] = r.parts)
    (hne : r.parts ≠ [metadata]) {a : Option (String × List UInt8)} :
    loadFile H disk device metadata p (name, some r) = .ok a ↔
      ∃ content, disk.find r.parts = some (.file device 1 content) ∧
        content.length ≤ maxTaskArtifactBytes ∧ H.sha256 content = r.sha256 ∧
        content.length = r.sizeBytes ∧ a = some (r.path, content) := by
  have hnot : ¬ (p = [] ∧ name = metadata) := by
    rintro ⟨rfl, rfl⟩
    exact hne hparts.symm
  have hcheck : ∀ {content : List UInt8} {message : String},
      refuse [(!(decide (H.sha256 content = r.sha256) && decide (content.length = r.sizeBytes)),
        message)] = .ok () ↔ H.sha256 content = r.sha256 ∧ content.length = r.sizeBytes := by
    intro content message
    simp [refuse_eq_ok]
  rw [loadFile, if_neg hnot]
  constructor
  · intro h
    obtain ⟨content, hread, h⟩ := bind_eq_ok.1 h
    obtain ⟨hrefuse, h⟩ := seq_eq_ok.1 h
    cases h
    obtain ⟨hfind, hsize⟩ := readFileAt_eq_ok.1 hread
    obtain ⟨hdigest, hlength⟩ := hcheck.1 hrefuse
    exact ⟨content, hparts ▸ hfind, hsize, hdigest, hlength, rfl⟩
  · rintro ⟨content, hfind, hsize, hdigest, hlength, rfl⟩
    exact bind_eq_ok.2 ⟨content, readFileAt_eq_ok.2 ⟨hparts ▸ hfind, hsize⟩,
      seq_eq_ok.2 ⟨hcheck.2 ⟨hdigest, hlength⟩, rfl⟩⟩

section Exact

variable (h : Exact H disk device metadata refs)

include h

omit [DecidableEq D] in
theorem Exact.compatible (hvalid : ∀ r ∈ refs, r.valid = true) :
    ∀ r ∈ refs, ∀ s ∈ refs, r.Compatible s := by
  have habove : ∀ r ∈ refs, ∀ s ∈ refs, r.parts ∉ ancestors s.parts := by
    intro r hr s hs hmem
    obtain ⟨content, hfind, -, -⟩ := h.files r hr
    cases hfind.symm.trans (h.directories s hs _ hmem)
  intro r hr s hs
  refine ⟨habove r hr s hs, habove s hs r hr, fun hparts => ?_⟩
  obtain ⟨content, hfind, hdigest, hsize⟩ := h.files r hr
  obtain ⟨content', hfind', hdigest', hsize'⟩ := h.files s hs
  rw [hparts] at hfind
  cases hfind.symm.trans hfind'
  have hne : r.parts ≠ [] := (disk.rooted _ (Disk.mem_paths.2 ⟨_, hparts ▸ hfind⟩)).1
  have hpath := FileRef.path_of_parts (hvalid r hr) (hvalid s hs) hne hparts
  cases r
  cases s
  simp only at hpath hdigest hdigest' hsize hsize'
  rw [hpath, ← hdigest, ← hdigest', ← hsize, ← hsize']

/-- No directory of an exact tree has more names than there are references and the metadata. -/
theorem Exact.length_names (hlimits : WithinLimits disk refs budget) :
    (disk.names p).length ≤ maxTaskDirectoryEntries := by
  have hsubset : disk.names p ⊆ metadata :: refs.filterMap fun r => r.parts[p.length]? := by
    intro name hname
    rw [mem_cons, mem_filterMap]
    have hstart : ∀ {r : FileRef D}, p ++ [name] <+: r.parts → r.parts[p.length]? = some name := by
      rintro r ⟨rest, hrest⟩
      rw [← hrest, append_assoc, getElem?_append_right (le_refl _), Nat.sub_self]
      rfl
    rcases h.only _ (mem_children.1 hname) with heq | ⟨r, hr, heq | habove⟩
    · exact .inl (concat_eq_singleton heq).2
    · exact .inr ⟨r, hr, hstart (heq ▸ prefix_refl _)⟩
    · exact .inr ⟨r, hr, hstart (mem_ancestors.1 habove).2.1⟩
  have hle := (subperm_of_subset (nodup_children disk.keys) hsubset).length_le
  have hfilter := length_filterMap_le (fun r : FileRef D => r.parts[p.length]?) refs
  have hcount := hlimits.count
  rw [length_cons] at hle
  simp only [maxTaskDirectoryEntries, maxTaskArtifacts] at *
  exact hle.trans (by omega)

variable (hmetadata : disk.find [metadata] = some (.file device 1 raw))

include hmetadata

theorem Exact.alone (hlimits : WithinLimits disk refs budget) : ∀ r ∈ refs, r.Alone metadata := by
  intro r hr
  obtain ⟨content, hfind, -, -⟩ := h.files r hr
  have hpath : r.parts ∈ disk.paths := Disk.mem_paths.2 ⟨_, hfind⟩
  refine ⟨(disk.rooted _ hpath).1, hlimits.depth r hr, disk.named _ hpath, fun hstart => ?_⟩
  have habove := singleton_mem_ancestors.2 ⟨hstart, h.separate r hr⟩
  cases hmetadata.symm.trans (h.directories r hr _ habove)

omit [DecidableEq D] in
theorem Exact.mem_paths (hb : Built metadata refs tree) (hp : p ≠ []) :
    p ∈ disk.paths ↔ p ∈ tree.directories ∨ p ∈ tree.files.map Prod.fst := by
  rw [hb.mem_keys, hb.directories]
  constructor
  · intro hmem
    rcases h.only p hmem with rfl | ⟨r, hr, rfl | habove⟩
    · exact .inr (.inl rfl)
    · exact .inr (.inr ⟨r, hr, rfl⟩)
    · exact .inl (.inr ⟨r, hr, habove⟩)
  · rintro ((hnil | ⟨r, hr, habove⟩) | rfl | ⟨r, hr, rfl⟩)
    · exact absurd hnil hp
    · exact Disk.mem_paths.2 ⟨_, h.directories r hr p habove⟩
    · exact Disk.mem_paths.2 ⟨_, hmetadata⟩
    · obtain ⟨content, hfind, -⟩ := h.files r hr
      exact Disk.mem_paths.2 ⟨_, hfind⟩

theorem Exact.length_objects (hb : Built metadata refs tree) (halone : ∀ r ∈ refs, r.Alone metadata)
    (hcompatible : ∀ r ∈ refs, ∀ s ∈ refs, r.Compatible s) :
    disk.objects.length = (treeDirectories refs).card + (refs.dedup.length + 1) := by
  have hpaths : disk.paths.toFinset =
      tree.directories.erase [] ∪ (tree.files.map Prod.fst).toFinset := by
    ext q
    rw [mem_toFinset, Finset.mem_union, Finset.mem_erase, mem_toFinset]
    by_cases hq : q = []
    · subst hq
      refine iff_of_false (fun hmem => (disk.rooted _ hmem).1 rfl) ?_
      rintro (⟨hne, -⟩ | hmem)
      · exact hne rfl
      · exact hb.disjoint halone hcompatible hmem ((hb.directories []).2 (.inl rfl))
    · rw [h.mem_paths hmetadata hb hq, and_iff_right hq]
  have hdisjoint : Disjoint (tree.directories.erase []) (tree.files.map Prod.fst).toFinset := by
    refine Finset.disjoint_left.2 fun q hq hmem => ?_
    exact hb.disjoint halone hcompatible (mem_toFinset.1 hmem) (Finset.mem_of_mem_erase hq)
  have hroot : [] ∈ tree.directories := (hb.directories []).2 (.inl rfl)
  have hfiles : tree.files.length = refs.dedup.length + 1 := by
    rw [hb.files_perm.length_eq, length_cons, length_map]
  calc disk.objects.length = disk.paths.toFinset.card := by
        rw [Disk.paths, toFinset_card_of_nodup disk.keys, length_map]
    _ = (tree.directories.erase []).card + (tree.files.map Prod.fst).toFinset.card := by
        rw [hpaths, Finset.card_union_of_disjoint hdisjoint]
    _ = (treeDirectories refs).card + (refs.dedup.length + 1) := by
        rw [Finset.card_erase_of_mem hroot, hb.card_directories,
          toFinset_card_of_nodup hb.keys, length_map, hfiles]

theorem Exact.accepted (hvalid : ∀ r ∈ refs, r.valid = true)
    (hlimits : WithinLimits disk refs budget) : Accepted metadata refs budget := by
  have halone := h.alone hmetadata hlimits
  have hcompatible := h.compatible hvalid
  obtain ⟨tree, hfold⟩ := foldlM_ok halone hcompatible
  obtain ⟨hb, -, -⟩ := built_of_foldlM hfold
  refine ⟨hlimits.count, halone, hcompatible, ?_, hlimits.sizes, hlimits.total⟩
  rw [← h.length_objects hmetadata hb halone hcompatible]
  exact hlimits.entries

theorem Exact.loads (hlimits : WithinLimits disk refs budget) (hb : Built metadata refs tree)
    (p : Path) : Loads H disk device metadata tree p where
  count := h.length_names hlimits
  entries name := by
    rw [Disk.names, mem_children, h.mem_paths hmetadata hb (by simp)]
  files := by
    rintro ⟨name, ref⟩ hfile
    rcases (hb.files _).1 (ExpectedTree.mem_childFiles.1 hfile) with heq | ⟨r, hr, heq⟩
    · obtain ⟨hpath, rfl⟩ := Prod.mk.inj heq
      exact ⟨none, by rw [loadFile, if_pos (concat_eq_singleton hpath)]⟩
    · obtain ⟨hpath, rfl⟩ := Prod.mk.inj heq
      obtain ⟨content, hfind, hdigest, hsize⟩ := h.files r hr
      exact ⟨_, (loadFile_eq_ok hpath (h.separate r hr)).2
        ⟨content, hfind, hsize ▸ hlimits.sizes r hr, hdigest, hsize, rfl⟩⟩
  directories name hname := by
    rcases (hb.directories _).1 hname with hnil | ⟨r, hr, habove⟩
    · simp at hnil
    · exact h.directories r hr _ habove

end Exact

theorem exact_of_loads (ha : Accepted metadata refs budget) (hb : Built metadata refs tree)
    (hmetadata : disk.find [metadata] = some (.file device 1 raw))
    (hloads : ∀ q ∈ tree.directories, Loads H disk device metadata tree q) :
    Exact H disk device metadata refs := by
  have hroot : [] ∈ tree.directories := (hb.directories []).2 (.inl rfl)
  have hparent : ∀ {q : Path} {r : FileRef D}, r ∈ refs → q = r.parts ∨ q ∈ ancestors r.parts →
      q.dropLast ∈ tree.directories := by
    intro q r hr hq
    by_cases hnil : q.dropLast = []
    · rw [hnil]
      exact hroot
    · have habove := dropLast_mem_ancestors hnil
      refine (hb.directories _).2 (.inr ⟨r, hr, ?_⟩)
      rcases hq with rfl | hq
      · exact habove
      · exact ancestors_trans hq habove
  have hseparate : ∀ r ∈ refs, r.parts ≠ [metadata] := by
    intro r hr heq
    exact (ha.alone r hr).start (by rw [heq]; rfl)
  have hfiles : ∀ r ∈ refs, ∃ content, disk.find r.parts = some (.file device 1 content) ∧
      H.sha256 content = r.sha256 ∧ content.length = r.sizeBytes := by
    intro r hr
    have hconcat := dropLast_append_getLast (ha.alone r hr).nonempty
    have hfile : (r.parts.getLast (ha.alone r hr).nonempty, some r) ∈
        tree.childFiles r.parts.dropLast := by
      rw [ExpectedTree.mem_childFiles, hconcat]
      exact (hb.files _).2 (.inr ⟨r, hr, rfl⟩)
    obtain ⟨a, hload⟩ := (hloads _ (hparent hr (.inl rfl))).files _ hfile
    obtain ⟨content, hfind, -, hdigest, hsize, -⟩ :=
      (loadFile_eq_ok hconcat (hseparate r hr)).1 hload
    exact ⟨content, hfind, hdigest, hsize⟩
  refine ⟨?_, hseparate, hfiles, fun r hr d hd => ?_⟩
  · intro p
    -- the parent of what stands on the disk is a directory that is expected
    induction p using reverseRecOn with
    | nil => exact fun hp => absurd rfl (disk.rooted _ hp).1
    | append_singleton q name ih =>
      intro hp
      have hq : q ∈ tree.directories := by
        rcases (disk.rooted _ hp).2 with hnil | ⟨device', hdirectory⟩
        · rw [dropLast_concat] at hnil
          rw [hnil]
          exact hroot
        · rw [dropLast_concat, ← Disk.find_eq_some] at hdirectory
          rcases ih (Disk.mem_paths.2 ⟨_, hdirectory⟩) with rfl | ⟨r, hr, rfl | habove⟩
          · cases hmetadata.symm.trans hdirectory
          · obtain ⟨content, hfind, -⟩ := hfiles r hr
            cases hfind.symm.trans hdirectory
          · exact (hb.directories _).2 (.inr ⟨r, hr, habove⟩)
      rcases ((hloads q hq).entries name).1 (mem_children.2 hp) with hmem | hmem
      · rcases (hb.directories _).1 hmem with hnil | ⟨r, hr, habove⟩
        · simp at hnil
        · exact .inr ⟨r, hr, .inr habove⟩
      · rcases hb.mem_keys.1 hmem with heq | ⟨r, hr, heq⟩
        · exact .inl heq
        · exact .inr ⟨r, hr, .inl heq⟩
  · have hne := (mem_ancestors.1 hd).1
    have hconcat := dropLast_append_getLast hne
    have hmem : d.dropLast ++ [d.getLast hne] ∈ tree.directories := by
      rw [hconcat]
      exact (hb.directories d).2 (.inr ⟨r, hr, hd⟩)
    have hfind := (hloads _ (hparent hr (.inr hd))).directories _ hmem
    rwa [hconcat] at hfind

/-! ## Projections -/

section Projections

variable {K : ModelType D M} {projection : String} {model : M}
  {artifacts : List (String × List UInt8)}

theorem loadProjection_eq_ok :
    loadProjection H disk device metadata K projection budget = .ok (model, artifacts) ↔
      ∃ raw tree assigned, disk.find [metadata] = some (.file device 1 raw) ∧
        raw.length ≤ maxTaskMetadataBytes ∧ K.read raw = .ok model ∧
        expectedTree metadata (K.fileRefs model) budget = .ok tree ∧
        loadTreeDirectory H disk device metadata tree (tree.directories.sup length + 1) [] =
          .ok assigned ∧
        artifacts = sortOn (·.1) (assigned.foldl (fun d a => assignKey d a.1 a.2) []) := by
  constructor
  · intro h
    obtain ⟨raw, hraw, h⟩ := bind_eq_ok.1 h
    obtain ⟨model', hmodel, h⟩ := bind_eq_ok.1 h
    obtain ⟨tree, htree, h⟩ := bind_eq_ok.1 h
    obtain ⟨assigned, hassigned, h⟩ := bind_eq_ok.1 h
    cases h
    obtain ⟨hfind, hsize⟩ := readFileAt_eq_ok.1 hraw
    exact ⟨raw, tree, assigned, hfind, hsize, hmodel, htree, hassigned, rfl⟩
  · rintro ⟨raw, tree, assigned, hfind, hsize, hmodel, htree, hassigned, rfl⟩
    exact bind_eq_ok.2 ⟨raw, readFileAt_eq_ok.2 ⟨hfind, hsize⟩, bind_eq_ok.2 ⟨model, hmodel,
      bind_eq_ok.2 ⟨tree, htree, bind_eq_ok.2 ⟨assigned, hassigned, rfl⟩⟩⟩⟩

theorem Built.walk_ok {refs : List (FileRef D)} (hb : Built metadata refs tree) :
    (∃ l, loadTreeDirectory H disk device metadata tree
        (tree.directories.sup length + 1) [] = .ok l) ↔
      ∀ q ∈ tree.directories, Loads H disk device metadata tree q := by
  rw [loadTreeDirectory_ok hb.closed ((hb.directories []).2 (.inl rfl))]
  · simp only [forall_const, nil_prefix]
  · intro q hq _
    have : q.length ≤ tree.directories.sup length := Finset.le_sup hq
    rw [length_nil]
    omega

theorem Built.mem_walk {refs : List (FileRef D)} (hb : Built metadata refs tree)
    (ha : Accepted metadata refs budget) {n : Nat} {l : List (String × List UInt8)}
    (h : loadTreeDirectory H disk device metadata tree n [] = .ok l)
    (hexact : Exact H disk device metadata refs) {path : String} {content : List UInt8} :
    (path, content) ∈ l ↔ ∃ r ∈ refs, r.path = path ∧
      disk.find r.parts = some (.file device 1 content) := by
  rw [mem_loadTreeDirectory hb.closed ((hb.directories []).2 (.inl rfl)) h]
  constructor
  · rintro ⟨q, -, -, ⟨name, ref⟩, hfile, hload⟩
    rcases (hb.files _).1 (ExpectedTree.mem_childFiles.1 hfile) with heq | ⟨r, hr, heq⟩
    · obtain ⟨hpath, rfl⟩ := Prod.mk.inj heq
      rw [loadFile, if_pos (concat_eq_singleton hpath)] at hload
      cases hload
    · obtain ⟨hpath, rfl⟩ := Prod.mk.inj heq
      obtain ⟨content', hfind, -, -, -, hpair⟩ :=
        (loadFile_eq_ok hpath (hexact.separate r hr)).1 hload
      cases hpair
      exact ⟨r, hr, rfl, hfind⟩
  · rintro ⟨r, hr, rfl, hfind⟩
    obtain ⟨content', hfind', hdigest, hsize⟩ := hexact.files r hr
    cases hfind.symm.trans hfind'
    have hne := (ha.alone r hr).nonempty
    have hconcat := dropLast_append_getLast hne
    have hproper : r.parts.dropLast ≠ r.parts := by
      intro heq
      have := congrArg length heq
      have hpos := length_pos_iff.2 hne
      rw [length_dropLast] at this
      omega
    have hfront := dropLast_prefix r.parts
    refine ⟨r.parts.dropLast, hb.listed (hb.mem_keys.2 (.inr ⟨r, hr, rfl⟩)) hfront hproper,
      nil_prefix, (r.parts.getLast hne, some r), ?_, ?_⟩
    · rw [ExpectedTree.mem_childFiles, hconcat]
      exact (hb.files _).2 (.inr ⟨r, hr, rfl⟩)
    · exact (loadFile_eq_ok hconcat (hexact.separate r hr)).2
        ⟨content, hfind, hsize ▸ ha.sizes r hr, hdigest, hsize, rfl⟩

/-- **A projection loads exactly where its tree is the metadata, the referenced files and
the directories above them, within the limits.** -/
theorem loadProjection_iff :
    (∃ artifacts, loadProjection H disk device metadata K projection budget =
        .ok (model, artifacts)) ↔
      ∃ raw, disk.find [metadata] = some (.file device 1 raw) ∧
        raw.length ≤ maxTaskMetadataBytes ∧ K.read raw = .ok model ∧
        Exact H disk device metadata (K.fileRefs model) ∧
        WithinLimits disk (K.fileRefs model) budget := by
  constructor
  · rintro ⟨artifacts, h⟩
    obtain ⟨raw, tree, assigned, hfind, hsize, hmodel, htree, hassigned, -⟩ :=
      loadProjection_eq_ok.1 h
    have hb := built_of_expectedTree htree
    have ha := expectedTree_eq_ok.1 ⟨tree, htree⟩
    have hexact := exact_of_loads ha hb hfind (hb.walk_ok.1 ⟨assigned, hassigned⟩)
    refine ⟨raw, hfind, hsize, hmodel, hexact, ha.count, fun r hr => (ha.alone r hr).depth, ?_,
      ha.sizes, ha.total⟩
    rw [hexact.length_objects hfind hb ha.alone ha.compatible]
    exact ha.entries
  · rintro ⟨raw, hfind, hsize, hmodel, hexact, hlimits⟩
    obtain ⟨tree, htree⟩ :=
      expectedTree_eq_ok.2 (hexact.accepted hfind (K.valid raw model hmodel) hlimits)
    have hb := built_of_expectedTree htree
    obtain ⟨assigned, hassigned⟩ := hb.walk_ok.2 fun q _ => hexact.loads hfind hlimits hb q
    exact ⟨_, loadProjection_eq_ok.2
      ⟨raw, tree, assigned, hfind, hsize, hmodel, htree, hassigned, rfl⟩⟩

/-- The artifacts of a loaded projection are the referenced files, by path. -/
theorem loadProjection_artifacts
    (h : loadProjection H disk device metadata K projection budget = .ok (model, artifacts)) :
    artifacts.Pairwise (fun a b => a.1 < b.1) ∧ ∀ path content, (path, content) ∈ artifacts ↔
      ∃ r ∈ K.fileRefs model, r.path = path ∧
        disk.find r.parts = some (.file device 1 content) := by
  obtain ⟨raw, tree, assigned, hfind, hsize, hmodel, htree, hassigned, rfl⟩ :=
    loadProjection_eq_ok.1 h
  have hb := built_of_expectedTree htree
  have ha := expectedTree_eq_ok.1 ⟨tree, htree⟩
  have hexact := exact_of_loads ha hb hfind (hb.walk_ok.1 ⟨assigned, hassigned⟩)
  have hfunction : ∀ a ∈ [] ++ assigned, ∀ b ∈ [] ++ assigned, a.1 = b.1 → a = b := by
    rintro ⟨path, content⟩ hmem ⟨path', content'⟩ hmem' (rfl : path = path')
    obtain ⟨r, hr, hpath, hr'⟩ := (hb.mem_walk ha hassigned hexact).1 hmem
    obtain ⟨s, hs, hpath', hs'⟩ := (hb.mem_walk ha hassigned hexact).1 hmem'
    have hparts : r.parts = s.parts := congrArg pathParts (hpath.trans hpath'.symm)
    rw [hparts] at hr'
    cases hr'.symm.trans hs'
    rfl
  have hempty : (([] : List (String × List UInt8)).map Prod.fst).Nodup := nodup_nil
  refine ⟨pairwise_sortOn_lt (nodup_foldl_assignKey hempty), fun path content => ?_⟩
  rw [(perm_sortOn _ _).mem_iff, mem_foldl_assignKey hempty hfunction, nil_append]
  exact hb.mem_walk ha hassigned hexact

/-- **The expected tree does not depend on the order of the references and is consistent,
and a projection loads exactly where the disk holds that tree, with the bytes it holds.** -/
theorem task_tree_loading_exact :
    (∀ refs refs' : List (FileRef D), refs.Perm refs' →
      ∀ t, expectedTree metadata refs budget = .ok t →
        ∃ t', expectedTree metadata refs' budget = .ok t' ∧ t.Same t') ∧
    (∀ refs : List (FileRef D), ∀ t, expectedTree metadata refs budget = .ok t →
      (∀ p ∈ t.files.map Prod.fst, p ∉ t.directories) ∧
        ∀ p ∈ t.files.map Prod.fst, ∀ d, d <+: p → d ≠ p → d ∈ t.directories) ∧
    (∀ model, (∃ artifacts, loadProjection H disk device metadata K projection budget =
        .ok (model, artifacts)) ↔
      ∃ raw, disk.find [metadata] = some (.file device 1 raw) ∧
        raw.length ≤ maxTaskMetadataBytes ∧ K.read raw = .ok model ∧
        Exact H disk device metadata (K.fileRefs model) ∧
        WithinLimits disk (K.fileRefs model) budget) ∧
    ∀ model artifacts,
      loadProjection H disk device metadata K projection budget = .ok (model, artifacts) →
      artifacts.Pairwise (fun a b => a.1 < b.1) ∧ ∀ path content, (path, content) ∈ artifacts ↔
        ∃ r ∈ K.fileRefs model, r.path = path ∧
          disk.find r.parts = some (.file device 1 content) := by
  refine ⟨fun refs refs' hperm t h => expectedTree_perm hperm h, fun refs t h => ?_,
    fun model => loadProjection_iff, fun model artifacts h => loadProjection_artifacts h⟩
  have hb := built_of_expectedTree h
  have ha := expectedTree_eq_ok.1 ⟨t, h⟩
  exact ⟨fun p hp => hb.disjoint ha.alone ha.compatible hp, fun p hp d => hb.listed hp⟩

end Projections

/-! ## A projection of one file -/

/-- The metadata `m`, and `d/f` of three bytes. -/
def oneFileObjects : List (Path × Object) :=
  [([['m']], .file 1 1 [0]), ([['d']], .directory 1), ([['d'], ['f']], .file 1 1 [1, 2, 3])]

theorem oneFile_keys : (oneFileObjects.map Prod.fst).Nodup := by decide

theorem oneFile_rooted : ∀ p ∈ oneFileObjects.map Prod.fst, p ≠ [] ∧
    (p.dropLast = [] ∨ ∃ device, (p.dropLast, .directory device) ∈ oneFileObjects) := by
  simp [oneFileObjects]

theorem oneFile_named : ∀ p ∈ oneFileObjects.map Prod.fst, ∀ name ∈ p, '\x00' ∉ name := by
  simp [oneFileObjects]

def oneFileDisk : Disk := ⟨oneFileObjects, oneFile_keys, oneFile_rooted, oneFile_named⟩

def oneFileRef : FileRef (List UInt8) := { path := "d/f", sha256 := [1, 2, 3], sizeBytes := 3 }

theorem oneFileRef_valid : ∀ r ∈ [oneFileRef], r.valid = true := by
  rw [forall_mem_singleton]
  decide

def plainHash : Hash (List UInt8) where
  sha256 := id
  hex _ := ""
  repr := String.ofList

def oneFileModel : ModelType (List UInt8) Unit where
  read _ := .ok ()
  fileRefs _ := [oneFileRef]
  valid _ _ _ := oneFileRef_valid

theorem task_tree_loading_exact_oneFile :
    ∃ artifacts, loadProjection plainHash oneFileDisk 1 ['m'] oneFileModel "public" 3 =
        .ok ((), artifacts) ∧
      ("d/f", [1, 2, 3]) ∈ artifacts := by
  have hload : (∃ artifacts, loadProjection plainHash oneFileDisk 1 ['m'] oneFileModel "public" 3 =
      .ok ((), artifacts)) ↔ _ := task_tree_loading_exact.2.2.1 ()
  have hparts : oneFileRef.parts = [['d'], ['f']] := by decide
  have hexact : Exact plainHash oneFileDisk 1 ['m'] [oneFileRef] := by
    constructor
    · simp [Disk.paths, oneFileDisk, oneFileObjects, hparts, ancestors]
    · simp [hparts]
    · rw [forall_mem_singleton, hparts]
      exact ⟨[1, 2, 3], rfl, rfl, rfl⟩
    · rw [forall_mem_singleton, hparts]
      decide
  have hlimits : WithinLimits oneFileDisk [oneFileRef] 3 := by
    constructor
    · decide
    · rw [forall_mem_singleton, hparts]
      decide
    · decide
    · rw [forall_mem_singleton]
      decide
    · decide
  obtain ⟨artifacts, h⟩ := hload.2 ⟨[0], rfl, by decide, rfl, hexact, hlimits⟩
  refine ⟨artifacts, h, ((task_tree_loading_exact.2.2.2 () artifacts h).2 _ _).2
    ⟨oneFileRef, mem_singleton.2 rfl, rfl, ?_⟩⟩
  rw [hparts]
  rfl

end Bpe.Task
