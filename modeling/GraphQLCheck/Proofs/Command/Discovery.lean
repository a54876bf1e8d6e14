import GraphQLCheck.Command.Discovery
import GraphQLCheck.Disk.FileTree
import Mathlib.Data.List.TakeWhile

/-!
# Every file that a walk finds is taken or skipped

What a walk finds is given: some files, directories and faults for each path, in order. A file is
asked for when its extension is one of those given (`Asked`). This is said here of the texts
themselves: the name of the file is a stem, a point and the extension (`PathName.HasExtension`), and
what was given is the extension with any number of points at its front. That the program tests just
this is `hasExtension_iff`.

Then a discovery accounts for all that its walks have found (`Discovery.AccountsFor`): the files
that are asked for are taken, in order, all others are counted, and the faults are kept. A path that
is given alone and is itself a file is taken even if it is not asked for. Its walk finds one file,
so the count comes out right in this case as well, and a directory never gets into it
(`Discovery.accountsFor_run`). In a tree of files, the walk from a file finds that file alone
(`FileTree.walk_of_isFile`).
-/

namespace GraphQLCheck

/-! ### Extensions -/

namespace PathName

variable {path ext : String}

/-- The name of the file is a stem, a point and the extension. The stem is not empty, and the point
is the last one. -/
def HasExtension (path ext : String) : Prop :=
  '.' ∉ ext.toList ∧ ∃ stem, stem ≠ "" ∧ fileName? path = some (stem ++ "." ++ ext)

theorem takeWhile_reverse_append {stem ext : List Char} (h : '.' ∉ ext) :
    ((stem ++ '.' :: ext).reverse.takeWhile (· != '.')).reverse = ext := by
  have hext : ∀ c ∈ ext.reverse, (c != '.') = true := by
    intro c hc
    rw [bne_iff_ne]
    rintro rfl
    exact h (List.mem_reverse.1 hc)
  rw [List.reverse_append, List.reverse_cons, List.append_assoc, List.singleton_append,
    List.takeWhile_append_of_pos hext, List.takeWhile_cons_of_neg (by decide), List.append_nil,
    List.reverse_reverse]

/-- A name that is longer than a point and what stands after its last point has that point, and a
stem before it. -/
theorem exists_stem {name : List Char}
    (h : ((name.reverse.takeWhile (· != '.')).reverse).length + 1 < name.length) :
    ∃ stem, stem ≠ [] ∧ name = stem ++ '.' :: (name.reverse.takeWhile (· != '.')).reverse := by
  have hsplit : name = (name.reverse.dropWhile (· != '.')).reverse ++
      (name.reverse.takeWhile (· != '.')).reverse := by
    rw [← List.reverse_append, List.takeWhile_append_dropWhile, List.reverse_reverse]
  have hpoint := List.head?_dropWhile_not (· != '.') name.reverse
  rcases hrest : name.reverse.dropWhile (· != '.') with - | ⟨c, stem⟩
  · -- without a point, all of the name is after the last one
    have hlength := congrArg List.length hsplit
    rw [hrest, List.reverse_nil, List.nil_append] at hlength
    omega
  · rw [hrest, List.head?_cons] at hpoint
    have hc : c = '.' := by simpa using hpoint
    rw [hrest, hc, List.reverse_cons, List.append_assoc, List.singleton_append] at hsplit
    refine ⟨stem.reverse, fun hnil ↦ ?_, hsplit⟩
    have hlength := congrArg List.length hsplit
    rw [hnil, List.nil_append, List.length_cons] at hlength
    omega

theorem extension?_eq_some_iff : extension? path = some ext ↔ HasExtension path ext := by
  rw [extension?, HasExtension]
  rcases hname : fileName? path with - | name
  · simp
  · show (if _ then some _ else none) = some ext ↔ _
    rw [Option.ite_none_right_eq_some, Option.some.injEq]
    constructor
    · rintro ⟨hlength, rfl⟩
      obtain ⟨stem, hstem, hsplit⟩ := exists_stem hlength
      refine ⟨?_, String.ofList stem, mt String.ofList_eq_empty_iff.1 hstem, ?_⟩
      · rw [String.toList_ofList, List.mem_reverse]
        exact fun hmem ↦ absurd (List.mem_takeWhile_imp hmem) (by decide)
      · rw [Option.some.injEq, ← String.toList_inj, String.toList_append, String.toList_append,
          String.toList_ofList, String.toList_ofList, String.toList_ofList, List.append_assoc]
        exact hsplit
    · rintro ⟨hext, stem, hstem, hsplit⟩
      have hlist : name.toList = stem.toList ++ '.' :: ext.toList := by
        rw [Option.some.inj hsplit, String.toList_append, String.toList_append, List.append_assoc]
        rfl
      have hlength : stem.toList.length ≠ 0 := fun hzero ↦
        hstem (String.toList_eq_nil_iff.1 (List.length_eq_zero_iff.1 hzero))
      rw [hlist, takeWhile_reverse_append hext, List.length_append, List.length_cons,
        String.ofList_toList]
      exact ⟨by omega, rfl⟩

end PathName

/-- The points at the front of an extension are all that is left out of it. -/
theorem bareExtension_eq_iff {given ext : String} (h : '.' ∉ ext.toList) :
    bareExtension given = ext ↔ ∃ n, given = String.ofList (List.replicate n '.') ++ ext := by
  rw [bareExtension, ← String.toList_inj, String.toList_ofList]
  constructor
  · intro hbare
    have hpoints : given.toList.takeWhile (· == '.') =
        List.replicate (given.toList.takeWhile (· == '.')).length '.' :=
      List.eq_replicate_of_mem fun c hc ↦
        beq_iff_eq.1 (List.mem_takeWhile_imp (p := (· == '.')) hc)
    refine ⟨(given.toList.takeWhile (· == '.')).length, ?_⟩
    rw [← String.toList_inj, String.toList_append, String.toList_ofList, ← hpoints, ← hbare,
      List.takeWhile_append_dropWhile]
  · rintro ⟨n, rfl⟩
    have hpoints : ∀ c ∈ List.replicate n '.', (c == '.') = true := fun c hc ↦
      beq_iff_eq.2 (List.eq_of_mem_replicate hc)
    rw [String.toList_append, String.toList_ofList, List.dropWhile_append_of_pos hpoints,
      List.dropWhile_eq_self_iff]
    exact fun _ hpoint ↦ h (beq_iff_eq.1 hpoint ▸ List.getElem_mem _)

/-- A file is asked for: its extension is one of those given, which may be written with points at
their front. -/
def Asked (exts : List String) (path : String) : Prop :=
  ∃ ext, PathName.HasExtension path ext ∧
    ∃ given ∈ exts, ∃ n, given = String.ofList (List.replicate n '.') ++ ext

theorem hasExtension_iff {exts : List String} {path : String} :
    hasExtension exts path = true ↔ Asked exts path := by
  have hgiven : ∀ ext, PathName.HasExtension path ext →
      ((exts.map bareExtension).contains ext = true ↔
        ∃ given ∈ exts, ∃ n, given = String.ofList (List.replicate n '.') ++ ext) := by
    intro ext hext
    rw [List.contains_iff_mem, List.mem_map]
    simp only [bareExtension_eq_iff hext.1]
  rw [hasExtension, Asked]
  split
  · rename_i ext hext
    rw [PathName.extension?_eq_some_iff] at hext
    rw [hgiven ext hext]
    refine ⟨fun h ↦ ⟨ext, hext, h⟩, ?_⟩
    rintro ⟨ext', hext', h⟩
    rw [← PathName.extension?_eq_some_iff] at hext hext'
    rw [Option.some.inj (hext.symm.trans hext')]
    exact h
  · rename_i hnone
    simp only [← PathName.extension?_eq_some_iff, hnone]
    simp

instance (exts : List String) (path : String) : Decidable (Asked exts path) :=
  decidable_of_iff _ hasExtension_iff

/-! ### What is found -/

namespace Disk

/-- The files that a walk from a path finds, in its order. -/
def filesAt (disk : Disk) (path : String) : List String :=
  (disk.walk path).filterMap WalkItem.file?

/-- The files that walks from some paths find, path by path. -/
def files (disk : Disk) (paths : List String) : List String := paths.flatMap disk.filesAt

/-- The faults that walks from some paths meet, path by path. -/
def faults (disk : Disk) (paths : List String) : List WalkFault :=
  paths.flatMap fun path ↦ (disk.walk path).filterMap WalkItem.fault?

end Disk

namespace Discovery

variable {disk : Disk} {exts paths : List String}

/-- A discovery accounts for what walks from the given paths find. -/
structure AccountsFor (d : Discovery) (disk : Disk) (exts paths : List String) : Prop where
  /-- A path is forced when it is given alone, is itself a file, and nothing was asked for. -/
  forced_iff : d.forced = true ↔
    ∃ path, paths = [path] ∧ disk.isFile path = true ∧ ∀ file ∈ disk.files paths, ¬ Asked exts file
  /-- Otherwise the files that are asked for are taken, in order, as often as they are found. -/
  paths_eq : d.forced = false → d.paths = (disk.files paths).filter (Asked exts ·)
  /-- The others are counted. -/
  skipped_eq : d.forced = false → d.skipped = (disk.files paths).countP (¬ Asked exts ·)
  /-- A forced path is taken, and nothing is skipped. -/
  of_forced : d.forced = true → d.paths = paths ∧ d.skipped = 0
  /-- All faults are kept, in order. -/
  faults_eq : d.faults = disk.faults paths
  /-- Every file is taken or skipped. -/
  conserved : d.paths.length + d.skipped = (disk.files paths).length
  /-- A directory is never forced. -/
  directory : ∀ path ∈ paths, disk.read path = .error .isADirectory → d.forced = false

/-- What walks have found, before a path is forced. -/
theorem ofItems_walks :
    ofItems exts (paths.flatMap disk.walk) =
      { paths := (disk.files paths).filter (Asked exts ·)
        skipped := (disk.files paths).countP (¬ Asked exts ·)
        faults := disk.faults paths
        forced := false } := by
  have hasked : hasExtension exts = fun file ↦ decide (Asked exts file) :=
    funext fun file ↦ Bool.eq_iff_iff.2 (hasExtension_iff.trans decide_eq_true_iff.symm)
  rw [ofItems, List.filterMap_flatMap, List.filterMap_flatMap, hasked]
  simp only [← decide_not]
  rfl

/-- Nothing was asked for exactly when no file is taken. -/
theorem isEmpty_filter_asked_iff {files : List String} :
    (files.filter (Asked exts ·)).isEmpty = true ↔ ∀ file ∈ files, ¬ Asked exts file := by
  simp only [List.isEmpty_iff, List.filter_eq_nil_iff, decide_eq_true_iff]

theorem run_of_forced {path : String} (hfile : disk.isFile path = true)
    (hnone : ∀ file ∈ disk.files [path], ¬ Asked exts file) :
    run disk exts [path] =
      { paths := [path], skipped := 0, faults := disk.faults [path], forced := true } := by
  simp only [run, ofItems_walks, isEmpty_filter_asked_iff.2 hnone, hfile, Bool.and_self, if_true]

theorem run_of_not_forced (h : ¬ ∃ path, paths = [path] ∧ disk.isFile path = true ∧
      ∀ file ∈ disk.files paths, ¬ Asked exts file) :
    run disk exts paths =
      { paths := (disk.files paths).filter (Asked exts ·)
        skipped := (disk.files paths).countP (¬ Asked exts ·)
        faults := disk.faults paths
        forced := false } := by
  simp only [run, ofItems_walks]
  split
  · rename_i path
    rw [if_neg]
    rw [Bool.and_eq_true, isEmpty_filter_asked_iff]
    exact fun hforced ↦ h ⟨path, rfl, hforced.2, hforced.1⟩
  · rfl

/-- **Every file that a walk finds is taken or skipped.** If the walk from a path that is itself a
file finds just one file, a discovery accounts for what its walks find. -/
theorem accountsFor_run (exts : List String)
    (hwalk : ∀ path ∈ paths, disk.isFile path = true → (disk.filesAt path).length = 1) :
    (run disk exts paths).AccountsFor disk exts paths := by
  by_cases hforced : ∃ path, paths = [path] ∧ disk.isFile path = true ∧
      ∀ file ∈ disk.files paths, ¬ Asked exts file
  · obtain ⟨path, rfl, hfile, hnone⟩ := hforced
    have hone : (disk.files [path]).length = 1 := by
      rw [Disk.files, List.flatMap_singleton]
      exact hwalk path List.mem_cons_self hfile
    rw [run_of_forced hfile hnone]
    refine ⟨iff_of_true rfl ⟨path, rfl, hfile, hnone⟩, nofun, nofun, fun _ ↦ ⟨rfl, rfl⟩, rfl,
      hone.symm, fun path' hmem hdirectory ↦ ?_⟩
    -- a path at which there is a directory is not itself a file
    rw [← List.mem_singleton.1 hmem, disk.not_isFile path' hdirectory] at hfile
    exact nomatch hfile
  · rw [run_of_not_forced hforced]
    refine ⟨iff_of_false Bool.false_ne_true hforced, fun _ ↦ rfl, fun _ ↦ rfl, nofun, rfl, ?_,
      fun _ _ _ ↦ rfl⟩
    have hsplit := (disk.files paths).length_eq_countP_add_countP (Asked exts ·)
    simp only [decide_eq_true_eq] at hsplit
    rw [hsplit, ← List.countP_eq_length_filter]

end Discovery

/-! ### Trees of files -/

namespace FileTree

variable {root : FileTree} {path : String}

theorem isFile_iff :
    root.isFile path = true ↔ ∃ place bytes, root.find path = .ok (place, .file bytes) := by
  rw [isFile]
  split <;> simp_all

/-- The walk from a file finds that file and nothing else. -/
theorem walk_of_isFile (h : root.disk.isFile path = true) : root.disk.walk path = [.file path] := by
  obtain ⟨place, bytes, hfind⟩ := isFile_iff.1 h
  show root.walkFrom _ [] false path = _
  rw [walkFrom, hfind]

theorem length_filesAt_of_isFile (h : root.disk.isFile path = true) :
    (root.disk.filesAt path).length = 1 := by
  rw [Disk.filesAt, walk_of_isFile h]
  rfl

end FileTree

/-- A file beside a directory of three files, one of which has the empty extension. -/
def notesTree : FileTree :=
  .directory [("notes.txt", .file []),
    ("ops", .directory [("a.graphql", .file []), ("b.txt", .file []), ("c.", .file [])])]

/-- The file beside the directory is taken when it is given alone. When the directory and a file in
it are given, with a path at which there is nothing between them, that file is taken twice. -/
theorem accountsFor_notesTree :
    let alone := Discovery.run notesTree.disk [".graphql"] ["notes.txt"]
    let all := Discovery.run notesTree.disk [".graphql", ".."] ["ops", "gone", "ops/c."]
    (alone.forced = true ∧ alone.paths = ["notes.txt"] ∧ alone.skipped = 0) ∧
    all.forced = false ∧ all.paths = ["ops/a.graphql", "ops/c.", "ops/c."] ∧ all.skipped = 1 ∧
    all.faults = [.unreachable "gone" .missing] ∧ all.paths.length + all.skipped = 4 := by
  have hwalk : ∀ paths : List String, ∀ path ∈ paths, notesTree.disk.isFile path = true →
      (notesTree.disk.filesAt path).length = 1 := fun _ _ _ ↦ FileTree.length_filesAt_of_isFile
  have halone := Discovery.accountsFor_run [".graphql"] (hwalk ["notes.txt"])
  have hall := Discovery.accountsFor_run [".graphql", ".."] (hwalk ["ops", "gone", "ops/c."])
  have hnote : notesTree.disk.files ["notes.txt"] = ["notes.txt"] := by decide +kernel
  have hfiles : notesTree.disk.files ["ops", "gone", "ops/c."] =
      ["ops/a.graphql", "ops/b.txt", "ops/c.", "ops/c."] := by decide +kernel
  have hforced := halone.forced_iff.2
    ⟨"notes.txt", rfl, by decide +kernel, by rw [hnote]; decide +kernel⟩
  have hdirectory := hall.directory "ops" List.mem_cons_self (by decide +kernel)
  refine ⟨⟨hforced, halone.of_forced hforced⟩, hdirectory, ?_, ?_, ?_, ?_⟩
  · rw [hall.paths_eq hdirectory, hfiles]
    decide +kernel
  · rw [hall.skipped_eq hdirectory, hfiles]
    decide +kernel
  · rw [hall.faults_eq]
    decide +kernel
  · rw [hall.conserved, hfiles]
    rfl

end GraphQLCheck
