import JapaneseSpacing.Command.Run
import JapaneseSpacing.Files.Selection
import JapaneseSpacing.Proofs.Files.Listing
import JapaneseSpacing.Proofs.Text.Stretch
import Mathlib.Data.List.Lex
import Mathlib.Data.Char

/-!
# Which files are selected

A directory contributes each file below it that has a wanted suffix and is not led to through a
directory of a tool (`FileTree.mem_wanted_iff`), once and in the order of the names
(`FileTree.wanted_ascending`). A list of paths contributes what its paths contribute, path by path
(`Disk.select_exact`).
-/

namespace JapaneseSpacing

/-! ## The order of names -/

theorem nameBefore_iff {first second : Text} : nameBefore first second = true ↔ first < second := by
  have order : (fun a b : Char => decide (a.toNat < b.toNat) = true) = (· < ·) := by
    funext a b
    rw [decide_eq_true_eq, Char.lt_def, UInt32.lt_iff_toNat_lt]
    rfl
  rw [nameBefore, List.lex_eq_true_iff_lex, order]
  rfl

theorem namesBefore_iff {first second : List Text} :
    namesBefore first second = true ↔ first < second := by
  have order : (fun a b : Text => nameBefore a b = true) = (· < ·) := by
    funext a b
    exact propext nameBefore_iff
  rw [namesBefore, List.lex_eq_true_iff_lex, order]
  rfl

theorem not_namesBefore_iff {first second : List Text} :
    (!namesBefore second first) = true ↔ first ≤ second := by
  rw [Bool.not_eq_true', ← Bool.not_eq_true, namesBefore_iff, not_lt]

/-! ## Suffixes -/

/-- The suffix of a name: from its last dot on, if the dot is at neither end, and otherwise
nothing. -/
inductive HasSuffix : Text → Text → Prop
  | dotted {stem ending : Text} (someStem : stem ≠ []) (someEnding : ending ≠ [])
      (lastDot : '.' ∉ ending) : HasSuffix (stem ++ '.' :: ending) ('.' :: ending)
  | bare {name : Text} (undotted : ∀ stem ending : Text, stem ≠ [] → ending ≠ [] →
      '.' ∉ ending → name ≠ stem ++ '.' :: ending) : HasSuffix name []

theorem fileSuffix_dotted (stem : Text) {ending : Text} (lastDot : '.' ∉ ending) :
    fileSuffix (stem ++ '.' :: ending)
      = if stem ≠ [] ∧ ending ≠ [] then '.' :: ending else [] := by
  have isEnding : ((stem ++ '.' :: ending).reverse.takeWhile (· != '.')).reverse = ending := by
    have inside : ∀ char ∈ ending.reverse, (char != '.') = true := by
      intro char member
      rw [bne_iff_ne]
      rintro rfl
      exact lastDot (List.mem_reverse.1 member)
    have reversed : (stem ++ '.' :: ending).reverse = ending.reverse ++ '.' :: stem.reverse := by
      simp
    rw [reversed, Text.takeWhile_stretch inside (by simp), List.reverse_reverse]
  have isStem : (stem ++ '.' :: ending).take
      ((stem ++ '.' :: ending).length - ending.length - 1) = stem := by
    have length : (stem ++ '.' :: ending).length - ending.length - 1 = stem.length := by
      rw [List.length_append, List.length_cons]
      omega
    rw [length, List.take_left]
  have dotted : (stem ++ '.' :: ending).contains '.' = true := by simp
  rw [fileSuffix, isEnding, isStem, dotted]
  simp

theorem fileSuffix_undotted {name : Text} (undotted : '.' ∉ name) : fileSuffix name = [] := by
  have missing : name.contains '.' = false := by simpa using undotted
  rw [fileSuffix, missing]
  rfl

theorem exists_lastDot {name : Text} (dotted : '.' ∈ name) :
    ∃ stem ending, name = stem ++ '.' :: ending ∧ '.' ∉ ending := by
  obtain ⟨front, back, split, missing⟩ :=
    List.eq_append_cons_of_mem (List.mem_reverse.2 dotted)
  refine ⟨back.reverse, front.reverse, ?_, by simpa using missing⟩
  rw [← List.reverse_reverse name, split]
  simp

theorem HasSuffix.fileSuffix_eq {name suffix : Text} (hasSuffix : HasSuffix name suffix) :
    fileSuffix name = suffix := by
  cases hasSuffix with
  | dotted someStem someEnding lastDot =>
    rw [fileSuffix_dotted _ lastDot, if_pos ⟨someStem, someEnding⟩]
  | bare undotted =>
    by_cases dotted : '.' ∈ name
    · obtain ⟨stem, ending, rfl, lastDot⟩ := exists_lastDot dotted
      rw [fileSuffix_dotted stem lastDot, if_neg]
      rintro ⟨someStem, someEnding⟩
      exact undotted stem ending someStem someEnding lastDot rfl
    · exact fileSuffix_undotted dotted

/-- Every name has the suffix that is found. -/
theorem hasSuffix_fileSuffix (name : Text) : HasSuffix name (fileSuffix name) := by
  by_cases bare : fileSuffix name = []
  · rw [bare]
    refine .bare fun stem ending someStem someEnding lastDot => ?_
    rintro rfl
    rw [fileSuffix_dotted stem lastDot, if_pos ⟨someStem, someEnding⟩] at bare
    cases bare
  · have dotted : '.' ∈ name := by
      by_contra undotted
      exact bare (fileSuffix_undotted undotted)
    obtain ⟨stem, ending, rfl, lastDot⟩ := exists_lastDot dotted
    rw [fileSuffix_dotted stem lastDot] at bare ⊢
    split at bare
    · next someParts =>
      rw [if_pos someParts]
      exact .dotted someParts.1 someParts.2 lastDot
    · exact absurd rfl bare

/-! ## Directories -/

/-- The last of some names has one of the wanted suffixes, whatever the case of its letters. -/
def HasExtension (extensions names : List Text) : Prop :=
  ∃ name suffix, names.getLast? = some name ∧ HasSuffix name suffix
    ∧ ∃ extension ∈ extensions, Text.toLower suffix = Text.toLower extension

/-- Names lead from a directory to a file that it contributes: no name is one to skip, and the
file's own name has a wanted suffix. -/
structure FileTree.Selects (tree : FileTree) (extensions names : List Text) : Prop where
  isFile : ∃ content, tree.get? names = some (.file content)
  notSkipped : ∀ name ∈ names, name ∉ skippedNames
  hasExtension : HasExtension extensions names

theorem isWanted_iff {extensions names : List Text} (someNames : names ≠ []) :
    isWanted extensions names = true
      ↔ (∀ name ∈ names, name ∉ skippedNames) ∧ HasExtension extensions names := by
  obtain ⟨name, isLast⟩ : ∃ name, names.getLast? = some name :=
    ⟨_, List.getLast?_eq_some_getLast someNames⟩
  rw [isWanted, Bool.and_eq_true, isLast, Option.getD_some, HasExtension, isLast]
  refine and_congr (by simp) ?_
  rw [List.contains_iff_mem, List.mem_map]
  constructor
  · rintro ⟨extension, isExtension, same⟩
    exact ⟨name, _, rfl, hasSuffix_fileSuffix name, extension, isExtension, same.symm⟩
  · rintro ⟨_, _, ⟨⟩, hasSuffix, extension, isExtension, same⟩
    rw [hasSuffix.fileSuffix_eq]
    exact ⟨extension, isExtension, same.symm⟩

namespace FileTree

variable {tree : FileTree} {entries : List (Text × FileTree)} {extensions names : List Text}

/-- A directory selects the listed files that are wanted. -/
theorem mem_filter_iff (proper : (directory entries).Proper) :
    names ∈ ((directory entries).files.map (·.1)).filter (isWanted extensions)
      ↔ (directory entries).Selects extensions names := by
  rw [List.mem_filter, List.mem_map]
  constructor
  · rintro ⟨⟨⟨_, content⟩, isFile, rfl⟩, isWanted⟩
    rw [files] at isFile
    obtain ⟨notSkipped, hasExtension⟩ :=
      (isWanted_iff (ne_nil_of_mem_filesOfEntries isFile)).1 isWanted
    exact ⟨⟨content, proper.mem_files_iff.1 isFile⟩, notSkipped, hasExtension⟩
  · rintro ⟨⟨content, leads⟩, notSkipped, hasExtension⟩
    have isFile := proper.mem_files_iff.2 leads
    have someNames := ne_nil_of_mem_filesOfEntries isFile
    exact ⟨⟨(names, content), isFile, rfl⟩,
      (isWanted_iff someNames).2 ⟨notSkipped, hasExtension⟩⟩

theorem mem_wanted_iff (proper : (directory entries).Proper) :
    names ∈ (directory entries).wanted extensions
      ↔ (directory entries).Selects extensions names := by
  rw [wanted, (List.mergeSort_perm _ _).mem_iff, mem_filter_iff proper]

/-- What a directory contributes is in strictly ascending order. -/
theorem wanted_ascending (proper : tree.Proper) :
    (tree.wanted extensions).Pairwise (· < ·) := by
  have distinct : (tree.wanted extensions).Nodup :=
    (List.mergeSort_perm _ _).nodup_iff.2 (proper.files_distinct.filter _)
  have ordered : (tree.wanted extensions).Pairwise (· ≤ ·) := by
    refine (List.pairwise_mergeSort ?_ ?_ _).imp fun order => not_namesBefore_iff.1 order
    · intro first second third
      rw [not_namesBefore_iff, not_namesBefore_iff, not_namesBefore_iff]
      exact le_trans
    · intro first second
      rw [Bool.or_eq_true, not_namesBefore_iff, not_namesBefore_iff]
      exact le_total first second
  exact ordered.imp₂ (fun _ _ => lt_of_le_of_ne) distinct

end FileTree

/-! ## Paths -/

/-- What some paths contribute, path by path, and the warnings that are given. A directory
contributes the files that it selects, in strictly ascending order of the names that lead to them;
any other path that leads somewhere contributes itself; a path that leads nowhere contributes
nothing and is warned about. -/
inductive Disk.Contributes (disk : Disk) (extensions : List Text) :
    List Path → List Path → List LogRecord → Prop
  | nil : Contributes disk extensions [] [] []
  | directory {path : Path} {entries : List (Text × FileTree)} {found : List (List Text)}
      {rest files : List Path} {warnings : List LogRecord}
      (isDirectory : disk.get? path = some (.directory entries))
      (ascending : found.Pairwise (· < ·))
      (complete : ∀ names, names ∈ found
        ↔ (FileTree.directory entries).Selects extensions names)
      (behind : Contributes disk extensions rest files warnings) :
      Contributes disk extensions (path :: rest) (found.map path.join ++ files) warnings
  | file {path : Path} {content : List UInt8} {rest files : List Path}
      {warnings : List LogRecord} (isFile : disk.get? path = some (.file content))
      (behind : Contributes disk extensions rest files warnings) :
      Contributes disk extensions (path :: rest) (path :: files) warnings
  | missing {path : Path} {rest files : List Path} {warnings : List LogRecord}
      (nowhere : disk.get? path = none)
      (behind : Contributes disk extensions rest files warnings) :
      Contributes disk extensions (path :: rest) files
        (⟨.warning, "No such file or directory: ".toList ++ path.text⟩ :: warnings)

namespace Disk

variable {disk : Disk} {path : Path} {extensions : List Text} {paths files : List Path}
  {warnings : List LogRecord}

theorem proper_of_get? (proper : disk.root.Proper) {tree : FileTree}
    (found : disk.get? path = some tree) : tree.Proper := by
  rw [get?] at found
  split at found
  · exact (proper.of_get? found).1
  · cases found

/-- Lists in strictly ascending order are equal if they have the same members. -/
theorem ascending_unique {first second : List (List Text)}
    (firstAscending : first.Pairwise (· < ·)) (secondAscending : second.Pairwise (· < ·))
    (sameMembers : ∀ names, names ∈ first ↔ names ∈ second) : first = second := by
  have same : first.Perm second :=
    (List.perm_ext_iff_of_nodup (firstAscending.imp ne_of_lt) (secondAscending.imp ne_of_lt)).2
      sameMembers
  exact same.eq_of_pairwise (fun _ _ _ _ before behind => absurd behind (lt_asymm before))
    firstAscending secondAscending

/-- What paths contribute is what is selected by them. -/
theorem contributes_iff (proper : disk.root.Proper) :
    disk.Contributes extensions paths files warnings
      ↔ (paths.map (disk.select extensions)).flatMap Selection.paths = files
        ∧ (paths.map (disk.select extensions)).flatMap Command.selectionLog = warnings := by
  constructor
  · intro contributes
    induction contributes with
    | nil => exact ⟨rfl, rfl⟩
    | @directory path entries found _ _ _ isDirectory ascending complete _ inductionHypothesis =>
      have isProper := proper_of_get? proper isDirectory
      have same : (FileTree.directory entries).wanted extensions = found :=
        ascending_unique (FileTree.wanted_ascending isProper) ascending fun names =>
          (FileTree.mem_wanted_iff isProper).trans (complete names).symm
      obtain ⟨rfl, rfl⟩ := inductionHypothesis
      rw [List.map_cons, List.flatMap_cons, List.flatMap_cons, select, isDirectory]
      simp only [same]
      exact ⟨rfl, rfl⟩
    | file isFile _ inductionHypothesis =>
      obtain ⟨rfl, rfl⟩ := inductionHypothesis
      rw [List.map_cons, select, isFile]
      exact ⟨rfl, rfl⟩
    | missing nowhere _ inductionHypothesis =>
      obtain ⟨rfl, rfl⟩ := inductionHypothesis
      rw [List.map_cons, select, nowhere]
      exact ⟨rfl, rfl⟩
  · rintro ⟨rfl, rfl⟩
    induction paths with
    | nil => exact .nil
    | cons path rest inductionHypothesis =>
      rw [List.map_cons, List.flatMap_cons, List.flatMap_cons, select]
      cases found : disk.get? path with
      | none => exact .missing found inductionHypothesis
      | some tree =>
        cases tree with
        | file content => exact .file found inductionHypothesis
        | directory entries =>
          have isProper := proper_of_get? proper found
          exact .directory found (FileTree.wanted_ascending isProper)
            (fun _ => FileTree.mem_wanted_iff isProper) inductionHypothesis

/-- The selection of files is complete and exact. On every disk, and for every list of paths and of
extensions, the files and the warnings are what the paths contribute, path by path. The files that
a directory contributes are found on the disk where the names lead from the directory's path. So a
list of paths contributes what its parts contribute, one after the other. -/
theorem select_exact (proper : disk.root.Proper) (extensions : List Text) :
    (∀ (paths files : List Path) (warnings : List LogRecord),
      disk.Contributes extensions paths files warnings
        ↔ (paths.map (disk.select extensions)).flatMap Selection.paths = files
          ∧ (paths.map (disk.select extensions)).flatMap Command.selectionLog = warnings)
    ∧ (∀ (path : Path) (entries : List (Text × FileTree)) (names : List Text),
      disk.get? path = some (.directory entries) →
      (FileTree.directory entries).Selects extensions names →
      ∃ content, disk.get? (path.join names) = some (.file content))
    ∧ ∀ front back : List Path,
      ((front ++ back).map (disk.select extensions)).flatMap Selection.paths
        = (front.map (disk.select extensions)).flatMap Selection.paths
          ++ (back.map (disk.select extensions)).flatMap Selection.paths
      ∧ ((front ++ back).map (disk.select extensions)).flatMap Command.selectionLog
        = (front.map (disk.select extensions)).flatMap Command.selectionLog
          ++ (back.map (disk.select extensions)).flatMap Command.selectionLog := by
  refine ⟨fun paths files warnings => contributes_iff proper,
    fun path entries names isDirectory selects => ?_, fun front back => ?_⟩
  · obtain ⟨content, leads⟩ := selects.isFile
    obtain ⟨_, downwards⟩ := (proper_of_get? proper isDirectory).of_get? leads
    exact ⟨content, get?_join isDirectory leads downwards⟩
  · rw [List.map_append, List.flatMap_append, List.flatMap_append]
    exact ⟨rfl, rfl⟩

/-- Some documents, one of them below a directory of a tool. -/
def documents : FileTree :=
  ((((FileTree.directory []).put ["sub-x".toList, "e.md".toList] (.file [])).put
    ["sub".toList, "b.tar.MD".toList] (.file [])).put
    [".git".toList, "d.md".toList] (.file [])).put
    ["sub".toList, "c.txt".toList] (.file [])

theorem documents_proper : documents.Proper := by
  have empty : (FileTree.directory []).Proper := .directory List.nodup_nil nofun nofun
  have file : (FileTree.file []).Proper := .file []
  exact (((empty.put file (by decide)).put file (by decide)).put file (by decide)).put file
    (by decide)

/-- The order is that of the names and not of the paths as they are written, in which the hyphen
would come before the slash. -/
theorem select_exact_hyphen :
    let disk : Disk := ⟨documents, []⟩
    disk.root.Proper
    ∧ (["", "nope.md", "sub/c.txt"].map fun path =>
        disk.select [".md".toList] (.ofText path.toList)).flatMap Selection.paths
      = ["sub/b.tar.MD", "sub-x/e.md", "sub/c.txt"].map fun path => Path.ofText path.toList := by
  intro disk
  have here : disk.get? (.ofText []) = some (.directory documents.entries) := rfl
  have nowhere : disk.get? (.ofText "nope.md".toList) = none := rfl
  have isFile : disk.get? (.ofText "sub/c.txt".toList) = some (.file []) := rfl
  have wanted : ((FileTree.directory documents.entries).files.map (·.1)).filter
      (isWanted [".md".toList])
      = [["sub-x".toList, "e.md".toList], ["sub".toList, "b.tar.MD".toList]] := by decide +kernel
  have complete : ∀ names,
      names ∈ [["sub".toList, "b.tar.MD".toList], ["sub-x".toList, "e.md".toList]]
        ↔ (FileTree.directory documents.entries).Selects [".md".toList] names := by
    intro names
    have isProper : (FileTree.directory documents.entries).Proper := documents_proper
    rw [← FileTree.mem_filter_iff isProper, wanted]
    exact (List.Perm.swap _ _ []).mem_iff
  have contributes : disk.Contributes [".md".toList]
      [.ofText [], .ofText "nope.md".toList, .ofText "sub/c.txt".toList] _ _ :=
    .directory here (by decide +kernel) complete (.missing nowhere (.file isFile .nil))
  exact ⟨documents_proper,
    (((select_exact documents_proper [".md".toList]).1 _ _ _).1 contributes).1⟩

end Disk

end JapaneseSpacing
