import JapaneseSpacing.Proofs.Files.Disk
import Mathlib.Data.List.Nodup

/-!
# Listing a tree

Listing a tree gives each of its files once, with the names that lead to it
(`Proper.mem_files_iff`, `Proper.files_distinct`), and these names lead there from wherever the
tree is found on a disk (`Disk.get?_join`).
-/

namespace JapaneseSpacing

namespace FileTree

/-- A tree as it stands on a disk: the entries of a directory have different names, and none of
them is the name for the directory above. -/
inductive Proper : FileTree → Prop
  | file (content : List UInt8) : Proper (.file content)
  | directory {entries : List (Text × FileTree)} (distinct : (entries.map (·.1)).Nodup)
      (downwards : ∀ entry ∈ entries, entry.1 ≠ ['.', '.'])
      (below : ∀ entry ∈ entries, Proper entry.2) : Proper (.directory entries)

variable {tree below item : FileTree} {entries : List (Text × FileTree)} {name : Text}
  {names rest : List Text} {content : List UInt8}

theorem mem_of_lookup (found : entries.lookup name = some below) : (name, below) ∈ entries := by
  obtain ⟨front, back, rfl, _⟩ := List.lookup_eq_some_iff.1 found
  simp

/-- Where names are different, every entry is found by its name. -/
theorem lookup_of_mem (distinct : (entries.map (·.1)).Nodup) (member : (name, below) ∈ entries) :
    entries.lookup name = some below := by
  obtain ⟨front, back, rfl⟩ := List.append_of_mem member
  refine List.lookup_eq_some_iff.2 ⟨front, back, rfl, fun entry isEntry => ?_⟩
  rw [List.map_append, List.map_cons, List.nodup_append] at distinct
  rw [bne_iff_ne]
  exact (distinct.2.2 entry.1 (List.mem_map_of_mem isEntry) name List.mem_cons_self).symm

theorem filesOfEntries_eq (entries : List (Text × FileTree)) :
    filesOfEntries entries = entries.flatMap fun entry =>
      entry.2.files.map fun (names, content) => (entry.1 :: names, content) := by
  induction entries with
  | nil => rw [filesOfEntries, List.flatMap_nil]
  | cons entry rest inductionHypothesis =>
    rw [filesOfEntries, List.flatMap_cons, inductionHypothesis]

/-- A file below a directory is a file of one of its entries. -/
theorem mem_filesOfEntries_iff :
    (name :: rest, content) ∈ filesOfEntries entries
      ↔ ∃ below, (name, below) ∈ entries ∧ (rest, content) ∈ below.files := by
  rw [filesOfEntries_eq, List.mem_flatMap]
  constructor
  · rintro ⟨⟨_, below⟩, isEntry, member⟩
    obtain ⟨⟨_, _⟩, isFile, same⟩ := List.mem_map.1 member
    cases same
    exact ⟨below, isEntry, isFile⟩
  · rintro ⟨below, isEntry, isFile⟩
    exact ⟨(name, below), isEntry, List.mem_map.2 ⟨(rest, content), isFile, rfl⟩⟩

/-- No file below a directory is the directory itself. -/
theorem ne_nil_of_mem_filesOfEntries (member : (names, content) ∈ filesOfEntries entries) :
    names ≠ [] := by
  rintro rfl
  rw [filesOfEntries_eq, List.mem_flatMap] at member
  obtain ⟨entry, _, member⟩ := member
  obtain ⟨_, _, same⟩ := List.mem_map.1 member
  cases same

/-- The files that are listed are those that names lead to. -/
theorem Proper.mem_files_iff (proper : tree.Proper) :
    (names, content) ∈ tree.files ↔ tree.get? names = some (.file content) := by
  induction names generalizing tree with
  | nil =>
    cases tree with
    | file found => simp [files, get?, eq_comm]
    | directory entries =>
      rw [files, get?]
      constructor
      · exact fun member => absurd rfl (ne_nil_of_mem_filesOfEntries member)
      · intro found
        cases found
  | cons name rest inductionHypothesis =>
    cases proper with
    | file found => simp [files, get?, FileTree.entries]
    | @directory entries distinct _ isProper =>
      rw [files, mem_filesOfEntries_iff]
      constructor
      · rintro ⟨below, isEntry, isFile⟩
        rw [get?, FileTree.entries, lookup_of_mem distinct isEntry]
        exact (inductionHypothesis (isProper _ isEntry)).1 isFile
      · intro found
        obtain ⟨below, isFound, leads⟩ := exists_entry found
        have isEntry := mem_of_lookup isFound
        exact ⟨below, isEntry, (inductionHypothesis (isProper _ isEntry)).2 leads⟩

/-- Each file is listed once. -/
theorem Proper.files_distinct (proper : tree.Proper) : (tree.files.map (·.1)).Nodup := by
  induction proper with
  | file content => simp [files]
  | @directory entries distinct _ _ inductionHypothesis =>
    have shape : (filesOfEntries entries).map (·.1)
        = entries.flatMap fun entry => (entry.2.files.map (·.1)).map (entry.1 :: ·) := by
      rw [filesOfEntries_eq, List.map_flatMap]
      simp only [List.map_map]
      rfl
    rw [files, shape, List.nodup_flatMap]
    refine ⟨fun entry isEntry => ?_, ?_⟩
    · exact (inductionHypothesis entry isEntry).map (List.cons_injective)
    · refine (List.pairwise_map.1 distinct).imp fun differ names inFirst inSecond => ?_
      obtain ⟨_, _, rfl⟩ := List.mem_map.1 inFirst
      obtain ⟨_, _, same⟩ := List.mem_map.1 inSecond
      exact differ (List.cons.inj same).1.symm

/-- What names lead to in a tree is a tree as well, and no name leads upwards. -/
theorem Proper.of_get? (proper : tree.Proper) (found : tree.get? names = some below) :
    below.Proper ∧ ['.', '.'] ∉ names := by
  induction names generalizing tree with
  | nil =>
    cases found
    exact ⟨proper, List.not_mem_nil⟩
  | cons name rest inductionHypothesis =>
    obtain ⟨next, isNext, leads⟩ := exists_entry found
    have isEntry := mem_of_lookup isNext
    cases proper with
    | file content => cases isEntry
    | directory _ downwards isProper =>
      obtain ⟨isBelow, onwards⟩ := inductionHypothesis (isProper _ isEntry) leads
      rw [List.mem_cons, not_or]
      exact ⟨isBelow, (downwards _ isEntry).symm, onwards⟩

/-! ## Putting trees together -/

theorem mem_setEntry {entry : Text × FileTree} (member : entry ∈ setEntry name item entries) :
    entry = (name, item) ∨ entry ∈ entries := by
  induction entries with
  | nil => exact .inl (List.mem_singleton.1 member)
  | cons first rest inductionHypothesis =>
    rw [setEntry] at member
    split at member
    · exact (List.mem_cons.1 member).imp id (List.mem_cons_of_mem first)
    · rcases List.mem_cons.1 member with isFirst | behind
      · exact .inr (isFirst ▸ List.mem_cons_self)
      · exact (inductionHypothesis behind).imp id (List.mem_cons_of_mem first)

theorem setEntry_distinct (distinct : (entries.map (·.1)).Nodup) :
    ((setEntry name item entries).map (·.1)).Nodup := by
  induction entries with
  | nil => exact List.nodup_singleton name
  | cons first rest inductionHypothesis =>
    rw [List.map_cons, List.nodup_cons] at distinct
    rw [setEntry]
    split
    · next isName =>
      subst isName
      exact List.nodup_cons.2 distinct
    · next notName =>
      refine List.nodup_cons.2 ⟨fun member => ?_, inductionHypothesis distinct.2⟩
      obtain ⟨entry, isEntry, same⟩ := List.mem_map.1 member
      rcases mem_setEntry isEntry with rfl | isOther
      · exact notName same.symm
      · exact distinct.1 (List.mem_map.2 ⟨entry, isOther, same⟩)

/-- A tree stays proper when a proper one is put into it, if no name leads upwards. -/
theorem Proper.put (proper : tree.Proper) (isItem : item.Proper) (downwards : ['.', '.'] ∉ names) :
    (tree.put names item).Proper := by
  induction names generalizing tree with
  | nil => exact isItem
  | cons name rest inductionHypothesis =>
    rw [List.mem_cons, not_or] at downwards
    obtain ⟨distinct, downwardsBefore, properBefore⟩ : (tree.entries.map (·.1)).Nodup
        ∧ (∀ entry ∈ tree.entries, entry.1 ≠ ['.', '.'])
        ∧ ∀ entry ∈ tree.entries, entry.2.Proper := by
      cases proper with
      | file content => exact ⟨List.nodup_nil, nofun, nofun⟩
      | directory distinct downwards below => exact ⟨distinct, downwards, below⟩
    have belowProper : ((tree.entries.lookup name).getD (FileTree.directory [])).Proper := by
      cases found : tree.entries.lookup name with
      | none => exact .directory List.nodup_nil nofun nofun
      | some next => exact properBefore _ (mem_of_lookup found)
    refine .directory (setEntry_distinct distinct) (fun entry member => ?_) fun entry member => ?_
    · rcases mem_setEntry member with rfl | before
      · exact Ne.symm downwards.1
      · exact downwardsBefore entry before
    · rcases mem_setEntry member with rfl | before
      · exact inductionHypothesis belowProper downwards.2
      · exact properBefore entry before

/-! ## Trees on a disk -/

theorem get?_append (front back : List Text) (found : tree.get? front = some below) :
    tree.get? (front ++ back) = below.get? back := by
  induction front generalizing tree with
  | nil =>
    cases found
    rfl
  | cons name rest inductionHypothesis =>
    obtain ⟨next, isNext, leads⟩ := exists_entry found
    rw [List.cons_append, get?, isNext]
    exact inductionHypothesis leads

theorem follow_append {here reached front : List Text} (back : List Text)
    (follows : tree.follow here front = .ok reached) :
    tree.follow here (front ++ back) = tree.follow reached back := by
  induction front generalizing here with
  | nil =>
    cases follows
    rfl
  | cons name rest inductionHypothesis =>
    rw [follow] at follows
    rw [List.cons_append, follow]
    split at follows
    · split at follows
      · next isAbove =>
        simp only [if_pos isAbove]
        exact inductionHypothesis follows
      · next isBelow =>
        simp only [if_neg isBelow]
        exact inductionHypothesis follows
    · cases follows
    · cases follows

/-- Names that lead somewhere in a tree lead there from where the tree is. -/
theorem follow_downwards {root : FileTree} {here : List Text} (isHere : root.get? here = some tree)
    (leads : tree.get? names = some item) (downwards : ['.', '.'] ∉ names) :
    root.follow here names = .ok (here ++ names) := by
  induction names generalizing here tree with
  | nil => rw [follow, List.append_nil]
  | cons name rest inductionHypothesis =>
    rw [List.mem_cons, not_or] at downwards
    obtain ⟨next, isNext, further⟩ := exists_entry leads
    cases tree with
    | file content => cases isNext
    | directory entries =>
      have isBelow : root.get? (here ++ [name]) = some next := by
        rw [get?_append here [name] isHere, get?, isNext]
        rfl
      rw [follow, isHere]
      simp only [if_neg (Ne.symm downwards.1)]
      rw [inductionHypothesis isBelow further downwards.2, List.append_assoc, List.singleton_append]

end FileTree

/-- What names lead to in the tree at a path is what the path leads to with these names. -/
theorem Disk.get?_join {disk : Disk} {path : Path} {tree item : FileTree} {names : List Text}
    (isTree : disk.get? path = some tree) (leads : tree.get? names = some item)
    (downwards : ['.', '.'] ∉ names) : disk.get? (path.join names) = some item := by
  rw [Disk.get?] at isTree
  split at isTree
  · next here located =>
    have onwards : disk.locate (path.join names) = .ok (here ++ names) := by
      rw [← FileTree.follow_downwards isTree leads downwards]
      exact FileTree.follow_append names located
    rw [Disk.get?, onwards]
    exact (FileTree.get?_append here names isTree).trans leads
  · cases isTree

end JapaneseSpacing
