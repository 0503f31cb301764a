import JapaneseSpacing.Document.Node

/-!
# Lint settings

Which text is left alone, whether links are checked, and which files a directory
contributes.
-/

namespace JapaneseSpacing

/-- The choices that a configuration can make. -/
structure Settings where
  /-- Text below a node of one of these types is not checked. -/
  skipNodes : List NodeType := [.link, .image, .blockQuote, .code, .codeBlock, .header]
  /-- Whether the outer boundaries of links are checked. -/
  checkLinks : Bool := true
  /-- The suffixes of the files to lint below a directory, lower-case and with their dot. -/
  extensions : List Text := [".md".toList, ".markdown".toList]
deriving Repr, DecidableEq

end JapaneseSpacing
