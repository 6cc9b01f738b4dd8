import GoIndex.Text.Letter

/-!
# Settings

What can be set: which files are scanned and how, and how many results are shown. Every setting has
a default. The texts of settings may have halves of characters in them.
-/

namespace GoIndex

open Text

/-- How a tree is scanned. -/
structure ScanSettings where
  sourceSuffix : Letters := .ofString ".go"
  testSuffix : Letters := .ofString "_test.go"
  skipDirs : List Letters := [.ofString "vendor"]
  rootMarker : Letters := .ofString "go.mod"
  maxSignatureLines : Int := 12
  deriving DecidableEq, Repr

/-- How many results are shown. -/
structure SearchSettings where
  defaultLimit : Int := 20
  highlightCount : Int := 12
  topicLimit : Int := 25
  deriving DecidableEq, Repr

/-- All settings. -/
structure Settings where
  scan : ScanSettings := {}
  search : SearchSettings := {}
  deriving DecidableEq, Repr

end GoIndex
