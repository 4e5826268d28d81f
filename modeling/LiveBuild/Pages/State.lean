import LiveBuild.Json.Decode
import LiveBuild.Pattern.Parser
import LiveBuild.Text.Table

/-!
# Pages after a bundling pass

A pass reports the chunks that a bundler produced, with a digest each, and those that failed. The
state of the pages keeps of it what concerns them.
-/

namespace LiveBuild

structure PassReport where
  chunks : TextTable String := {}
  failedChunks : List String := []
  errors : List String := []
  warnings : List String := []
deriving DecidableEq, Repr, Inhabited

structure PageState where
  hashes : TextTable String := {}
  failed : TextSet := {}
deriving DecidableEq, Repr, Inhabited

/-- A table as an object, its names in order. -/
def TextTable.toJson (t : TextTable String) : Json :=
  .object (t.entries.map fun entry => (entry.1, .text entry.2))

def TextTable.ofJson? (j : Json) : Option (TextTable String) :=
  j.textTable?.map TextTable.ofList

def TextSet.toJson (s : TextSet) : Json := Json.strings s.items

def TextSet.ofJson? (j : Json) : Option TextSet := j.texts?.map TextSet.ofList

namespace PassReport

def toJson (pass : PassReport) : Json :=
  .object [("chunks", pass.chunks.toJson), ("failedChunks", Json.strings pass.failedChunks),
    ("errors", Json.strings pass.errors), ("warnings", Json.strings pass.warnings)]

/-- Every field of a pass may be left out. -/
def ofJson? (j : Json) : Option PassReport := do
  let list? (value? : Option Json) : Option (List String) :=
    match value? with
    | none => some []
    | some value => value.texts?
  match ← j.record? ["chunks", "failedChunks", "errors", "warnings"] with
  | [chunks?, failed?, errors?, warnings?] =>
      let chunks ← match chunks? with
        | none => some {}
        | some chunks => TextTable.ofJson? chunks
      return ⟨chunks, ← list? failed?, ← list? errors?, ← list? warnings?⟩
  | _ => none

def pageState (pass : PassReport) (isPage : String → Bool) : PageState :=
  ⟨pass.chunks.filter isPage, TextSet.ofList (pass.failedChunks.filter isPage)⟩

end PassReport

namespace PageState

/-- Whether a chunk was produced, failed or not. -/
def contains (s : PageState) (name : String) : Bool := s.hashes.contains name

def toJson (s : PageState) : Json :=
  .object [("hashes", s.hashes.toJson), ("failed", s.failed.toJson)]

def ofJson? (j : Json) : Option PageState := do
  match ← j.record? ["hashes", "failed"] with
  | [some hashes, some failed] => return ⟨← TextTable.ofJson? hashes, ← TextSet.ofJson? failed⟩
  | _ => none

end PageState

end LiveBuild
