import LiveBuild.Pages.State

/-!
# What a bundling pass changed
-/

namespace LiveBuild

/-- Chunks by what became of them. All but the last set change the shape of a route or its error
state; a chunk that was only rehashed has new code. -/
structure PageChanges where
  added : TextSet := {}
  removed : TextSet := {}
  failed : TextSet := {}
  recovered : TextSet := {}
  rehashed : TextSet := {}
deriving DecidableEq, Repr, Inhabited

namespace PageChanges

/-- Chunks whose routes have to be loaded anew. -/
def reshaped (c : PageChanges) : TextSet :=
  ((c.added.union c.removed).union c.failed).union c.recovered

def isEmpty (c : PageChanges) : Bool :=
  c.added.isEmpty && c.removed.isEmpty && c.failed.isEmpty && c.recovered.isEmpty &&
    c.rehashed.isEmpty

end PageChanges

namespace PageState

/-- Compare the pages after two passes. A chunk that failed is not counted as rehashed. -/
def changes (previous current : PageState) : PageChanges where
  added := ⟨current.hashes.keys.filter fun name => !previous.hashes.contains name⟩
  removed := ⟨previous.hashes.keys.filter fun name => !current.hashes.contains name⟩
  failed := current.failed
  recovered := previous.failed.difference current.failed
  rehashed := ⟨(current.hashes.entries.filter fun entry =>
    ((previous.hashes.get? entry.1).any (· != entry.2)) && !current.failed.contains entry.1).map
      (·.1)⟩

def changesSince? (previous? : Option PageState) (current : PageState) : Option PageChanges :=
  previous?.map fun previous => previous.changes current

end PageState

end LiveBuild
