import LiveBuild.Build.Error
import LiveBuild.Pages.Changes
import LiveBuild.Settings.Grammars

/-!
# The history of bundling passes

The history keeps the pages as of the last two good passes. A pass with errors is refused and leaves
them as they are.
-/

namespace LiveBuild

structure PassHistory where
  previous : Option PageState := none
  current : Option PageState := none
deriving DecidableEq, Repr, Inhabited

namespace PassHistory

/-- Take a pass in, and compare it with the last good one. -/
def advance (h : PassHistory) (isPage : String → Bool) (pass : PassReport) :
    PassHistory × Except BuildError (Option PageChanges) :=
  if pass.errors.isEmpty then
    let state := pass.pageState isPage
    (⟨h.current, some state⟩, .ok (PageState.changesSince? h.current state))
  else
    (h, .error (.aborted pass.errors))

end PassHistory

def pageTest (pattern : String) (grammars : Grammars := {}) :
    Except BuildError (String → Bool) :=
  match grammars.pattern? pattern with
  | some p => .ok p.occursInText
  | none => .error (.config "invalid page chunk pattern")

end LiveBuild
