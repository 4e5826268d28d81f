import LiveBuild.Build.Imports
import LiveBuild.Build.Lookup
import LiveBuild.Build.Options

/-!
# Transforms of sources

A transform turns the text of a source into code and the specifiers that the source imports. The one
that comes with the library leaves the text as it is.
-/

namespace LiveBuild

/-- What a transform is told beside the text. -/
structure SourceContext where
  /-- The source below the base directory, as if it were plain code. -/
  sourceFileName : String
  sourceRoot : String
  extra : TextTable String
deriving Inhabited, Repr

structure SourceOutput where
  code : String
  imports : List String
deriving Inhabited, Repr

inductive Transformed where
  | output (output : SourceOutput)
  | failure (message : String) (stack? : Option String)
  /-- The transform broke down, and with it the task that ran it. -/
  | crash
deriving Inhabited, Repr

abbrev SourceTransform := Path → String → SourceContext → Transformed

namespace SourceTransform

/-- Leave the text as it is and look for its imports. -/
def scan : SourceTransform := fun _ source _ => .output ⟨source, Imports.scan source⟩

end SourceTransform

namespace SourceContext

def ofSource {σ : Type} [FileStore σ] (store : σ) (o : BuildOptions) (source : Path) :
    SourceContext where
  sourceFileName :=
    (Lookup.relativeText? store o.baseDir (source.withExtension "js")).getD source.slashed
  sourceRoot := o.baseDir.text
  extra := o.extra

end SourceContext

end LiveBuild
