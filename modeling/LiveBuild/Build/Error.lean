import LiveBuild.Failure
import LiveBuild.Path.Basic
import LiveBuild.Text.Quoted

/-!
# Why a build fails
-/

namespace LiveBuild

inductive BuildError where
  | config (message : String)
  | input (message : String)
  | io (path : Path) (message : String)
  | resolution (specifier : String) (importer : Path)
  | transform (path : Path) (message : String) (stack? : Option String)
  | outsideBase (path : Path)
  | aborted (errors : List String)
  | malformedConfig
  | other (failure : Failure)
deriving Repr, Inhabited

namespace BuildError

def message : BuildError → String
  | config message => "Configuration error: " ++ message
  | input message => "IO error: " ++ message
  | io path message => "IO error on " ++ Text.quoted path.text ++ ": " ++ message
  | resolution specifier importer =>
      "Unable to find import \"" ++ specifier ++ "\" in " ++ Text.quoted importer.text
  | transform _ message _ => "transform failed: " ++ message
  | outsideBase path =>
      Text.quoted path.text ++ " is outside the configured base directory"
  | aborted errors =>
      "Bundling pass failed with " ++ toString errors.length ++ " error(s): " ++
        "; ".intercalate errors
  | malformedConfig => "the configuration file is malformed"
  | other failure => failure.message

def failure : BuildError → Failure
  | other failure => failure
  | e => ⟨e.message, []⟩

end BuildError

end LiveBuild
