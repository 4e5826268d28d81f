import LiveBuild.Build.Error
import LiveBuild.Settings.Basic
import LiveBuild.Settings.Grammars

/-!
# Options of a build session
-/

namespace LiveBuild

inductive AssetTreatment where
  | copy
  | hashed
deriving DecidableEq, Repr, Inhabited

/-- How files that are no code are put out. -/
structure AssetPolicy where
  copy : List String
  hashed : List String
  staticPrefix : String
  publicPath : String
deriving Inhabited, Repr

def AssetPolicy.ofSettings (b : BuildSettings) : AssetPolicy :=
  ⟨b.copyAssets, b.hashedAssets, b.staticPrefix, b.publicPath⟩

/-- The treatment of an extension, given with its dot. -/
def AssetPolicy.treatmentOf? (policy : AssetPolicy) (extension : String) : Option AssetTreatment :=
  if policy.copy.contains extension then some .copy
  else if policy.hashed.contains extension then some .hashed
  else none

structure BuildOptions where
  baseDir : Path
  outDir : Path
  extensions : List String
  resolveExtensions : List String
  exclude : List Glob
  assets : AssetPolicy
  /-- Passed on to the transform of sources as they are. -/
  extra : TextTable String
deriving Inhabited

namespace BuildOptions

def readGlob (grammars : Grammars) (text : String) : Except BuildError Glob :=
  (grammars.glob text).mapError fun e =>
    .config ("invalid exclude glob " ++ Text.quoted text ++ ": " ++ e.messageFor text)

/-- Read the globs of paths that are never compiled, which are matched together. -/
def readExclude (grammars : Grammars) (texts : List String) : Except BuildError (List Glob) := do
  let globs ← texts.mapM (readGlob grammars)
  match grammars.conflict? globs with
  | none => return globs
  | some reason => throw (.config ("building exclude set: " ++ reason))

/-- The settings of a build for a base directory that is known to exist. A relative output directory
lies in it. -/
def ofSettings (settings : Settings) (baseDir : Path) (grammars : Grammars := {}) :
    Except BuildError BuildOptions := do
  let build := settings.build
  let exclude ← readExclude grammars build.exclude
  return {
    baseDir
    outDir :=
      if build.outDir.isAbsolute then build.outDir else (baseDir.join build.outDir).normalize
    extensions := build.extensions
    resolveExtensions := build.resolveExtensions
    exclude
    assets := AssetPolicy.ofSettings build
    extra := settings.transform.options }

/-- The path of an entry, which is given relative to the base directory. -/
def entryPath (o : BuildOptions) (entry : Path) : Path := (o.baseDir.join entry).normalize

def belowBase (o : BuildOptions) (p : Path) : Except BuildError Path :=
  match p.relativeTo? o.baseDir with
  | some rest => .ok rest
  | none => .error (.outsideBase p)

/-- Where the output of a file goes whose path below the base directory is given. -/
def placeFor (o : BuildOptions) (rest : Path) : Path := o.outDir.join rest

def codeOutput (o : BuildOptions) (rest : Path) : Path := (o.placeFor rest).withExtension "js"

def outputFor (o : BuildOptions) (source : Path) : Except BuildError Path :=
  (o.belowBase source).map o.codeOutput

/-- Whether a path below the base directory is never compiled. -/
def excludes (o : BuildOptions) (rest : Path) : Bool :=
  o.exclude.any fun glob => glob.matchesPath rest

end BuildOptions

end LiveBuild
