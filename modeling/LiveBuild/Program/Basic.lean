import LiveBuild.Build.Session
import LiveBuild.CommandLine
import LiveBuild.Files.Disk
import LiveBuild.Settings.Checks

/-!
# Beginning a run

Every run of the program begins with its settings. They come from a file that is named on the
command line and has to be there, or from the one in the working directory if there is one, or are
the defaults.
-/

namespace LiveBuild

inductive RunError where
  | build (e : BuildError)
  /-- A file does not hold a bundling pass. -/
  | malformedPass (path : Path)
deriving Repr, Inhabited

def RunError.failure : RunError → Failure
  | build e => e.failure
  | malformedPass path => ⟨"parsing bundling pass " ++ Text.quoted path.text, []⟩

namespace Program

def version : String := "hotdag 0.1.0"

/-- Where settings are looked for when no other file is named. -/
def defaultSettings : Path := "Hotdag.toml"

/-- The settings of a run, and the file that they come from or would come from. -/
structure Configuration where
  path : Path
  settings : Settings
  isFound : Bool
deriving Inhabited

def readSettings (disk : Disk) (path : Path) : Except BuildError Configuration :=
  match disk.text path with
  | .error e => .error (.io path e.message)
  | .ok text => (Settings.ofText text).map fun settings => ⟨path, settings, true⟩

def configure (disk : Disk) (path? : Option Path) : Except BuildError Configuration :=
  match path? with
  | some path => readSettings disk path
  | none =>
      if FileStore.exists? disk defaultSettings then readSettings disk defaultSettings
      else .ok ⟨defaultSettings, {}, false⟩

/-- The directory that relative paths in the settings are seen from: that of their file. -/
def Configuration.root (c : Configuration) (disk : Disk) : Path :=
  match c.path.parent? with
  | some parent => if parent.isEmpty then Disk.pathOf disk.working else parent
  | none => Disk.pathOf disk.working

/-- A session for the base directory, which has to be there. -/
def openBuild (disk : Disk) (c : Configuration) : Except BuildError (BuildSession Disk) := do
  let base := (c.root disk).join c.settings.build.baseDir
  match disk.canonicalize base with
  | .error f => throw (.other (f.within ("resolving base_dir " ++ Text.quoted base.text)))
  | .ok base =>
      let options ← BuildOptions.ofSettings c.settings base
      return BuildSession.start disk options SourceTransform.scan

def shown (text : String) : String := Text.quoted text

def shownList (texts : List String) : String := "[" ++ ", ".intercalate (texts.map shown) ++ "]"

def Configuration.lines (c : Configuration) : List String :=
  let b := c.settings.build
  let r := c.settings.reload
  let options := c.settings.transform.options
  ["hotdag dry-run (" ++ c.path.text ++ ")",
    "[build]",
    "  base_dir = " ++ shown b.baseDir.text,
    "  out_dir = " ++ shown b.outDir.text,
    "  extensions = " ++ shownList b.extensions,
    "  resolve_extensions = " ++ shownList b.resolveExtensions,
    "  exclude = " ++ shownList b.exclude,
    "  copy_assets = " ++ shownList b.copyAssets,
    "  hashed_assets = " ++ shownList b.hashedAssets,
    "  static_prefix = " ++ shown b.staticPrefix,
    "  public_path = " ++ shown b.publicPath,
    "[watch]",
    "  debounce_ms = " ++ toString c.settings.watch.window,
    "[reload]",
    "  route_root = " ++ shown r.routeRoot,
    "  page_chunk_pattern = " ++ shown r.pageChunkPattern,
    "  hard_reload_routes = " ++ shownList r.hardReloadRoutes] ++
  if options.isEmpty then []
  else "[transform.options]" ::
    options.entries.map fun entry => "  " ++ entry.1 ++ " = " ++ shown entry.2

end Program

end LiveBuild
