import LiveBuild.Build.Error
import LiveBuild.Settings.Grammars
import LiveBuild.Settings.Reader

/-!
# Checking settings

Settings are usable when every extension looks like one, every asset extension is allowed and has
one treatment, every glob and pattern can be read, and the window and the routes make sense. The
checks run in a fixed order, and the first that fails is reported.
-/

namespace LiveBuild.Settings

def isExtension (extension : String) : Bool :=
  extension.toList.head? == some '.' && decide (2 ≤ extension.utf8ByteSize)

def firstError {α : Type} (check : α → Option String) (items : List α) : Option String :=
  items.findSome? check

def extensionError (field : String) (extensions : List String) : Option String :=
  firstError (fun extension =>
    if isExtension extension then none
    else some ("[build]." ++ field ++ " entry '" ++ extension ++ "' must look like \".ext\""))
    extensions

def extensionsError (b : BuildSettings) : Option String :=
  extensionError "extensions" b.extensions <|>
    extensionError "resolve_extensions" b.resolveExtensions <|>
    extensionError "copy_assets" b.copyAssets <|>
    extensionError "hashed_assets" b.hashedAssets <|>
    if b.resolveExtensions.isEmpty then some "[build].resolve_extensions must not be empty"
    else none

def assetsError (b : BuildSettings) : Option String :=
  firstError (fun extension =>
    if !b.extensions.contains extension then
      some ("asset extension '" ++ extension ++ "' is not in [build].extensions")
    else if b.copyAssets.contains extension && b.hashedAssets.contains extension then
      some ("asset extension '" ++ extension ++ "' cannot be both copied and hashed")
    else none)
    (b.copyAssets ++ b.hashedAssets)

def excludeError (grammars : Grammars) (b : BuildSettings) : Option String :=
  firstError (fun text =>
    match grammars.glob text with
    | .ok _ => none
    | .error e =>
        some ("invalid [build].exclude glob '" ++ text ++ "': " ++ e.messageFor text))
    b.exclude

def watchError (w : WatchSettings) : Option String :=
  if w.window = 0 then some "[watch].debounce_ms must be >= 1 (got 0)" else none

def reloadError (grammars : Grammars) (r : ReloadSettings) : Option String :=
  if (grammars.pattern? r.pageChunkPattern).isNone then
    some "invalid [reload].page_chunk_pattern"
  else
    firstError (fun route =>
      if route.toList.head? == some '/' then none
      else some ("[reload].hard_reload_routes entry '" ++ route ++ "' must start with '/'"))
      r.hardReloadRoutes

def fault? (s : Settings) (grammars : Grammars := {}) : Option String :=
  extensionsError s.build <|> assetsError s.build <|> excludeError grammars s.build <|>
    watchError s.watch <|> reloadError grammars s.reload

/-- The settings, if there is no fault in them. -/
def checked (s : Settings) (grammars : Grammars := {}) : Except BuildError Settings :=
  match s.fault? grammars with
  | none => .ok s
  | some message => .error (.config message)

def ofText (text : String) : Except BuildError Settings :=
  match read? text with
  | none => .error .malformedConfig
  | some settings => settings.checked

end LiveBuild.Settings
