import LiveBuild.Settings.Basic
import LiveBuild.Toml.Parser

/-!
# Reading settings

A section is a table of its settings, none of them unknown, or an array of them in order. What is
left out takes its default.
-/

namespace LiveBuild

open Toml (Node)

namespace Toml

def text? : Toml → Option String
  | text s => some s
  | _ => none

def texts? : Toml → Option (List String)
  | array items => items.mapM text?
  | _ => none

def nat64? : Toml → Option Nat
  | integer (.ofNat n) => if n < UInt64.size then some n else none
  | _ => none

def textTable? : Toml → Option (TextTable String)
  | table entries => do
      return TextTable.ofList (← entries.mapM fun entry => do return (entry.1, ← entry.2.text?))
  | _ => none

def section? (names : List String) : Toml → Option (List (Option Toml))
  | table entries =>
      if entries.all fun entry => names.contains entry.1 then
        some (names.map fun name =>
          (entries.find? fun entry => entry.1 == name).map (·.2))
      else
        none
  | array items => some ((items.map some ++ List.replicate names.length none).take names.length)
  | _ => none

def settingOr {α : Type} (read : Toml → Option α) (default : α) : Option Toml → Option α
  | none => some default
  | some value => read value

end Toml

open Toml

namespace BuildSettings

def ofToml? (t : Toml) : Option BuildSettings := do
  let d : BuildSettings := {}
  match ← t.section? ["base_dir", "out_dir", "extensions", "resolve_extensions", "exclude",
      "copy_assets", "hashed_assets", "static_prefix", "public_path"] with
  | [baseDir, outDir, extensions, resolveExtensions, exclude, copyAssets, hashedAssets,
      staticPrefix, publicPath] =>
      let path? (t : Toml) : Option Path := t.text?.map Path.ofString
      return {
        baseDir := ← settingOr path? d.baseDir baseDir
        outDir := ← settingOr path? d.outDir outDir
        extensions := ← settingOr texts? d.extensions extensions
        resolveExtensions := ← settingOr texts? d.resolveExtensions resolveExtensions
        exclude := ← settingOr texts? d.exclude exclude
        copyAssets := ← settingOr texts? d.copyAssets copyAssets
        hashedAssets := ← settingOr texts? d.hashedAssets hashedAssets
        staticPrefix := ← settingOr text? d.staticPrefix staticPrefix
        publicPath := ← settingOr text? d.publicPath publicPath }
  | _ => none

end BuildSettings

def WatchSettings.ofToml? (t : Toml) : Option WatchSettings := do
  match ← t.section? ["debounce_ms"] with
  | [window] => return ⟨← settingOr nat64? ({} : WatchSettings).window window⟩
  | _ => none

def ReloadSettings.ofToml? (t : Toml) : Option ReloadSettings := do
  let d : ReloadSettings := {}
  match ← t.section? ["route_root", "page_chunk_pattern", "hard_reload_routes"] with
  | [routeRoot, pattern, routes] =>
      return ⟨← settingOr text? d.routeRoot routeRoot, ← settingOr text? d.pageChunkPattern pattern,
        ← settingOr texts? d.hardReloadRoutes routes⟩
  | _ => none

def TransformSettings.ofToml? (t : Toml) : Option TransformSettings := do
  match ← t.section? ["options"] with
  | [options] => return ⟨← settingOr textTable? {} options⟩
  | _ => none

namespace Settings

def ofToml? (t : Toml) : Option Settings := do
  match ← t.section? ["build", "watch", "reload", "transform"] with
  | [build, watch, reload, transform] =>
      return ⟨← settingOr BuildSettings.ofToml? {} build,
        ← settingOr WatchSettings.ofToml? {} watch,
        ← settingOr ReloadSettings.ofToml? {} reload,
        ← settingOr TransformSettings.ofToml? {} transform⟩
  | _ => none

def read? (text : String) : Option Settings := Toml.parse? text >>= ofToml?

end Settings

end LiveBuild
