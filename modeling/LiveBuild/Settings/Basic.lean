import LiveBuild.Path.Basic
import LiveBuild.Text.Table

/-!
# Settings

Settings come in four sections, each of which has a default for everything it holds.
-/

namespace LiveBuild

/-- What is compiled, and where it goes. -/
structure BuildSettings where
  baseDir : Path := "."
  outDir : Path := ".hotdag/server"
  /-- Files with any other extension are skipped. -/
  extensions : List String := [".js", ".jsx", ".json", ".woff"]
  /-- The extensions that an import may leave out, in the order in which they are tried. -/
  resolveExtensions : List String := [".js", ".jsx"]
  /-- Globs of paths below the base directory that are never compiled. -/
  exclude : List String := ["**/__tests__/**", "**/node_modules/**"]
  copyAssets : List String := [".json"]
  hashedAssets : List String := [".woff"]
  staticPrefix : String := "_static/"
  /-- What stands before the address of a hashed asset in its module. -/
  publicPath : String := "__webpack_public_path__"
deriving Inhabited

structure WatchSettings where
  /-- How long a path has to be quiet, in milliseconds. -/
  window : Nat := 50
deriving Inhabited

structure ReloadSettings where
  routeRoot : String := "bundles/pages"
  /-- A pattern of the names of page chunks. -/
  pageChunkPattern : String := "^bundles[/\\\\]pages.*\\.js$"
  hardReloadRoutes : List String := ["/_error", "/_document"]
deriving Inhabited

structure TransformSettings where
  options : TextTable String := {}
deriving Inhabited

structure Settings where
  build : BuildSettings := {}
  watch : WatchSettings := {}
  reload : ReloadSettings := {}
  transform : TransformSettings := {}
deriving Inhabited

end LiveBuild
