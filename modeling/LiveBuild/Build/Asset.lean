import LiveBuild.Build.Options
import LiveBuild.Digest
import LiveBuild.Json.Printer

/-!
# Assets

A copied asset lands as it is at its place in the output directory, which has the same path there as
the asset has below the base directory. A hashed one lands in the output directory itself, under a
name that stands for its content, and its place gets a module with the address of that file.
-/

namespace LiveBuild.Asset

/-- The module that stands for a renamed file. -/
def shim (rules : AssetPolicy) (fileName : String) : String :=
  "module.exports = " ++ rules.publicPath ++ " + " ++
    (Json.text (rules.staticPrefix ++ fileName)).compact ++ ";\n"

variable {σ : Type} [FileStore σ]

def failedAt (p : Path) (f : Failure) : BuildError := .io p f.oneLine

def read (store : σ) (p : Path) : Except BuildError ByteArray :=
  (FileStore.read store p).mapError (failedAt p)

def write (store : σ) (p : Path) (content : ByteArray) : σ × Except BuildError Unit :=
  let (store, result) := FileStore.write store p content
  (store, result.mapError (failedAt p))

def copy (store : σ) (source dest : Path) : σ × Except BuildError Unit :=
  match read store source with
  | .error e => (store, .error e)
  | .ok content => write store dest content

/-- Write a renamed copy and the module for it; the answer is the path of the copy. -/
def hashed (store : σ) (rules : AssetPolicy) (source outDir dest : Path) :
    σ × Except BuildError Path :=
  match read store source with
  | .error e => (store, .error e)
  | .ok content =>
      let name := Digest.assetName content (source.suffix?.getD "")
      let renamed := outDir.join (Path.ofString name)
      match write store renamed content with
      | (store, .error e) => (store, .error e)
      | (store, .ok ()) =>
          let (store, result) := write store dest (shim rules name).toUTF8
          (store, result.map fun _ => renamed)

end LiveBuild.Asset
