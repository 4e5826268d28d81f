import LiveBuild.Build.Lookup
import LiveBuild.Digest
import LiveBuild.Json.Decode
import LiveBuild.Json.Printer
import LiveBuild.Pages.State
import LiveBuild.Worker.Requester

/-!
# Records of whole builds

Next to the output directory a build leaves an identifier of its outputs and a record of what it has
produced. Both take the outputs in the order of their labels, not in that in which files were
finished.
-/

namespace LiveBuild

structure BuildRecord where
  buildId : String
  total : Nat
  /-- The digest of each output, by its path seen from the directory of the record. -/
  outputs : TextTable String
  errors : List String
deriving DecidableEq, Repr, Inhabited

namespace BuildRecord

def toJson (record : BuildRecord) : Json :=
  .object [("buildId", .text record.buildId), ("totalCompiledFiles", .nat record.total),
    ("outputs", record.outputs.toJson), ("errors", Json.strings record.errors)]

def ofJson? (j : Json) : Option BuildRecord := do
  match ← j.record? ["buildId", "totalCompiledFiles", "outputs", "errors"] with
  | [some buildId, some total, some outputs, some errors] =>
      return ⟨← buildId.text?, ← total.nat64?, ← TextTable.ofJson? outputs, ← errors.texts?⟩
  | _ => none

/-- The directory that the record of an output directory goes to. -/
def directory (outDir : Path) : Path :=
  match outDir.parent? with
  | some parent => if parent.isEmpty then outDir else parent
  | none => outDir

variable {σ : Type} [FileStore σ]

def outputEntry (store : σ) (outDir dest : Path) : Except Failure (String × String) := do
  let digest ← (Digest.ofFile store dest).mapError fun f =>
    f.within ("hashing build output " ++ Text.quoted dest.text)
  return ((Lookup.relativeText? store (directory outDir) dest).getD dest.text, digest)

def output? : BuildEvent → Option Path
  | .fileBuilt _ dest _ _ => some dest
  | _ => none

def errorMessage? : BuildEvent → Option String
  | .error _ message _ => some message
  | _ => none

/-- Take the digest of every output that a report names. -/
def collect (store : σ) (outDir : Path) (report : BuildSummary) : Except Failure BuildRecord := do
  let entries ← (report.built.filterMap output?).mapM (outputEntry store outDir)
  let outputs := TextTable.ofList entries
  return ⟨Digest.ofOutputs outputs, report.total, outputs, report.errors.filterMap errorMessage?⟩

def idFile : Path := "BUILD_ID"

def recordFile : Path := "build-stats.json"

/-- Write the identifier and the record; the answer is the directory that they went to. -/
def write (store : σ) (outDir : Path) (record : BuildRecord) : σ × Except Failure Path :=
  let directory := directory outDir
  match FileStore.write store (directory.join idFile) record.buildId.toUTF8 with
  | (store, .error f) => (store, .error f)
  | (store, .ok ()) =>
      let (store, result) :=
        FileStore.write store (directory.join recordFile) record.toJson.pretty.toUTF8
      (store, result.map fun _ => directory)

end BuildRecord

end LiveBuild
