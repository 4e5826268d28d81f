import LiveBuild.Program.Run

/-!
# The command line program

Files are read into a disk before a run, and what the run has written is put in their place
afterwards. A run that watches looks at the watched directories over and over.
-/

namespace LiveBuild.Main

/-- Put into a disk what lies at a path, and below it where that is a directory and is looked
into. -/
partial def load (disk : Disk) (path : Path) (isDeep : Bool) : IO Disk := do
  try
    let found ← IO.FS.realPath path.text
    let place := (Path.ofString found.toString).components.filterMap fun
      | .name name => some name
      | _ => none
    let above := (List.range place.length).map place.take
    let disk := above.foldl (fun disk place => disk.put place .directory) disk
    if ← found.isDir then
      let disk := disk.put place .directory
      if isDeep then
        let mut disk := disk
        for entry in ← found.readDir do
          disk ← load disk (Path.ofString entry.path.toString) true
        return disk
      else
        return disk
    else
      return disk.put place (.file (← IO.FS.readBinFile found))
  catch _ => return disk

/-- The paths that a command names, seen from the directory that they are relative to. -/
def named (base : Path) : Command → List Path
  | .build files => files.map base.join
  | .watch files => files.map base.join
  | .diff previous current => [previous, current]

def prepare (line : CommandLine) : IO Disk := do
  let working := Path.ofString (← IO.currentDir).toString
  let place := working.components.filterMap fun
    | .name name => some name
    | _ => none
  let disk ← load { working := place } working true
  let disk ← load disk (line.config.getD Program.defaultSettings) false
  match Program.configure disk line.config with
  | .error _ => return disk
  | .ok c =>
      let base := (c.root disk).join c.settings.build.baseDir
      let disk ← if base.startsWith working then pure disk else load disk base true
      (named base line.command).foldlM (fun disk path => load disk path false) disk

def save (before after : Disk) : IO Unit := do
  let old := before.files
  for (place, content) in after.files do
    unless old.any fun file => file.1 == place && file.2.toList == content.toList do
      IO.FS.createDirAll (Disk.pathOf place.dropLast).text
      IO.FS.writeBinFile (Disk.pathOf place).text content

/-- What has happened in a watched directory since the run last looked at it. -/
def editsIn (disk : Disk) (directory : Disk.Place) : IO (List Disk.Edit) := do
  let now ← load {} (Disk.pathOf directory) false
  let mut now := now
  for entry in ← (← IO.FS.realPath (Disk.pathOf directory).text).readDir do
    now ← load now (Path.ofString entry.path.toString) false
  let isHere (file : Disk.Place × ByteArray) : Bool := file.1.dropLast == directory
  let old := disk.files.filter isHere
  let new := now.files.filter isHere
  let written := new.filter fun file =>
    !old.any fun other => other.1 == file.1 && other.2.toList == file.2.toList
  let gone := old.filter fun file => !new.any fun other => other.1 == file.1
  return written.map (fun file => .write (Disk.pathOf file.1) file.2) ++
    gone.map fun file => .remove (Disk.pathOf file.1)

partial def watch (w : WatchRun) (printed : Nat) : IO Unit := do
  for line in w.output.drop printed do
    IO.println line
  (← IO.getStdout).flush
  IO.sleep 10
  let edits ← w.watcher.watches.flatMapM fun entry => editsIn w.disk entry.1
  let next := (edits.foldl WatchRun.edit w).wait 10
  save (edits.foldl (fun disk e => (disk.edit e).1) w.disk) next.disk
  watch next w.output.length

def usage : String :=
  "Usage: hotdag [--config PATH] [--log-level LEVEL] [--dry-run] <COMMAND>\n\n" ++
    "Commands:\n" ++
    "  build [FILES]...           Compile the entries once\n" ++
    "  watch [FILES]...           Compile the entries, then again on every change\n" ++
    "  diff <PREVIOUS> <CURRENT>  Print the notifications for two bundling passes\n\n" ++
    "Levels: error, warn, info, debug, trace"

def advise : UsageError → IO UInt32
  | .help => do IO.println usage; return 0
  | .version => do IO.println Program.version; return 0
  | _ => do IO.eprintln usage; return 2

def finish (before : Disk) (run : Run) (threshold : LogLevel) : IO UInt32 := do
  for level in run.shownLevels threshold do
    IO.eprintln (level.label ++ " hotdag")
  for line in run.output do
    IO.println line
  save before run.disk
  match run.complaint with
  | some complaint => IO.eprintln complaint
  | none => pure ()
  return run.exitCode.toUInt32

end LiveBuild.Main

def main (arguments : List String) : IO UInt32 := do
  match LiveBuild.CommandLine.parse arguments with
  | .error e => LiveBuild.Main.advise e
  | .ok line =>
      let disk ← LiveBuild.Main.prepare line
      match LiveBuild.Program.start disk line with
      | .ended run =>
          let threshold := LiveBuild.LogLevel.threshold line.logLevel (← IO.getEnv "HOTDAG_LOG")
          LiveBuild.Main.finish disk run threshold
      | .watching run =>
          LiveBuild.Main.save disk run.disk
          LiveBuild.Main.watch run 0
          return 0
