import LiveBuild.Build.Record
import LiveBuild.Json.Parser
import LiveBuild.Pages.History
import LiveBuild.Pages.Update
import LiveBuild.Program.Watch

/-!
# Runs of the program

A run shows its settings, builds once, compares two bundling passes, or watches. All but the last
come to an end by themselves.
-/

namespace LiveBuild

structure Run where
  disk : Disk
  output : List String := []
  error : Option RunError := none
  logged : List LogLevel := []
deriving Inhabited

namespace Run

def exitCode (r : Run) : Nat := if r.error.isSome then 1 else 0

def complaint (r : Run) : Option String :=
  r.error.map fun e => "hotdag error: " ++ e.failure.report

/-- The levels of the log lines that get through a threshold. -/
def shownLevels (r : Run) (threshold : LogLevel) : List LogLevel :=
  LogLevel.all.filter fun level => r.logged.contains level && threshold.allows level

end Run

inductive Running where
  | ended (run : Run)
  | watching (run : WatchRun)
deriving Inhabited

namespace Program

/-- A path that is not there is reported, but unlike other failures it is not warned of. -/
def isWarned : BuildEvent → Bool
  | event@(.error (some path) _ _) =>
      event != BuildEvent.forFile path (.io path "no such file or directory")
  | _ => false

def reportOf (seen : Service.Observation) : Option (Except Failure BuildSummary) :=
  seen.finished.findSome? fun
    | (_, .report result) => some result
    | _ => none

/-- The levels of the log lines of a build: of its progress always, of its targets if there are any,
and of what was warned of. -/
def buildLevels (build : BuildSession Disk) (report : BuildSummary) : List LogLevel :=
  [.info, .debug] ++ (if build.register.size = 0 then [] else [.trace]) ++
    (if report.errors.any isWarned then [.warn] else [])

/-- Build once, print the events of the build, and leave its record. -/
def build (session : BuildSession Disk) (files : List Path) : Run :=
  let service := (Service.start session 0).connect (.live none true) false
  let (service, seen) := (service.buildFiles files).rest.observe
  let disk := service.build.store
  match reportOf seen with
  | none => { disk, error := some (.build (.other Requester.notRunning)) }
  | some (.error f) => { disk, error := some (.build (.other f)) }
  | some (.ok report) =>
      let run : Run := {
        disk
        output := (report.built ++ report.errors ++ [BuildEvent.built report.total]).map
          BuildEvent.line
        logged := buildLevels service.build report }
      let outDir := session.options.outDir
      match BuildRecord.collect disk outDir report with
      | .error f => { run with error := some (.build (.other f)) }
      | .ok stats =>
          let (disk, written) := BuildRecord.write disk outDir stats
          let error : Option Failure :=
            match written with
            | .error f => some f
            | .ok _ =>
                if report.isClean then none
                else some ⟨toString report.errors.length ++ " file(s) failed to compile", []⟩
          { run with disk, error := error.map fun f => .build (.other f) }

def readPass (disk : Disk) (path : Path) : Except RunError PassReport :=
  match disk.readText path with
  | .error f => .error (.build (.other f))
  | .ok text =>
      match Json.parse? text >>= PassReport.ofJson? with
      | some pass => .ok pass
      | none => .error (.malformedPass path)

def passLevels (pass : PassReport) : List LogLevel :=
  if !pass.errors.isEmpty then [.warn]
  else if pass.warnings.isEmpty then [.debug]
  else [.warn, .debug]

/-- The updates for two passes. Both are read before either is looked at. -/
def updates (settings : ReloadSettings) (previous current : PassReport) :
    List LogLevel × Except RunError (List LiveUpdate) :=
  match pageTest settings.pageChunkPattern with
  | .error e => ([], .error (.build e))
  | .ok isPage =>
      match ({} : PassHistory).advance isPage previous with
      | (_, .error e) => (passLevels previous, .error (.build e))
      | (history, .ok _) =>
          let levels := passLevels previous ++ passLevels current
          match (history.advance isPage current).2 with
          | .error e => (levels, .error (.build e))
          | .ok none => (levels, .ok [])
          | .ok (some diff) =>
              let rules : UpdateRules :=
                ⟨settings.routeRoot, TextSet.ofList settings.hardReloadRoutes⟩
              let updates := rules.updates diff
              (levels ++ if updates.isEmpty then [] else [.info], .ok updates)

/-- Compare two bundling passes, and print the updates for what changed. -/
def diff (disk : Disk) (settings : ReloadSettings) (previous current : Path) : Run :=
  let passes : Except RunError (PassReport × PassReport) := do
    return (← readPass disk previous, ← readPass disk current)
  match passes with
  | .error e => { disk, error := some e }
  | .ok (previous, current) =>
      let (logged, result) := updates settings previous current
      match result with
      | .error e => { disk, error := some e, logged }
      | .ok updates => { disk, output := updates.map fun n => n.toJson.compact, logged }

def logging (levels : List LogLevel) : Running → Running
  | .ended run => .ended { run with logged := levels ++ run.logged }
  | .watching run => .watching run

/-- Go on with the command of a run whose settings are known. -/
def proceed (disk : Disk) (c : Configuration) : Command → Running
  | .diff previous current => .ended (diff disk c.settings.reload previous current)
  | .build files =>
      match openBuild disk c with
      | .error e => .ended { disk, error := some (.build e) }
      | .ok session => .ended (build session files)
  | .watch files =>
      match openBuild disk c with
      | .error e => .ended { disk, error := some (.build e) }
      | .ok session => .watching (WatchRun.start session c.settings.watch.window files)

def start (disk : Disk) (line : CommandLine) : Running :=
  match configure disk line.config with
  | .error e => .ended { disk, error := some (.build e) }
  | .ok c =>
      logging (if c.isFound then [] else [.info])
        (if line.isDryRun then .ended { disk, output := c.lines, logged := [.debug] }
        else proceed disk c line.command)

end Program

end LiveBuild
