import LiveBuild.Build.Asset
import LiveBuild.Build.Task
import LiveBuild.Build.Walk

/-!
# Build sessions

A session holds the files, the register and the tasks of every call made on it. One step carries out
the next stage of one task. Which task that is, is up to the scheduler: whatever is said of all runs
of a session is said of all orders of its tasks.
-/

namespace LiveBuild

structure BuildSession (σ : Type) where
  store : σ
  options : BuildOptions
  sourceTransform : SourceTransform
  register : Register := {}
  /-- No transformation goes on while this is set. -/
  held : Bool := false
  tasks : List BuildTask := []
  nextTask : Nat := 0
  nextCall : Nat := 0
  /-- Every event sent, with its addressee. -/
  sent : List (Addressee × BuildEvent) := []
  transformed : List Path := []

namespace BuildSession

variable {σ : Type}

def start (store : σ) (options : BuildOptions) (sourceTransform : SourceTransform) :
    BuildSession σ :=
  { store, options, sourceTransform }

instance [Inhabited σ] : Inhabited (BuildSession σ) :=
  ⟨start default default SourceTransform.scan⟩

/-- What can be asked of a session. -/
inductive Request where
  /-- Build entries one after the other, and report the end. -/
  | compile (entries : List Path)
  /-- Build a changed file again. -/
  | rebuild (path : Path)
  | handle (path : Path) (requester : Option Path)
deriving Repr, Inhabited

def Request.agenda : Request → BuildTask.Agenda
  | compile entries => .entries entries 0
  | _ => .single

def Request.stage : Request → BuildTask.Stage
  | compile _ => .done 0
  | rebuild path => .claim path
  | handle path requester => .visit path requester

/-- Make a call; its number identifies it later. -/
def call (s : BuildSession σ) (addressee : Addressee) (request : Request) : BuildSession σ × Nat :=
  let task : BuildTask :=
    ⟨s.nextTask, none, s.nextCall, addressee, request.agenda, request.stage⟩
  ({ s with tasks := s.tasks ++ [task], nextTask := s.nextTask + 1, nextCall := s.nextCall + 1 },
    s.nextCall)

def task? (s : BuildSession σ) (id : Nat) : Option BuildTask :=
  s.tasks.find? fun task => task.id == id

def setTask (s : BuildSession σ) (task : BuildTask) : BuildSession σ :=
  { s with tasks := s.tasks.map fun old => if old.id = task.id then task else old }

def setStage (s : BuildSession σ) (task : BuildTask) (stage : BuildTask.Stage) : BuildSession σ :=
  s.setTask { task with stage }

def spawn (s : BuildSession σ) (task : BuildTask) (stages : List BuildTask.Stage) :
    BuildSession σ :=
  let children := stages.mapIdx fun i stage =>
    (⟨s.nextTask + i, some task.id, task.call, task.addressee, .single, stage⟩ : BuildTask)
  { s with tasks := s.tasks ++ children, nextTask := s.nextTask + stages.length }

def send (s : BuildSession σ) (event : BuildEvent) (addressees : List Addressee) :
    BuildSession σ :=
  { s with sent := s.sent ++ addressees.map fun addressee => (addressee, event) }

/-- Report a path that failed to the request that came to it. -/
def refuse (s : BuildSession σ) (task : BuildTask) (path : Path) (e : BuildError) :
    BuildSession σ :=
  (s.send (.forFile path e) [task.addressee]).setStage task (.done 0)

section Stages

variable [FileStore σ]

def claim (s : BuildSession σ) (task : BuildTask) (path : Path) : BuildSession σ :=
  let (register, claim) := s.register.reopen path task.addressee
  let s := { s with register }
  match claim with
  | .started dest => s.setStage task (.read ⟨path, dest⟩)
  | .underway => s.setStage task (.done 0)
  | .unknown => s.setStage task (.visit path none)

def visitDirectory (s : BuildSession σ) (task : BuildTask) (path : Path) : BuildSession σ :=
  match Walk.files s.store s.options path with
  | .error e => s.refuse task path e
  | .ok files =>
      (s.setStage task (.gather none)).spawn task (files.map fun file => .visit file none)

def visitAsset (s : BuildSession σ) (task : BuildTask) (kind : AssetTreatment) (path rest : Path) :
    BuildSession σ :=
  let dest := s.options.placeFor rest
  let (store, result) : σ × Except BuildError Unit :=
    match kind with
    | .copy => Asset.copy s.store path dest
    | .hashed =>
        let (store, result) := Asset.hashed s.store s.options.assets path s.options.outDir dest
        (store, result.map fun _ => ())
  let s := { s with store }
  match result with
  | .ok () => s.setStage task (.done 1)
  | .error e => s.refuse task path e

def visitCode (s : BuildSession σ) (task : BuildTask) (path rest : Path)
    (requester : Option Path) : BuildSession σ :=
  let dest := s.options.codeOutput rest
  let (register, grant) := s.register.enroll path dest requester task.addressee
  let s := { s with register }
  match grant with
  | .joined => s.setStage task (.done 0)
  | .started => s.setStage task (.read ⟨path, dest⟩)

/-- Decide what a path is: missing, outside, excluded, a directory, an asset, code, or something
that is passed over. -/
def visit (s : BuildSession σ) (task : BuildTask) (path : Path) (requester : Option Path) :
    BuildSession σ :=
  if !FileStore.exists? s.store path then
    s.refuse task path (.io path "no such file or directory")
  else
    match s.options.belowBase path with
    | .error e => s.refuse task path e
    | .ok rest =>
        if s.options.excludes rest then
          s.setStage task (.done 0)
        else if FileStore.isDirectory s.store path then
          s.visitDirectory task path
        else
          match path.suffix? with
          | none => s.setStage task (.done 0)
          | some extension =>
              if !s.options.extensions.contains extension then
                s.setStage task (.done 0)
              else
                match s.options.assets.treatmentOf? extension with
                | some kind => s.visitAsset task kind path rest
                | none => s.visitCode task path rest requester

def read (s : BuildSession σ) (task : BuildTask) (job : BuildJob) : BuildSession σ :=
  match FileStore.readText s.store job.source with
  | .error f => s.setStage task (.finish job (.error (.io job.source f.oneLine)))
  | .ok text =>
      { s with transformed := s.transformed ++ [job.source] }.setStage task (.transform job text)

def transform (s : BuildSession σ) (task : BuildTask) (job : BuildJob) (text : String) :
    BuildSession σ :=
  match s.sourceTransform job.source text (.ofSource s.store s.options job.source) with
  | .output output => s.setStage task (.lookUp job output)
  | .failure message stack? =>
      s.setStage task (.finish job (.error (.transform job.source message stack?)))
  | .crash => s.setStage task .crashed

/-- The files that the local specifiers of a source name; all of them have to be found. -/
def dependencies (s : BuildSession σ) (source : Path) (specifiers : List String) :
    Except BuildError (List Path) :=
  (specifiers.filter Imports.isLocal).mapM fun specifier =>
    Lookup.find s.store source specifier s.options.resolveExtensions

def lookUp (s : BuildSession σ) (task : BuildTask) (job : BuildJob) (output : SourceOutput) :
    BuildSession σ :=
  match s.dependencies job.source output.imports with
  | .error e => s.setStage task (.finish job (.error e))
  | .ok files =>
      (s.setStage task (.gather (some (job, output.code)))).spawn task
        (files.map fun file => .visit file (some job.dest))

def children (s : BuildSession σ) (task : BuildTask) : List BuildTask :=
  s.tasks.filter fun child => child.parent == some task.id

/-- Go on once all tasks it started are finished. -/
def gather? (s : BuildSession σ) (task : BuildTask) (pending : Option (BuildJob × String)) :
    Option (BuildSession σ) := do
  let counts ← (s.children task).mapM BuildTask.count?
  let total := counts.foldl Nat.add 0
  let s := { s with tasks := s.tasks.filter fun child => child.parent != some task.id }
  match pending with
  | none => return s.setStage task (.done total)
  | some (job, code) => return s.setStage task (.write job code total)

def write (s : BuildSession σ) (task : BuildTask) (job : BuildJob) (code : String)
    (locals : Nat) : BuildSession σ :=
  let (store, result) := FileStore.write s.store job.dest code.toUTF8
  let result := (result.map fun _ => locals).mapError fun f => BuildError.io job.dest f.oneLine
  { s with store }.setStage task (.finish job result)

def finish (s : BuildSession σ) (task : BuildTask) (job : BuildJob)
    (result : Except BuildError Nat) : BuildSession σ :=
  match result with
  | .ok locals =>
      let (register, closing?) := s.register.close job.dest true
      let s := { s with register }
      let s := match closing? with
        | some closing =>
            s.send (.fileBuilt job.source job.dest locals closing.parents)
              closing.addressees
        | none => s
      s.setStage task (.done (locals + 1))
  | .error e =>
      let (register, closing?) := s.register.close job.dest false
      let s := { s with register }
      let addressees := match closing? with
        | some closing => closing.addressees
        | none => [task.addressee]
      (s.send (.forFile job.source e) addressees).setStage task (.done 0)

def proceed? (s : BuildSession σ) (task : BuildTask) (count : Nat) : Option (BuildSession σ) :=
  match task.agenda with
  | .single => none
  | .entries (entry :: rest) total =>
      some (s.setTask { task with
        agenda := .entries rest (total + count)
        stage := .visit (s.options.entryPath entry) none })
  | .entries [] total =>
      some ((s.send (.built (total + count)) [task.addressee]).setTask
        { task with agenda := .single, stage := .done (total + count) })

def step? (s : BuildSession σ) (id : Nat) : Option (BuildSession σ) := do
  let task ← s.task? id
  match task.stage with
  | .claim path => some (s.claim task path)
  | .visit path requester => some (s.visit task path requester)
  | .read job => some (s.read task job)
  | .transform job text => if s.held then none else some (s.transform task job text)
  | .lookUp job output => some (s.lookUp task job output)
  | .gather pending => s.gather? task pending
  | .write job code locals => some (s.write task job code locals)
  | .finish job result => some (s.finish task job result)
  | .done count => s.proceed? task count
  | .crashed => none

/-- One session leads to another by one step of some task. -/
def Steps (s t : BuildSession σ) : Prop := ∃ id, s.step? id = some t

def next? (s : BuildSession σ) : Option (BuildSession σ) :=
  s.tasks.findSome? fun task => s.step? task.id

/-- Let tasks go on until none can, at most `fuel` steps. -/
def run : Nat → BuildSession σ → BuildSession σ
  | 0, s => s
  | fuel + 1, s =>
      match s.next? with
      | none => s
      | some s => run fuel s

end Stages

/-- A finished call: its number, and what it produced unless it broke down. -/
structure Outcome where
  call : Nat
  count : Option Nat
deriving DecidableEq, Repr, Inhabited

def outcome? (task : BuildTask) : Option Outcome :=
  match task.parent, task.agenda, task.stage with
  | none, .single, .done count => some ⟨task.call, some count⟩
  | none, _, .crashed => some ⟨task.call, none⟩
  | _, _, _ => none

def collect (s : BuildSession σ) : BuildSession σ × List Outcome :=
  ({ s with tasks := s.tasks.filter fun task => (outcome? task).isNone },
    s.tasks.filterMap outcome?)

/-- Drop a call with everything it has started. -/
def abort (s : BuildSession σ) (call : Nat) : BuildSession σ :=
  { s with tasks := s.tasks.filter fun task => task.call != call }

def description (s : BuildSession σ) : String :=
  "Compiler \x7b base_dir: " ++ Text.quoted s.options.baseDir.text ++ ", out_dir: " ++
    Text.quoted s.options.outDir.text ++ ", targets: " ++ toString s.register.size ++ " \x7d"

def reset (s : BuildSession σ) : BuildSession σ := { s with register := {} }

end BuildSession

end LiveBuild
