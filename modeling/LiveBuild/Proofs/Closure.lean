import LiveBuild.Proofs.Outputs
import LiveBuild.Proofs.TaskTree

/-!
# What a request is to build

A request on a fresh session is to build the code files among its entries, those below the
directories among them, and then whatever the files built so far import. While the request is
carried out no task of it strays from that set, and what it sees of a source is what the tree held
in the beginning.
-/

namespace LiveBuild

/-- One request for entries, made on a session in which nothing has happened yet. -/
structure FreshBuild where
  tree : FileTree
  options : BuildOptions
  sourceTransform : SourceTransform
  entries : List Path
  addressee : Addressee

namespace FreshBuild

def session (b : FreshBuild) : BuildSession FileTree :=
  ((BuildSession.start b.tree b.options b.sourceTransform).call b.addressee
    (.compile b.entries)).1

def Eligible (b : FreshBuild) (p : Path) : Prop := ∃ rest, b.options.IsCode b.tree p rest

def IsOutput (b : FreshBuild) (p d : Path) : Prop :=
  ∃ rest, b.options.IsCode b.tree p rest ∧ d = b.options.codeOutput rest

def Readable (b : FreshBuild) (p : Path) : Prop :=
  ∃ text, FileStore.readText b.tree p = .ok text

/-- A file is read and transformed, and its local specifiers are all found. -/
def Resolves (b : FreshBuild) (p : Path) (files : List Path) : Prop :=
  ∃ text output, FileStore.readText b.tree p = .ok text ∧
    b.sourceTransform p text (.ofSource b.tree b.options p) = .output output ∧
    Lookup.findAll b.tree b.options p output.imports = .ok files

/-- The code files that the entries of a request lead to. -/
inductive Member (b : FreshBuild) : Path → Prop
  | entry {entry : Path} : entry ∈ b.entries → b.Eligible (b.options.entryPath entry) →
      Member b (b.options.entryPath entry)
  | walk {entry p : Path} : entry ∈ b.entries →
      b.options.IsWalked b.tree (b.options.entryPath entry) →
      Walk.Finds b.tree b.options (b.options.entryPath entry) p → b.Eligible p → Member b p
  | imported {p q : Path} {files : List Path} : Member b p → b.Resolves p files → q ∈ files →
      b.Eligible q → Member b q

/-- What a request takes for granted: the tree holds files and directories and the base directory is
none of its files, directories are given from the root, the transform always answers, and no two
members have one output. -/
structure Proper (b : FreshBuild) : Prop where
  built : FileTree.Built b.tree
  base : b.options.baseDir.isAbsolute = true
  directory : FileStore.isFile b.tree b.options.baseDir = false
  out : b.options.outDir.isAbsolute = true
  answers : ∀ source text context, b.sourceTransform source text context ≠ .crash
  distinct : ∀ p q d e, b.Member p → b.Member q → b.options.outputFor p = .ok d →
    b.options.outputFor q = .ok e → d.components = e.components → p = q

/-- No task looks at a path in the output directory. -/
def Clear (b : FreshBuild) (s : BuildSession FileTree) : Prop :=
  ∀ task ∈ s.tasks, ∀ path requester, task.stage = .visit path requester →
    path.startsWith b.options.outDir = false

/-- A job is about a member and its output. -/
structure Target (b : FreshBuild) (job : BuildJob) : Prop where
  member : b.Member job.source
  output : b.IsOutput job.source job.dest
  outside : job.source.startsWith b.options.outDir = false

/-- What is true of a task in each stage. -/
def Fits (b : FreshBuild) : BuildTask.Stage → Prop
  | .claim _ => False
  | .visit path _ =>
      (path ∈ b.entries.map b.options.entryPath ∨ FileStore.isDirectory b.tree path = false) ∧
        (b.Eligible path → b.Member path)
  | .read job => b.Target job
  | .transform job text => b.Target job ∧ FileStore.readText b.tree job.source = .ok text
  | .lookUp job output => b.Target job ∧ ∃ text,
      FileStore.readText b.tree job.source = .ok text ∧
      b.sourceTransform job.source text (.ofSource b.tree b.options job.source) = .output output
  | .gather none => True
  | .gather (some (job, _)) => b.Target job ∧ ∃ files, b.Resolves job.source files
  | .write job _ _ => b.Target job ∧ ∃ files, b.Resolves job.source files
  | .finish job result => b.Target job ∧
      ((∃ locals, result = .ok locals) ↔ ∃ files, b.Resolves job.source files)
  | .done _ => True
  | .crashed => False

/-- What is true of a session while it carries out the request. -/
structure Underway (b : FreshBuild) (s : BuildSession FileTree) : Prop where
  options : s.options = b.options
  sourceTransform : s.sourceTransform = b.sourceTransform
  held : s.held = false
  orderly : s.Orderly
  sound : s.store.Sound
  kept : FileTree.Kept b.options.outDir b.tree s.store
  fits : ∀ task ∈ s.tasks, b.Fits task.stage
  addressee : ∀ task ∈ s.tasks, task.addressee = b.addressee
  agenda : ∀ task ∈ s.tasks, ∀ rest total, task.agenda = .entries rest total → rest ⊆ b.entries

variable {b : FreshBuild} {s : BuildSession FileTree} {task : BuildTask}
  {turn : BuildSession.Turn FileTree} {p q d : Path} {files : List Path} {job : BuildJob}

theorem IsOutput.outputFor (h : b.IsOutput p d) : b.options.outputFor p = .ok d := by
  obtain ⟨rest, hcode, rfl⟩ := h
  rw [BuildOptions.outputFor, hcode.below]
  rfl

theorem Eligible.isFile (h : b.Eligible p) : FileStore.isFile b.tree p = true := by
  obtain ⟨rest, hcode⟩ := h
  exact hcode.file

theorem Member.eligible (h : b.Member p) : b.Eligible p := by
  cases h with
  | entry _ heligible => exact heligible
  | walk _ _ _ heligible => exact heligible
  | imported _ _ _ heligible => exact heligible

theorem Resolves.unique {files' : List Path} (h : b.Resolves p files)
    (h' : b.Resolves p files') : files = files' := by
  obtain ⟨text, output, hread, htransform, hfiles⟩ := h
  obtain ⟨text', output', hread', htransform', hfiles'⟩ := h'
  obtain rfl := Except.ok.inj (hread.symm.trans hread')
  obtain rfl := Transformed.output.inj (htransform.symm.trans htransform')
  exact Except.ok.inj (hfiles.symm.trans hfiles')

/-- The imports of a file, if it is read and transformed and all of them are found. -/
def resolved? (b : FreshBuild) (p : Path) : Option (List Path) :=
  match FileStore.readText b.tree p with
  | .error _ => none
  | .ok text =>
      match b.sourceTransform p text (.ofSource b.tree b.options p) with
      | .output output => (Lookup.findAll b.tree b.options p output.imports).toOption
      | _ => none

theorem resolves_iff : b.Resolves p files ↔ b.resolved? p = some files := by
  rw [Resolves, resolved?]
  cases FileStore.readText b.tree p with
  | error f => simp
  | ok text =>
      cases htransform : b.sourceTransform p text (.ofSource b.tree b.options p) with
      | output output =>
          cases hfound : Lookup.findAll b.tree b.options p output.imports with
          | error e => simp [htransform, hfound, Except.toOption]
          | ok found => simp [htransform, hfound, Except.toOption]
      | failure message stack? => simp [htransform]
      | crash => simp [htransform]

/-- A session has the options and the transform of the request, and sees the files as they were in
the beginning, except for what lies in the output directory. -/
structure Sees (b : FreshBuild) (s : BuildSession FileTree) : Prop where
  options : s.options = b.options
  sourceTransform : s.sourceTransform = b.sourceTransform
  kept : FileTree.Kept b.options.outDir b.tree s.store

/-- What the stage of a build says of its source: what was read, what the transform answered, and
whether all imports were found. -/
def Tracks (b : FreshBuild) : BuildTask.Stage → Prop
  | .transform job text => FileStore.readText b.tree job.source = .ok text
  | .lookUp job output => ∃ text, FileStore.readText b.tree job.source = .ok text ∧
      b.sourceTransform job.source text (.ofSource b.tree b.options job.source) = .output output
  | .gather (some (job, _)) => ∃ files, b.Resolves job.source files
  | .write job _ _ => ∃ files, b.Resolves job.source files
  | .finish job result => (∃ locals, result = .ok locals) ↔ ∃ files, b.Resolves job.source files
  | _ => True

namespace Sees

variable (h : b.Sees s)

include h

theorem transform_eq (text : String) :
    s.sourceTransform p text (.ofSource s.store s.options p) =
      b.sourceTransform p text (.ofSource b.tree b.options p) := by
  rw [h.sourceTransform, h.options, SourceContext.ofSource_eq s.store b.tree]

/-- The imports that are found are those of the tree. -/
theorem resolves {output : SourceOutput} (htracks : b.Tracks (.lookUp job output))
    (hfiles : s.dependencies job.source output.imports = .ok files)
    (houtside : ∀ q ∈ files, q.startsWith b.options.outDir = false) :
    b.Resolves job.source files := by
  obtain ⟨text, htext, houtput⟩ := htracks
  rw [dependencies_eq, h.options] at hfiles
  exact ⟨text, output, htext, houtput, findAll_before h.kept hfiles houtside⟩

/-- What the stage of a build says of its source remains true. -/
theorem tracks_turn (hturn : s.Turns task turn)
    (hsource : ∀ job, task.stage.job? = some job → job.source.startsWith b.options.outDir = false)
    (houtside : ∀ path requester, BuildTask.Stage.visit path requester ∈ turn.spawned →
      path.startsWith b.options.outDir = false)
    (htracks : b.Tracks task.stage) : b.Tracks turn.stage := by
  have hread : ∀ job text, task.stage.job? = some job →
      (FileStore.readText s.store job.source = .ok text ↔
        FileStore.readText b.tree job.source = .ok text) :=
    fun job text hjob => readText_eq_ok_iff h.kept (hsource job hjob)
  cases hturn with
  | @unreadable job f hstage hfailed =>
      constructor
      · rintro ⟨locals, hresult⟩
        contradiction
      · rintro ⟨files, text, output, htext, -⟩
        rw [← hread job text (by rw [hstage]; rfl), hfailed] at htext
        contradiction
  | @read job text hstage hfound => exact (hread job text (by rw [hstage]; rfl)).1 hfound
  | transform hstage houtput =>
      rw [hstage] at htracks
      rw [h.transform_eq] at houtput
      exact ⟨_, htracks, houtput⟩
  | fail hstage hfailure =>
      rw [hstage] at htracks
      rw [h.transform_eq] at hfailure
      constructor
      · rintro ⟨locals, hresult⟩
        contradiction
      · rintro ⟨files, text, output, htext, houtput, -⟩
        obtain rfl := Except.ok.inj (htracks.symm.trans htext)
        exact Transformed.noConfusion (houtput.symm.trans hfailure)
  | unresolved hstage hfiles =>
      rw [hstage] at htracks
      obtain ⟨text, htext, houtput⟩ := htracks
      constructor
      · rintro ⟨locals, hresult⟩
        contradiction
      · rintro ⟨files, text', output', htext', houtput', hfound⟩
        obtain rfl := Except.ok.inj (htext.symm.trans htext')
        obtain rfl := Transformed.output.inj (houtput.symm.trans houtput')
        obtain ⟨found, hfound⟩ := findAll_after h.kept hfound
        rw [dependencies_eq, h.options, hfound] at hfiles
        contradiction
  | resolve hstage hfiles =>
      rw [hstage] at htracks
      exact ⟨_, h.resolves htracks hfiles fun q hq => houtside q _ (List.mem_map_of_mem hq)⟩
  | gatherFile hstage =>
      rw [hstage] at htracks
      exact htracks
  | @write job code locals result hstage hresult =>
      rw [hstage] at htracks
      refine ⟨fun _ => htracks, fun _ => ⟨locals, ?_⟩⟩
      rw [hresult]
      rfl
  | _ => trivial

end Sees

theorem Fits.target {stage : BuildTask.Stage} {job : BuildJob} (h : b.Fits stage)
    (hjob : stage.job? = some job) : b.Target job := by
  cases stage with
  | read =>
      obtain rfl := Option.some.inj hjob
      exact h
  | gather pending =>
      cases pending with
      | none => contradiction
      | some pending =>
          obtain rfl := Option.some.inj hjob
          exact h.1
  | transform | lookUp | write | finish =>
      obtain rfl := Option.some.inj hjob
      exact h.1
  | _ => contradiction

theorem Fits.tracks {stage : BuildTask.Stage} (h : b.Fits stage) : b.Tracks stage := by
  cases stage with
  | gather pending =>
      cases pending with
      | none => trivial
      | some pending => exact h.2
  | transform | write | finish => exact h.2
  | lookUp => exact h.2
  | _ => trivial

theorem Proper.startsWith_output (hb : b.Proper) (h : b.IsOutput p d) :
    d.startsWith b.options.outDir = true := by
  obtain ⟨rest, hcode, rfl⟩ := h
  apply startsWith_codeOutput hb.base hcode.below
  intro heq
  have hfile : FileStore.isFile b.tree b.options.baseDir = true := by
    have hfile := hcode.file
    simp only [FileStore.isFile, FileStore.kindOf?] at hfile ⊢
    rwa [FileTree.kindOf?_congr heq] at hfile
  rw [hb.directory] at hfile
  contradiction

theorem Proper.eq_of_same_output (hb : b.Proper) {p' d' : Path} (h : b.Target ⟨p, d⟩)
    (h' : b.Target ⟨p', d'⟩) (hd : d.components = d'.components) : p = p' :=
  hb.distinct p p' d d' h.member h'.member h.output.outputFor h'.output.outputFor hd

theorem IsOutput.unique {d' : Path} (h : b.IsOutput p d) (h' : b.IsOutput p d') : d = d' :=
  Except.ok.inj (h.outputFor.symm.trans h'.outputFor)

namespace Underway

variable (h : b.Underway s)

include h

theorem isCode_iff (hp : p.startsWith b.options.outDir = false) {rest : Path} :
    s.options.IsCode s.store p rest ↔ b.options.IsCode b.tree p rest := by
  rw [h.options]
  exact LiveBuild.isCode_iff h.kept hp

theorem eligible_iff (hp : p.startsWith b.options.outDir = false) :
    b.Eligible p ↔ ∃ rest, s.options.IsCode s.store p rest :=
  exists_congr fun _ => (h.isCode_iff hp).symm

theorem isWalked (hp : p.startsWith b.options.outDir = false)
    (hwalked : b.options.IsWalked b.tree p) : s.options.IsWalked s.store p := by
  rw [h.options]
  exact ⟨isDirectory_mono h.kept hp hwalked.1, hwalked.2⟩

theorem sees : b.Sees s := ⟨h.options, h.sourceTransform, h.kept⟩

theorem outside_of_spawned (htask : task ∈ s.tasks)
    (hclear : b.Clear (s.perform task turn)) {path : Path} {requester : Option Path}
    (hspawned : BuildTask.Stage.visit path requester ∈ turn.spawned) :
    path.startsWith b.options.outDir = false := by
  obtain ⟨u, hu, hstage⟩ := BuildSession.exists_started s task hspawned
  exact hclear u (BuildSession.started_mem_perform h.orderly htask hu) path requester hstage

theorem readText_eq (hjob : b.Target job) :
    FileStore.readText s.store job.source = FileStore.readText b.tree job.source :=
  LiveBuild.readText_eq h.kept hjob.outside hjob.member.eligible.isFile

/-- The imports of a member that are found are those that it has. -/
theorem resolves (htask : task ∈ s.tasks) (hclear : b.Clear (s.perform task turn))
    {requester : Option Path} {output : SourceOutput} (hstage : task.stage = .lookUp job output)
    (hspawned : turn.spawned = files.map fun file => .visit file requester)
    (hfiles : s.dependencies job.source output.imports = .ok files) :
    b.Target job ∧ b.Resolves job.source files := by
  have hfits := h.fits task htask
  rw [hstage] at hfits
  refine ⟨hfits.1, h.sees.resolves hfits.2 hfiles fun q hq => ?_⟩
  have hvisit : BuildTask.Stage.visit q requester ∈ turn.spawned := by
    rw [hspawned]
    exact List.mem_map_of_mem hq
  exact h.outside_of_spawned htask hclear hvisit

theorem tracks_after (htask : task ∈ s.tasks) (hturn : s.Turns task turn)
    (hclear' : b.Clear (s.perform task turn)) : b.Tracks turn.stage := by
  have hfits := h.fits task htask
  exact h.sees.tracks_turn hturn (fun job hjob => (hfits.target hjob).outside)
    (fun path requester hspawned => h.outside_of_spawned htask hclear' hspawned) hfits.tracks

theorem fits_after (hb : b.Proper) (htask : task ∈ s.tasks) (hturn : s.Turns task turn)
    (hclear : b.Clear s) (hclear' : b.Clear (s.perform task turn)) : b.Fits turn.stage := by
  have hfits := h.fits task htask
  have htracks := h.tracks_after htask hturn hclear'
  cases hturn with
  | claim hstage => simp [hstage, Fits] at hfits
  | attach hstage => simp [hstage, Fits] at hfits
  | meet hstage => simp [hstage, Fits] at hfits
  | pass => trivial
  | refuse => trivial
  | walk => trivial
  | asset => trivial
  | assetFailed => trivial
  | join => trivial
  | @begin path rest requester hstage hcode =>
      rw [hstage] at hfits
      have houtside := hclear task htask path requester hstage
      rw [h.isCode_iff houtside] at hcode
      refine ⟨hfits.2 ⟨rest, hcode⟩, ⟨rest, hcode, ?_⟩, houtside⟩
      rw [h.options]
  | unreadable hstage =>
      rw [hstage] at hfits
      exact ⟨hfits, htracks⟩
  | read hstage =>
      rw [hstage] at hfits
      exact ⟨hfits, htracks⟩
  | crash hstage hcrash =>
      rw [h.sees.transform_eq] at hcrash
      exact absurd hcrash (hb.answers _ _ _)
  | transform hstage =>
      rw [hstage] at hfits
      exact ⟨hfits.1, htracks⟩
  | fail hstage =>
      rw [hstage] at hfits
      exact ⟨hfits.1, htracks⟩
  | unresolved hstage =>
      rw [hstage] at hfits
      exact ⟨hfits.1, htracks⟩
  | resolve hstage =>
      rw [hstage] at hfits
      exact ⟨hfits.1, htracks⟩
  | gather => trivial
  | gatherFile hstage =>
      rw [hstage] at hfits
      exact ⟨hfits.1, htracks⟩
  | write hstage =>
      rw [hstage] at hfits
      exact ⟨hfits.1, htracks⟩
  | finish => trivial
  | finishFailed => trivial
  | @next count total entry rest hstage hagenda =>
      have hentry : entry ∈ b.entries := h.agenda task htask _ _ hagenda (by simp)
      rw [BuildSession.turnTo, h.options]
      exact ⟨Or.inl (List.mem_map_of_mem hentry), Member.entry hentry⟩
  | report => trivial

/-- What a directory is found to hold once a request is under way, it held in the beginning. -/
theorem finds_of_walk (htask : task ∈ s.tasks) (hclear' : b.Clear (s.perform task turn))
    {path file : Path} (hwalked : s.options.IsWalked s.store path)
    (hfiles : Walk.files s.store s.options path = .ok files)
    (hspawned : turn.spawned = files.map fun file => .visit file none) (hfile : file ∈ files) :
    Walk.Finds s.store b.options path file ∧ Walk.Finds b.tree b.options path file := by
  have hvisit : BuildTask.Stage.visit file none ∈ turn.spawned := by
    rw [hspawned]
    exact List.mem_map_of_mem hfile
  rw [h.options] at hfiles
  exact Walk.finds_of_files h.kept h.sound hwalked.1 hfiles hfile
    (h.outside_of_spawned htask hclear' hvisit)

theorem fits_spawned (htask : task ∈ s.tasks) (hturn : s.Turns task turn)
    (hclear' : b.Clear (s.perform task turn)) :
    ∀ stage ∈ turn.spawned, b.Fits stage := by
  have hfits := h.fits task htask
  cases hturn with
  | @walk path requester files hstage hwalked hfiles =>
      rw [hstage] at hfits
      intro stage hmem
      obtain ⟨file, hfile, rfl⟩ := List.mem_map.1 hmem
      obtain ⟨hafter, hfinds⟩ := h.finds_of_walk htask hclear' hwalked hfiles rfl hfile
      have houtside := h.outside_of_spawned htask hclear' hmem
      have hdirectory : FileStore.isDirectory b.tree path = true :=
        Walk.isDirectory_iff.2 (Walk.isDirectory_of_finds hfinds)
      refine ⟨Or.inr ?_, fun heligible => ?_⟩
      · rw [Bool.eq_false_iff]
        intro hfound
        have hkind := isDirectory_mono h.kept houtside hfound
        rw [Walk.isDirectory_eq_false_of_finds hafter] at hkind
        contradiction
      · obtain ⟨entry, hentry, rfl⟩ := List.mem_map.1
          (hfits.1.resolve_right (by simp [hdirectory]))
        rw [h.options] at hwalked
        exact .walk hentry ⟨hdirectory, hwalked.2⟩ hfinds heligible
  | @resolve job output files hstage hfiles =>
      obtain ⟨hjob, hresolves⟩ := h.resolves htask hclear' hstage rfl hfiles
      obtain ⟨text, output', -, -, hfound⟩ := id hresolves
      intro stage hmem
      obtain ⟨file, hfile, rfl⟩ := List.mem_map.1 hmem
      refine ⟨Or.inr ?_, fun heligible => ?_⟩
      · rw [Bool.eq_false_iff]
        intro hdirectory
        have hkind := isFile_of_findAll hfound file hfile
        rw [Walk.isFile_eq_false_of_isDirectory hdirectory] at hkind
        contradiction
      · exact .imported hjob.member hresolves hfile heligible
  | _ => simp [BuildSession.turnTo]

theorem store_induction {P : FileTree → Prop} (hb : b.Proper) (htask : task ∈ s.tasks)
    (hturn : s.Turns task turn)
    (hwrite : ∀ tree q content, P tree → q.startsWith b.options.outDir = true →
      P (tree.putFile q content)) (hP : P s.store) : P turn.store := by
  rw [← h.options] at hwrite
  refine hturn.store_induction (h.options ▸ hb.base) (fun job hjob => ?_) hwrite hP
  rw [h.options]
  exact hb.startsWith_output ((h.fits task htask).target hjob).output

theorem perform (hb : b.Proper) (htask : task ∈ s.tasks) (hturn : s.Turns task turn)
    (hclear : b.Clear s) (hclear' : b.Clear (s.perform task turn)) :
    b.Underway (s.perform task turn) where
  options := h.options
  sourceTransform := h.sourceTransform
  held := h.held
  orderly := h.orderly.perform htask hturn
  sound := h.store_induction hb htask hturn (fun _ q content hsound _ => hsound.putFile q content)
    h.sound
  kept := h.store_induction hb htask hturn
    (fun _ _ content hkept hq => kept_putFile hb.out hkept hq content) h.kept
  fits u hu := by
    rcases (BuildSession.mem_tasks_perform h.orderly htask turn).1 hu with ⟨hu, -⟩ | rfl | hu
    · exact h.fits u hu
    · exact h.fits_after hb htask hturn hclear hclear'
    · exact h.fits_spawned htask hturn hclear' _ (BuildSession.mem_started hu).2.2.2.2.2.2
  addressee u hu := by
    rcases (BuildSession.mem_tasks_perform h.orderly htask turn).1 hu with ⟨hu, -⟩ | rfl | hu
    · exact h.addressee u hu
    · exact h.addressee task htask
    · rw [(BuildSession.mem_started hu).2.1, h.addressee task htask]
  agenda u hu rest total hagenda := by
    rcases (BuildSession.mem_tasks_perform h.orderly htask turn).1 hu with ⟨hu, -⟩ | rfl | hu
    · exact h.agenda u hu rest total hagenda
    · change turn.agenda = _ at hagenda
      cases hturn with
      | next _ hbefore =>
          obtain ⟨rfl, -⟩ := BuildTask.Agenda.entries.inj hagenda
          exact fun entry hentry => h.agenda task htask _ _ hbefore (List.mem_cons_of_mem _ hentry)
      | report => simp at hagenda
      | _ => exact h.agenda task htask rest total hagenda
    · simp [(BuildSession.mem_started hu).2.2.2.1] at hagenda

end Underway

theorem underway_session (hb : b.Proper) : b.Underway b.session := by
  have htasks : ∀ task ∈ b.session.tasks,
      task = ⟨0, none, 0, b.addressee, .entries b.entries 0, .done 0⟩ := by
    intro task htask
    exact List.mem_singleton.1 htask
  refine ⟨rfl, rfl, rfl, ⟨List.pairwise_singleton _ _, ?_, ?_, ?_⟩, hb.built.sound, .refl _ _,
    ?_, ?_, ?_⟩
  · intro task htask
    rw [htasks task htask]
    exact Nat.one_pos
  · intro task htask parent hparent
    simp [htasks task htask] at hparent
  · intro task htask hparent
    simp [htasks task htask] at hparent
  · intro task htask
    rw [htasks task htask]
    trivial
  · intro task htask
    rw [htasks task htask]
  · intro task htask rest total hagenda
    rw [htasks task htask] at hagenda
    obtain ⟨rfl, -⟩ := BuildTask.Agenda.entries.inj hagenda
    exact List.Subset.refl _

end FreshBuild

end LiveBuild
