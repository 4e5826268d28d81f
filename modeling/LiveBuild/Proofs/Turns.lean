import LiveBuild.Build.Session
import LiveBuild.Proofs.RegisterCalls
import Mathlib.Tactic.Common

/-!
# The turns of a session

Whatever stage a task is in, one step of it comes to the same few things: the files and the register
may change, the task gets a new stage, tasks are started or taken in, and something is reported.
What these are depends on the stage, and is said here once for each stage.
-/

namespace LiveBuild

namespace BuildOptions

variable {σ : Type} [FileStore σ]

/-- A file is compiled as code: it lies in the base directory, is not excluded, and has an extension
of code. What is left of its path behind the base directory says where its output goes. -/
structure IsCode (o : BuildOptions) (store : σ) (p rest : Path) : Prop where
  file : FileStore.isFile store p = true
  below : o.belowBase p = .ok rest
  kept : o.excludes rest = false
  suffix : ∃ extension, p.suffix? = some extension ∧ o.extensions.contains extension = true ∧
    o.assets.treatmentOf? extension = none

/-- A directory is walked through: it lies in the base directory and is not excluded. -/
def IsWalked (o : BuildOptions) (store : σ) (p : Path) : Prop :=
  FileStore.isDirectory store p = true ∧ ∃ rest, o.belowBase p = .ok rest ∧ o.excludes rest = false

theorem IsWalked.not_isCode {o : BuildOptions} {store : σ} {p : Path} (h : o.IsWalked store p)
    (rest : Path) : ¬ o.IsCode store p rest := by
  intro hcode
  have hfile := hcode.file
  have hdirectory := h.1
  simp_all [FileStore.isFile, FileStore.isDirectory]

end BuildOptions

namespace BuildSession

variable {σ : Type}

/-- What one step of a task comes to. -/
structure Turn (σ : Type) where
  store : σ
  register : Register
  /-- The task afterwards. -/
  stage : BuildTask.Stage
  agenda : BuildTask.Agenda
  /-- The stages of the tasks that it starts. -/
  spawned : List BuildTask.Stage := []
  /-- Whether the tasks that it has started are taken in. -/
  gathers : Bool := false
  told : List (Addressee × BuildEvent) := []
  read : List Path := []

/-- A turn that does nothing but go on to another stage. -/
def turnTo (s : BuildSession σ) (task : BuildTask) (stage : BuildTask.Stage) : Turn σ :=
  { store := s.store, register := s.register, stage, agenda := task.agenda }

/-- The tasks that a task starts. -/
def started (s : BuildSession σ) (task : BuildTask) (stages : List BuildTask.Stage) :
    List BuildTask :=
  stages.mapIdx fun i stage =>
    ⟨s.nextTask + i, some task.id, task.call, task.addressee, .single, stage⟩

def remaining (s : BuildSession σ) (task : BuildTask) (gathers : Bool) : List BuildTask :=
  if gathers then s.tasks.filter fun child => child.parent != some task.id else s.tasks

/-- The session after a turn of one of its tasks. -/
def perform (s : BuildSession σ) (task : BuildTask) (turn : Turn σ) : BuildSession σ :=
  { s with
    store := turn.store
    register := turn.register
    tasks :=
      ((s.remaining task turn.gathers).map fun old =>
        if old.id = task.id then { task with stage := turn.stage, agenda := turn.agenda }
        else old) ++
      s.started task turn.spawned
    nextTask := s.nextTask + turn.spawned.length
    sent := s.sent ++ turn.told
    transformed := s.transformed ++ turn.read }

theorem sent_perform {s : BuildSession σ} {task : BuildTask} {turn : Turn σ} (h : s.sent = []) :
    (s.perform task turn).sent = turn.told := by
  change s.sent ++ turn.told = turn.told
  rw [h, List.nil_append]

variable [FileStore σ]

/-- What the treatment of an asset leaves of the files, and whether it succeeds. -/
def emit (store : σ) (o : BuildOptions) (kind : AssetTreatment) (path rest : Path) :
    σ × Except BuildError Unit :=
  match kind with
  | .copy => Asset.copy store path (o.placeFor rest)
  | .hashed =>
      let (store, result) := Asset.hashed store o.assets path o.outDir (o.placeFor rest)
      (store, result.map fun _ => ())

/-- The turns that a task can take, by its stage. -/
inductive Turns (s : BuildSession σ) (task : BuildTask) : Turn σ → Prop
  | claim {path dest : Path} : task.stage = .claim path →
      (s.register.reopen path task.addressee).2 = .started dest →
      Turns s task { s.turnTo task (.read ⟨path, dest⟩) with
        register := (s.register.reopen path task.addressee).1 }
  | attach {path : Path} : task.stage = .claim path →
      (s.register.reopen path task.addressee).2 = .underway →
      Turns s task { s.turnTo task (.done 0) with
        register := (s.register.reopen path task.addressee).1 }
  | meet {path : Path} : task.stage = .claim path →
      (s.register.reopen path task.addressee).2 = .unknown →
      Turns s task { s.turnTo task (.visit path none) with
        register := (s.register.reopen path task.addressee).1 }
  | pass {path : Path} {requester : Option Path} : task.stage = .visit path requester →
      (∀ rest, ¬ s.options.IsCode s.store path rest) → ¬ s.options.IsWalked s.store path →
      Turns s task (s.turnTo task (.done 0))
  | refuse {path : Path} {requester : Option Path} (e : BuildError) :
      task.stage = .visit path requester →
      (∀ rest, ¬ s.options.IsCode s.store path rest) →
      (s.options.IsWalked s.store path → Walk.files s.store s.options path = .error e) →
      Turns s task { s.turnTo task (.done 0) with
        told := [(task.addressee, .forFile path e)] }
  | walk {path : Path} {requester : Option Path} {files : List Path} :
      task.stage = .visit path requester → s.options.IsWalked s.store path →
      Walk.files s.store s.options path = .ok files →
      Turns s task { s.turnTo task (.gather none) with
        spawned := files.map fun file => .visit file none }
  | asset {path rest : Path} {requester : Option Path} {kind : AssetTreatment} :
      task.stage = .visit path requester → (∀ rest, ¬ s.options.IsCode s.store path rest) →
      FileStore.isFile s.store path = true → s.options.belowBase path = .ok rest →
      (emit s.store s.options kind path rest).2 = .ok () →
      Turns s task { s.turnTo task (.done 1) with
        store := (emit s.store s.options kind path rest).1 }
  | assetFailed {path rest : Path} {requester : Option Path} {kind : AssetTreatment}
      {e : BuildError} :
      task.stage = .visit path requester → (∀ rest, ¬ s.options.IsCode s.store path rest) →
      FileStore.isFile s.store path = true → s.options.belowBase path = .ok rest →
      (emit s.store s.options kind path rest).2 = .error e →
      Turns s task { s.turnTo task (.done 0) with
        store := (emit s.store s.options kind path rest).1
        told := [(task.addressee, .forFile path e)] }
  | join {path rest : Path} {requester : Option Path} :
      task.stage = .visit path requester → s.options.IsCode s.store path rest →
      s.register.targets.contains (s.options.codeOutput rest) = true →
      Turns s task { s.turnTo task (.done 0) with
        register := (s.register.enroll path (s.options.codeOutput rest) requester
          task.addressee).1 }
  | begin {path rest : Path} {requester : Option Path} :
      task.stage = .visit path requester → s.options.IsCode s.store path rest →
      s.register.targets.contains (s.options.codeOutput rest) = false →
      Turns s task { s.turnTo task (.read ⟨path, s.options.codeOutput rest⟩) with
        register := (s.register.enroll path (s.options.codeOutput rest) requester
          task.addressee).1 }
  | unreadable {job : BuildJob} {f : Failure} : task.stage = .read job →
      FileStore.readText s.store job.source = .error f →
      Turns s task (s.turnTo task (.finish job (.error (.io job.source f.oneLine))))
  | read {job : BuildJob} {text : String} : task.stage = .read job →
      FileStore.readText s.store job.source = .ok text →
      Turns s task { s.turnTo task (.transform job text) with read := [job.source] }
  | transform {job : BuildJob} {text : String} {output : SourceOutput} :
      task.stage = .transform job text →
      s.sourceTransform job.source text (.ofSource s.store s.options job.source) =
        .output output →
      Turns s task (s.turnTo task (.lookUp job output))
  | fail {job : BuildJob} {text message : String} {stack? : Option String} :
      task.stage = .transform job text →
      s.sourceTransform job.source text (.ofSource s.store s.options job.source) =
        .failure message stack? →
      Turns s task
        (s.turnTo task (.finish job (.error (.transform job.source message stack?))))
  | crash {job : BuildJob} {text : String} : task.stage = .transform job text →
      s.sourceTransform job.source text (.ofSource s.store s.options job.source) = .crash →
      Turns s task (s.turnTo task .crashed)
  | unresolved {job : BuildJob} {output : SourceOutput} {e : BuildError} :
      task.stage = .lookUp job output → s.dependencies job.source output.imports = .error e →
      Turns s task (s.turnTo task (.finish job (.error e)))
  | resolve {job : BuildJob} {output : SourceOutput} {files : List Path} :
      task.stage = .lookUp job output → s.dependencies job.source output.imports = .ok files →
      Turns s task { s.turnTo task (.gather (some (job, output.code))) with
        spawned := files.map fun file => .visit file (some job.dest) }
  | gather {counts : List Nat} : task.stage = .gather none →
      (s.children task).mapM BuildTask.count? = some counts →
      Turns s task { s.turnTo task (.done (counts.foldl Nat.add 0)) with gathers := true }
  | gatherFile {job : BuildJob} {code : String} {counts : List Nat} :
      task.stage = .gather (some (job, code)) →
      (s.children task).mapM BuildTask.count? = some counts →
      Turns s task { s.turnTo task (.write job code (counts.foldl Nat.add 0)) with
        gathers := true }
  | write {job : BuildJob} {code : String} {locals : Nat} {result : Except BuildError Nat} :
      task.stage = .write job code locals →
      result = ((FileStore.write s.store job.dest code.toUTF8).2.map fun _ => locals).mapError
        (fun f => BuildError.io job.dest f.oneLine) →
      Turns s task { s.turnTo task (.finish job result) with
        store := (FileStore.write s.store job.dest code.toUTF8).1 }
  | finish {job : BuildJob} {locals : Nat} : task.stage = .finish job (.ok locals) →
      Turns s task { s.turnTo task (.done (locals + 1)) with
        register := (s.register.close job.dest true).1
        told := match (s.register.close job.dest true).2 with
          | some closing => closing.addressees.map fun addressee =>
              (addressee, .fileBuilt job.source job.dest locals closing.parents)
          | none => [] }
  | finishFailed {job : BuildJob} {e : BuildError} : task.stage = .finish job (.error e) →
      Turns s task { s.turnTo task (.done 0) with
        register := (s.register.close job.dest false).1
        told := (match (s.register.close job.dest false).2 with
          | some closing => closing.addressees
          | none => [task.addressee]).map fun addressee => (addressee, .forFile job.source e) }
  | next {count total : Nat} {entry : Path} {rest : List Path} : task.stage = .done count →
      task.agenda = .entries (entry :: rest) total →
      Turns s task { s.turnTo task (.visit (s.options.entryPath entry) none) with
        agenda := .entries rest (total + count) }
  | report {count total : Nat} : task.stage = .done count → task.agenda = .entries [] total →
      Turns s task { s.turnTo task (.done (total + count)) with
        agenda := .single
        told := [(task.addressee, .built (total + count))] }

variable {s t : BuildSession σ} {task : BuildTask} {id : Nat}

theorem exists_turn_claim {path : Path} (hstage : task.stage = .claim path) :
    ∃ turn, Turns s task turn ∧ s.claim task path = s.perform task turn := by
  rw [claim]
  cases hclaim : (s.register.reopen path task.addressee).2 with
  | started dest =>
      refine ⟨_, .claim hstage hclaim, ?_⟩
      simp [hclaim, setStage, setTask, perform, turnTo, remaining, started]
  | underway =>
      refine ⟨_, .attach hstage hclaim, ?_⟩
      simp [hclaim, setStage, setTask, perform, turnTo, remaining, started]
  | unknown =>
      refine ⟨_, .meet hstage hclaim, ?_⟩
      simp [hclaim, setStage, setTask, perform, turnTo, remaining, started]

theorem exists_turn_visitDirectory {path : Path} {requester : Option Path}
    (hstage : task.stage = .visit path requester) (hwalked : s.options.IsWalked s.store path) :
    ∃ turn, Turns s task turn ∧ s.visitDirectory task path = s.perform task turn := by
  rw [visitDirectory]
  cases hfiles : Walk.files s.store s.options path with
  | error e =>
      refine ⟨_, .refuse e hstage hwalked.not_isCode fun _ => hfiles, ?_⟩
      simp [refuse, send, setStage, setTask, perform, turnTo, remaining, started]
  | ok files =>
      refine ⟨_, .walk hstage hwalked hfiles, ?_⟩
      simp [setStage, setTask, spawn, perform, turnTo, remaining, started]

theorem visitAsset_eq (s : BuildSession σ) (task : BuildTask) (kind : AssetTreatment)
    (path rest : Path) : s.visitAsset task kind path rest =
      match (emit s.store s.options kind path rest).2 with
      | .ok () => { s with store := (emit s.store s.options kind path rest).1 }.setStage task
          (.done 1)
      | .error e =>
          { s with store := (emit s.store s.options kind path rest).1 }.refuse task path e := by
  cases kind <;> rfl

theorem exists_turn_visitAsset {path rest : Path} {requester : Option Path}
    {kind : AssetTreatment} (hstage : task.stage = .visit path requester)
    (hcode : ∀ rest, ¬ s.options.IsCode s.store path rest)
    (hfile : FileStore.isFile s.store path = true) (hbelow : s.options.belowBase path = .ok rest) :
    ∃ turn, Turns s task turn ∧ s.visitAsset task kind path rest = s.perform task turn := by
  rw [visitAsset_eq]
  cases hresult : (emit s.store s.options kind path rest).2 with
  | error e =>
      refine ⟨_, .assetFailed hstage hcode hfile hbelow hresult, ?_⟩
      simp [refuse, send, setStage, setTask, perform, turnTo, remaining, started]
  | ok _ =>
      refine ⟨_, .asset hstage hcode hfile hbelow hresult, ?_⟩
      simp [setStage, setTask, perform, turnTo, remaining, started]

theorem exists_turn_visitCode {path rest : Path} {requester : Option Path}
    (hstage : task.stage = .visit path requester)
    (hcode : s.options.IsCode s.store path rest) :
    ∃ turn, Turns s task turn ∧ s.visitCode task path rest requester = s.perform task turn := by
  rw [visitCode]
  cases hcontains : s.register.targets.contains (s.options.codeOutput rest) with
  | true =>
      refine ⟨_, .join hstage hcode hcontains, ?_⟩
      simp [Register.enroll_of_contains hcontains, setStage, setTask, perform, turnTo, remaining,
        started]
  | false =>
      refine ⟨_, .begin hstage hcode hcontains, ?_⟩
      simp [Register.enroll_of_not_contains hcontains, setStage, setTask, perform, turnTo,
        remaining, started]

theorem exists_turn_visit {path : Path} {requester : Option Path}
    (hstage : task.stage = .visit path requester) :
    ∃ turn, Turns s task turn ∧ s.visit task path requester = s.perform task turn := by
  have hpass : (∀ rest, ¬ s.options.IsCode s.store path rest) →
      ¬ s.options.IsWalked s.store path →
      ∃ turn, Turns s task turn ∧ s.setStage task (.done 0) = s.perform task turn := by
    intro hcode hwalked
    refine ⟨_, .pass hstage hcode hwalked, ?_⟩
    simp [setStage, setTask, perform, turnTo, remaining, started]
  have hrefuse : ∀ e, (∀ rest, ¬ s.options.IsCode s.store path rest) →
      ¬ s.options.IsWalked s.store path →
      ∃ turn, Turns s task turn ∧ s.refuse task path e = s.perform task turn := by
    intro e hcode hwalked
    refine ⟨_, .refuse e hstage hcode fun h => absurd h hwalked, ?_⟩
    simp [refuse, send, setStage, setTask, perform, turnTo, remaining, started]
  rw [visit]
  by_cases hexists : FileStore.exists? s.store path
  · rw [if_neg (by simp [hexists])]
    cases hbelow : s.options.belowBase path with
    | error e =>
        refine hrefuse e (fun rest hcode => ?_) fun ⟨_, rest, hrest, _⟩ => ?_
        · simp [hcode.below] at hbelow
        · simp [hrest] at hbelow
    | ok rest =>
        dsimp only
        split
        · rename_i hexcluded
          refine hpass (fun other hcode => ?_) fun ⟨_, other, hother, hkept⟩ => ?_
          · have hkept := hcode.kept
            rw [← Except.ok.inj (hbelow.symm.trans hcode.below), hexcluded] at hkept
            contradiction
          · rw [← Except.ok.inj (hbelow.symm.trans hother), hexcluded] at hkept
            contradiction
        · rename_i hkept
          split
          · rename_i hdirectory
            exact exists_turn_visitDirectory hstage
              ⟨hdirectory, rest, hbelow, by simpa using hkept⟩
          · rename_i hdirectory
            have hwalked : ¬ s.options.IsWalked s.store path := fun h => hdirectory h.1
            have hfile : FileStore.isFile s.store path = true := by
              rw [FileStore.exists?, Option.isSome_iff_exists] at hexists
              obtain ⟨kind, hkind⟩ := hexists
              cases kind with
              | file => simp [FileStore.isFile, hkind]
              | directory => simp [FileStore.isDirectory, hkind] at hdirectory
            split
            · rename_i hsuffix
              refine hpass (fun other hcode => ?_) hwalked
              obtain ⟨extension, hextension, -⟩ := hcode.suffix
              simp [hsuffix] at hextension
            · rename_i extension hsuffix
              split
              · rename_i hallowed
                refine hpass (fun other hcode => ?_) hwalked
                obtain ⟨found, hfound, hcontains, -⟩ := hcode.suffix
                rw [hsuffix, Option.some.injEq] at hfound
                rw [hfound, hcontains] at hallowed
                simp at hallowed
              · rename_i hallowed
                split
                · rename_i kind hkind
                  refine exists_turn_visitAsset hstage (fun other hcode => ?_) hfile hbelow
                  obtain ⟨found, hfound, -, hnone⟩ := hcode.suffix
                  rw [hsuffix, Option.some.injEq] at hfound
                  simp [hfound, hnone] at hkind
                · rename_i hnone
                  exact exists_turn_visitCode hstage
                    ⟨hfile, hbelow, by simpa using hkept, extension, hsuffix,
                      by simpa using hallowed, hnone⟩
  · rw [if_pos (by simp [hexists])]
    refine hrefuse _ (fun rest hcode => ?_) fun hwalked => ?_
    · have hfile := hcode.file
      simp_all [FileStore.exists?, FileStore.isFile]
    · have hdirectory := hwalked.1
      simp_all [FileStore.exists?, FileStore.isDirectory]

/-- Every step of a session is a turn of one of its tasks. -/
theorem exists_turn (h : s.step? id = some t) :
    ∃ task turn, s.task? id = some task ∧ Turns s task turn ∧ t = s.perform task turn := by
  obtain ⟨task, htask, hstep⟩ := Option.bind_eq_some_iff.1 h
  suffices hturn : ∃ turn, Turns s task turn ∧ t = s.perform task turn by
    obtain ⟨turn, hturn⟩ := hturn
    exact ⟨task, turn, htask, hturn⟩
  cases hstage : task.stage with
  | claim path =>
      rw [hstage] at hstep
      rw [← Option.some.inj hstep]
      exact exists_turn_claim hstage
  | visit path requester =>
      rw [hstage] at hstep
      rw [← Option.some.inj hstep]
      exact exists_turn_visit hstage
  | read job =>
      rw [hstage] at hstep
      rw [← Option.some.inj hstep, BuildSession.read]
      cases hread : FileStore.readText s.store job.source with
      | error f =>
          refine ⟨_, .unreadable hstage hread, ?_⟩
          simp [setStage, setTask, perform, turnTo, remaining, started]
      | ok text =>
          refine ⟨_, .read hstage hread, ?_⟩
          simp [setStage, setTask, perform, turnTo, remaining, started]
  | transform job text =>
      rw [hstage] at hstep
      dsimp only at hstep
      split at hstep
      · simp at hstep
      · rw [← Option.some.inj hstep, BuildSession.transform]
        split
        · rename_i output houtput
          refine ⟨_, .transform hstage houtput, ?_⟩
          simp [setStage, setTask, perform, turnTo, remaining, started]
        · rename_i message stack? hfailure
          refine ⟨_, .fail hstage hfailure, ?_⟩
          simp [setStage, setTask, perform, turnTo, remaining, started]
        · rename_i hcrash
          refine ⟨_, .crash hstage hcrash, ?_⟩
          simp [setStage, setTask, perform, turnTo, remaining, started]
  | lookUp job output =>
      rw [hstage] at hstep
      rw [← Option.some.inj hstep, lookUp]
      cases hfiles : s.dependencies job.source output.imports with
      | error e =>
          refine ⟨_, .unresolved hstage hfiles, ?_⟩
          simp [setStage, setTask, perform, turnTo, remaining, started]
      | ok files =>
          refine ⟨_, .resolve hstage hfiles, ?_⟩
          simp [setStage, setTask, spawn, perform, turnTo, remaining, started]
  | gather pending =>
      rw [hstage] at hstep
      obtain ⟨counts, hcounts, hstep⟩ := Option.bind_eq_some_iff.1 hstep
      cases pending with
      | none =>
          refine ⟨_, .gather hstage hcounts, ?_⟩
          rw [← Option.some.inj hstep]
          simp [setStage, setTask, perform, turnTo, remaining, started]
      | some pending =>
          obtain ⟨job, code⟩ := pending
          refine ⟨_, .gatherFile hstage hcounts, ?_⟩
          rw [← Option.some.inj hstep]
          simp [setStage, setTask, perform, turnTo, remaining, started]
  | write job code locals =>
      rw [hstage] at hstep
      rw [← Option.some.inj hstep]
      refine ⟨_, .write hstage rfl, ?_⟩
      simp [BuildSession.write, setStage, setTask, perform, turnTo, remaining, started]
  | finish job result =>
      rw [hstage] at hstep
      rw [← Option.some.inj hstep]
      cases result with
      | ok locals =>
          refine ⟨_, .finish hstage, ?_⟩
          rw [BuildSession.finish]
          cases hclosing : (s.register.close job.dest true).2 <;>
            simp [hclosing, send, setStage, setTask, perform, turnTo, remaining, started]
      | error e =>
          refine ⟨_, .finishFailed hstage, ?_⟩
          rw [BuildSession.finish]
          cases hclosing : (s.register.close job.dest false).2 <;>
            simp [hclosing, send, setStage, setTask, perform, turnTo, remaining, started]
  | done count =>
      rw [hstage] at hstep
      dsimp only at hstep
      rw [proceed?] at hstep
      cases hagenda : task.agenda with
      | single => simp [hagenda] at hstep
      | entries rest total =>
          cases rest with
          | nil =>
              rw [hagenda] at hstep
              refine ⟨_, .report hstage hagenda, ?_⟩
              rw [← Option.some.inj hstep]
              simp [send, setTask, perform, turnTo, remaining, started]
          | cons entry rest =>
              rw [hagenda] at hstep
              refine ⟨_, .next hstage hagenda, ?_⟩
              rw [← Option.some.inj hstep]
              simp [setTask, perform, turnTo, remaining, started]
  | crashed =>
      rw [hstage] at hstep
      simp at hstep

end BuildSession

end LiveBuild
