import LiveBuild.Proofs.Descent
import LiveBuild.Proofs.Waiting

/-!
# Compilation ends

Any number of requests to compile may be made on one session, at any time and with overlapping
entries. None of them waits for a build that another one has started, so no task ever waits for
itself, some task can go on until all requests have returned, and that is so after finitely many
steps. Whatever the requests share is transformed once.
-/

namespace LiveBuild

/-- What is to be compiled, and how. -/
structure Project where
  tree : FileTree
  options : BuildOptions
  sourceTransform : SourceTransform

/-- The output of a source goes to a destination. -/
def BuildOptions.sendsTo (o : BuildOptions) (d source : Path) : Bool :=
  match o.outputFor source with
  | .ok output => output.same d
  | .error _ => false

/-- A task in this stage is about to read the source of a destination. -/
def BuildTask.Stage.readsFor (d : Path) : BuildTask.Stage → Bool
  | .read job => job.dest.same d
  | _ => false

namespace Project

open BuildSession (Turns)

def session (p : Project) : BuildSession FileTree := .start p.tree p.options p.sourceTransform

/-- What is taken for granted: the tree holds files and directories and the base directory is none
of its files, directories are given from the root, and the transform always answers. -/
structure Proper (p : Project) : Prop where
  built : FileTree.Built p.tree
  base : p.options.baseDir.isAbsolute = true
  directory : FileStore.isFile p.tree p.options.baseDir = false
  out : p.options.outDir.isAbsolute = true
  answers : ∀ source text context, p.sourceTransform source text context ≠ .crash

/-- The sessions that requests to compile lead to while no task looks into the output directory. -/
inductive Reaches (p : Project) : BuildSession FileTree → Prop
  | start : Reaches p p.session
  | request {s : BuildSession FileTree} (addressee : Addressee) (entries : List Path) :
      Reaches p s → Reaches p (s.call addressee (.compile entries)).1
  | step {s t : BuildSession FileTree} : Reaches p s → s.Steps t → t.Clear → Reaches p t

/-- What is true at every moment of some requests to compile. -/
structure Compiling (p : Project) (s : BuildSession FileTree) : Prop where
  options : s.options = p.options
  sourceTransform : s.sourceTransform = p.sourceTransform
  held : s.held = false
  confined : s.Confined p.tree
  clear : s.Clear
  rooted : ∀ call < s.nextCall, s.Rooted call
  safe : ∀ task ∈ s.tasks, task.stage ≠ .crashed
  first : ∀ task ∈ s.tasks, ∀ path, task.stage ≠ .claim path
  jobs : ∀ task ∈ s.tasks, ∀ job, task.stage.job? = some job →
    p.options.outputFor job.source = .ok job.dest
  outputs : ∀ source ∈ s.transformed, ∃ d, p.options.outputFor source = .ok d
  /-- Once a destination is recorded, its source is about to be read, or has been read, once. -/
  once : ∀ d, (s.tasks.countP fun task => task.stage.readsFor d) +
    s.transformed.countP (p.options.sendsTo d) ≤ if s.register.targets.contains d then 1 else 0

variable {p : Project} {s t : BuildSession FileTree} {task : BuildTask}
  {turn : BuildSession.Turn FileTree}

theorem readsFor_of_job? {stage : BuildTask.Stage} (h : stage.job? = none) (d : Path) :
    stage.readsFor d = false := by
  cases stage <;> first | rfl | contradiction

theorem compiling_session (hp : p.Proper) : p.Compiling p.session where
  options := rfl
  sourceTransform := rfl
  held := rfl
  confined :=
    { orderly := ⟨List.Pairwise.nil, fun _ h => (nomatch h), fun _ h => (nomatch h),
        fun _ h => (nomatch h)⟩
      base := hp.base
      out := hp.out
      directory := hp.directory
      sound := hp.built.sound
      kept := .refl _ _
      jobs := fun _ h => (nomatch h)
      recorded := fun _ h => (nomatch h) }
  clear _ h := nomatch h
  rooted _ h := nomatch h
  safe _ h := nomatch h
  first _ h := nomatch h
  jobs _ h := nomatch h
  outputs _ h := nomatch h
  once _ := Nat.zero_le _

namespace Compiling

theorem request (h : p.Compiling s) (addressee : Addressee) (entries : List Path) :
    p.Compiling (s.call addressee (.compile entries)).1 where
  options := h.options
  sourceTransform := h.sourceTransform
  held := h.held
  confined := h.confined.call addressee (.compile entries)
  clear u hu path requester hstage := by
    rcases List.mem_append.1 hu with hu | hu
    · exact h.clear u hu path requester hstage
    · rw [List.mem_singleton.1 hu] at hstage
      contradiction
  rooted call hcall := by
    rcases Nat.lt_succ_iff_lt_or_eq.1 hcall with hcall | rfl
    · obtain ⟨root, hroot, hparent⟩ := h.rooted call hcall
      exact ⟨root, List.mem_append_left _ hroot, hparent⟩
    · exact ⟨_, List.mem_append_right _ (List.mem_singleton.2 rfl), rfl, rfl⟩
  safe u hu := by
    rcases List.mem_append.1 hu with hu | hu
    · exact h.safe u hu
    · rw [List.mem_singleton.1 hu]
      exact BuildTask.Stage.noConfusion
  first u hu path := by
    rcases List.mem_append.1 hu with hu | hu
    · exact h.first u hu path
    · rw [List.mem_singleton.1 hu]
      exact BuildTask.Stage.noConfusion
  jobs u hu job hjob := by
    rcases List.mem_append.1 hu with hu | hu
    · exact h.jobs u hu job hjob
    · rw [List.mem_singleton.1 hu] at hjob
      contradiction
  outputs := h.outputs
  once d := by
    have honce := h.once d
    change (s.tasks ++ [_]).countP _ + _ ≤ _
    rw [List.countP_append, List.countP_singleton]
    exact honce

section Turn

variable (h : p.Compiling s) (htask : task ∈ s.tasks) (hturn : Turns s task turn)

include h hturn

theorem not_crashed_turn (hp : p.Proper) : turn.stage ≠ .crashed := by
  cases hturn with
  | crash hstage hcrash =>
      rw [h.sourceTransform] at hcrash
      exact absurd hcrash (hp.answers _ _ _)
  | _ => exact BuildTask.Stage.noConfusion

include htask

theorem outputFor_turn {job : BuildJob} (hjob : turn.stage.job? = some job) :
    p.options.outputFor job.source = .ok job.dest := by
  have hkept : turn.stage.job? = task.stage.job? →
      p.options.outputFor job.source = .ok job.dest := by
    intro hsame
    exact h.jobs task htask job (hsame ▸ hjob)
  cases hturn with
  | claim hstage => exact absurd hstage (h.first task htask _)
  | begin hstage hcode =>
      obtain rfl := Option.some.inj hjob
      rw [← h.options, BuildOptions.outputFor, hcode.below]
      rfl
  | _ => simp_all [BuildSession.turnTo, BuildTask.Stage.job?]

/-- A source comes to be read when its output is recorded, and has been read once. -/
theorem readsFor_turn (d : Path) :
    (if turn.stage.readsFor d then 1 else 0) + turn.read.countP (p.options.sendsTo d) +
        (if s.register.targets.contains d then 1 else 0) ≤
      (if task.stage.readsFor d then 1 else 0) +
        if turn.register.targets.contains d then 1 else 0 := by
  rcases hturn.contains_cases with ⟨hsame, hread⟩ |
    ⟨path, rest, requester, hstage, hcode, hnew, hafter, -, hread, hcontains⟩
  · rw [hsame]
    have hidle : turn.stage.readsFor d = false := by
      cases hstage : turn.stage with
      | read job =>
          obtain ⟨path, hclaim⟩ := hread job hstage
          exact absurd hclaim (h.first task htask path)
      | _ => rfl
    have hcount : turn.read.countP (p.options.sendsTo d) ≤
        if task.stage.readsFor d then 1 else 0 := by
      cases hturn with
      | @read job text hstage =>
          have houtput := h.jobs task htask job (by rw [hstage]; rfl)
          simp [hstage, BuildTask.Stage.readsFor, BuildOptions.sendsTo, houtput,
            List.countP_singleton]
      | _ => exact Nat.zero_le _
    rw [hidle]
    simp only [Bool.false_eq_true, ↓reduceIte]
    omega
  · rw [hstage, hafter, hread, hcontains]
    cases hd : (s.options.codeOutput rest).same d with
    | false => simp [BuildTask.Stage.readsFor, hd]
    | true =>
        rw [PathMap.contains_congr (Path.same_iff.1 hd)] at hnew
        simp [BuildTask.Stage.readsFor, hd, hnew]

theorem perform (hp : p.Proper) (hclear : (s.perform task turn).Clear) :
    p.Compiling (s.perform task turn) where
  options := h.options
  sourceTransform := h.sourceTransform
  held := h.held
  confined := h.confined.perform htask hturn h.clear
  clear := hclear
  rooted call hcall :=
    BuildSession.exists_root_perform h.confined.orderly htask turn (h.rooted call hcall)
  safe u hu := by
    rcases (BuildSession.mem_tasks_perform h.confined.orderly htask turn).1 hu with
      ⟨hu, -⟩ | rfl | hu
    · exact h.safe u hu
    · exact h.not_crashed_turn hturn hp
    · obtain ⟨path, requester, hstage⟩ :=
        hturn.spawned_visits _ (BuildSession.mem_started hu).2.2.2.2.2.2
      rw [hstage]
      exact BuildTask.Stage.noConfusion
  first u hu path := by
    rcases (BuildSession.mem_tasks_perform h.confined.orderly htask turn).1 hu with
      ⟨hu, -⟩ | rfl | hu
    · exact h.first u hu path
    · exact hturn.stage_ne_claim path
    · obtain ⟨path', requester, hstage⟩ :=
        hturn.spawned_visits _ (BuildSession.mem_started hu).2.2.2.2.2.2
      rw [hstage]
      exact BuildTask.Stage.noConfusion
  jobs u hu job hjob := by
    rcases (BuildSession.mem_tasks_perform h.confined.orderly htask turn).1 hu with
      ⟨hu, -⟩ | rfl | hu
    · exact h.jobs u hu job hjob
    · exact h.outputFor_turn htask hturn hjob
    · rw [hturn.job?_of_started hu] at hjob
      contradiction
  outputs source hsource := by
    rcases List.mem_append.1 hsource with hsource | hsource
    · exact h.outputs source hsource
    · cases hturn with
      | @read job text hstage =>
          rw [List.mem_singleton.1 hsource]
          exact ⟨job.dest, h.jobs task htask job (by rw [hstage]; rfl)⟩
      | _ => contradiction
  once d := by
    have hreaders := BuildSession.countP_perform h.confined.orderly htask hturn
      (f := fun task => task.stage.readsFor d)
      (fun _ _ hcount => readsFor_of_job? (BuildTask.job?_of_count? hcount) d)
      (fun _ hu => readsFor_of_job? (hturn.job?_of_started hu) d)
    have hread : (s.perform task turn).transformed.countP (p.options.sendsTo d) =
        s.transformed.countP (p.options.sendsTo d) + turn.read.countP (p.options.sendsTo d) :=
      List.countP_append
    have hbalance := h.readsFor_turn htask hturn d
    have honce := h.once d
    change _ + (if task.stage.readsFor d then 1 else 0) =
      _ + (if turn.stage.readsFor d then 1 else 0) at hreaders
    change _ ≤ if turn.register.targets.contains d then 1 else 0
    omega

end Turn

theorem step (h : p.Compiling s) (hp : p.Proper) (hstep : s.Steps t) (hclear : t.Clear) :
    p.Compiling t := by
  obtain ⟨id, hid⟩ := hstep
  obtain ⟨task, turn, hfound, hturn, rfl⟩ := BuildSession.exists_turn hid
  exact h.perform (BuildSession.mem_of_task? hfound).1 hturn hp hclear

theorem transformed_le_one (h : p.Compiling s) (d : Path) :
    s.transformed.countP (p.options.sendsTo d) ≤ 1 := by
  have honce := h.once d
  split at honce <;> omega

end Compiling

theorem Reaches.compiling (hp : p.Proper) (h : p.Reaches s) : p.Compiling s := by
  induction h with
  | start => exact compiling_session hp
  | request addressee entries _ ih => exact ih.request addressee entries
  | step _ hstep hclear ih => exact ih.step hp hstep hclear

/-- **Compilation ends and never deadlocks.** Whenever some request has not returned, some task can
go on. A task that is not finished goes on or waits for one that is not finished, and no task waits
for itself, be it through others. Steps cannot go on for ever, and when none is left, every request
has returned. Whatever is read and transformed has a destination, and no two sources that are read
have the same one. -/
theorem compilation_ends (hp : p.Proper) (h : p.Reaches s) :
    (∀ call < s.nextCall, ¬ s.Returned call → ∃ t, s.Steps t) ∧
    (∀ task ∈ s.tasks, task.count? = none →
      (∃ t, s.step? task.id = some t) ∨ ∃ u, s.Awaits task u ∧ u.count? = none) ∧
    (∀ task, ¬ Relation.TransGen s.Awaits task task) ∧
    (¬ ∃ run : Nat → BuildSession FileTree, run 0 = s ∧
      ∀ n, (run n).Steps (run (n + 1)) ∧ (run n).Clear) ∧
    ((∀ id, s.step? id = none) → ∀ call < s.nextCall, s.Returned call) ∧
    (∀ source ∈ s.transformed, ∃ d, p.options.outputFor source = .ok d) ∧
    ∀ d, s.transformed.countP (p.options.sendsTo d) ≤ 1 := by
  have hcompiling := h.compiling hp
  have horderly := hcompiling.confined.orderly
  refine ⟨fun call hcall hreturned => ?_, fun task htask hunfinished => ?_, fun task => ?_,
    hcompiling.confined.no_infinite_run, fun hstuck call hcall => ?_, hcompiling.outputs,
    hcompiling.transformed_le_one⟩
  · exact horderly.exists_step_of_not_returned hcompiling.held hcompiling.safe
      (hcompiling.rooted call hcall) hreturned
  · exact horderly.goes_on_or_awaits hcompiling.held htask hunfinished
  · exact horderly.not_transGen_awaits
  · exact horderly.returned_of_stuck hcompiling.held hcompiling.safe hstuck
      (hcompiling.rooted call hcall)

/-- Two files that import each other, one of which also imports itself. -/
def ring : Project where
  tree := (FileTree.empty.putFile "/p/a.js" "import \"./b\"; import \"./a\"".toUTF8).putFile
    "/p/b.js" "import \"./a\"".toUTF8
  options :=
    { baseDir := "/p", outDir := "/p/out", extensions := [".js"], resolveExtensions := [".js"],
      exclude := [], assets := ⟨[], [], "", ""⟩, extra := {} }
  sourceTransform := .scan

theorem proper_ring : ring.Proper where
  built := .putFile _ _ (.putFile _ _ .empty)
  base := by decide +kernel
  directory := by decide +kernel
  out := by decide +kernel
  answers _ _ _ := by simp [ring, SourceTransform.scan]

theorem Reaches.run (h : p.Reaches s) (fuel : Nat) (hclear : s.isClearFor fuel = true) :
    p.Reaches (s.run fuel) :=
  BuildSession.run_induction (fun _ _ hs hstep ht => hs.step hstep ht) fuel h hclear

/-- The ring while two requests build it from both ends. -/
def ringUnderway : BuildSession FileTree :=
  BuildSession.run 7 ((((ring.session.call ⟨1, 0⟩ (.compile ["a.js"])).1).call ⟨2, 0⟩
    (.compile ["b.js"])).1)

/-- Neither request has returned, and both files are recorded. -/
theorem compilation_ends_ring : ring.Proper ∧ ring.Reaches ringUnderway ∧
    ringUnderway.collect.2 = [] ∧ ringUnderway.register.size = 2 ∧
    (∃ t, ringUnderway.Steps t) ∧
    ∀ d, ringUnderway.transformed.countP (ring.options.sendsTo d) ≤ 1 := by
  have hreaches : ring.Reaches ringUnderway :=
    ((Reaches.start.request ⟨1, 0⟩ ["a.js"]).request ⟨2, 0⟩ ["b.js"]).run 7 (by decide +kernel)
  have hnone : ringUnderway.collect.2 = [] := by decide +kernel
  have hends := compilation_ends proper_ring hreaches
  refine ⟨proper_ring, hreaches, hnone, by decide +kernel, ?_, hends.2.2.2.2.2.2⟩
  refine hends.1 0 (by decide +kernel) ?_
  rintro ⟨total, htotal⟩
  rw [hnone] at htotal
  exact absurd htotal List.not_mem_nil

end Project

end LiveBuild
