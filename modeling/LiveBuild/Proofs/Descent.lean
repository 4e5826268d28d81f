import LiveBuild.Proofs.Ownership
import Mathlib.Algebra.BigOperators.Group.List.Basic

/-!
# Every run ends

A task that begins the work on a source records its output, and there are no more outputs than
files. Until the next output is recorded or the next entry is taken up, only the look at a directory
and the imports of a source that is being built start tasks, and each of them does so once. All
other turns bring one task closer to its end. So a session comes to rest whatever it was asked, as
long as nothing of it looks into the directory that it writes to.
-/

namespace LiveBuild

/-- How far a stage is from the end. -/
def BuildTask.Stage.rank : BuildTask.Stage → Nat
  | .claim _ => 8
  | .visit _ _ => 7
  | .read _ => 6
  | .transform _ _ => 5
  | .lookUp _ _ => 4
  | .gather _ => 3
  | .write _ _ _ => 2
  | .finish _ _ => 1
  | .done _ => 0
  | .crashed => 0

def BuildTask.Agenda.length : BuildTask.Agenda → Nat
  | .single => 0
  | .entries rest _ => rest.length

/-- How far a task is from the end of its agenda's current item. -/
def BuildTask.rank (task : BuildTask) : Nat :=
  task.stage.rank + match task.agenda with
    | .single => 0
    | .entries _ _ => 1

/-- Whether a task in some stage may still start others. -/
def BuildTask.Stage.opens (tree : FileTree) : BuildTask.Stage → Nat
  | .claim _ => 1
  | .visit p _ => if FileStore.isDirectory tree p then 1 else 0
  | .read _ => 1
  | .transform _ _ => 1
  | .lookUp _ _ => 1
  | _ => 0

/-- One distance comes before another. -/
def Closer : Nat × Nat × Nat → Nat × Nat × Nat → Prop :=
  Prod.Lex (· < ·) (Prod.Lex (· < ·) (· < ·))

theorem wellFounded_closer : WellFounded Closer :=
  (Prod.lex Nat.lt_wfRel (Prod.lex Nat.lt_wfRel Nat.lt_wfRel)).wf

theorem closer_iff {x y z x' y' z' : Nat} :
    Closer (x, y, z) (x', y', z') ↔ x < x' ∨ x = x' ∧ (y < y' ∨ y = y' ∧ z < z') := by
  rw [Closer, Prod.lex_def, Prod.lex_def]

/-- A place below the base directory stays below it in another spelling. -/
theorem exists_belowBase_of_components {o : BuildOptions} {p q rest : Path}
    (hp : o.belowBase p = .ok rest) (hpq : p.components = q.components) :
    ∃ rest', o.belowBase q = .ok rest' := by
  have hstarts : q.startsWith o.baseDir = true := by
    rw [← FileTree.startsWith_congr hpq]
    by_contra hnot
    simp [BuildOptions.belowBase, Path.relativeTo?, hnot] at hp
  rw [BuildOptions.belowBase, Path.relativeTo?, if_pos hstarts]
  dsimp only
  split
  · exact ⟨_, rfl⟩
  · rename_i hnone
    split at hnone <;> contradiction

theorem exists_entry_of_isFile {tree : FileTree} {p : Path} (h : FileStore.isFile tree p = true) :
    ∃ k entry, (k, entry) ∈ tree.entries.entries ∧ k.components = p.components := by
  have hkind : ∃ kind, tree.kindOf? p = some kind := by
    rw [FileStore.isFile, FileStore.kindOf?, beq_iff_eq] at h
    exact ⟨_, h⟩
  obtain ⟨entry, hget⟩ := PathMap.contains_iff.1 (FileTree.contains_iff_kindOf?.2 hkind)
  obtain ⟨k, hk, hsame⟩ := PathMap.exists_mem_of_get? hget
  exact ⟨k, entry, hk, hsame⟩

namespace BuildSession

/-- No task looks at a path in the output directory. -/
def Clear {σ : Type} (s : BuildSession σ) : Prop :=
  ∀ task ∈ s.tasks, ∀ path requester, task.stage = .visit path requester →
    path.startsWith s.options.outDir = false

/-- A session that has left a tree as it was, except for what lies in the output directory. -/
structure Confined (tree : FileTree) (s : BuildSession FileTree) : Prop where
  orderly : s.Orderly
  base : s.options.baseDir.isAbsolute = true
  out : s.options.outDir.isAbsolute = true
  directory : FileStore.isFile tree s.options.baseDir = false
  sound : s.store.Sound
  kept : FileTree.Kept s.options.outDir tree s.store
  jobs : ∀ task ∈ s.tasks, ∀ job, task.stage.job? = some job →
    job.dest.startsWith s.options.outDir = true
  recorded : ∀ d, s.register.targets.contains d = true → d.startsWith s.options.outDir = true

/-- How many places of a tree have an output that is not recorded. -/
def unrecorded (tree : FileTree) (o : BuildOptions) (r : Register) : Nat :=
  tree.entries.entries.countP fun entry =>
    match o.outputFor entry.1 with
    | .ok d => !r.targets.contains d
    | .error _ => false

/-- What is left to be recorded and to be taken up, how many tasks may still start others, and how
far the tasks are from their ends. -/
def distance (tree : FileTree) (s : BuildSession FileTree) : Nat × Nat × Nat :=
  (unrecorded tree s.options s.register + (s.tasks.map fun task => task.agenda.length).sum,
    (s.tasks.map fun task => task.stage.opens tree).sum,
    (s.tasks.map BuildTask.rank).sum)

section Runs

variable {σ : Type} [FileStore σ] {s t : BuildSession σ}

theorem Steps.options_eq (h : s.Steps t) : t.options = s.options := by
  obtain ⟨id, hid⟩ := h
  obtain ⟨task, turn, -, -, rfl⟩ := exists_turn hid
  rfl

def isClear (s : BuildSession σ) : Bool :=
  s.tasks.all fun task =>
    match task.stage with
    | .visit path _ => !path.startsWith s.options.outDir
    | _ => true

omit [FileStore σ] in
theorem clear_of_isClear (h : s.isClear = true) : s.Clear := by
  intro task htask path requester hstage
  have hclear := List.all_eq_true.1 h task htask
  simpa [hstage] using hclear

/-- No task looks at a path in the output directory during the next steps. -/
def isClearFor : Nat → BuildSession σ → Bool
  | 0, _ => true
  | fuel + 1, s =>
      match s.next? with
      | none => true
      | some t => t.isClear && isClearFor fuel t

theorem run_induction {P : BuildSession σ → Prop}
    (hstep : ∀ s t : BuildSession σ, P s → s.Steps t → t.Clear → P t) (fuel : Nat) (hs : P s)
    (hclear : s.isClearFor fuel = true) : P (s.run fuel) := by
  induction fuel generalizing s with
  | zero => exact hs
  | succ fuel ih =>
      rw [run]
      rw [isClearFor] at hclear
      cases hnext : s.next? with
      | none => exact hs
      | some t =>
          rw [hnext] at hclear
          obtain ⟨ht, hrest⟩ := (Bool.and_eq_true _ _).mp hclear
          obtain ⟨task, -, hid⟩ := List.exists_of_findSome?_eq_some hnext
          exact ih (hstep s t hs ⟨task.id, hid⟩ (clear_of_isClear ht)) hrest

end Runs

/-- A turn records nothing, or the output of the code file that its task looks at. -/
theorem Turns.contains_cases {σ : Type} [FileStore σ] {s : BuildSession σ} {task : BuildTask}
    {turn : Turn σ} (hturn : Turns s task turn) :
    ((∀ d, turn.register.targets.contains d = s.register.targets.contains d) ∧
      ∀ job, turn.stage = .read job → ∃ path, task.stage = .claim path) ∨
    ∃ path rest requester, task.stage = .visit path requester ∧
      s.options.IsCode s.store path rest ∧
      s.register.targets.contains (s.options.codeOutput rest) = false ∧
      turn.stage = .read ⟨path, s.options.codeOutput rest⟩ ∧ turn.agenda = task.agenda ∧
      turn.read = [] ∧ ∀ d, turn.register.targets.contains d =
        ((s.options.codeOutput rest).same d || s.register.targets.contains d) := by
  cases hturn with
  | begin hstage hcode hnew =>
      refine Or.inr ⟨_, _, _, hstage, hcode, hnew, rfl, rfl, rfl, fun d => ?_⟩
      exact Register.contains_enroll _ _ _ _ _ _
  | claim hstage => exact Or.inl ⟨fun d => Register.contains_reopen _ _ _ _, fun _ _ => ⟨_, hstage⟩⟩
  | join hstage hcode hcontains =>
      refine Or.inl ⟨fun d => ?_, fun job hread => by simp [turnTo] at hread⟩
      dsimp only
      rw [Register.contains_enroll]
      cases hsame : (s.options.codeOutput _).same d with
      | false => rfl
      | true => rw [← PathMap.contains_congr (Path.same_iff.1 hsame), hcontains, Bool.or_self]
  | _ =>
      refine Or.inl ⟨fun d => ?_, fun job hread => by simp [turnTo] at hread⟩
      simp [turnTo]

variable {tree : FileTree} {s t : BuildSession FileTree} {task u : BuildTask}
  {turn : Turn FileTree} {p q d path rest : Path} {requester : Option Path}

namespace Confined

section Turn

variable (h : s.Confined tree) (htask : task ∈ s.tasks) (hturn : Turns s task turn)
  (hclear : s.Clear) (hclear' : (s.perform task turn).Clear)

include h

theorem isCode_iff (hp : p.startsWith s.options.outDir = false) :
    s.options.IsCode s.store p rest ↔ s.options.IsCode tree p rest :=
  LiveBuild.isCode_iff h.kept hp

include htask

theorem outside_of_spawned (hclear' : (s.perform task turn).Clear)
    (hspawned : BuildTask.Stage.visit path requester ∈ turn.spawned) :
    path.startsWith s.options.outDir = false := by
  obtain ⟨u, hu, hstage⟩ := exists_started s task hspawned
  exact hclear' u (started_mem_perform h.orderly htask hu) path requester hstage

include hclear in
theorem startsWith_codeOutput (hstage : task.stage = .visit path requester)
    (hcode : s.options.IsCode s.store path rest) :
    (s.options.codeOutput rest).startsWith s.options.outDir = true := by
  apply LiveBuild.startsWith_codeOutput h.base hcode.below
  intro hbase
  have hfile := ((h.isCode_iff (hclear task htask path requester hstage)).1 hcode).file
  have hkind : FileStore.isFile tree s.options.baseDir = true := by
    simp only [FileStore.isFile, FileStore.kindOf?] at hfile ⊢
    rwa [FileTree.kindOf?_congr hbase] at hfile
  rw [h.directory] at hkind
  contradiction

include hturn

include hclear

theorem jobs_turn {job : BuildJob} (hjob : turn.stage.job? = some job) :
    job.dest.startsWith s.options.outDir = true := by
  cases hturn.tenure with
  | @regain path d hstage hclaim hafter =>
      rw [hafter] at hjob
      obtain rfl := Option.some.inj hjob
      exact h.recorded d (Register.reopen_started hclaim).2.1
  | @gain path rest requester hstage hcode hnew hafter =>
      rw [hafter] at hjob
      obtain rfl := Option.some.inj hjob
      exact h.startsWith_codeOutput htask hclear hstage hcode
  | lose _ hafter =>
      rw [hafter] at hjob
      contradiction
  | keep hsame =>
      rcases hsame with hsame | hcrashed
      · exact h.jobs task htask job (hsame ▸ hjob)
      · rw [hcrashed] at hjob
        contradiction

theorem perform : (s.perform task turn).Confined tree where
  orderly := h.orderly.perform htask hturn
  base := h.base
  out := h.out
  directory := h.directory
  sound := hturn.store_induction h.base (h.jobs task htask)
    (fun _ q content hsound _ => hsound.putFile q content) h.sound
  kept := hturn.store_induction h.base (h.jobs task htask)
    (fun _ _ content hkept hq => kept_putFile h.out hkept hq content) h.kept
  jobs u hu job hjob := by
    rcases (mem_tasks_perform h.orderly htask turn).1 hu with ⟨hu, -⟩ | rfl | hu
    · exact h.jobs u hu job hjob
    · exact h.jobs_turn htask hturn hclear hjob
    · rw [hturn.job?_of_started hu] at hjob
      contradiction
  recorded d hd := by
    change turn.register.targets.contains d = true at hd
    rcases hturn.contains_cases with
      ⟨hsame, -⟩ | ⟨path, rest, requester, hstage, hcode, -, -, -, -, hafter⟩
    · rw [hsame] at hd
      exact h.recorded d hd
    · rw [hafter, Bool.or_eq_true, Path.same_iff] at hd
      rcases hd with hd | hd
      · change d.startsWith s.options.outDir = true
        rw [← FileTree.startsWith_congr hd]
        exact h.startsWith_codeOutput htask hclear hstage hcode
      · exact h.recorded d hd

/-- A place of the tree whose output a turn records had none before. -/
theorem unrecorded_turn :
    (unrecorded tree s.options turn.register < unrecorded tree s.options s.register ∧
      turn.agenda = task.agenda) ∨
    ((∀ d, turn.register.targets.contains d = s.register.targets.contains d) ∧
      unrecorded tree s.options turn.register = unrecorded tree s.options s.register) := by
  rcases hturn.contains_cases with
    ⟨hsame, -⟩ | ⟨path, rest, requester, hstage, hcode, hnew, -, hagenda, -, hd⟩
  · exact Or.inr ⟨hsame, by simp only [unrecorded, hsame]⟩
  · refine Or.inl ⟨?_, hagenda⟩
    have hbefore := (h.isCode_iff (hclear task htask path requester hstage)).1 hcode
    obtain ⟨k, entry, hk, hsame⟩ := exists_entry_of_isFile hbefore.file
    obtain ⟨rest', hrest'⟩ := exists_belowBase_of_components hbefore.below hsame.symm
    have houtput : s.options.outputFor k = .ok (s.options.codeOutput rest') := by
      rw [BuildOptions.outputFor, hrest']
      rfl
    have hcomponents : (s.options.codeOutput rest).components =
        (s.options.codeOutput rest').components :=
      components_codeOutput_congr h.base h.out hbefore.below hrest' hsame.symm
    refine Walk.countP_lt (a := (k, entry)) (fun x hx => ?_) hk ?_ ?_
    · cases houtput : s.options.outputFor x.1 with
      | error e => simp [houtput] at hx
      | ok d =>
          simp only [houtput, hd, Bool.not_or, Bool.and_eq_true] at hx
          exact hx.2
    · simp only [houtput, ← PathMap.contains_congr hcomponents, hnew, Bool.not_false]
    · simp only [houtput, hd, Path.same_iff.2 hcomponents, Bool.true_or, Bool.not_true]

include hclear'

omit hclear in
theorem opens_of_spawned {stage : BuildTask.Stage} (hstage : stage ∈ turn.spawned) :
    stage.opens tree = 0 := by
  cases hturn with
  | @walk path requester files hvisit hwalked hfiles =>
      obtain ⟨file, hfile, rfl⟩ := List.mem_map.1 hstage
      obtain ⟨-, hfinds⟩ := Walk.finds_of_files h.kept h.sound hwalked.1 hfiles hfile
        (h.outside_of_spawned htask hclear' hstage)
      simp [BuildTask.Stage.opens, Walk.isDirectory_eq_false_of_finds hfinds]
  | @resolve job output files hlookUp hfiles =>
      obtain ⟨file, hfile, rfl⟩ := List.mem_map.1 hstage
      have hfound := (isFile_iff h.kept (h.outside_of_spawned htask hclear' hstage)).1
        (isFile_of_findAll hfiles file hfile)
      have hdirectory : FileStore.isDirectory tree file = false := by
        rw [Bool.eq_false_iff]
        intro hdirectory
        rw [Walk.isFile_eq_false_of_isDirectory hdirectory] at hfound
        contradiction
      simp [BuildTask.Stage.opens, hdirectory]
  | _ => simp [turnTo] at hstage

/-- What a turn brings closer to the end. -/
theorem turn_progress :
    (unrecorded tree s.options turn.register < unrecorded tree s.options s.register ∧
      turn.agenda = task.agenda) ∨
    (unrecorded tree s.options turn.register = unrecorded tree s.options s.register ∧
      (turn.agenda.length < task.agenda.length ∨
        turn.agenda.length = task.agenda.length ∧
          (turn.stage.opens tree < task.stage.opens tree ∨
            turn.stage.opens tree ≤ task.stage.opens tree ∧ turn.spawned = [] ∧
              (turn.after task).rank < task.rank))) := by
  rcases h.unrecorded_turn htask hturn hclear with hless | ⟨hcontains, hsame⟩
  · exact Or.inl hless
  refine Or.inr ⟨hsame, ?_⟩
  cases hturn with
  | @walk path requester files hstage hwalked hfiles =>
      refine Or.inr ⟨rfl, ?_⟩
      cases hfound : files with
      | nil =>
          refine Or.inr ⟨?_, rfl, ?_⟩
          · simp [BuildTask.Stage.opens, turnTo]
          · simp [hstage, Turn.after, turnTo, BuildTask.rank, BuildTask.Stage.rank]
      | cons file others =>
          left
          have hfile : file ∈ files := by simp [hfound]
          have hspawned : BuildTask.Stage.visit file none ∈
              files.map fun file => BuildTask.Stage.visit file none := List.mem_map_of_mem hfile
          obtain ⟨-, hfinds⟩ := Walk.finds_of_files h.kept h.sound hwalked.1 hfiles hfile
            (h.outside_of_spawned htask hclear' hspawned)
          have hdirectory : FileStore.isDirectory tree path = true :=
            Walk.isDirectory_iff.2 (Walk.isDirectory_of_finds hfinds)
          simp [hstage, BuildTask.Stage.opens, turnTo, hdirectory]
  | @begin path rest requester hstage hcode hnew =>
      have hnow := hcontains (s.options.codeOutput rest)
      rw [hnew, Register.enroll_of_not_contains hnew] at hnow
      simp [Register.recorded, PathMap.contains_insert, Path.same_self] at hnow
  | resolve hstage =>
      refine Or.inr ⟨rfl, Or.inl ?_⟩
      simp [hstage, BuildTask.Stage.opens, turnTo]
  | next hstage hagenda =>
      left
      simp [hagenda, BuildTask.Agenda.length]
  | report hstage hagenda =>
      refine Or.inr ⟨?_, Or.inr ⟨?_, rfl, ?_⟩⟩
      · simp [hagenda, BuildTask.Agenda.length]
      · simp [BuildTask.Stage.opens, turnTo]
      · simp [hstage, hagenda, Turn.after, turnTo, BuildTask.rank, BuildTask.Stage.rank]
  | meet hstage =>
      refine Or.inr ⟨rfl, Or.inr ⟨?_, rfl, ?_⟩⟩
      · rw [hstage]
        simp only [turnTo, BuildTask.Stage.opens]
        split <;> simp
      · simp [hstage, Turn.after, turnTo, BuildTask.rank, BuildTask.Stage.rank]
  | _ =>
      refine Or.inr ⟨rfl, Or.inr ⟨?_, rfl, ?_⟩⟩
      · simp_all [BuildTask.Stage.opens, turnTo]
      · simp_all [Turn.after, turnTo, BuildTask.rank, BuildTask.Stage.rank]

theorem closer_perform : Closer ((s.perform task turn).distance tree) (s.distance tree) := by
  have hlengths := sum_perform_le h.orderly htask turn fun task => task.agenda.length
  have hopens := sum_perform_le h.orderly htask turn fun task => task.stage.opens tree
  have hranks := sum_perform_le h.orderly htask turn BuildTask.rank
  have hsingle : ((s.started task turn.spawned).map fun task => task.agenda.length).sum = 0 := by
    apply List.sum_eq_zero
    intro n hn
    obtain ⟨u, hu, rfl⟩ := List.mem_map.1 hn
    rw [(mem_started hu).2.2.2.1]
    rfl
  have hclosed : ((s.started task turn.spawned).map fun task => task.stage.opens tree).sum = 0 := by
    apply List.sum_eq_zero
    intro n hn
    obtain ⟨u, hu, rfl⟩ := List.mem_map.1 hn
    exact h.opens_of_spawned htask hturn hclear' (mem_started hu).2.2.2.2.2.2
  change _ ≤ _ + turn.agenda.length + _ at hlengths
  change _ ≤ _ + turn.stage.opens tree + _ at hopens
  rw [distance, distance, closer_iff]
  change unrecorded tree s.options turn.register + _ < _ ∨
    unrecorded tree s.options turn.register + _ = _ ∧ _
  rcases h.turn_progress htask hturn hclear hclear' with ⟨hless, hagenda⟩ |
    ⟨hsame, hagenda | ⟨hagenda, hstage | ⟨hstage, hnone, hrank⟩⟩⟩
  · rw [hagenda] at hlengths
    omega
  · omega
  · omega
  · rw [hnone] at hranks
    simp only [started, List.mapIdx_nil, List.map_nil, List.sum_nil] at hranks
    omega

end Turn

/-- One step keeps a session confined and brings it closer to rest. -/
theorem step (h : s.Confined tree) (hstep : s.Steps t) (hclear : s.Clear) (hclear' : t.Clear) :
    t.Confined tree ∧ Closer (t.distance tree) (s.distance tree) := by
  obtain ⟨id, hid⟩ := hstep
  obtain ⟨task, turn, hfound, hturn, rfl⟩ := exists_turn hid
  obtain ⟨htask, -⟩ := mem_of_task? hfound
  exact ⟨h.perform htask hturn hclear, h.closer_perform htask hturn hclear hclear'⟩

/-- Steps cannot go on for ever. -/
theorem no_infinite_run (h : s.Confined tree) :
    ¬ ∃ run : Nat → BuildSession FileTree, run 0 = s ∧
      ∀ n, (run n).Steps (run (n + 1)) ∧ (run n).Clear := by
  suffices hnone : ∀ distance, ∀ s : BuildSession FileTree, s.Confined tree →
      s.distance tree = distance →
      ¬ ∃ run : Nat → BuildSession FileTree, run 0 = s ∧
        ∀ n, (run n).Steps (run (n + 1)) ∧ (run n).Clear from hnone _ s h rfl
  intro distance
  induction distance using wellFounded_closer.induction with
  | h distance ih =>
      rintro s h rfl ⟨run, rfl, hrun⟩
      obtain ⟨hnext, hcloser⟩ := h.step (hrun 0).1 (hrun 0).2 (hrun 1).2
      exact ih _ hcloser _ hnext rfl ⟨fun n => run (n + 1), rfl, fun n => hrun (n + 1)⟩

theorem call (h : s.Confined tree) (addressee : Addressee) (request : Request) :
    (s.call addressee request).1.Confined tree where
  orderly := h.orderly.call addressee request
  base := h.base
  out := h.out
  directory := h.directory
  sound := h.sound
  kept := h.kept
  jobs u hu job hjob := by
    rcases List.mem_append.1 hu with hu | hu
    · exact h.jobs u hu job hjob
    · rw [List.mem_singleton.1 hu] at hjob
      cases request <;> contradiction
  recorded := h.recorded

end Confined

end BuildSession

end LiveBuild
