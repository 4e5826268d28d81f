import LiveBuild.Proofs.Coverage
import LiveBuild.Proofs.Waiting

/-!
# Nothing of a closure is lost

Until an entry is looked at it stands on the agenda of the request. What a directory holds and what
a file imports is looked at by tasks that are started together, as soon as the directory is visited
or the imports are found. So when no task is left, whatever belongs to the closure is recorded.
-/

namespace LiveBuild

/-- The source that a task works on while its imports are still to be found. -/
def BuildTask.Stage.early? : BuildTask.Stage → Option Path
  | .read job => some job.source
  | .transform job _ => some job.source
  | .lookUp job _ => some job.source
  | _ => none

namespace FreshBuild

/-- Some task is about to look at a path. -/
def Visited (s : BuildSession FileTree) (p : Path) : Prop :=
  ∃ task ∈ s.tasks, ∃ requester, task.stage = .visit p requester

/-- A path is about to be looked at, or it is recorded if it has to be. -/
def Met (b : FreshBuild) (s : BuildSession FileTree) (p : Path) : Prop :=
  Visited s p ∨ (b.Eligible p → p ∈ s.register.sources)

/-- An entry is about to be looked at, or it is recorded if it has to be and what lies below it is
met. -/
def Taken (b : FreshBuild) (s : BuildSession FileTree) (p : Path) : Prop :=
  Visited s p ∨ ((b.Eligible p → p ∈ s.register.sources) ∧
    (b.options.IsWalked b.tree p → ∀ q, Walk.Finds b.tree b.options p q → b.Eligible q → b.Met s q))

/-- The entries that are not taken are on an agenda, and of the recorded sources whose imports are
not met a task is to find the imports. -/
structure Pursued (b : FreshBuild) (s : BuildSession FileTree) : Prop where
  entries : ∀ entry ∈ b.entries,
    (∃ task ∈ s.tasks, ∃ rest total, task.agenda = .entries rest total ∧ entry ∈ rest) ∨
      b.Taken s (b.options.entryPath entry)
  imports : ∀ p ∈ s.register.sources, (∃ task ∈ s.tasks, task.stage.early? = some p) ∨
    ∀ files, b.Resolves p files → ∀ q ∈ files, b.Met s q

variable {b : FreshBuild} {s : BuildSession FileTree} {task u : BuildTask}
  {turn : BuildSession.Turn FileTree} {p q d : Path} {files : List Path} {requester : Option Path}

theorem count?_eq_none_of_visit (hstage : u.stage = .visit p requester) : u.count? = none := by
  rw [BuildTask.count?, hstage]
  cases u.agenda <;> rfl

theorem count?_eq_none_of_early? (hearly : u.stage.early? = some p) : u.count? = none := by
  unfold BuildTask.count?
  split <;> simp_all [BuildTask.Stage.early?]

section Turn

variable (hb : b.Proper) (hunderway : b.Underway s) (h : b.Accounted s) (htask : task ∈ s.tasks)
  (hturn : s.Turns task turn) (hclear : b.Clear s) (hclear' : b.Clear (s.perform task turn))

include hunderway htask hturn

theorem mem_sources_turn (hp : p ∈ s.register.sources) : p ∈ turn.register.sources := by
  have hfits := hunderway.fits task htask
  cases hturn with
  | claim hstage => simp [hstage, Fits] at hfits
  | attach hstage => simp [hstage, Fits] at hfits
  | meet hstage => simp [hstage, Fits] at hfits
  | join hstage hcode hcontains => rwa [Register.sources_enroll_of_contains hcontains]
  | begin hstage hcode hcontains =>
      rw [Register.sources_enroll_of_not_contains hcontains]
      exact List.mem_append_left _ hp
  | finish => simpa using hp
  | finishFailed => simpa using hp
  | _ => exact hp

theorem mem_sources_of_mem_turn (hp : p ∈ turn.register.sources) :
    p ∈ s.register.sources ∨ turn.stage.early? = some p := by
  have hfits := hunderway.fits task htask
  cases hturn with
  | claim hstage => simp [hstage, Fits] at hfits
  | attach hstage => simp [hstage, Fits] at hfits
  | meet hstage => simp [hstage, Fits] at hfits
  | join hstage hcode hcontains =>
      rw [Register.sources_enroll_of_contains hcontains] at hp
      exact Or.inl hp
  | begin hstage hcode hcontains =>
      rw [Register.sources_enroll_of_not_contains hcontains] at hp
      rcases List.mem_append.1 hp with hp | hp
      · exact Or.inl hp
      · rw [List.mem_singleton.1 hp]
        exact Or.inr rfl
  | finish => exact Or.inl (by simpa using hp)
  | finishFailed => exact Or.inl (by simpa using hp)
  | _ => exact Or.inl hp

include hb h hclear in
theorem mem_sources_of_visit (hstage : task.stage = .visit p requester) (hp : b.Eligible p) :
    p ∈ turn.register.sources := by
  obtain ⟨rest, hcode⟩ := (hunderway.eligible_iff (hclear task htask p requester hstage)).1 hp
  cases hturn with
  | pass hvisit hnot =>
      obtain ⟨rfl, -⟩ := BuildTask.Stage.visit.inj (hstage.symm.trans hvisit)
      exact absurd hcode (hnot rest)
  | refuse e hvisit hnot =>
      obtain ⟨rfl, -⟩ := BuildTask.Stage.visit.inj (hstage.symm.trans hvisit)
      exact absurd hcode (hnot rest)
  | walk hvisit hwalked =>
      obtain ⟨rfl, -⟩ := BuildTask.Stage.visit.inj (hstage.symm.trans hvisit)
      exact absurd hcode (hwalked.not_isCode rest)
  | asset hvisit hnot =>
      obtain ⟨rfl, -⟩ := BuildTask.Stage.visit.inj (hstage.symm.trans hvisit)
      exact absurd hcode (hnot rest)
  | assetFailed hvisit hnot =>
      obtain ⟨rfl, -⟩ := BuildTask.Stage.visit.inj (hstage.symm.trans hvisit)
      exact absurd hcode (hnot rest)
  | join hvisit hfound hcontains =>
      obtain ⟨rfl, -⟩ := BuildTask.Stage.visit.inj (hstage.symm.trans hvisit)
      rw [Register.sources_enroll_of_contains hcontains]
      exact (target_of_visit hb hunderway h htask hclear hstage hfound).2.1 hcontains
  | begin hvisit hfound hcontains =>
      obtain ⟨rfl, -⟩ := BuildTask.Stage.visit.inj (hstage.symm.trans hvisit)
      rw [Register.sources_enroll_of_not_contains hcontains]
      simp
  | _ => simp_all

omit hturn in
theorem visited_of_spawned (hspawned : BuildTask.Stage.visit q requester ∈ turn.spawned) :
    Visited (s.perform task turn) q := by
  obtain ⟨u, hu, hstage⟩ := BuildSession.exists_started s task hspawned
  exact ⟨u, BuildSession.started_mem_perform hunderway.orderly htask hu, requester, hstage⟩

include hb h hclear in
theorem Met.perform (hq : b.Met s q) : b.Met (s.perform task turn) q := by
  rcases hq with ⟨u, hu, requester, hstage⟩ | hq
  · by_cases hne : u = task
    · subst hne
      exact Or.inr (mem_sources_of_visit hb hunderway h htask hturn hclear hstage)
    · exact Or.inl ⟨u, BuildSession.mem_perform_of_ne hunderway.orderly htask hturn hu hne
        (count?_eq_none_of_visit hstage), requester, hstage⟩
  · exact Or.inr fun heligible => mem_sources_turn hunderway htask hturn (hq heligible)

include hclear hclear' in
/-- Once a directory has been looked at, the files in it are met. -/
theorem met_of_walk (hstage : task.stage = .visit p requester)
    (hwalked : b.options.IsWalked b.tree p) (hfinds : Walk.Finds b.tree b.options p q)
    (hq : b.Eligible q) : b.Met (s.perform task turn) q := by
  have hafter := hunderway.isWalked (hclear task htask p requester hstage) hwalked
  have hfile : FileStore.isFile s.store p = false :=
    Walk.isFile_eq_false_of_isDirectory hafter.1
  have hkind := Walk.isDirectory_iff.1 hafter.1
  obtain ⟨found, hfound, hmem⟩ := Walk.mem_files hunderway.sound s.options hkind
  cases hturn with
  | pass hvisit hcode hnot =>
      obtain ⟨rfl, -⟩ := BuildTask.Stage.visit.inj (hstage.symm.trans hvisit)
      exact absurd hafter hnot
  | refuse e hvisit hcode hnot =>
      obtain ⟨rfl, -⟩ := BuildTask.Stage.visit.inj (hstage.symm.trans hvisit)
      rw [hnot hafter] at hfound
      contradiction
  | @walk path _ files hvisit _ hfiles =>
      obtain ⟨rfl, -⟩ := BuildTask.Stage.visit.inj (hstage.symm.trans hvisit)
      obtain rfl := Except.ok.inj (hfiles.symm.trans hfound)
      have hqkind : b.tree.kindOf? q = some .file := by
        have hqfile := hq.isFile
        simpa [FileStore.isFile, FileStore.kindOf?] using hqfile
      obtain ⟨p', hp', hsame⟩ := Walk.exists_finds hunderway.kept hfinds hqkind hkind
      rw [← hunderway.options] at hp'
      have hspawned : BuildTask.Stage.visit p' none ∈
          files.map fun file => BuildTask.Stage.visit file none :=
        List.mem_map_of_mem ((hmem p').2 hp')
      have houtside := hunderway.outside_of_spawned htask hclear' hspawned
      rcases hsame with rfl | hin
      · exact Or.inl (visited_of_spawned hunderway htask hspawned)
      · rw [hin] at houtside
        contradiction
  | asset hvisit hcode hisfile =>
      obtain ⟨rfl, -⟩ := BuildTask.Stage.visit.inj (hstage.symm.trans hvisit)
      simp [hfile] at hisfile
  | assetFailed hvisit hcode hisfile =>
      obtain ⟨rfl, -⟩ := BuildTask.Stage.visit.inj (hstage.symm.trans hvisit)
      simp [hfile] at hisfile
  | join hvisit hcode =>
      obtain ⟨rfl, -⟩ := BuildTask.Stage.visit.inj (hstage.symm.trans hvisit)
      have hisfile := hcode.file
      simp [hfile] at hisfile
  | begin hvisit hcode =>
      obtain ⟨rfl, -⟩ := BuildTask.Stage.visit.inj (hstage.symm.trans hvisit)
      have hisfile := hcode.file
      simp [hfile] at hisfile
  | _ => simp_all

include hb h hclear hclear' in
theorem Taken.perform (hp : b.Taken s p) : b.Taken (s.perform task turn) p := by
  rcases hp with ⟨u, hu, requester, hstage⟩ | ⟨hp, hwalk⟩
  · by_cases hne : u = task
    · subst hne
      exact Or.inr ⟨mem_sources_of_visit hb hunderway h htask hturn hclear hstage,
        fun hwalked _ => met_of_walk hunderway htask hturn hclear hclear' hstage hwalked⟩
    · exact Or.inl ⟨u, BuildSession.mem_perform_of_ne hunderway.orderly htask hturn hu hne
        (count?_eq_none_of_visit hstage), requester, hstage⟩
  · exact Or.inr ⟨fun heligible => mem_sources_turn hunderway htask hturn (hp heligible),
      fun hwalked q hfinds heligible =>
        (hwalk hwalked q hfinds heligible).perform hb hunderway h htask hturn hclear⟩

include hb hclear hclear' in
/-- A task goes on to find the imports of its source, or there are none to be found, or it has found
them and starts a task for each. -/
theorem early?_turn (hearly : task.stage.early? = some p) :
    turn.stage.early? = some p ∨ (∀ files, ¬ b.Resolves p files) ∨
      ∃ job files, job.source = p ∧ task.stage.job? = some job ∧ b.Resolves p files ∧
        turn.spawned = files.map fun file => .visit file (some job.dest) := by
  have hfits := hunderway.fits task htask
  have hafter := hunderway.fits_after hb htask hturn hclear hclear'
  have hfailed : ∀ {job : BuildJob} {e : BuildError}, b.Fits (.finish job (.error e)) →
      ∀ files, ¬ b.Resolves job.source files := by
    intro job e hjob files hfiles
    obtain ⟨locals, hresult⟩ := hjob.2.2 ⟨files, hfiles⟩
    contradiction
  cases hturn with
  | @unreadable job f hstage =>
      obtain rfl : job.source = p := by simpa [hstage, BuildTask.Stage.early?] using hearly
      exact Or.inr (Or.inl (hfailed hafter))
  | @read job text hstage =>
      obtain rfl : job.source = p := by simpa [hstage, BuildTask.Stage.early?] using hearly
      exact Or.inl rfl
  | @transform job text output hstage =>
      obtain rfl : job.source = p := by simpa [hstage, BuildTask.Stage.early?] using hearly
      exact Or.inl rfl
  | @fail job text message stack? hstage =>
      obtain rfl : job.source = p := by simpa [hstage, BuildTask.Stage.early?] using hearly
      exact Or.inr (Or.inl (hfailed hafter))
  | crash hstage hcrash => simp [BuildSession.turnTo, Fits] at hafter
  | @unresolved job output e hstage =>
      obtain rfl : job.source = p := by simpa [hstage, BuildTask.Stage.early?] using hearly
      exact Or.inr (Or.inl (hfailed hafter))
  | @resolve job output files hstage hfiles =>
      obtain rfl : job.source = p := by simpa [hstage, BuildTask.Stage.early?] using hearly
      exact Or.inr (Or.inr ⟨job, files, rfl, by rw [hstage]; rfl,
        (hunderway.resolves htask hclear' hstage rfl hfiles).2, rfl⟩)
  | _ => simp_all [BuildTask.Stage.early?]

include hb hclear hclear' in
theorem met_of_early? (hearly : task.stage.early? = some p) :
    turn.stage.early? = some p ∨
      ∀ files, b.Resolves p files → ∀ q ∈ files, b.Met (s.perform task turn) q := by
  rcases early?_turn hb hunderway htask hturn hclear hclear' hearly with
    hafter | hnone | ⟨job, files, -, -, hfiles, hspawned⟩
  · exact Or.inl hafter
  · exact Or.inr fun files hfiles => absurd hfiles (hnone files)
  · refine Or.inr fun files' hfiles' q hq => Or.inl ?_
    obtain rfl := hfiles'.unique hfiles
    have hvisit : BuildTask.Stage.visit q (some job.dest) ∈ turn.spawned := by
      rw [hspawned]
      exact List.mem_map_of_mem hq
    exact visited_of_spawned hunderway htask hvisit

include hb h hclear hclear' in
/-- Whatever turn is taken, nothing is lost. -/
theorem Pursued.perform (hpursued : b.Pursued s) : b.Pursued (s.perform task turn) where
  entries entry hentry := by
    rcases hpursued.entries entry hentry with ⟨u, hu, rest, total, hagenda, hrest⟩ | htaken
    · by_cases hne : u = task
      · subst hne
        have hu' := BuildSession.after_mem_perform hunderway.orderly htask turn
        cases hturn with
        | @next count total' entry' rest' hstage hbefore =>
            obtain ⟨rfl, -⟩ := BuildTask.Agenda.entries.inj (hagenda.symm.trans hbefore)
            rcases List.mem_cons.1 hrest with rfl | hrest
            · refine Or.inr (Or.inl ⟨_, hu', none, ?_⟩)
              rw [← hunderway.options]
              rfl
            · exact Or.inl ⟨_, hu', rest', _, rfl, hrest⟩
        | report hstage hbefore =>
            obtain ⟨rfl, -⟩ := BuildTask.Agenda.entries.inj (hagenda.symm.trans hbefore)
            simp at hrest
        | _ => exact Or.inl ⟨_, hu', rest, total, hagenda, hrest⟩
      · have hcount : u.count? = none := by
          have hfits := hunderway.fits u hu
          unfold BuildTask.count?
          split <;> simp_all [Fits]
        exact Or.inl ⟨u, BuildSession.mem_perform_of_ne hunderway.orderly htask hturn hu hne hcount,
          rest, total, hagenda, hrest⟩
    · exact Or.inr (htaken.perform hb hunderway h htask hturn hclear hclear')
  imports p hp := by
    rcases mem_sources_of_mem_turn hunderway htask hturn hp with hp | hearly
    · rcases hpursued.imports p hp with ⟨u, hu, hearly⟩ | hmet
      · by_cases hne : u = task
        · subst hne
          refine (met_of_early? hb hunderway htask hturn hclear hclear' hearly).imp_left ?_
          exact fun hafter =>
            ⟨_, BuildSession.after_mem_perform hunderway.orderly htask turn, hafter⟩
        · exact Or.inl ⟨u, BuildSession.mem_perform_of_ne hunderway.orderly htask hturn hu hne
            (count?_eq_none_of_early? hearly), hearly⟩
      · exact Or.inr fun files hfiles q hq =>
          (hmet files hfiles q hq).perform hb hunderway h htask hturn hclear
    · exact Or.inl ⟨_, BuildSession.after_mem_perform hunderway.orderly htask turn, hearly⟩

end Turn

theorem pursued_session : b.Pursued b.session where
  entries entry hentry :=
    Or.inl ⟨⟨0, none, 0, b.addressee, .entries b.entries 0, .done 0⟩, List.mem_singleton.2 rfl,
      b.entries, 0, rfl, hentry⟩
  imports p hp := by cases hp

/-- When no task can go on any more, all of them are finished. -/
theorem Underway.finished (h : b.Underway s) (hstuck : ∀ id, s.step? id = none)
    (htask : task ∈ s.tasks) : ∃ count, task.stage = .done count ∧ task.agenda = .single := by
  have hfits := h.fits task htask
  refine (h.orderly.finished h.held hstuck htask).2.resolve_left ?_
  intro hcrashed
  simp [hcrashed, Fits] at hfits

/-- When no task can go on any more, the recorded sources are the closure. -/
theorem Pursued.mem_sources_iff (hunderway : b.Underway s) (haccounted : b.Accounted s)
    (h : b.Pursued s) (hstuck : ∀ id, s.step? id = none) :
    p ∈ s.register.sources ↔ b.Member p := by
  have hvisited : ∀ q, ¬ Visited s q := by
    rintro q ⟨task, htask, requester, hstage⟩
    obtain ⟨count, hcount, -⟩ := hunderway.finished hstuck htask
    simp [hstage] at hcount
  have hmet : ∀ q, b.Met s q → b.Eligible q → q ∈ s.register.sources :=
    fun q hq => hq.resolve_left (hvisited q)
  have htaken : ∀ entry ∈ b.entries, b.Taken s (b.options.entryPath entry) := by
    intro entry hentry
    refine (h.entries entry hentry).resolve_left ?_
    rintro ⟨task, htask, rest, total, hagenda, -⟩
    obtain ⟨count, -, hsingle⟩ := hunderway.finished hstuck htask
    simp [hsingle] at hagenda
  refine ⟨haccounted.mem_sources, fun hp => ?_⟩
  induction hp with
  | entry hentry heligible =>
      exact ((htaken _ hentry).resolve_left (hvisited _)).1 heligible
  | walk hentry hwalked hfinds heligible =>
      exact hmet _ (((htaken _ hentry).resolve_left (hvisited _)).2 hwalked _ hfinds heligible)
        heligible
  | @imported p q files hp hfiles hq heligible ih =>
      refine hmet q ((h.imports p ih).resolve_left ?_ files hfiles q hq) heligible
      rintro ⟨task, htask, hearly⟩
      obtain ⟨count, hcount, -⟩ := hunderway.finished hstuck htask
      simp [hcount, BuildTask.Stage.early?] at hearly

end FreshBuild

end LiveBuild
