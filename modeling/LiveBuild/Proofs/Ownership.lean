import LiveBuild.Proofs.Exclusion
import LiveBuild.Proofs.Outputs
import LiveBuild.Proofs.TaskTree

/-!
# Who works on a record

While a record is being built at most one task works on it, and otherwise none does. A task comes to
a record by a grant of the register, and leaves it when it ends the build or breaks down; as long as
none breaks down, every record that is being built is worked on. What the register knows of the
record, its source and where that source can be found, stays as it is.
-/

namespace LiveBuild

namespace Register

variable {r : Register} {d p q source path : Path}

def sourceAt (r : Register) (d : Path) : Option Path := (r.targets.get? d).map (·.source)

/-- The record of a destination was made for a source. -/
def Records (r : Register) (p d : Path) : Prop :=
  ∃ source, r.sourceAt d = some source ∧ source.components = p.components

theorem sourceAt_congr (h : p.components = q.components) : r.sourceAt p = r.sourceAt q := by
  rw [sourceAt, sourceAt, PathMap.get?_congr h]

theorem statusAt_congr (h : p.components = q.components) : r.statusAt p = r.statusAt q := by
  rw [statusAt, statusAt, PathMap.get?_congr h]

theorem contains_iff_sourceAt :
    r.targets.contains d = true ↔ ∃ source, r.sourceAt d = some source := by
  rw [PathMap.contains_iff, sourceAt]
  simp only [Option.map_eq_some_iff]
  exact ⟨fun ⟨target, htarget⟩ => ⟨_, target, htarget, rfl⟩,
    fun ⟨_, target, htarget, _⟩ => ⟨target, htarget⟩⟩

theorem Records.contains (h : r.Records p d) : r.targets.contains d = true := by
  obtain ⟨source, hsource, -⟩ := h
  exact contains_iff_sourceAt.2 ⟨source, hsource⟩

theorem sourceAt_enroll (r : Register) (source d : Path) (requester : Option Path)
    (addressee : Addressee) (p : Path) :
    (r.enroll source d requester addressee).1.sourceAt p =
      if r.targets.contains d = false ∧ d.same p then some source else r.sourceAt p := by
  cases h : r.targets.contains d with
  | true =>
      obtain ⟨gain, hget, -⟩ := get?_enroll_of_contains source requester addressee h p
      simp [sourceAt, hget, Function.comp_def]
  | false =>
      rw [sourceAt, get?_enroll_of_not_contains h, sourceAt]
      by_cases hdp : d.same p <;> simp [hdp, newTarget]

@[simp]
theorem sourceAt_close (r : Register) (d : Path) (succeeded : Bool) (p : Path) :
    (r.close d succeeded).1.sourceAt p = r.sourceAt p := by
  rw [sourceAt, get?_close, sourceAt, Option.map_map]
  congr 1
  funext target
  by_cases hdp : d.same p <;> simp [hdp]

@[simp]
theorem sourceAt_reopen (r : Register) (path : Path) (addressee : Addressee) (p : Path) :
    (r.reopen path addressee).1.sourceAt p = r.sourceAt p := by
  rcases reopen_cases r path addressee with ⟨d, target, -, hget, -, -, hafter⟩ |
    ⟨d, target, -, hget, -, -, hafter⟩ | hunknown
  · rw [sourceAt, hafter]
    by_cases hdp : d.same p
    · rw [sourceAt, ← PathMap.get?_congr (Path.same_iff.1 hdp), hget]
      simp [hdp]
    · simp [hdp, sourceAt]
  · rw [sourceAt, hafter]
    by_cases hdp : d.same p
    · rw [sourceAt, ← PathMap.get?_congr (Path.same_iff.1 hdp), hget]
      simp [hdp]
    · simp [hdp, sourceAt]
  · rw [hunknown]

theorem contains_eq (r : Register) (d : Path) : r.targets.contains d = (r.sourceAt d).isSome := by
  rw [Bool.eq_iff_iff, contains_iff_sourceAt, Option.isSome_iff_exists]

theorem contains_enroll (r : Register) (source d : Path) (requester : Option Path)
    (addressee : Addressee) (p : Path) :
    (r.enroll source d requester addressee).1.targets.contains p =
      (d.same p || r.targets.contains p) := by
  rw [contains_eq, sourceAt_enroll]
  cases hsame : d.same p with
  | false => simp [contains_eq]
  | true =>
      rw [PathMap.contains_congr (Path.same_iff.1 hsame)]
      cases h : r.targets.contains p with
      | false => simp
      | true => simpa [contains_eq] using h

@[simp]
theorem contains_reopen (r : Register) (path : Path) (addressee : Addressee) (p : Path) :
    (r.reopen path addressee).1.targets.contains p = r.targets.contains p := by
  rw [contains_eq, contains_eq, sourceAt_reopen]

@[simp]
theorem contains_close (r : Register) (d : Path) (succeeded : Bool) (p : Path) :
    (r.close d succeeded).1.targets.contains p = r.targets.contains p := by
  rw [contains_eq, contains_eq, sourceAt_close]

/-- A claim of a recorded path is granted unless the record is being built. -/
theorem reopen_answer (hrecorded : r.recordedAs? p = some d)
    (hcontains : r.targets.contains d = true) (addressee : Addressee) :
    (r.reopen p addressee).2 =
      if r.statusAt d = some .building then .underway else .started d := by
  obtain ⟨target, htarget⟩ := PathMap.contains_iff.1 hcontains
  simp only [reopen, hrecorded, htarget, statusAt, Option.map_some, Option.some.injEq]
  split <;> rfl

/-- A claim is granted for the record that it finds, if that is not being built. -/
theorem reopen_started {addressee : Addressee} (h : (r.reopen path addressee).2 = .started d) :
    r.recordedAs? path = some d ∧ r.targets.contains d = true ∧ r.statusAt d ≠ some .building ∧
      ∀ q, (r.reopen path addressee).1.statusAt q =
        if d.same q then some .building else r.statusAt q := by
  rcases reopen_cases r path addressee with ⟨d', target, -, -, -, hanswer, -⟩ |
    ⟨d', target, hrecorded, hget, hidle, hanswer, hafter⟩ | hunknown
  · simp [hanswer] at h
  · rw [hanswer] at h
    obtain rfl := Claim.started.inj h
    refine ⟨hrecorded, PathMap.contains_iff.2 ⟨target, hget⟩, ?_, fun q => ?_⟩
    · simpa [statusAt, hget] using hidle
    · rw [statusAt, hafter]
      by_cases hdq : d'.same q <;> simp [hdq, statusAt]
  · simp [hunknown] at h

/-- A claim is not granted for a record that is being built. -/
theorem reopen_underway {addressee : Addressee} (h : (r.reopen path addressee).2 = .underway) :
    ∃ d, r.recordedAs? path = some d ∧ r.statusAt d = some .building := by
  rcases reopen_cases r path addressee with ⟨d, target, hrecorded, hget, hbuilding, -⟩ |
    ⟨d, target, -, -, -, hanswer, -⟩ | hunknown
  · exact ⟨d, hrecorded, by rw [statusAt, hget, ← hbuilding]; rfl⟩
  · simp [hanswer] at h
  · simp [hunknown] at h

theorem statusAt_reopen_of_refused {addressee : Addressee}
    (h : ∀ d, (r.reopen path addressee).2 ≠ .started d) (q : Path) :
    (r.reopen path addressee).1.statusAt q = r.statusAt q := by
  rcases reopen_cases r path addressee with ⟨d, target, -, hget, hbuilding, -, hafter⟩ |
    ⟨d, target, -, -, -, hanswer, -⟩ | hunknown
  · rw [statusAt, hafter]
    by_cases hdq : d.same q
    · rw [statusAt, ← PathMap.get?_congr (Path.same_iff.1 hdq), hget]
      simp [hdq]
    · simp [hdq, statusAt]
  · exact absurd hanswer (h d)
  · rw [hunknown]

theorem not_recorded_of_unknown {addressee : Addressee}
    (h : (r.reopen path addressee).2 = .unknown) :
    ∀ d, r.recordedAs? path = some d → r.targets.contains d = false := by
  intro d hrecorded
  rw [PathMap.contains_eq_false_iff]
  cases hget : r.targets.get? d with
  | none => rfl
  | some target =>
      simp only [reopen, hrecorded, hget] at h
      split at h <;> contradiction

end Register

namespace BuildTask.Stage

/-- The work of a stage is on the record of a destination. -/
def isAt (stage : Stage) (d : Path) : Bool := stage.job?.any fun job => job.dest.same d

theorem isAt_of_job? {stage : Stage} {job : BuildJob} (h : stage.job? = some job) (d : Path) :
    stage.isAt d = job.dest.same d := by
  rw [isAt, h, Option.any_some]

theorem isAt_of_none {stage : Stage} (h : stage.job? = none) (d : Path) :
    stage.isAt d = false := by
  rw [isAt, h, Option.any_none]

theorem exists_job_of_isAt {stage : Stage} {d : Path} (h : stage.isAt d = true) :
    ∃ job, stage.job? = some job ∧ job.dest.components = d.components := by
  obtain ⟨job, hjob, hsame⟩ := (Option.any_eq_true _ _).1 h
  exact ⟨job, hjob, Path.same_iff.1 hsame⟩

end BuildTask.Stage

namespace BuildOptions

/-- A destination is where the output of a source goes, from outside of the output directory into
it. -/
structure IsPlaced (o : BuildOptions) (source d : Path) : Prop where
  outside : source.startsWith o.outDir = false
  inside : d.startsWith o.outDir = true
  output : ∃ rest, o.belowBase source = .ok rest ∧ (o.codeOutput rest).components = d.components

/-- The base directory does not lie where the outputs go, if a source below it does not. -/
theorem ne_base_of_inside {o : BuildOptions} {p q rest : Path} (hbase : o.baseDir.isAbsolute = true)
    (hbelow : o.belowBase p = .ok rest) (hp : p.startsWith o.outDir = false)
    (hq : q.startsWith o.outDir = true) : q.components ≠ o.baseDir.components := by
  intro hcomponents
  obtain ⟨-, hrelative⟩ := Path.relativeTo?_eq_some (components_ne_nil_of_isAbsolute hbase)
    (relativeTo?_of_belowBase hbelow)
  have hprefix : o.outDir.components <+: p.components := by
    rw [hrelative, ← hcomponents]
    exact (Path.startsWith_iff.1 hq).trans (List.prefix_append _ _)
  rw [Path.startsWith_iff.2 hprefix] at hp
  contradiction

end BuildOptions

namespace BuildSession

open Register (Records)

section Owners

variable {σ : Type} {s : BuildSession σ} {task u : BuildTask} {turn : Turn σ} {job : BuildJob}
  {d p path : Path}

/-- How many tasks work on a record. -/
def owners (s : BuildSession σ) (d : Path) : Nat :=
  s.tasks.countP fun task => task.stage.isAt d

/-- One task at most works on a record while it is being built, and otherwise none does. -/
def Owned (s : BuildSession σ) : Prop :=
  ∀ d, s.owners d ≤ if s.register.statusAt d = some .building then 1 else 0

theorem owners_pos (htask : task ∈ s.tasks) (hjob : task.stage.job? = some job)
    (hdest : job.dest.components = d.components) : 0 < s.owners d := by
  refine List.countP_pos_iff.2 ⟨task, htask, ?_⟩
  rw [BuildTask.Stage.isAt_of_job? hjob, Path.same_iff, hdest]

theorem owners_call (s : BuildSession σ) (addressee : Addressee) (request : Request)
    (d : Path) : (s.call addressee request).1.owners d = s.owners d := by
  change (s.tasks ++ [_]).countP _ = _
  rw [List.countP_append, List.countP_singleton, if_neg, Nat.add_zero, owners]
  rw [BuildTask.Stage.isAt_of_none (by cases request <;> rfl)]
  exact Bool.false_ne_true

theorem owners_collect_le (s : BuildSession σ) (d : Path) :
    s.collect.1.owners d ≤ s.owners d := List.filter_sublist.countP_le

theorem Owned.building (h : s.Owned) (htask : task ∈ s.tasks) (hjob : task.stage.job? = some job) :
    s.register.statusAt job.dest = some .building := by
  have howned := h job.dest
  have hpos := owners_pos htask hjob (d := job.dest) rfl
  split at howned
  · assumption
  · omega

theorem Owned.unique (h : s.Owned) {job' : BuildJob} (htask : task ∈ s.tasks) (hu : u ∈ s.tasks)
    (hjob : task.stage.job? = some job) (hjob' : u.stage.job? = some job')
    (hdest : job.dest.components = job'.dest.components) : task = u := by
  have howned : s.owners job.dest ≤ 1 := by
    have howned := h job.dest
    split at howned <;> omega
  rw [owners, List.countP_eq_length_filter] at howned
  generalize hfound : s.tasks.filter (fun task => task.stage.isAt job.dest) = found at howned
  have htask' : task ∈ found := by
    rw [← hfound, List.mem_filter, BuildTask.Stage.isAt_of_job? hjob]
    exact ⟨htask, Path.same_self _⟩
  have hu' : u ∈ found := by
    rw [← hfound, List.mem_filter, BuildTask.Stage.isAt_of_job? hjob', Path.same_iff]
    exact ⟨hu, hdest.symm⟩
  obtain ⟨only, rfl⟩ :=
    List.length_eq_one_iff.1 (Nat.le_antisymm howned (List.length_pos_of_mem htask'))
  rw [List.mem_singleton.1 htask', List.mem_singleton.1 hu']

variable [FileStore σ]

/-- How a turn changes who works on a record. -/
inductive Tenure (s : BuildSession σ) (task : BuildTask) (turn : Turn σ) : Prop
  | regain {path d : Path} : task.stage = .claim path →
      (s.register.reopen path task.addressee).2 = .started d → turn.stage = .read ⟨path, d⟩ →
      turn.register = (s.register.reopen path task.addressee).1 → turn.store = s.store →
      Tenure s task turn
  | gain {path rest : Path} {requester : Option Path} : task.stage = .visit path requester →
      s.options.IsCode s.store path rest →
      s.register.targets.contains (s.options.codeOutput rest) = false →
      turn.stage = .read ⟨path, s.options.codeOutput rest⟩ →
      turn.register = (s.register.enroll path (s.options.codeOutput rest) requester
        task.addressee).1 → turn.store = s.store → Tenure s task turn
  | lose {job : BuildJob} {result : Except BuildError Nat} {count : Nat} :
      task.stage = .finish job result → turn.stage = .done count →
      turn.register = (s.register.close job.dest result.isOk).1 → turn.store = s.store →
      Tenure s task turn
  | keep : (turn.stage.job? = task.stage.job? ∨ turn.stage = .crashed) →
      (∀ q, turn.register.statusAt q = s.register.statusAt q) →
      (∀ q, turn.register.sourceAt q = s.register.sourceAt q) →
      turn.register.aliases = s.register.aliases → Tenure s task turn

theorem Turns.tenure (h : Turns s task turn) : Tenure s task turn := by
  cases h with
  | claim hstage hclaim => exact .regain hstage hclaim rfl rfl rfl
  | attach hstage hclaim =>
      refine .keep (Or.inl ?_) ?_ (Register.sourceAt_reopen _ _ _) Register.aliases_reopen
      · rw [hstage]
        rfl
      · exact Register.statusAt_reopen_of_refused (by simp [hclaim])
  | meet hstage hclaim =>
      refine .keep (Or.inl ?_) ?_ (Register.sourceAt_reopen _ _ _) Register.aliases_reopen
      · rw [hstage]
        rfl
      · exact Register.statusAt_reopen_of_refused (by simp [hclaim])
  | join hstage hcode hcontains =>
      refine .keep (Or.inl ?_) (fun q => ?_) (fun q => ?_) ?_
      · rw [hstage]
        rfl
      · simp [Register.statusAt_enroll, hcontains]
      · simp [Register.sourceAt_enroll, hcontains]
      · simp [Register.aliases_enroll, hcontains]
  | begin hstage hcode hcontains => exact .gain hstage hcode hcontains rfl rfl rfl
  | crash hstage => exact .keep (Or.inr rfl) (fun _ => rfl) (fun _ => rfl) rfl
  | finish hstage => exact .lose hstage rfl rfl rfl
  | finishFailed hstage => exact .lose hstage rfl rfl rfl
  | _ =>
      refine .keep (Or.inl ?_) (fun _ => rfl) (fun _ => rfl) rfl
      simp_all [turnTo, BuildTask.Stage.job?]

theorem Turns.stage_ne_claim (h : Turns s task turn) (path : Path) : turn.stage ≠ .claim path := by
  cases h <;> simp [turnTo]

theorem Turns.stage_ne_visit (h : Turns s task turn) (path requester : Path) :
    turn.stage ≠ .visit path (some requester) := by
  cases h <;> simp [turnTo]

/-- What a turn does to the records, whoever works on them: it leaves them as they are, or it makes
one for the path that its task looks at. -/
inductive Filing (s : BuildSession σ) (task : BuildTask) (turn : Turn σ) : Prop
  | keep : (∀ q, turn.register.sourceAt q = s.register.sourceAt q) →
      turn.register.aliases = s.register.aliases → Filing s task turn
  | make {path rest : Path} {requester : Option Path} : task.stage = .visit path requester →
      s.options.IsCode s.store path rest →
      s.register.targets.contains (s.options.codeOutput rest) = false →
      turn.register.statusAt (s.options.codeOutput rest) = some .building →
      (∀ q, turn.register.sourceAt q =
        if (s.options.codeOutput rest).same q then some path else s.register.sourceAt q) →
      (∀ q, turn.register.aliases.get? q =
        if path.same q then some (s.options.codeOutput rest) else s.register.aliases.get? q) →
      Filing s task turn

theorem Turns.filing (h : Turns s task turn) : Filing s task turn := by
  cases h.tenure with
  | regain _ _ _ hregister =>
      exact .keep (fun q => by rw [hregister, Register.sourceAt_reopen])
        (by rw [hregister, Register.aliases_reopen])
  | gain hstage hcode hnew _ hregister =>
      refine .make hstage hcode hnew ?_ (fun q => ?_) fun q => ?_
      · rw [hregister, Register.statusAt_enroll, if_pos ⟨hnew, Path.same_self _⟩]
      · rw [hregister, Register.sourceAt_enroll]
        simp only [hnew, true_and]
      · rw [hregister, Register.aliases_enroll, if_neg (by simp [hnew]), PathMap.get?_insert]
  | lose _ _ hregister =>
      exact .keep (fun q => by rw [hregister, Register.sourceAt_close])
        (by rw [hregister, Register.aliases_close])
  | keep _ _ hsourceAt haliases => exact .keep hsourceAt haliases

theorem Turns.sourceAt_eq (h : Turns s task turn) {source : Path}
    (hsource : s.register.sourceAt d = some source) :
    turn.register.sourceAt d = some source := by
  cases h.filing with
  | keep hsourceAt => rw [hsourceAt, hsource]
  | make _ _ hnew _ hsourceAt =>
      rw [hsourceAt, if_neg, hsource]
      intro hsame
      rw [PathMap.contains_congr (Path.same_iff.1 hsame),
        Register.contains_iff_sourceAt.2 ⟨source, hsource⟩] at hnew
      contradiction

theorem Turns.records (h : Turns s task turn) (hrecords : s.register.Records p d) :
    turn.register.Records p d := by
  obtain ⟨source, hsource, hcomponents⟩ := hrecords
  exact ⟨source, h.sourceAt_eq hsource, hcomponents⟩

/-- A path that is found as the source of a record was recorded as its source. -/
theorem Turns.aliased (h : Turns s task turn)
    (haliased : ∀ p d, s.register.aliases.get? p = some d → s.register.Records p d) :
    ∀ p d, turn.register.aliases.get? p = some d → turn.register.Records p d := by
  intro p d hp
  cases h.filing with
  | keep _ haliases =>
      rw [haliases] at hp
      exact h.records (haliased p d hp)
  | @make path rest requester _ _ _ _ hsourceAt halias =>
      rw [halias] at hp
      split at hp
      · rename_i hsame
        obtain rfl := Option.some.inj hp
        exact ⟨path, by rw [hsourceAt, if_pos (Path.same_self _)], Path.same_iff.1 hsame⟩
      · exact h.records (haliased p d hp)

theorem owners_perform (h : s.Orderly) (htask : task ∈ s.tasks) (hturn : Turns s task turn)
    (d : Path) : (s.perform task turn).owners d + (if task.stage.isAt d then 1 else 0) =
      s.owners d + if turn.stage.isAt d then 1 else 0 :=
  countP_perform h htask hturn
    (fun _ _ hcount => BuildTask.Stage.isAt_of_none (BuildTask.job?_of_count? hcount) d)
    fun _ hu => BuildTask.Stage.isAt_of_none (hturn.job?_of_started hu) d

/-- What a turn does to a record: nothing, or its task takes the build of it up, or ends it, or
breaks down over it. -/
theorem record_cases (horderly : s.Orderly) (htask : task ∈ s.tasks) (hturn : Turns s task turn)
    (d : Path) :
    (turn.register.statusAt d = s.register.statusAt d ∧
      (s.perform task turn).owners d = s.owners d ∧
      ¬ (turn.stage = .crashed ∧ task.stage.isAt d = true)) ∨
    (s.register.statusAt d ≠ some .building ∧ turn.register.statusAt d = some .building ∧
      (s.perform task turn).owners d = s.owners d + 1 ∧ task.stage.isAt d = false) ∨
    (task.stage.isAt d = true ∧ turn.stage ≠ .crashed ∧
      turn.register.statusAt d ≠ some .building ∧
      (s.perform task turn).owners d + 1 = s.owners d) ∨
    (task.stage.isAt d = true ∧ turn.stage = .crashed ∧
      turn.register.statusAt d = s.register.statusAt d ∧
      (s.perform task turn).owners d + 1 = s.owners d) := by
  have howners := owners_perform horderly htask hturn d
  have hidle : BuildTask.Stage.crashed.isAt d = false := BuildTask.Stage.isAt_of_none rfl d
  cases hturn.tenure with
  | @regain path d' hstage hclaim hafter hregister =>
      obtain ⟨-, -, hwaiting, hstatus⟩ := Register.reopen_started hclaim
      have haway : task.stage.isAt d = false := by rw [hstage, BuildTask.Stage.isAt_of_none rfl]
      rw [haway, if_neg Bool.false_ne_true, hafter, BuildTask.Stage.isAt_of_job? rfl] at howners
      by_cases hsame : d'.same d
      · rw [Register.statusAt_congr (Path.same_iff.1 hsame)] at hwaiting
        rw [if_pos hsame] at howners
        refine Or.inr (Or.inl ⟨hwaiting, ?_, howners, haway⟩)
        rw [hregister, hstatus, if_pos hsame]
      · rw [if_neg hsame] at howners
        refine Or.inl ⟨?_, howners, by simp [haway]⟩
        rw [hregister, hstatus, if_neg hsame]
  | @gain path rest requester hstage hcode hcontains hafter hregister =>
      have haway : task.stage.isAt d = false := by rw [hstage, BuildTask.Stage.isAt_of_none rfl]
      rw [haway, if_neg Bool.false_ne_true, hafter, BuildTask.Stage.isAt_of_job? rfl] at howners
      have hstatus := Register.statusAt_enroll s.register path (s.options.codeOutput rest)
        requester task.addressee d
      rw [← hregister] at hstatus
      by_cases hsame : (s.options.codeOutput rest).same d
      · have hnone := Register.statusAt_of_not_contains hcontains
        rw [Register.statusAt_congr (Path.same_iff.1 hsame)] at hnone
        rw [if_pos hsame] at howners
        rw [if_pos ⟨hcontains, hsame⟩] at hstatus
        exact Or.inr (Or.inl ⟨by simp [hnone], hstatus, howners, haway⟩)
      · rw [if_neg hsame] at howners
        rw [if_neg fun hboth => hsame hboth.2] at hstatus
        exact Or.inl ⟨hstatus, howners, by simp [haway]⟩
  | @lose job result count hstage hafter hregister =>
      have hat : task.stage.isAt d = job.dest.same d := by
        rw [hstage, BuildTask.Stage.isAt_of_job? rfl]
      have hstatus := Register.statusAt_close s.register job.dest result.isOk d
      rw [← hregister] at hstatus
      have hcrashed : turn.stage ≠ .crashed := by simp [hafter]
      rw [hat, hafter, BuildTask.Stage.isAt_of_none rfl, if_neg Bool.false_ne_true] at howners
      by_cases hsame : job.dest.same d
      · rw [if_pos hsame] at howners
        refine Or.inr (Or.inr (Or.inl ⟨hat.trans hsame, hcrashed, ?_, howners⟩))
        intro hbuilding
        rw [hstatus] at hbuilding
        split at hbuilding
        · exact absurd (Option.some.inj hbuilding) (Register.outcome_ne_building _)
        · rename_i hboth
          refine hboth ⟨?_, hsame⟩
          rw [PathMap.contains_congr (Path.same_iff.1 hsame)]
          exact Register.contains_iff_statusAt.2 ⟨_, hbuilding⟩
      · rw [if_neg hsame] at howners
        refine Or.inl ⟨?_, howners, by simp [hcrashed]⟩
        rw [hstatus, if_neg fun hboth => hsame hboth.2]
  | keep hjob hstatus =>
      by_cases hbroken : turn.stage = .crashed ∧ task.stage.isAt d = true
      · refine Or.inr (Or.inr (Or.inr ⟨hbroken.2, hbroken.1, hstatus d, ?_⟩))
        rwa [hbroken.1, hbroken.2, hidle, if_pos rfl, if_neg Bool.false_ne_true] at howners
      · refine Or.inl ⟨hstatus d, ?_, hbroken⟩
        rcases hjob with hjob | hcrashed
        · rw [BuildTask.Stage.isAt, BuildTask.Stage.isAt, hjob] at howners
          exact Nat.add_right_cancel howners
        · have haway : task.stage.isAt d = false := by simpa [hcrashed] using hbroken
          rwa [hcrashed, haway, hidle, if_neg Bool.false_ne_true] at howners

theorem Owned.perform (h : s.Owned) (horderly : s.Orderly) (htask : task ∈ s.tasks)
    (hturn : Turns s task turn) : (s.perform task turn).Owned := by
  intro d
  have howned := h d
  change _ ≤ if turn.register.statusAt d = some .building then 1 else 0
  rcases record_cases horderly htask hturn d with ⟨hstatus, howners, -⟩ |
    ⟨hidle, hbuilding, howners, -⟩ | ⟨-, -, hended, howners⟩ | ⟨-, -, hstatus, howners⟩
  · rwa [hstatus, howners]
  · rw [if_neg hidle] at howned
    rw [if_pos hbuilding, howners]
    omega
  · rw [if_neg hended]
    split at howned <;> omega
  · rw [hstatus]
    omega

/-- Some task works on every record that is being built. -/
def Manned (s : BuildSession σ) : Prop :=
  ∀ d, s.register.statusAt d = some .building → 0 < s.owners d

theorem Manned.perform (h : s.Manned) (horderly : s.Orderly) (htask : task ∈ s.tasks)
    (hturn : Turns s task turn) (hsafe : turn.stage ≠ .crashed) : (s.perform task turn).Manned := by
  intro d hbuilding
  change turn.register.statusAt d = some .building at hbuilding
  rcases record_cases horderly htask hturn d with ⟨hstatus, howners, -⟩ |
    ⟨-, -, howners, -⟩ | ⟨-, -, hended, -⟩ | ⟨-, hcrashed, -⟩
  · rw [howners]
    exact h d (hstatus ▸ hbuilding)
  · rw [howners]
    exact Nat.succ_pos _
  · exact absurd hbuilding hended
  · exact absurd hcrashed hsafe

omit [FileStore σ] in
/-- Nothing is being built once no task works on anything. -/
theorem Manned.not_building (h : s.Manned) (hidle : ∀ task ∈ s.tasks, task.stage.job? = none) :
    s.register.statusAt d ≠ some .building := by
  intro hbuilding
  obtain ⟨task, htask, hat⟩ := List.countP_pos_iff.1 (h d hbuilding)
  rw [BuildTask.Stage.isAt_of_none (hidle task htask)] at hat
  contradiction

end Owners

variable {s : BuildSession FileTree} {task u : BuildTask} {turn : Turn FileTree} {job : BuildJob}
  {d p path : Path}

theorem Turns.sound (h : Turns s task turn) (hsound : s.store.Sound) : turn.store.Sound := by
  rcases h.store_cases with hstore | ⟨path, requester, rest, kind, -, -, hstore⟩ |
    ⟨job, code, locals, -, hstore⟩
  · rwa [hstore]
  · rw [hstore]
    exact emit_writes (fun _ content h => h.putFile _ content)
      (fun _ content h => h.putFile _ content) kind hsound
  · rw [hstore]
    exact hsound.putFile _ _

/-- What holds of a session whose sources lie outside of the output directory. -/
structure Regular (s : BuildSession FileTree) : Prop where
  orderly : s.Orderly
  base : s.options.baseDir.isAbsolute = true
  out : s.options.outDir.isAbsolute = true
  directory : s.store.kindOf? s.options.baseDir = some .directory
  owned : s.Owned
  recorded : ∀ task ∈ s.tasks, ∀ job, task.stage.job? = some job →
    s.register.Records job.source job.dest
  aliased : ∀ p d, s.register.aliases.get? p = some d → s.register.Records p d
  /-- A record can be found under its source. -/
  known : ∀ d source, s.register.sourceAt d = some source →
    ∃ d', s.register.aliases.get? source = some d' ∧ d'.components = d.components
  placed : ∀ d source, s.register.sourceAt d = some source → s.options.IsPlaced source d
  claims : ∀ task ∈ s.tasks, ∀ path, task.stage = .claim path →
    path.startsWith s.options.outDir = false

theorem regular_start {tree : FileTree} {options : BuildOptions}
    (hbase : options.baseDir.isAbsolute = true) (hout : options.outDir.isAbsolute = true)
    (hdirectory : tree.kindOf? options.baseDir = some .directory)
    (sourceTransform : SourceTransform) :
    (BuildSession.start tree options sourceTransform).Regular where
  orderly := ⟨List.Pairwise.nil, fun _ h => (nomatch h), fun _ h => (nomatch h),
    fun _ h => (nomatch h)⟩
  base := hbase
  out := hout
  directory := hdirectory
  owned _ := Nat.zero_le _
  recorded _ h := nomatch h
  aliased _ _ h := nomatch h
  known _ _ h := nomatch h
  placed _ _ h := nomatch h
  claims _ h := nomatch h

namespace Regular

theorem building (h : s.Regular) (htask : task ∈ s.tasks) (hjob : task.stage.job? = some job) :
    s.register.statusAt job.dest = some .building := Owned.building h.owned htask hjob

theorem placed_of_records (h : s.Regular) (hrecords : s.register.Records p d) :
    p.startsWith s.options.outDir = false ∧ d.startsWith s.options.outDir = true := by
  obtain ⟨source, hsource, hcomponents⟩ := hrecords
  have hplaced := h.placed d source hsource
  refine ⟨?_, hplaced.inside⟩
  rw [← FileTree.startsWith_congr hcomponents]
  exact hplaced.outside

/-- A path outside of the output directory is recorded as its alias says. -/
theorem recordedAs?_eq (h : s.Regular) (hp : p.startsWith s.options.outDir = false) :
    s.register.recordedAs? p = s.register.aliases.get? p := by
  rw [Register.recordedAs?, if_neg]
  intro hcontains
  obtain ⟨source, hsource⟩ := Register.contains_iff_sourceAt.1 hcontains
  rw [(h.placed p source hsource).inside] at hp
  contradiction

section Turn

variable (h : s.Regular) (htask : task ∈ s.tasks) (hturn : Turns s task turn)
  (hvisit : ∀ path requester, task.stage = .visit path requester →
    path.startsWith s.options.outDir = false)

include h

theorem directory_putFile {tree : FileTree} {q rest : Path}
    (htree : tree.kindOf? s.options.baseDir = some .directory)
    (hbelow : s.options.belowBase p = .ok rest) (hp : p.startsWith s.options.outDir = false)
    (hq : q.startsWith s.options.outDir = true) (content : ByteArray) :
    (tree.putFile q content).kindOf? s.options.baseDir = some .directory := by
  refine FileTree.kindOf?_putFile htree ?_ content
  rw [Path.same_iff]
  exact BuildOptions.ne_base_of_inside h.base hbelow hp hq

include htask hturn hvisit

theorem directory_turn : turn.store.kindOf? s.options.baseDir = some .directory := by
  rcases hturn.store_cases with hstore | ⟨path, requester, rest, kind, hstage, hbelow, hstore⟩ |
    ⟨job, code, locals, hstage, hstore⟩
  · rw [hstore]
    exact h.directory
  · rw [hstore]
    exact emit_induction (P := fun tree => tree.kindOf? s.options.baseDir = some .directory)
      h.base hbelow (fun tree q content htree hq => h.directory_putFile htree hbelow
        (hvisit path requester hstage) hq content) kind h.directory
  · rw [hstore]
    have hjob : task.stage.job? = some job := by rw [hstage]; rfl
    obtain ⟨source, hsource, -⟩ := h.recorded task htask job hjob
    obtain ⟨houtside, hinside, rest, hbelow, -⟩ := h.placed job.dest source hsource
    exact h.directory_putFile h.directory hbelow houtside hinside _

omit htask hturn in
/-- A record that is made by a turn is made for the path that was looked at. -/
theorem placed_gain {rest : Path} {requester : Option Path}
    (hstage : task.stage = .visit path requester) (hcode : s.options.IsCode s.store path rest) :
    s.options.IsPlaced path (s.options.codeOutput rest) := by
  refine ⟨hvisit path requester hstage, startsWith_codeOutput h.base hcode.below fun hbase => ?_,
    rest, hcode.below, rfl⟩
  have hfile := hcode.file
  have hkind : FileStore.kindOf? s.store path = some .directory := by
    change s.store.kindOf? path = _
    rw [FileTree.kindOf?_congr hbase, h.directory]
  simp [FileStore.isFile, hkind] at hfile

omit htask hturn hvisit in
/-- A path whose output is not recorded is the source of no record. -/
theorem not_same_of_gain {rest source : Path}
    (hcode : s.options.IsCode s.store path rest)
    (hcontains : s.register.targets.contains (s.options.codeOutput rest) = false)
    (hsource : s.register.sourceAt d = some source) : ¬ path.same source := by
  intro hsame
  obtain ⟨-, -, rest', hbelow, houtput⟩ := h.placed d source hsource
  have hcomponents := components_codeOutput_congr h.base h.out hcode.below hbelow
    (Path.same_iff.1 hsame)
  rw [PathMap.contains_congr (hcomponents.trans houtput),
    Register.contains_iff_sourceAt.2 ⟨source, hsource⟩] at hcontains
  contradiction

omit htask hvisit in
/-- What is found under a path is found there ever after. -/
theorem alias_kept (halias : s.register.aliases.get? p = some d) :
    turn.register.aliases.get? p = some d := by
  cases hturn.filing with
  | keep _ haliases => rw [haliases, halias]
  | make _ hcode hnew _ _ hafter =>
      obtain ⟨source, hsource, hcomponents⟩ := h.aliased p d halias
      rw [hafter, if_neg, halias]
      rw [Path.same_iff, ← hcomponents, ← Path.same_iff]
      exact h.not_same_of_gain hcode hnew hsource

theorem perform : (s.perform task turn).Regular where
  orderly := h.orderly.perform htask hturn
  base := h.base
  out := h.out
  directory := h.directory_turn htask hturn hvisit
  owned := Owned.perform h.owned h.orderly htask hturn
  recorded u hu job hjob := by
    rcases (mem_tasks_perform h.orderly htask turn).1 hu with ⟨hu, -⟩ | rfl | hu
    · exact hturn.records (h.recorded u hu job hjob)
    · change turn.stage.job? = some job at hjob
      cases hturn.tenure with
      | @regain path d hstage hclaim hafter hregister =>
          obtain ⟨hrecorded, -⟩ := Register.reopen_started hclaim
          rw [h.recordedAs?_eq (h.claims task htask path hstage)] at hrecorded
          rw [hafter] at hjob
          obtain rfl := Option.some.inj hjob
          exact hturn.records (h.aliased path d hrecorded)
      | @gain path rest requester hstage hcode hcontains hafter hregister =>
          rw [hafter] at hjob
          obtain rfl := Option.some.inj hjob
          refine ⟨path, ?_, rfl⟩
          change turn.register.sourceAt _ = _
          rw [hregister, Register.sourceAt_enroll, if_pos ⟨hcontains, Path.same_self _⟩]
      | lose hstage hafter =>
          rw [hafter] at hjob
          contradiction
      | keep hsame =>
          rcases hsame with hsame | hcrashed
          · exact hturn.records (h.recorded task htask job (hsame ▸ hjob))
          · rw [hcrashed] at hjob
            contradiction
    · rw [hturn.job?_of_started hu] at hjob
      contradiction
  aliased := hturn.aliased h.aliased
  known d source hsource := by
    change turn.register.sourceAt d = some source at hsource
    change ∃ d', turn.register.aliases.get? source = some d' ∧ _
    cases hturn.filing with
    | keep hsourceAt haliases =>
        rw [hsourceAt] at hsource
        rw [haliases]
        exact h.known d source hsource
    | make _ hcode hnew _ hsourceAt halias =>
        rw [hsourceAt] at hsource
        rw [halias]
        split at hsource
        · rename_i hsame
          obtain rfl := Option.some.inj hsource
          rw [if_pos (Path.same_self _)]
          exact ⟨_, rfl, Path.same_iff.1 hsame⟩
        · rw [if_neg (h.not_same_of_gain hcode hnew hsource)]
          exact h.known d source hsource
  placed d source hsource := by
    change turn.register.sourceAt d = some source at hsource
    change s.options.IsPlaced source d
    cases hturn.filing with
    | keep hsourceAt =>
        rw [hsourceAt] at hsource
        exact h.placed d source hsource
    | @make path rest requester hstage hcode _ _ hsourceAt =>
        rw [hsourceAt] at hsource
        split at hsource
        · rename_i hsame
          obtain rfl := Option.some.inj hsource
          have hcomponents := Path.same_iff.1 hsame
          obtain ⟨houtside, hinside, hrest⟩ := h.placed_gain hvisit hstage hcode
          refine ⟨houtside, ?_, rest, hcode.below, hcomponents⟩
          rw [← FileTree.startsWith_congr hcomponents]
          exact hinside
        · exact h.placed d source hsource
  claims u hu path hpath := by
    rcases (mem_tasks_perform h.orderly htask turn).1 hu with ⟨hu, -⟩ | rfl | hu
    · exact h.claims u hu path hpath
    · exact absurd hpath (hturn.stage_ne_claim path)
    · obtain ⟨path', requester, hstage⟩ := hturn.spawned_visits _ (mem_started hu).2.2.2.2.2.2
      rw [hstage] at hpath
      contradiction

end Turn

/-- A session in which no more is worked on, with what is recorded left as it is. -/
theorem congr {t : BuildSession FileTree} (h : s.Regular) (hoptions : t.options = s.options)
    (hregister : t.register = s.register) (horderly : t.Orderly)
    (hdirectory : t.store.kindOf? s.options.baseDir = some .directory)
    (htasks : ∀ u ∈ t.tasks, u ∈ s.tasks ∨ u.stage.job? = none ∧
      ∀ path, u.stage = .claim path → path.startsWith s.options.outDir = false)
    (howners : ∀ d, t.owners d ≤ s.owners d) : t.Regular where
  orderly := horderly
  base := hoptions ▸ h.base
  out := hoptions ▸ h.out
  directory := hoptions ▸ hdirectory
  owned d := by
    rw [hregister]
    exact Nat.le_trans (howners d) (h.owned d)
  recorded u hu job hjob := by
    rw [hregister]
    rcases htasks u hu with hu | ⟨hnone, -⟩
    · exact h.recorded u hu job hjob
    · rw [hnone] at hjob
      contradiction
  aliased := hregister ▸ h.aliased
  known := hregister ▸ h.known
  placed := by
    rw [hregister, hoptions]
    exact h.placed
  claims u hu path hpath := by
    rw [hoptions]
    rcases htasks u hu with hu | ⟨-, hclaim⟩
    · exact h.claims u hu path hpath
    · exact hclaim path hpath

theorem call (h : s.Regular) (addressee : Addressee) {request : Request}
    (hrequest : ∀ path, request.stage = .claim path → path.startsWith s.options.outDir = false) :
    (s.call addressee request).1.Regular := by
  refine h.congr rfl rfl (h.orderly.call addressee request) h.directory (fun u hu => ?_)
    fun d => Nat.le_of_eq (owners_call s addressee request d)
  rcases List.mem_append.1 hu with hu | hu
  · exact Or.inl hu
  · rw [List.mem_singleton.1 hu]
    exact Or.inr ⟨by cases request <;> rfl, hrequest⟩

theorem collect (h : s.Regular) : s.collect.1.Regular :=
  h.congr rfl rfl h.orderly.collect h.directory (fun _ hu => Or.inl (List.mem_filter.1 hu).1)
    (owners_collect_le s)

theorem putFile (h : s.Regular) {q : Path} (hq : s.store.kindOf? q ≠ some .directory)
    (content : ByteArray) : ({ s with store := s.store.putFile q content }).Regular := by
  refine h.congr rfl rfl ⟨h.orderly.ids, h.orderly.bound, h.orderly.family, h.orderly.single⟩ ?_
    (fun _ hu => Or.inl hu) fun _ => Nat.le_refl _
  refine FileTree.kindOf?_putFile h.directory ?_ content
  intro hsame
  rw [FileTree.kindOf?_congr (Path.same_iff.1 hsame), h.directory] at hq
  exact hq rfl

end Regular

/-- A record that is being built though nobody works on it any more. -/
def Forsaken (s : BuildSession FileTree) (p : Path) : Prop :=
  ∃ d, s.register.aliases.get? p = some d ∧ s.register.statusAt d = some .building ∧
    s.owners d = 0

theorem Forsaken.congr {q : Path} (h : s.Forsaken p) (hpq : p.components = q.components) :
    s.Forsaken q := by
  obtain ⟨d, halias, hd⟩ := h
  exact ⟨d, by rw [← PathMap.get?_congr hpq, halias], hd⟩

theorem Forsaken.of_owners {t : BuildSession FileTree} (h : s.Forsaken p)
    (hregister : t.register = s.register) (howners : ∀ d, t.owners d ≤ s.owners d) :
    t.Forsaken p := by
  obtain ⟨d, halias, hstatus, hnobody⟩ := h
  exact ⟨d, hregister ▸ halias, hregister ▸ hstatus,
    Nat.le_zero.1 (Nat.le_trans (howners d) (Nat.le_of_eq hnobody))⟩

/-- A record stays forsaken: nobody is granted the build of it, and nobody is there to end it. -/
theorem Forsaken.perform (h : s.Forsaken p) (hs : s.Regular) (htask : task ∈ s.tasks)
    (hturn : Turns s task turn) : (s.perform task turn).Forsaken p := by
  obtain ⟨d, halias, hstatus, hnobody⟩ := h
  have hidle : task.stage.isAt d = false := by
    rw [Bool.eq_false_iff]
    intro hat
    have hpos : 0 < s.owners d := List.countP_pos_iff.2 ⟨task, htask, hat⟩
    omega
  refine ⟨d, hs.alias_kept hturn halias, ?_⟩
  rcases record_cases hs.orderly htask hturn d with ⟨hkept, howners, -⟩ | ⟨hnot, -⟩ | ⟨hat, -⟩ |
    ⟨hat, -⟩
  · exact ⟨hkept.trans hstatus, howners.trans hnobody⟩
  · exact absurd hstatus hnot
  · rw [hidle] at hat
    contradiction
  · rw [hidle] at hat
    contradiction

theorem forsaken_of_crash (hs : s.Regular) (htask : task ∈ s.tasks) (hturn : Turns s task turn)
    (hjob : task.stage.job? = some job) (hcrashed : turn.stage = .crashed) :
    (s.perform task turn).Forsaken job.source := by
  obtain ⟨source, hsource, hcomponents⟩ := hs.recorded task htask job hjob
  obtain ⟨d, halias, hd⟩ := hs.known job.dest source hsource
  have howned := hs.owned d
  have howners := owners_perform hs.orderly htask hturn d
  rw [BuildTask.Stage.isAt_of_job? hjob, if_pos (Path.same_iff.2 hd.symm), hcrashed,
    BuildTask.Stage.isAt_of_none rfl, if_neg Bool.false_ne_true] at howners
  have hbuilding := hs.building htask hjob
  rw [← Register.statusAt_congr hd] at hbuilding
  rw [hbuilding, if_pos rfl] at howned
  refine ⟨d, ?_, ?_, by omega⟩
  · change turn.register.aliases.get? _ = _
    cases hturn <;> simp_all [turnTo, PathMap.get?_congr hcomponents]
  · change turn.register.statusAt d = _
    cases hturn <;> simp_all [turnTo]

/-- A stage of a task that was started to build a file again. -/
def Serves (s : BuildSession FileTree) (p : Path) : BuildTask.Stage → Prop
  | .claim path => path.components = p.components
  | .visit path _ => path.components = p.components
  | .crashed => s.Forsaken p
  | stage => ∀ job, stage.job? = some job → job.source.components = p.components

theorem Serves.of_owners {t : BuildSession FileTree} {stage : BuildTask.Stage}
    (h : s.Serves p stage) (hregister : t.register = s.register)
    (howners : ∀ d, t.owners d ≤ s.owners d) : t.Serves p stage := by
  cases stage with
  | crashed => exact Forsaken.of_owners h hregister howners
  | _ => exact h

theorem Serves.perform {stage : BuildTask.Stage} (h : s.Serves p stage) (hs : s.Regular)
    (htask : task ∈ s.tasks) (hturn : Turns s task turn) :
    (s.perform task turn).Serves p stage := by
  cases stage with
  | crashed => exact Forsaken.perform h hs htask hturn
  | _ => exact h

/-- A task that serves a path never turns to another one. -/
theorem Serves.after (h : s.Serves p task.stage) (hs : s.Regular) (htask : task ∈ s.tasks)
    (hturn : Turns s task turn) (hagenda : task.agenda = .single) :
    (s.perform task turn).Serves p turn.stage := by
  have hsource : ∀ job, task.stage.job? = some job → job.source.components = p.components := by
    intro job hjob
    cases hstage : task.stage with
    | claim | visit | crashed => simp [hstage, BuildTask.Stage.job?] at hjob
    | _ =>
        rw [hstage] at h hjob
        exact h job hjob
  cases hturn with
  | claim hstage =>
      rw [hstage] at h
      intro job hjob
      obtain rfl := Option.some.inj hjob
      exact h
  | meet hstage =>
      rw [hstage] at h
      exact h
  | begin hstage =>
      rw [hstage] at h
      intro job hjob
      obtain rfl := Option.some.inj hjob
      exact h
  | crash hstage hcrash =>
      have hjob : task.stage.job? = some _ := congrArg BuildTask.Stage.job? hstage
      exact (forsaken_of_crash hs htask (.crash hstage hcrash) hjob rfl).congr (hsource _ hjob)
  | next hstage hentries =>
      rw [hagenda] at hentries
      contradiction
  | _ =>
      intro job hjob
      simp_all [turnTo, BuildTask.Stage.job?]

end BuildSession

end LiveBuild
