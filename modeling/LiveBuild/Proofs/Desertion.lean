import LiveBuild.Proofs.SharedBuild

/-!
# Builds that nobody ends

A record that is being built is worked on by one task, which ends the build. But a task can be lost
on the way: it breaks down with its transform, or it is dropped with the other rebuilds of a watch
session that is stopped. The record is then deserted: it counts as being built for good, and no
rebuild of it is ever started again.
-/

namespace LiveBuild

namespace BuildSession

variable {σ : Type} {s : BuildSession σ} {task : BuildTask} {turn : Turn σ} {d : Path}

/-- A record counts as being built, but nobody works on it. -/
def IsDeserted (s : BuildSession σ) (d : Path) : Prop :=
  s.register.statusAt d = some .building ∧ s.owners d = 0

theorem Owned.statusAt_eq_building_iff (h : s.Owned) :
    s.register.statusAt d = some .building ↔ s.owners d = 1 ∨ s.IsDeserted d := by
  have howned := h d
  constructor
  · intro hbuilding
    rw [if_pos hbuilding] at howned
    rcases Nat.le_one_iff_eq_zero_or_eq_one.1 howned with hnone | hone
    · exact Or.inr ⟨hbuilding, hnone⟩
    · exact Or.inl hone
  · rintro (hone | ⟨hbuilding, -⟩)
    · by_contra hidle
      rw [if_neg hidle] at howned
      omega
    · exact hbuilding

theorem Owned.building_of_isAt (h : s.Owned) (htask : task ∈ s.tasks)
    (hat : task.stage.isAt d = true) : s.register.statusAt d = some .building ∧ s.owners d = 1 := by
  obtain ⟨job, hjob, hdest⟩ := BuildTask.Stage.exists_job_of_isAt hat
  have hbuilding := Owned.building h htask hjob
  rw [Register.statusAt_congr hdest] at hbuilding
  have howned := h d
  have hpos := owners_pos htask hjob hdest
  rw [if_pos hbuilding] at howned
  exact ⟨hbuilding, by omega⟩

theorem owners_collect (s : BuildSession σ) (d : Path) : s.collect.1.owners d = s.owners d := by
  change (s.tasks.filter _).countP _ = s.tasks.countP _
  rw [List.countP_filter]
  refine List.countP_congr fun task _ => ?_
  rw [Bool.and_eq_true, and_iff_left_iff_imp]
  intro hat
  obtain ⟨job, hjob, -⟩ := BuildTask.Stage.exists_job_of_isAt hat
  rw [outcome?_of_job? hjob]
  rfl

/-- Without the tasks of some calls a record is deserted that was worked on for one of them. -/
theorem isDeserted_keepCalls (h : s.Owned) (keeps : Nat → Bool) :
    (s.keepCalls keeps).IsDeserted d ↔ s.IsDeserted d ∨
      ∃ task ∈ s.tasks, task.stage.isAt d = true ∧ keeps task.call = false := by
  have howners : (s.keepCalls keeps).owners d =
      s.tasks.countP fun task => task.stage.isAt d && keeps task.call := List.countP_filter
  rw [IsDeserted, howners, List.countP_eq_zero]
  constructor
  · rintro ⟨hbuilding, hnone⟩
    rcases (h.statusAt_eq_building_iff).1 hbuilding with hone | hdeserted
    · obtain ⟨task, htask, hat⟩ := List.countP_pos_iff.1 (Nat.lt_of_lt_of_eq Nat.one_pos hone.symm)
      refine Or.inr ⟨task, htask, hat, ?_⟩
      simpa [hat] using hnone task htask
    · exact Or.inl hdeserted
  · rintro (⟨hbuilding, hnone⟩ | ⟨task, htask, hat, hdropped⟩)
    · refine ⟨hbuilding, fun task htask hkept => ?_⟩
      rw [Bool.and_eq_true] at hkept
      exact List.countP_eq_zero.1 hnone task htask hkept.1
    · refine ⟨(h.building_of_isAt htask hat).1, fun u hu hkept => ?_⟩
      rw [Bool.and_eq_true] at hkept
      obtain ⟨job, hjob, hdest⟩ := BuildTask.Stage.exists_job_of_isAt hat
      obtain ⟨job', hjob', hdest'⟩ := BuildTask.Stage.exists_job_of_isAt hkept.1
      rw [Owned.unique h htask hu hjob hjob' (hdest.trans hdest'.symm), hkept.2] at hdropped
      contradiction

variable [FileStore σ]

/-- A turn deserts a record only if its task breaks down over it, and nothing takes it up again. -/
theorem isDeserted_perform (howned : s.Owned) (horderly : s.Orderly) (htask : task ∈ s.tasks)
    (hturn : Turns s task turn) : (s.perform task turn).IsDeserted d ↔
      s.IsDeserted d ∨ (turn.stage = .crashed ∧ task.stage.isAt d = true) := by
  change turn.register.statusAt d = some .building ∧ (s.perform task turn).owners d = 0 ↔ _
  rcases record_cases horderly htask hturn d with ⟨hstatus, howners, hbroken⟩ |
    ⟨hidle, -, howners, haway⟩ | ⟨hat, hcrashed, hended, -⟩ | ⟨hat, hcrashed, hstatus, howners⟩
  · rw [hstatus, howners, or_iff_left hbroken]
    rfl
  · simp [IsDeserted, hidle, howners, haway]
  · obtain ⟨-, hone⟩ := howned.building_of_isAt htask hat
    simp [IsDeserted, hone, hended, hcrashed]
  · obtain ⟨hbuilding, hone⟩ := howned.building_of_isAt htask hat
    simp only [hat, hcrashed, and_self, or_true, iff_true]
    exact ⟨hstatus.trans hbuilding, by omega⟩

end BuildSession

namespace SharedBuild

variable {σ : Type} [FileStore σ] {first x y : SharedBuild σ} {past : History σ} {move : Move σ}
  {p d : Path}

/-- A move loses the task that works on a record: its transform breaks down, or it works for a
rebuild of a watch session that is stopped. -/
def Deserts (x : SharedBuild σ) (d : Path) : Move σ → Prop
  | .build id => ∃ task job text, x.build.task? id = some task ∧
      task.stage = .transform job text ∧ job.dest.same d = true ∧
      x.build.sourceTransform job.source text
        (.ofSource x.build.store x.build.options job.source) = .crash
  | .serve i .stop => ∃ task ∈ x.build.tasks, task.stage.isAt d = true ∧
      ∃ entry ∈ x.rebuildsOf i, task.call = entry.1
  | _ => False

/-- Some move of a history has lost the task that worked on a record. -/
def WasDeserted (past : History σ) (d : Path) : Prop :=
  ∃ moment ∈ past, moment.1.Deserts d moment.2

theorem isDeserted_next (hx : Lawful x.build) (h : x.next? move = some y) :
    y.build.IsDeserted d ↔ x.build.IsDeserted d ∨ x.Deserts d move := by
  have hkept : ∀ s : BuildSession σ, s.register = x.build.register →
      s.owners d = x.build.owners d → (s.IsDeserted d ↔ x.build.IsDeserted d ∨ False) := by
    intro s hregister howners
    rw [or_false, BuildSession.IsDeserted, BuildSession.IsDeserted, hregister, howners]
  cases move with
  | request addressee request =>
      obtain rfl := Option.some.inj h
      exact hkept _ rfl (BuildSession.owners_call _ _ _ d)
  | watch addressee window entries =>
      obtain rfl := Option.some.inj h
      exact hkept _ rfl (BuildSession.owners_call _ _ _ d)
  | edit change =>
      obtain rfl := Option.some.inj h
      exact hkept _ rfl rfl
  | report i change =>
      obtain ⟨w, -, rfl⟩ := Option.map_eq_some_iff.1 h
      exact hkept _ rfl rfl
  | wait duration =>
      obtain rfl := Option.some.inj h
      exact hkept _ rfl rfl
  | build id =>
      obtain ⟨task, turn, hfound, hturn, rfl⟩ := next_build h hx.sent
      have htask := (BuildSession.mem_of_task? hfound).1
      refine (BuildSession.isDeserted_perform hx.owned hx.orderly htask hturn).trans
        (or_congr_right ?_)
      rw [hturn.crashed_iff]
      constructor
      · rintro ⟨⟨job, text, hstage, hcrash⟩, hat⟩
        refine ⟨task, job, text, hfound, hstage, ?_, hcrash⟩
        rwa [hstage, BuildTask.Stage.isAt_of_job? rfl] at hat
      · rintro ⟨found, job, text, hfound', hstage, hsame, hcrash⟩
        obtain rfl := Option.some.inj (hfound.symm.trans hfound')
        refine ⟨⟨job, text, hstage, hcrash⟩, ?_⟩
        rw [hstage, BuildTask.Stage.isAt_of_job? rfl, hsame]
  | collect =>
      obtain rfl := Option.some.inj h
      exact hkept _ rfl (BuildSession.owners_collect _ d)
  | serve i own =>
      obtain ⟨w, build, v, hw, -, hserved, rfl⟩ := next_serve h
      rcases WatchSession.serve_cases hserved with ⟨hgoes, u, paths, rfl⟩ | ⟨rfl, rfl⟩
      · have hcalls := u.rebuild_induction
          (P := fun s => s.register = x.build.register ∧ s.owners d = x.build.owners d)
          (fun s path hs => ⟨hs.1, (BuildSession.owners_call s _ _ d).trans hs.2⟩) ⟨rfl, rfl⟩ paths
        have hfalse : x.Deserts d (.serve i own) ↔ False := by
          cases own <;> simp_all [Deserts]
        rw [hfalse]
        exact hkept _ hcalls.1 hcalls.2
      · refine (BuildSession.isDeserted_keepCalls hx.owned _).trans (or_congr_right ?_)
        constructor
        · rintro ⟨task, htask, hat, hdropped⟩
          obtain ⟨entry, hentry, hcall⟩ : ∃ entry ∈ w.rebuilds, entry.1 = task.call := by
            simpa using hdropped
          exact ⟨task, htask, hat, entry, rebuildsOf_eq hw ▸ hentry, hcall.symm⟩
        · rintro ⟨task, htask, hat, entry, hentry, hcall⟩
          refine ⟨task, htask, hat, ?_⟩
          simpa using ⟨entry.2, by simpa [hcall, rebuildsOf_eq hw] using hentry⟩

theorem Run.isDeserted_iff (h : Run first past x) (hfirst : Lawful first.build)
    (hnone : ¬ first.build.IsDeserted d) : x.build.IsDeserted d ↔ WasDeserted past d := by
  induction h with
  | start => simpa [WasDeserted] using hnone
  | next hrun hnext ih =>
      rw [isDeserted_next (hrun.lawful hfirst) hnext, ih]
      simp [WasDeserted, or_and_right, exists_or]

/-- **A record that counts as being built is worked on, or was deserted.** Whatever requests and
watch sessions share a build, and in whatever order moves are made: a record is being built exactly
if one task works on it or the task that did was lost. A rebuild of it is put off as being under way
in both cases, and started in all others; and nobody comes back to a record that was deserted. -/
theorem building_iff {store : σ} {options : BuildOptions} {sourceTransform : SourceTransform}
    (hrun : Run (start store options sourceTransform) past x) (d : Path) :
    (x.build.register.statusAt d = some .building ↔
      x.build.owners d = 1 ∨ WasDeserted past d) ∧
    (WasDeserted past d → x.build.owners d = 0) ∧
    ∀ p addressee, x.build.register.recordedAs? p = some d →
      x.build.register.targets.contains d = true →
      ((x.build.register.reopen p addressee).2 = .underway ↔
        x.build.owners d = 1 ∨ WasDeserted past d) ∧
      ((x.build.register.reopen p addressee).2 = .started d ↔
        ¬ (x.build.owners d = 1 ∨ WasDeserted past d)) := by
  have hfirst : Lawful (start store options sourceTransform).build := .start _ _ _
  have hdeserted : x.build.IsDeserted d ↔ WasDeserted past d :=
    hrun.isDeserted_iff hfirst fun hbuilding => nomatch hbuilding.1
  have hbuilding : x.build.register.statusAt d = some .building ↔
      x.build.owners d = 1 ∨ WasDeserted past d := by
    rw [← hdeserted]
    exact (hrun.lawful hfirst).owned.statusAt_eq_building_iff
  refine ⟨hbuilding, fun h => (hdeserted.2 h).2, fun p addressee hrecorded hcontains => ?_⟩
  rw [Register.reopen_answer hrecorded hcontains, ← hbuilding]
  split <;> simp_all

/-- A watch session is stopped while its rebuild is in the middle of the work. -/
def stopAtWork : List (Move FileTree) :=
  firstBuild ++ save "1" ++ [.build 1, .build 1, .serve 0 .stop, .collect]

/-- Nothing is left to do, but the record counts as being built. -/
def isStuck (x : SharedBuild FileTree) : Bool :=
  x.build.tasks.isEmpty && x.build.register.targets.contains "/p/out/a.js" &&
    decide (x.build.register.recordedAs? "/p/a.js" = some "/p/out/a.js") &&
    decide (x.build.register.statusAt "/p/out/a.js" = some .building)

theorem exists_stuck : ∃ past x, solo.replay? stopAtWork = some (past, x) ∧ Run solo past x ∧
    x.build.tasks = [] ∧
    x.build.register.targets.contains "/p/out/a.js" = true ∧
    x.build.register.recordedAs? "/p/a.js" = some "/p/out/a.js" ∧
    x.build.register.statusAt "/p/out/a.js" = some .building := by
  obtain ⟨past, x, hreplay, hrun, hcheck⟩ := exists_replay (isStuck ·.2)
    (show (solo.replay? stopAtWork).any (fun found => found.2.isStuck) = true by decide +kernel)
  simp only [isStuck, Bool.and_eq_true, List.isEmpty_iff, decide_eq_true_eq, and_assoc] at hcheck
  exact ⟨past, x, hreplay, hrun, hcheck⟩

theorem building_iff_stopAtWork : ∃ past x, Run solo past x ∧ WasDeserted past "/p/out/a.js" ∧
    x.build.register.statusAt "/p/out/a.js" = some .building ∧
    (x.build.register.statusAt "/p/out/a.js" = some .building ↔
      x.build.owners "/p/out/a.js" = 1 ∨ WasDeserted past "/p/out/a.js") := by
  obtain ⟨past, x, -, hrun, hidle, -, -, hbuilding⟩ := exists_stuck
  obtain ⟨hiff, -⟩ := building_iff hrun "/p/out/a.js"
  refine ⟨past, x, hrun, (hiff.1 hbuilding).resolve_left ?_, hbuilding, hiff⟩
  simp [BuildSession.owners, hidle]

/-- A record is being built though no task is left, and a rebuild of it is put off for good. -/
theorem not_worked_on_stopAtWork : ∃ past x, solo.replay? stopAtWork = some (past, x) ∧
    Run solo past x ∧ x.build.tasks = [] ∧
    x.build.register.statusAt "/p/out/a.js" = some .building ∧
    ∀ addressee, (x.build.register.reopen "/p/a.js" addressee).2 = .underway := by
  obtain ⟨past, x, hreplay, hrun, hidle, hcontains, hrecorded, hbuilding⟩ := exists_stuck
  refine ⟨past, x, hreplay, hrun, hidle, hbuilding, fun addressee => ?_⟩
  rw [Register.reopen_answer hrecorded hcontains, if_pos hbuilding]

end SharedBuild

end LiveBuild
