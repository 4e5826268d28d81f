import LiveBuild.Proofs.Bystanders
import LiveBuild.Proofs.Delivery
import LiveBuild.Proofs.Refusals

/-!
# Builds that fail

A build that fails because its source cannot be read, its transform fails or an import of it is not
found has done nothing but to be granted. No file is written for it and none of its imports is
looked at, whatever else goes on in the meantime. All that it leaves is that its target has failed
and that those are told who are told of the target.
-/

namespace LiveBuild

/-- The job of a task that has not come further than to look its imports up. -/
def BuildTask.Stage.opening? : BuildTask.Stage → Option BuildJob
  | .read job => some job
  | .transform job _ => some job
  | .lookUp job _ => some job
  | _ => none

namespace BuildSession

variable {σ : Type} {s t first x y : BuildSession σ} {past before after later : History σ}
  {moment : BuildSession σ × Move σ} {move : Move σ} {task u : BuildTask} {turn : Turn σ}
  {job : BuildJob} {d : Path} {id : Nat}

theorem job?_of_opening? {stage : BuildTask.Stage} (h : stage.opening? = some job) :
    stage.job? = some job := by
  cases stage <;> simp_all [BuildTask.Stage.opening?, BuildTask.Stage.job?]

/-- A turn that starts no tasks and takes none in changes no other task. -/
theorem tasks_perform_beside (hspawned : turn.spawned = []) (hgathers : turn.gathers = false) :
    (s.perform task turn).tasks.filter (fun u => u.id != task.id) =
      s.tasks.filter fun u => u.id != task.id := by
  have htasks : (s.perform task turn).tasks = s.tasks.map fun old =>
      if old.id = task.id then turn.after task else old := by
    rw [perform, hspawned, hgathers]
    exact List.append_nil _
  have hkept : ((fun u : BuildTask => u.id != task.id) ∘ fun old : BuildTask =>
      if old.id = task.id then turn.after task else old) = fun u => u.id != task.id := by
    funext u
    by_cases hu : u.id = task.id <;> simp [hu, Turn.after]
  rw [htasks, List.filter_map, hkept]
  refine (List.map_congr_left fun u hu => if_neg ?_).trans (List.map_id' _)
  simpa using (List.mem_filter.1 hu).2

variable [FileStore σ]

/-- A build fails in the next step of its task: the source cannot be read as text, its transform
fails, or some local import of it is not found. -/
inductive Fails (s : BuildSession σ) (task : BuildTask) (job : BuildJob) : Prop
  | unreadable {f : Failure} : task.stage = .read job →
      FileStore.readText s.store job.source = .error f → Fails s task job
  | refused {text message : String} {stack? : Option String} : task.stage = .transform job text →
      s.sourceTransform job.source text (.ofSource s.store s.options job.source) =
        .failure message stack? → Fails s task job
  | unresolved {output : SourceOutput} {specifier : String} {e : BuildError} :
      task.stage = .lookUp job output → specifier ∈ output.imports →
      Imports.isLocal specifier = true →
      Lookup.find s.store job.source specifier s.options.resolveExtensions = .error e →
      Fails s task job

theorem Fails.opening? (h : s.Fails task job) : task.stage.opening? = some job := by
  cases h <;> simp_all [BuildTask.Stage.opening?]

/-- The step in which a build fails leaves only the end of the build to be done. -/
theorem Turns.stage_of_fails (hturn : Turns s task turn) (h : s.Fails task job) :
    ∃ e, turn.stage = .finish job (.error e) := by
  cases h with
  | unreadable hread hfailure =>
      cases hturn with
      | unreadable hstage => exact ⟨_, by cases hread.symm.trans hstage; rfl⟩
      | read hstage htext =>
          cases hread.symm.trans hstage
          simp [hfailure] at htext
      | _ => simp_all
  | refused htransform hfailure =>
      cases hturn with
      | fail hstage => exact ⟨_, by cases htransform.symm.trans hstage; rfl⟩
      | transform hstage houtput | crash hstage houtput =>
          cases htransform.symm.trans hstage
          simp [hfailure] at houtput
      | _ => simp_all
  | unresolved hlookup hmem hlocal hmissing =>
      cases hturn with
      | unresolved hstage => exact ⟨_, by cases hlookup.symm.trans hstage; rfl⟩
      | resolve hstage hfiles =>
          cases hlookup.symm.trans hstage
          obtain ⟨i, hi, hget⟩ := List.getElem_of_mem (List.mem_filter.2 ⟨hmem, hlocal⟩)
          have hall := mapM_eq_ok_iff.1 hfiles
          have hfound := hall.get hi (hall.length_eq ▸ hi)
          rw [List.get_eq_getElem, hget, hmissing] at hfound
          contradiction
      | _ => simp_all

/-- A task that has not come further than to look its imports up, or has failed by then, has done
nothing that others could notice. -/
theorem Turns.silent_of_opening (hturn : Turns s task turn)
    (hopening : task.stage.opening? = some job)
    (hafter : turn.stage.opening? = some job ∨ ∃ e, turn.stage = .finish job (.error e)) :
    turn.store = s.store ∧ turn.register = s.register ∧ turn.agenda = task.agenda ∧
      turn.spawned = [] ∧ turn.gathers = false ∧ turn.told = [] := by
  cases hturn <;> simp_all [turnTo, BuildTask.Stage.opening?]

/-- A task comes to an early stage of a build only from an earlier one, once the target is recorded
and there is nothing to claim. -/
theorem Turns.opening_before (hturn : Turns s task turn)
    (hcontains : s.register.targets.contains job.dest = true)
    (hclaim : ∀ path, task.stage ≠ .claim path) (hafter : turn.stage.opening? = some job) :
    task.stage.opening? = some job := by
  cases hturn with
  | claim hstage => exact absurd hstage (hclaim _)
  | begin hstage hcode hnew =>
      obtain rfl := Option.some.inj hafter
      rw [hcontains] at hnew
      contradiction
  | read hstage | transform hstage =>
      rw [hstage]
      exact hafter
  | _ => simp [turnTo, BuildTask.Stage.opening?] at hafter

omit [FileStore σ] in
theorem without_perform_self (hstore : turn.store = s.store)
    (hregister : turn.register = s.register) (hspawned : turn.spawned = [])
    (hgathers : turn.gathers = false) (htold : turn.told = [])
    (read : List Path) : (s.perform task turn).without task.id read = s.without task.id read := by
  rw [without, tasks_perform_beside hspawned hgathers, without]
  simp [perform, hstore, hregister, hspawned, htold]

/-- What is true of a session once a build of a destination was granted to a task. -/
structure Begun (s : BuildSession σ) (id : Nat) (d : Path) : Prop where
  orderly : s.Orderly
  recorded : s.register.targets.contains d = true
  known : id < s.nextTask
  unclaimed : ∀ task ∈ s.tasks, task.id = id → ∀ path, task.stage ≠ .claim path

namespace Begun

theorem next (h : s.Begun id d) (hnext : s.make? move = some t) : t.Begun id d := by
  cases move with
  | call addressee request =>
      obtain rfl := Option.some.inj hnext
      refine ⟨h.orderly.call addressee request, h.recorded, Nat.lt_succ_of_lt h.known,
        fun u hu hid => ?_⟩
      rcases List.mem_append.1 hu with hu | hu
      · exact h.unclaimed u hu hid
      · rw [List.mem_singleton.1 hu] at hid
        exact absurd hid.symm (Nat.ne_of_lt h.known)
  | step other =>
      obtain ⟨task, turn, hid, hturn, rfl⟩ := exists_turn hnext
      obtain ⟨htask, -⟩ := mem_of_task? hid
      refine ⟨h.orderly.perform htask hturn, ?_, Nat.lt_add_right _ h.known, fun u hu hid => ?_⟩
      · obtain ⟨source, hsource⟩ := Register.contains_iff_sourceAt.1 h.recorded
        exact Register.contains_iff_sourceAt.2 ⟨source, hturn.sourceAt_eq hsource⟩
      · rcases (mem_tasks_perform h.orderly htask turn).1 hu with ⟨hu, -⟩ | rfl | hu
        · exact h.unclaimed u hu hid
        · exact hturn.stage_ne_claim
        · have hge := (mem_started hu).2.2.2.2.1
          rw [hid] at hge
          exact absurd h.known (Nat.not_lt_of_le hge)
  | edit store =>
      obtain rfl := Option.some.inj hnext
      exact ⟨h.orderly.of_perm (.refl _) rfl, h.recorded, h.known, h.unclaimed⟩
  | collect =>
      obtain rfl := Option.some.inj hnext
      exact ⟨h.orderly.collect, h.recorded, h.known,
        fun u hu => h.unclaimed u (List.mem_filter.1 hu).1⟩

theorem run (h : first.Begun id d) (hrun : Runs first past t) : t.Begun id d := by
  induction hrun with
  | start => exact h
  | next _ hnext ih => exact ih.next hnext

end Begun

/-- A task is in an early stage of a build. -/
def IsOpening (s : BuildSession σ) (id : Nat) (job : BuildJob) : Prop :=
  ∃ task ∈ s.tasks, task.id = id ∧ task.stage.opening? = some job

/-- Whoever is in an early stage of a build that had begun before a move was so before it. -/
theorem Begun.isOpening_before (h : s.Begun id job.dest) (hnext : s.make? move = some t)
    (hopening : t.IsOpening id job) : s.IsOpening id job := by
  obtain ⟨u, hu, hid, hstage⟩ := hopening
  cases move with
  | call addressee request =>
      obtain rfl := Option.some.inj hnext
      rcases List.mem_append.1 hu with hu | hu
      · exact ⟨u, hu, hid, hstage⟩
      · rw [List.mem_singleton.1 hu] at hid
        exact absurd hid.symm (Nat.ne_of_lt h.known)
  | step other =>
      obtain ⟨task, turn, htask, hturn, rfl⟩ := exists_turn hnext
      obtain ⟨hmem, -⟩ := mem_of_task? htask
      rcases (mem_tasks_perform h.orderly hmem turn).1 hu with ⟨hu, -⟩ | rfl | hu
      · exact ⟨u, hu, hid, hstage⟩
      · exact ⟨task, hmem, hid,
          hturn.opening_before h.recorded (h.unclaimed task hmem hid) hstage⟩
      · have hnone := hturn.job?_of_started hu
        rw [job?_of_opening? hstage] at hnone
        contradiction
  | edit store =>
      obtain rfl := Option.some.inj hnext
      exact ⟨u, hu, hid, hstage⟩
  | collect =>
      obtain rfl := Option.some.inj hnext
      exact ⟨u, (List.mem_filter.1 hu).1, hid, hstage⟩

/-- A step between two early stages, or to the failure of a build, is silent. -/
theorem silent_of_opening (h : s.Orderly) (hmem : task ∈ s.tasks)
    (hopening : task.stage.opening? = some job)
    (hafter : move = .step task.id → ∀ t, s.make? move = some t → t.IsOpening task.id job ∨
      ∃ u ∈ t.tasks, u.id = task.id ∧ ∃ e, u.stage = .finish job (.error e)) :
    Silent task.id (s, move) := by
  refine ⟨h, ⟨task, hmem, rfl, by simp [job?_of_opening? hopening]⟩, fun hmove t hnext read => ?_⟩
  dsimp only at hmove hnext
  have hafter := hafter hmove t hnext
  subst hmove
  obtain ⟨found, turn, hfound, hturn, rfl⟩ := exists_turn hnext
  obtain rfl := Option.some.inj ((h.task?_eq hmem).symm.trans hfound)
  have hlast := after_mem_perform h hmem turn
  have horderly := h.perform hmem hturn
  have hstage : turn.stage.opening? = some job ∨ ∃ e, turn.stage = .finish job (.error e) := by
    rcases hafter with ⟨u, hu, hid, hstage⟩ | ⟨u, hu, hid, hstage⟩
    · obtain rfl := horderly.eq_of_id hu hlast hid
      exact .inl hstage
    · obtain rfl := horderly.eq_of_id hu hlast hid
      exact .inr hstage
  obtain ⟨hstore, hregister, -, hspawned, hgathers, htold⟩ :=
    hturn.silent_of_opening hopening hstage
  exact without_perform_self hstore hregister hspawned hgathers htold read

/-- A task that is in an early stage in the end has been silent since the build began. -/
theorem Runs.silent_of_isOpening (hrun : Runs first past t) (hfirst : first.Begun id job.dest)
    (hopening : t.IsOpening id job) : ∀ moment ∈ past, Silent id moment := by
  induction hrun with
  | start => exact fun _ h => nomatch h
  | @next past s t move hrun hnext ih =>
      have hbegun := hfirst.run hrun
      have hbefore := hbegun.isOpening_before hnext hopening
      intro moment hmoment
      rcases List.mem_append.1 hmoment with hmoment | hmoment
      · exact ih hbefore moment hmoment
      · obtain rfl := List.mem_singleton.1 hmoment
        obtain ⟨task, hmem, rfl, hstage⟩ := hbefore
        refine silent_of_opening hbegun.orderly hmem hstage fun _ t' hnext' => .inl ?_
        obtain rfl := Option.some.inj (hnext.symm.trans hnext')
        exact hopening

/-- A task that works on something and takes no step stays as it is. -/
theorem Runs.silent_of_waiting (hrun : Runs first past t) (hfirst : first.Orderly)
    (hmem : task ∈ first.tasks) (hjob : task.stage.job? = some job)
    (hwaits : ∀ moment ∈ past, moment.2 ≠ .step task.id) :
    (∀ moment ∈ past, Silent task.id moment) ∧ t.Orderly ∧ task ∈ t.tasks := by
  induction hrun with
  | start => exact ⟨fun _ h => (nomatch h), hfirst, hmem⟩
  | @next past s t move hrun hnext ih =>
      obtain ⟨hsilent, hs, hmem⟩ :=
        ih fun moment hmoment => hwaits moment (List.mem_append_left _ hmoment)
      have hmove : move ≠ .step task.id := hwaits (s, move) (by simp)
      refine ⟨fun moment hmoment => ?_, ?_⟩
      · rcases List.mem_append.1 hmoment with hmoment | hmoment
        · exact hsilent moment hmoment
        · obtain rfl := List.mem_singleton.1 hmoment
          exact ⟨hs, ⟨task, hmem, rfl, by simp [hjob]⟩, fun hstep => absurd hstep hmove⟩
      · cases move with
        | call addressee request =>
            obtain rfl := Option.some.inj hnext
            exact ⟨hs.call addressee request, List.mem_append_left _ hmem⟩
        | step other =>
            obtain ⟨found, turn, hfound, hturn, rfl⟩ := exists_turn hnext
            obtain ⟨hmem', rfl⟩ := mem_of_task? hfound
            refine ⟨hs.perform hmem' hturn, mem_perform_of_job? hs hmem' hturn hmem ?_ hjob⟩
            rintro rfl
            exact hmove rfl
        | edit store =>
            obtain rfl := Option.some.inj hnext
            exact ⟨hs.of_perm (.refl _) rfl, hmem⟩
        | collect =>
            obtain rfl := Option.some.inj hnext
            exact ⟨hs.collect, mem_collect_of_job? hmem hjob⟩

theorem begun_of_grants (h : s.Orderly) (hmem : task ∈ s.tasks) (hturn : Turns s task turn)
    (hgrants : s.Grants task job) :
    (s.perform task turn).Begun task.id job.dest ∧
      (s.perform task turn).IsOpening task.id job := by
  have hread := hturn.stage_of_grants hgrants
  have horderly := h.perform hmem hturn
  have hafter := after_mem_perform h hmem turn
  refine ⟨⟨horderly, ?_, Nat.lt_add_right _ (h.bound task hmem), fun u hu hid path hclaim => ?_⟩,
    turn.after task, hafter, rfl, ?_⟩
  · exact Register.contains_of_mem_subscribersAt (hturn.mem_subscribersAt hgrants.attaches)
  · obtain rfl := horderly.eq_of_id hu hafter hid
    exact hturn.stage_ne_claim path hclaim
  · change turn.stage.opening? = some job
    rw [hread]
    rfl

theorem Runs.not_building (hrun : Runs first past t)
    (hgranted : ∀ moment ∈ past, ∀ job, Granted moment job → job.dest.components ≠ d.components)
    (hfirst : first.register.statusAt d ≠ some .building) :
    t.register.statusAt d ≠ some .building := by
  induction hrun with
  | start => exact hfirst
  | @next past s t move hrun hnext ih =>
      have hbefore := ih fun moment hmoment => hgranted moment (List.mem_append_left _ hmoment)
      cases move with
      | step id =>
          obtain ⟨task, turn, hid, hturn, rfl⟩ := exists_turn hnext
          exact hturn.not_building
            (fun job hgrants => hgranted (s, .step id) (by simp) job
              ⟨task, hasTurn_of_task? hid, hgrants⟩) hbefore
      | _ =>
          obtain rfl := Option.some.inj hnext
          exact hbefore

/-- The last step of a build that has failed. -/
theorem finish_failed {e : BuildError} (h : x.Orderly) (hmem : u ∈ x.tasks)
    (hstage : u.stage = .finish job (.error e))
    (hcontains : x.register.targets.contains job.dest = true)
    (hnext : x.make? (.step u.id) = some t) (read : List Path) :
    t.store = x.store ∧ t.register = (x.register.close job.dest false).1 ∧
      (t.without u.id read).tasks = (x.without u.id read).tasks ∧ t.nextTask = x.nextTask ∧
      t.sent = x.sent ++ (x.register.subscribersAt job.dest).map
        (fun addressee => (addressee, .forFile job.source e)) ∧
      t.task? u.id = some { u with stage := .done 0 } ∧ ∀ v ∈ t.tasks, v.parent ≠ some u.id := by
  obtain ⟨found, turn, hfound, hturn, rfl⟩ := exists_turn hnext
  obtain rfl := Option.some.inj ((h.task?_eq hmem).symm.trans hfound)
  have htold := hturn.told_finish hstage hcontains
  have horderly := h.perform hmem hturn
  have hafter := after_mem_perform h hmem turn
  have hturned : turn.store = x.store ∧ turn.register = (x.register.close job.dest false).1 ∧
      turn.spawned = [] ∧ turn.gathers = false ∧ turn.after u = { u with stage := .done 0 } := by
    cases hturn <;> simp_all [turnTo, Turn.after]
  obtain ⟨hstore, hregister, hspawned, hgathers, hdone⟩ := hturned
  rw [hdone] at hafter
  refine ⟨hstore, hregister, tasks_perform_beside hspawned hgathers, ?_,
    congrArg (x.sent ++ ·) htold, horderly.task?_eq hafter, fun v hv hparent => ?_⟩
  · change x.nextTask + turn.spawned.length = _
    rw [hspawned]
    rfl
  · -- Nobody waits any more for what it has started.
    obtain ⟨-, waiting, hwaiting, hid, pending, hgather⟩ := horderly.family v hv _ hparent
    obtain rfl := horderly.eq_of_id hwaiting hafter hid
    contradiction

/-- **A build that fails leaves the session as it was.** Let a build be granted in whatever session,
and fail later, whatever else happens meanwhile. Take the session that the grant has left, without
the task of the build, and make all the moves that were not steps of this task: they can be made and
lead to a session that differs from the one after the end of the build in only this. The target of
the build has failed, whoever is told of it was told of the error, and the task has counted nothing
and started no other. The build is granted again, as long as it is not granted to somebody else. -/
theorem failed_build_leaves_session (hs : s.Orderly) (hid : s.task? id = some task)
    (hgrants : s.Grants task job)
    (hrun : Runs s ((s, .step id) :: (before ++ (x, .step id) :: after)) y)
    (hu : x.task? id = some u) (hfails : x.Fails u job)
    (hafter : ∀ moment ∈ after, moment.2 ≠ .step id) (hlast : y.make? (.step id) = some t) :
    ∃ granted alone b e, s.make? (.step id) = some granted ∧
      Runs (granted.without id []) alone b ∧
      alone.map Prod.snd = movesBeside id (before ++ (x, .step id) :: after) ∧
      t.store = b.store ∧ (t.without id []).tasks = b.tasks ∧ t.nextTask = b.nextTask ∧
      t.sent = b.sent ++ (b.register.subscribersAt job.dest).map
        (fun addressee => (addressee, .forFile job.source e)) ∧
      t.register.aliases = b.register.aliases ∧ t.register.imports = b.register.imports ∧
      (∀ d, t.register.targets.get? d = (b.register.targets.get? d).map fun target =>
        if job.dest.same d then { target with status := .failed } else target) ∧
      t.register.statusAt job.dest = some .failed ∧
      t.task? id = some { u with stage := .done 0 } ∧ (∀ v ∈ t.tasks, v.parent ≠ some id) ∧
      ∀ later z, Runs t later z → (∀ moment ∈ later, ∀ other, Granted moment other →
        other.dest.components ≠ job.dest.components) → ∀ p d addressee,
        z.register.recordedAs? p = some d → d.components = job.dest.components →
        (z.register.reopen p addressee).2 = .started d := by
  obtain ⟨hmem, hsame⟩ := mem_of_task? hid
  obtain ⟨hmem', rfl⟩ := mem_of_task? hu
  obtain ⟨-, granted, hgranted, hrest⟩ := hrun.cons_inv
  obtain ⟨found, turn, hfound, hturn, rfl⟩ := exists_turn hgranted
  obtain rfl := Option.some.inj (hid.symm.trans hfound)
  have hbegun := (begun_of_grants hs hmem hturn hgrants).1
  rw [hsame] at hbegun
  -- The task is at the beginning of the build up to the step that fails, and waits after it.
  obtain ⟨hbefore, x', hfail, hwait⟩ := hrest.at_moment rfl
  have hx := hbegun.run hbefore
  obtain ⟨found', turn', hfound', hturn', rfl⟩ := exists_turn hfail
  obtain rfl := Option.some.inj (hu.symm.trans hfound')
  obtain ⟨e, hfailed⟩ := hturn'.stage_of_fails hfails
  have hopening := hbefore.silent_of_isOpening hbegun ⟨u, hmem', rfl, hfails.opening?⟩
  have hstep : Silent u.id (x, .step u.id) := by
    refine silent_of_opening hx.orderly hmem' hfails.opening? fun _ z hz => .inr ?_
    obtain rfl := Option.some.inj (hfail.symm.trans hz)
    exact ⟨_, after_mem_perform hx.orderly hmem' turn', rfl, e, hfailed⟩
  obtain ⟨hwaiting, hy, hlasting⟩ := hwait.silent_of_waiting (hx.orderly.perform hmem' hturn')
    (after_mem_perform hx.orderly hmem' turn')
    (show turn'.stage.job? = some job by rw [hfailed]; rfl) hafter
  have hsilent : ∀ moment ∈ before ++ (x, .step u.id) :: after, Silent u.id moment := by
    intro moment hmoment
    rcases List.mem_append.1 hmoment with hmoment | hmoment
    · exact hopening moment hmoment
    · rcases List.mem_cons.1 hmoment with rfl | hmoment
      · exact hstep
      · exact hwaiting moment hmoment
  obtain ⟨alone, others, halone, hmoves⟩ := hrest.without hsilent []
  have hrecorded := (hbegun.run hrest).recorded
  obtain ⟨hstore, hregister, htasks, hnext, hsent, hdone, hchildless⟩ :=
    finish_failed hy hlasting hfailed hrecorded hlast []
  have hagenda := (hturn'.silent_of_opening hfails.opening? (.inr ⟨e, hfailed⟩)).2.2.1
  have hstatus : t.register.statusAt job.dest = some .failed := by
    rw [hregister, Register.statusAt_close, if_pos ⟨hrecorded, Path.same_self _⟩]
    rfl
  refine ⟨_, alone, _, e, hgranted, halone, hmoves, hstore, htasks, hnext, hsent, ?_, ?_, ?_,
    hstatus, ?_, hchildless, ?_⟩
  · rw [hregister]
    exact Register.aliases_close
  · rw [hregister]
    exact Register.imports_close
  · intro d
    rw [hregister]
    exact Register.get?_close _ _ _ _
  · rw [← hagenda]
    exact hdone
  · intro later z hlater hungranted p d addressee hp hd
    have hidle := hlater.not_building hungranted (by simp [hstatus])
    have hz := (((hbegun.run hrest).next hlast).run hlater).recorded
    rw [← PathMap.contains_congr hd] at hz
    rw [Register.reopen_answer hp hz, Register.statusAt_congr hd, if_neg hidle]

/-! ### A file that was built before and has an import now that is not there -/

section Outdated

/-- Two files, neither of which imports anything. -/
def outdatedTree : FileTree :=
  (FileTree.empty.putFile "/p/a.js" "a".toUTF8).putFile "/p/b.js" "b".toUTF8

def outdatedSession : BuildSession FileTree :=
  start outdatedTree
    { baseDir := "/p", outDir := "/p/out", extensions := [".js"], resolveExtensions := [".js"],
      exclude := [], assets := ⟨[], [], "", ""⟩, extra := {} } .scan

/-- The first file is built. Then it gets two imports, and only the first of them is there. -/
def outdatedMoves : List (Move FileTree) :=
  Move.call ⟨1, 0⟩ (.compile ["a.js"]) :: List.replicate 9 (Move.step 0) ++
    [Move.collect, .edit ((outdatedTree.putFile "/p/out/a.js" "a".toUTF8).putFile
      "/p/a.js" "import './b.js'; import './gone.js'".toUTF8),
    .call ⟨1, 0⟩ (.rebuild "/p/a.js")]

/-- While the file is built again, another request asks for it, and is through before the end. -/
def meanwhileMoves : List (Move FileTree) × List (Move FileTree) :=
  ([.step 1, .call ⟨2, 1⟩ (.compile ["a.js"]), .step 2, .step 1], [.step 2, .step 2])

def isGranted (s : BuildSession FileTree) : Bool :=
  (s.task? 1).any fun task => match task.stage with
    | .claim path => decide (path = "/p/a.js") &&
        match (s.register.reopen path task.addressee).2 with
        | .started d => decide (d = "/p/out/a.js")
        | _ => false
    | _ => false

def isMissing (x : BuildSession FileTree) : Bool :=
  (x.task? 1).any fun u => match u.stage with
    | .lookUp job output => decide (job = ⟨"/p/a.js", "/p/out/a.js"⟩) &&
        decide ("./gone.js" ∈ output.imports) && Imports.isLocal "./gone.js" &&
        !(Lookup.find x.store job.source "./gone.js" x.options.resolveExtensions).isOk
    | _ => false

def isUntouched (past : History FileTree) (id : Nat) : Bool :=
  past.all fun moment => match moment.2 with
    | .step other => other != id
    | _ => true

theorem exists_outdated : ∃ (s : BuildSession FileTree) (before : History FileTree)
    (x : BuildSession FileTree) (after : History FileTree) (y t : BuildSession FileTree),
    s.Orderly ∧ Runs s ((s, .step 1) :: (before ++ (x, .step 1) :: after)) y ∧
    y.make? (.step 1) = some t ∧
    isGranted s = true ∧ isMissing x = true ∧ isUntouched after 1 = true ∧
    t.register.recordedAs? "/p/a.js" = some (.ofString "/p/out/a.js") ∧
    (FileStore.readText t.store (.ofString "/p/out/a.js")).toOption = some "a" := by
  have houtdated : (outdatedSession.replay? outdatedMoves).any (fun one =>
      (one.2.replay? (.step 1 :: meanwhileMoves.1)).any fun two =>
        (two.2.replay? (.step 1 :: meanwhileMoves.2)).any fun three =>
          (three.2.make? (.step 1)).any fun t =>
            isGranted one.2 && isMissing two.2 && isUntouched (three.1.drop 1) 1 &&
              decide (t.register.recordedAs? "/p/a.js" = some (.ofString "/p/out/a.js")) &&
              decide ((FileStore.readText t.store (.ofString "/p/out/a.js")).toOption =
                some "a")) = true := by
    decide +kernel
  obtain ⟨⟨earlier, s⟩, hs, houtdated⟩ := (Option.any_eq_true _ _).1 houtdated
  obtain ⟨⟨first, x⟩, hx, houtdated⟩ := (Option.any_eq_true _ _).1 houtdated
  obtain ⟨⟨second, y⟩, hy, houtdated⟩ := (Option.any_eq_true _ _).1 houtdated
  obtain ⟨t, ht, hcheck⟩ := (Option.any_eq_true _ _).1 houtdated
  simp only [Bool.and_eq_true, decide_eq_true_eq, and_assoc] at hcheck
  obtain ⟨before, rfl⟩ := exists_cons_of_replay? hx
  obtain ⟨after, rfl⟩ := exists_cons_of_replay? hy
  have hrun := (Runs.start.replay hx).replay hy
  exact ⟨s, before, x, after, y, t, ((Runs.start.replay hs).called (.start _ _ _)).orderly, hrun,
    ht, hcheck⟩

/-- The output of the file is what it was, and the file can be built again. -/
theorem failed_build_leaves_session_outdated : ∃ (s : BuildSession FileTree)
    (before : History FileTree) (x : BuildSession FileTree) (after : History FileTree)
    (y t granted : BuildSession FileTree) (alone : History FileTree) (b : BuildSession FileTree),
    s.Orderly ∧ Runs s ((s, .step 1) :: (before ++ (x, .step 1) :: after)) y ∧
    y.make? (.step 1) = some t ∧ s.make? (.step 1) = some granted ∧
    Runs (granted.without 1 []) alone b ∧ t.store = b.store ∧
    t.register.statusAt "/p/out/a.js" = some .failed ∧
    (FileStore.readText t.store (.ofString "/p/out/a.js")).toOption = some "a" ∧
    ∀ addressee, (t.register.reopen "/p/a.js" addressee).2 = .started "/p/out/a.js" := by
  obtain ⟨s, before, x, after, y, t, hs, hrun, hlast, hgranted, hmissing, huntouched, hrecorded,
    htext⟩ := exists_outdated
  simp only [isGranted, Option.any_eq_true] at hgranted
  obtain ⟨task, hid, hgranted⟩ := hgranted
  have hgrants : s.Grants task ⟨"/p/a.js", "/p/out/a.js"⟩ := by
    split at hgranted
    · rename_i path hstage
      rw [Bool.and_eq_true, decide_eq_true_eq] at hgranted
      obtain ⟨rfl, hanswer⟩ := hgranted
      split at hanswer
      · rename_i d hstarted
        rw [decide_eq_true_eq] at hanswer
        subst hanswer
        exact .again hstage hstarted
      · contradiction
    · contradiction
  simp only [isMissing, Option.any_eq_true] at hmissing
  obtain ⟨u, hu, hmissing⟩ := hmissing
  have hfails : x.Fails u ⟨"/p/a.js", "/p/out/a.js"⟩ := by
    split at hmissing
    · rename_i job output hstage
      simp only [Bool.and_eq_true, decide_eq_true_eq, and_assoc] at hmissing
      obtain ⟨rfl, hmem, hlocal, hfind⟩ := hmissing
      cases hlookup : Lookup.find x.store "/p/a.js" "./gone.js" x.options.resolveExtensions with
      | error e => exact .unresolved hstage hmem hlocal hlookup
      | ok file => simp [hlookup, Except.isOk, Except.toBool] at hfind
    · contradiction
  have hafter : ∀ moment ∈ after, moment.2 ≠ .step 1 := by
    intro moment hmoment hmove
    have hother := List.all_eq_true.1 huntouched moment hmoment
    rw [hmove] at hother
    contradiction
  obtain ⟨granted, alone, b, -, hgrant, halone, -, hstore, -, -, -, -, -, -, hstatus, -, -,
    hagain⟩ := failed_build_leaves_session hs hid hgrants hrun hu hfails hafter hlast
  exact ⟨s, before, x, after, y, t, granted, alone, b, hs, hrun, hlast, hgrant, halone, hstore,
    hstatus, htext, fun addressee => hagain [] t .start (by simp) _ _ addressee
      hrecorded rfl⟩

end Outdated

end BuildSession

end LiveBuild
