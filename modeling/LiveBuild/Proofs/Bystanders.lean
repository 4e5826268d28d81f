import LiveBuild.Proofs.Histories

/-!
# Sessions without one of their tasks

A task that has started no others, and that nobody has taken in yet, concerns the other tasks only
through the files, the register and what it reports. As long as it leaves those alone, everybody
else goes on in the same way as if it were not there.
-/

namespace LiveBuild.BuildSession

variable {σ : Type} {s t first : BuildSession σ} {past : History σ}
  {moment : BuildSession σ × Move σ} {move : Move σ} {task u : BuildTask} {turn : Turn σ}
  {id other : Nat} {read : List Path}

/-- A session without one of its tasks, and with another list of what was transformed. -/
def without (s : BuildSession σ) (id : Nat) (read : List Path) : BuildSession σ :=
  { s with tasks := s.tasks.filter fun task => task.id != id, transformed := read }

theorem task?_without (h : other ≠ id) : (s.without id read).task? other = s.task? other := by
  rw [task?, without, List.find?_filter, task?]
  have hkept : (other != id) = true := by simpa using h
  congr 1
  funext u
  by_cases hid : u.id = other <;> simp [hid, hkept]

theorem setTask_without (task : BuildTask) :
    (s.setTask task).without id read = (s.without id read).setTask task := by
  have hkept : ((fun u : BuildTask => u.id != id) ∘
      fun old : BuildTask => if old.id = task.id then task else old) = fun u => u.id != id := by
    funext u
    by_cases hu : u.id = task.id <;> simp [hu]
  simp only [without, setTask, List.filter_map, hkept]

theorem setStage_without (task : BuildTask) (stage : BuildTask.Stage) :
    (s.setStage task stage).without id read = (s.without id read).setStage task stage :=
  setTask_without { task with stage }

theorem refuse_without (task : BuildTask) (path : Path) (e : BuildError) :
    (s.refuse task path e).without id read = (s.without id read).refuse task path e :=
  setStage_without task _

theorem spawn_without (h : id < s.nextTask) (task : BuildTask) (stages : List BuildTask.Stage) :
    (s.spawn task stages).without id read = (s.without id read).spawn task stages := by
  have hnew : ∀ u ∈ stages.mapIdx (fun i stage => (⟨s.nextTask + i, some task.id, task.call,
      task.addressee, .single, stage⟩ : BuildTask)), (u.id != id) = true := by
    intro u hu
    obtain ⟨i, hi, rfl⟩ := List.mem_mapIdx.1 hu
    have hlt : id < s.nextTask + i := Nat.lt_add_right i h
    simpa using (Nat.ne_of_lt hlt).symm
  simp only [without, spawn, List.filter_append, List.filter_eq_self.2 hnew]

section Stages

variable [FileStore σ]

omit [FileStore σ] in
theorem claim_without (task : BuildTask) (path : Path) :
    (s.claim task path).without id read = (s.without id read).claim task path := by
  have hsame : (s.without id read).register = s.register := rfl
  rw [claim, claim, hsame]
  rcases s.register.reopen path task.addressee with ⟨register, answer⟩
  cases answer <;> exact setStage_without task _

theorem visitDirectory_without (task : BuildTask) (hid : id < s.nextTask) (path : Path) :
    (s.visitDirectory task path).without id read =
      (s.without id read).visitDirectory task path := by
  have hsame : Walk.files (s.without id read).store (s.without id read).options path =
      Walk.files s.store s.options path := rfl
  rw [visitDirectory, visitDirectory, hsame]
  cases Walk.files s.store s.options path with
  | error e => exact refuse_without task path e
  | ok files =>
      change ((s.setStage task (.gather none)).spawn task _).without id read = _
      rw [spawn_without (s := s.setStage task (.gather none)) hid, setStage_without task]

theorem visitAsset_without (task : BuildTask) (kind : AssetTreatment) (path rest : Path) :
    (s.visitAsset task kind path rest).without id read =
      (s.without id read).visitAsset task kind path rest := by
  have hsame : emit (s.without id read).store (s.without id read).options kind path rest =
      emit s.store s.options kind path rest := rfl
  rw [visitAsset_eq, visitAsset_eq, hsame]
  cases (emit s.store s.options kind path rest).2 with
  | error e => exact refuse_without task path e
  | ok _ => exact setStage_without task _

omit [FileStore σ] in
theorem visitCode_without (task : BuildTask) (path rest : Path) (requester : Option Path) :
    (s.visitCode task path rest requester).without id read =
      (s.without id read).visitCode task path rest requester := by
  have hsame : (s.without id read).register = s.register := rfl
  have hoptions : (s.without id read).options = s.options := rfl
  rw [visitCode, visitCode, hsame, hoptions]
  rcases s.register.enroll path (s.options.codeOutput rest) requester task.addressee with
    ⟨register, grant⟩
  cases grant <;> exact setStage_without task _

theorem visit_without (task : BuildTask) (hid : id < s.nextTask) (path : Path)
    (requester : Option Path) :
    (s.visit task path requester).without id read =
      (s.without id read).visit task path requester := by
  have hstore : (s.without id read).store = s.store := rfl
  have hoptions : (s.without id read).options = s.options := rfl
  rw [visit, visit, hstore, hoptions]
  split
  · exact refuse_without task _ _
  · split
    · exact refuse_without task _ _
    · split
      · exact setStage_without task _
      · split
        · exact visitDirectory_without task hid path
        · split
          · exact setStage_without task _
          · split
            · exact setStage_without task _
            · split
              · exact visitAsset_without task _ _ _
              · exact visitCode_without task _ _ _

theorem read_without (task : BuildTask) (job : BuildJob) : ∃ others,
    (s.read task job).without id others = (s.without id read).read task job := by
  have hstore : (s.without id read).store = s.store := rfl
  rw [BuildSession.read, BuildSession.read, hstore]
  cases FileStore.readText s.store job.source with
  | error f => exact ⟨read, setStage_without task _⟩
  | ok text => exact ⟨read ++ [job.source], setStage_without task _⟩

theorem transform_without (task : BuildTask) (job : BuildJob) (text : String) :
    (s.transform task job text).without id read =
      (s.without id read).transform task job text := by
  have hsame : (s.without id read).sourceTransform job.source text
      (.ofSource (s.without id read).store (s.without id read).options job.source) =
      s.sourceTransform job.source text (.ofSource s.store s.options job.source) := rfl
  rw [transform, transform, hsame]
  split <;> exact setStage_without task _

theorem lookUp_without (task : BuildTask) (hid : id < s.nextTask) (job : BuildJob)
    (output : SourceOutput) :
    (s.lookUp task job output).without id read = (s.without id read).lookUp task job output := by
  have hsame : (s.without id read).dependencies job.source output.imports =
      s.dependencies job.source output.imports := rfl
  rw [lookUp, lookUp, hsame]
  cases s.dependencies job.source output.imports with
  | error e => exact setStage_without task _
  | ok files =>
      change ((s.setStage task (.gather (some (job, output.code)))).spawn task _).without id read =
        _
      rw [spawn_without (s := s.setStage task (.gather (some (job, output.code)))) hid,
        setStage_without task]

omit [FileStore σ] in
/-- Nobody takes in the task that is left out. -/
theorem gather?_without (task : BuildTask)
    (hapart : ∀ u ∈ s.tasks, u.id = id → u.parent ≠ some task.id)
    (pending : Option (BuildJob × String)) :
    (s.gather? task pending).map (fun t => t.without id read) =
      (s.without id read).gather? task pending := by
  have hchildren : (s.without id read).children task = s.children task := by
    rw [children, without, List.filter_filter, children]
    refine List.filter_congr fun u hu => ?_
    by_cases hid : u.id = id
    · simp [hapart u hu hid]
    · simp [hid]
  rw [gather?, gather?, hchildren]
  cases (s.children task).mapM BuildTask.count? with
  | none => rfl
  | some counts =>
      have hfilter : ∀ stage, ({ s with
          tasks := s.tasks.filter fun child => child.parent != some task.id }.setStage task
            stage).without id read =
          { s.without id read with
            tasks := (s.without id read).tasks.filter fun child =>
              child.parent != some task.id }.setStage task stage := by
        intro stage
        rw [setStage_without task]
        simp only [without, List.filter_filter, Bool.and_comm]
      cases pending <;> exact congrArg some (hfilter _)

theorem write_without (task : BuildTask) (job : BuildJob) (code : String) (locals : Nat) :
    (s.write task job code locals).without id read =
      (s.without id read).write task job code locals :=
  setStage_without task _

omit [FileStore σ] in
theorem finish_without (task : BuildTask) (job : BuildJob) (result : Except BuildError Nat) :
    (s.finish task job result).without id read = (s.without id read).finish task job result := by
  have hsame : (s.without id read).register = s.register := rfl
  cases result with
  | ok locals =>
      rw [BuildSession.finish, BuildSession.finish, hsame]
      rcases s.register.close job.dest true with ⟨register, closing?⟩
      cases closing? <;> exact setStage_without task _
  | error e =>
      rw [BuildSession.finish, BuildSession.finish, hsame]
      rcases s.register.close job.dest false with ⟨register, closing?⟩
      exact setStage_without task _

omit [FileStore σ] in
theorem proceed?_without (task : BuildTask) (count : Nat) :
    (s.proceed? task count).map (fun t => t.without id read) =
      (s.without id read).proceed? task count := by
  rw [proceed?, proceed?]
  cases task.agenda with
  | single => rfl
  | entries rest total =>
      cases rest with
      | nil => exact congrArg some (setTask_without
          { task with agenda := .single, stage := .done (total + count) })
      | cons entry rest => exact congrArg some (setTask_without
          { task with
            agenda := .entries rest (total + count)
            stage := .visit (s.options.entryPath entry) none })

end Stages

variable [FileStore σ]

/-- The step of a task that has not started the one that is left out. -/
theorem step?_without (hid : id < s.nextTask) (htask : s.task? other = some task)
    (hne : other ≠ id) (hapart : ∀ u ∈ s.tasks, u.id = id → u.parent ≠ some other)
    (hstep : s.step? other = some t) :
    ∃ others, (s.without id read).step? other = some (t.without id others) := by
  obtain ⟨-, rfl⟩ := mem_of_task? htask
  rw [step?, htask, Option.bind_eq_bind, Option.bind_some] at hstep
  rw [step?, task?_without hne, htask, Option.bind_eq_bind, Option.bind_some]
  cases hstage : task.stage with
  | claim path =>
      rw [hstage] at hstep
      obtain rfl := Option.some.inj hstep
      exact ⟨read, congrArg some (claim_without task path).symm⟩
  | visit path requester =>
      rw [hstage] at hstep
      obtain rfl := Option.some.inj hstep
      exact ⟨read, congrArg some (visit_without task hid path requester).symm⟩
  | read job =>
      rw [hstage] at hstep
      obtain rfl := Option.some.inj hstep
      obtain ⟨others, hread⟩ : ∃ others, (s.read task job).without id others =
          (s.without id read).read task job := read_without task job
      exact ⟨others, congrArg some hread.symm⟩
  | transform job text =>
      rw [hstage] at hstep
      have hheld : (s.without id read).held = s.held := rfl
      dsimp only at hstep ⊢
      rw [hheld]
      split at hstep
      · contradiction
      · rename_i hfree
        obtain rfl := Option.some.inj hstep
        rw [if_neg hfree]
        exact ⟨read, congrArg some (transform_without task job text).symm⟩
  | lookUp job output =>
      rw [hstage] at hstep
      obtain rfl := Option.some.inj hstep
      exact ⟨read, congrArg some (lookUp_without task hid job output).symm⟩
  | gather pending =>
      rw [hstage] at hstep
      have hgather : (s.gather? task pending).map (fun t => t.without id read) =
          (s.without id read).gather? task pending := gather?_without task hapart pending
      dsimp only at hstep ⊢
      exact ⟨read, by rw [← hgather, hstep]; rfl⟩
  | write job code locals =>
      rw [hstage] at hstep
      obtain rfl := Option.some.inj hstep
      exact ⟨read, congrArg some (write_without task job code locals).symm⟩
  | finish job result =>
      rw [hstage] at hstep
      obtain rfl := Option.some.inj hstep
      exact ⟨read, congrArg some (finish_without task job result).symm⟩
  | done count =>
      rw [hstage] at hstep
      have hproceed : (s.proceed? task count).map (fun t => t.without id read) =
          (s.without id read).proceed? task count := proceed?_without task count
      dsimp only at hstep ⊢
      exact ⟨read, by rw [← hproceed, hstep]; rfl⟩
  | crashed =>
      rw [hstage] at hstep
      contradiction

omit [FileStore σ] in
theorem call_without (h : id < s.nextTask) (addressee : Addressee) (request : Request) :
    (s.call addressee request).1.without id read =
      ((s.without id read).call addressee request).1 := by
  have hne : s.nextTask ≠ id := (Nat.ne_of_lt h).symm
  simp [BuildSession.call, without, hne]

omit [FileStore σ] in
theorem collect_without (s : BuildSession σ) (id : Nat) (read : List Path) :
    s.collect.1.without id read = (s.without id read).collect.1 := by
  simp only [collect, without, List.filter_filter, Bool.and_comm]

/-- A task is at work on something in some moment, and its own step, if there is one, leaves
everything but the task as it was. -/
structure Silent (id : Nat) (moment : BuildSession σ × Move σ) : Prop where
  orderly : moment.1.Orderly
  works : ∃ task ∈ moment.1.tasks, task.id = id ∧ task.stage.job? ≠ none
  leaves : moment.2 = .step id → ∀ t, moment.1.make? moment.2 = some t → ∀ read,
    t.without id read = moment.1.without id read

/-- What happens in a history besides the steps of one task. -/
def movesBeside (id : Nat) (past : History σ) : List (Move σ) :=
  past.filterMap fun moment =>
    match moment.2 with
    | .step other => if other = id then none else some (.step other)
    | move => some move

omit [FileStore σ] in
theorem movesBeside_append (id : Nat) (past later : History σ) :
    movesBeside id (past ++ later) = movesBeside id past ++ movesBeside id later :=
  List.filterMap_append

/-- A move beside a task at work does the same if the task is not there. -/
theorem Silent.make?_without (h : Silent id (s, move)) (read : List Path) (hmove : move ≠ .step id)
    (hnext : s.make? move = some t) :
    ∃ others, (s.without id read).make? move = some (t.without id others) := by
  obtain ⟨worker, hworker, rfl, hjob⟩ := h.works
  have hbound := h.orderly.bound worker hworker
  cases move with
  | call addressee request =>
      obtain rfl := Option.some.inj hnext
      exact ⟨read, congrArg some (call_without hbound addressee request).symm⟩
  | edit store =>
      obtain rfl := Option.some.inj hnext
      exact ⟨read, rfl⟩
  | collect =>
      obtain rfl := Option.some.inj hnext
      exact ⟨read, congrArg some (collect_without s worker.id read).symm⟩
  | step other =>
      obtain ⟨task, turn, hid, hturn, -⟩ := exists_turn hnext
      obtain ⟨htask, rfl⟩ := mem_of_task? hid
      refine step?_without hbound hid (fun hsame => hmove (congrArg Move.step hsame)) ?_ hnext
      -- Whoever has started the worker waits until it is finished.
      intro u hu hsame hparent
      obtain rfl := h.orderly.eq_of_id hu hworker hsame
      obtain ⟨-, waiting, hwaiting, hid', hgather⟩ := h.orderly.family u hu _ hparent
      obtain rfl := h.orderly.eq_of_id hwaiting htask hid'
      obtain ⟨count, hcount⟩ := hturn.count?_child (hturn.gathers_iff.2 hgather) hu hparent
      exact hjob (BuildTask.job?_of_count? hcount)

/-- **Everybody else goes on as if a silent task were not there.** -/
theorem Runs.without (hrun : Runs first past t) (hsilent : ∀ moment ∈ past, Silent id moment)
    (read : List Path) : ∃ alone others, Runs (first.without id read) alone (t.without id others) ∧
      alone.map Prod.snd = movesBeside id past := by
  induction hrun with
  | start => exact ⟨[], read, .start, rfl⟩
  | @next past s t move hrun hnext ih =>
      obtain ⟨alone, others, halone, hmoves⟩ :=
        ih fun moment hmoment => hsilent moment (List.mem_append_left _ hmoment)
      have hlast := hsilent (s, move) (by simp)
      rw [movesBeside_append]
      by_cases hmove : move = .step id
      · refine ⟨alone, others, ?_, ?_⟩
        · rw [hlast.leaves hmove t hnext others]
          exact halone
        · simp [hmoves, movesBeside, hmove]
      · obtain ⟨others', hnext'⟩ := hlast.make?_without others hmove hnext
        refine ⟨_, others', halone.next hnext', ?_⟩
        have hbeside : movesBeside id [(s, move)] = [move] := by
          cases move with
          | step other =>
              have hne : other ≠ id := fun hsame => hmove (congrArg Move.step hsame)
              simp [movesBeside, hne]
          | _ => rfl
        rw [List.map_append, hmoves, hbeside]
        rfl

end LiveBuild.BuildSession
