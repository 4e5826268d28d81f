import LiveBuild.Proofs.Ownership
import LiveBuild.Watch.Sources

/-!
# Builds that are up to date

A path is settled while whatever works on its record works from the text that the path has now, and
a good build of it has left the code for that text. No turn of a build unsettles a path, and a path
that is claimed by a new build is settled, since that build has read nothing yet.
-/

namespace LiveBuild.BuildSession

variable {s t : BuildSession FileTree} {task u : BuildTask} {turn : Turn FileTree}
  {job : BuildJob} {source d p path : Path} {output : SourceOutput}

/-- The transform makes an output of the text that a source has now. -/
def Yields (s : BuildSession FileTree) (source : Path) (output : SourceOutput) : Prop :=
  ∃ text, FileStore.readText s.store source = .ok text ∧
    s.sourceTransform source text (.ofSource s.store s.options source) = .output output

/-- A file holds the code for the text that a source has now. -/
def Holds (s : BuildSession FileTree) (source d : Path) : Prop :=
  ∃ output, s.Yields source output ∧ s.store.content? d = some output.code.toUTF8

/-- What was made of a source so far was made of the text that it has now. -/
def IsCurrent (s : BuildSession FileTree) : BuildTask.Stage → Prop
  | .transform job text => FileStore.readText s.store job.source = .ok text
  | .lookUp job output => s.Yields job.source output
  | .gather (some (job, code)) => ∃ output, s.Yields job.source output ∧ output.code = code
  | .write job code _ => ∃ output, s.Yields job.source output ∧ output.code = code
  | .finish job (.ok _) => s.Holds job.source job.dest
  | _ => True

/-- Whatever works on the record of a path, or was the last to work on it, works from the text that
the path has now. -/
structure Settled (s : BuildSession FileTree) (p : Path) : Prop where
  work : ∀ d, s.register.aliases.get? p = some d → ∀ task ∈ s.tasks, task.stage.isAt d = true →
    s.IsCurrent task.stage
  rest : ∀ d, s.register.aliases.get? p = some d → s.register.statusAt d = some .built →
    ∃ source, source.components = p.components ∧ s.Holds source d

section Contents

theorem readText_eq_of_content {tree tree' : FileTree} {text : String}
    (h : FileStore.readText tree p = .ok text) (hcontent : tree'.content? p = tree.content? p) :
    FileStore.readText tree' p = .ok text := by
  rw [FileTree.readText_eq_ok] at *
  rwa [hcontent]

variable (hoptions : t.options = s.options) (htransform : t.sourceTransform = s.sourceTransform)

include hoptions htransform

theorem Yields.congr (h : s.Yields source output)
    (hcontent : t.store.content? source = s.store.content? source) : t.Yields source output := by
  obtain ⟨text, htext, houtput⟩ := h
  refine ⟨text, readText_eq_of_content htext hcontent, ?_⟩
  rw [hoptions, htransform, SourceContext.ofSource_eq t.store s.store]
  exact houtput

theorem Holds.congr (h : s.Holds source d)
    (hsource : t.store.content? source = s.store.content? source)
    (hd : t.store.content? d = s.store.content? d) : t.Holds source d := by
  obtain ⟨output, houtput, hcode⟩ := h
  exact ⟨output, houtput.congr hoptions htransform hsource, hd.trans hcode⟩

theorem IsCurrent.congr {stage : BuildTask.Stage} (h : s.IsCurrent stage)
    (hcontent : ∀ job, stage.job? = some job →
      t.store.content? job.source = s.store.content? job.source ∧
        t.store.content? job.dest = s.store.content? job.dest) : t.IsCurrent stage := by
  cases stage with
  | transform job text => exact readText_eq_of_content h (hcontent job rfl).1
  | lookUp job output => exact Yields.congr hoptions htransform h (hcontent job rfl).1
  | gather pending =>
      cases pending with
      | none => trivial
      | some pending =>
          obtain ⟨output, houtput, hcode⟩ := h
          exact ⟨output, houtput.congr hoptions htransform (hcontent _ rfl).1, hcode⟩
  | write job code locals =>
      obtain ⟨output, houtput, hcode⟩ := h
      exact ⟨output, houtput.congr hoptions htransform (hcontent job rfl).1, hcode⟩
  | finish job result =>
      cases result with
      | ok locals =>
          exact Holds.congr hoptions htransform h (hcontent job rfl).1 (hcontent job rfl).2
      | error e => trivial
  | _ => trivial

end Contents

/-- The sources that are looked at lie outside of the output directory, and no asset takes the place
of the output of a source. -/
def StaysApart (s : BuildSession FileTree) (task : BuildTask) (after : FileTree) : Prop :=
  ∀ path requester, task.stage = .visit path requester →
    path.startsWith s.options.outDir = false ∧
      ∀ d, s.register.targets.contains d = true → after.content? d = s.store.content? d

section Turn

variable (hs : s.Regular) (htask : task ∈ s.tasks) (hturn : Turns s task turn)
  (hapart : s.StaysApart task turn.store)

include hs htask hturn

theorem content_turn_outside (hp : p.startsWith s.options.outDir = false) :
    turn.store.content? p = s.store.content? p := by
  refine hturn.store_induction (P := fun tree => tree.content? p = s.store.content? p) hs.base
    (fun job hjob => (hs.placed_of_records (hs.recorded task htask job hjob)).2)
    (fun tree q content htree hq => ?_) rfl
  rw [FileTree.content?_putFile, if_neg, htree]
  intro hsame
  rw [FileTree.startsWith_congr (Path.same_iff.1 hsame), hp] at hq
  contradiction

include hapart

omit hs htask in
/-- Only the task that works on a record writes its output. -/
theorem content_turn_dest (hd : s.register.targets.contains d = true)
    (hwrite : task.stage.isAt d = false) : turn.store.content? d = s.store.content? d := by
  rcases hturn.store_cases with hstore | ⟨path, requester, rest, kind, hstage, -, -⟩ |
    ⟨job, code, locals, hstage, hstore⟩
  · rw [hstore]
  · exact (hapart path requester hstage).2 d hd
  · rw [hstore, FileTree.content?_putFile, if_neg]
    have hjob : task.stage.job? = some job := by rw [hstage]; rfl
    rw [← BuildTask.Stage.isAt_of_job? hjob, hwrite]
    exact Bool.false_ne_true

theorem IsCurrent.perform_of_ne (hu : u ∈ s.tasks) (hne : task ≠ u) (h : s.IsCurrent u.stage) :
    (s.perform task turn).IsCurrent u.stage := by
  apply IsCurrent.congr (s := s) (t := s.perform task turn) rfl rfl h
  intro job hjob
  have hrecords := hs.recorded u hu job hjob
  refine ⟨content_turn_outside hs htask hturn (hs.placed_of_records hrecords).1,
    content_turn_dest hturn hapart hrecords.contains ?_⟩
  rw [Bool.eq_false_iff]
  intro hat
  obtain ⟨job', hjob', hdest⟩ := BuildTask.Stage.exists_job_of_isAt hat
  exact hne (hs.owned.unique htask hu hjob' hjob hdest)

theorem Holds.perform (hrecords : s.register.Records p d) (hp : source.components = p.components)
    (hidle : task.stage.isAt d = false) (h : s.Holds source d) :
    (s.perform task turn).Holds source d := by
  refine Holds.congr (s := s) (t := s.perform task turn) rfl rfl h ?_ ?_
  · refine content_turn_outside hs htask hturn ?_
    rw [FileTree.startsWith_congr hp]
    exact (hs.placed_of_records hrecords).1
  · exact content_turn_dest hturn hapart hrecords.contains hidle

omit hapart in
/-- What a task makes of a source that it has read is made of the text that was read. -/
theorem IsCurrent.after (hjob : turn.stage.job? = task.stage.job?)
    (h : s.IsCurrent task.stage) : (s.perform task turn).IsCurrent turn.stage := by
  have hsource : ∀ job, task.stage.job? = some job →
      (s.perform task turn).store.content? job.source = s.store.content? job.source :=
    fun job hjob => content_turn_outside hs htask hturn
      (hs.placed_of_records (hs.recorded task htask job hjob)).1
  cases hturn with
  | read hstage htext =>
      exact htext
  | transform hstage houtput =>
      rw [hstage] at h
      exact ⟨_, h, houtput⟩
  | resolve hstage =>
      rw [hstage] at h
      exact ⟨_, h, rfl⟩
  | gatherFile hstage =>
      rw [hstage] at h
      exact h
  | @write job code locals result hstage hresult =>
      rw [hstage] at h
      obtain ⟨output, houtput, rfl⟩ := h
      rw [hresult]
      refine ⟨output, Yields.congr (s := s) rfl rfl houtput
        (hsource job (by rw [hstage]; rfl)), ?_⟩
      change (s.store.putFile job.dest output.code.toUTF8).content? job.dest = _
      rw [FileTree.content?_putFile, if_pos (Path.same_self _)]
  | finish hstage =>
      rw [hstage] at hjob
      contradiction
  | finishFailed hstage =>
      rw [hstage] at hjob
      contradiction
  | _ => trivial

theorem told_outside : ∀ message ∈ turn.told, ∀ source,
    WatchedSources.subject? message.2 = some source →
      source.startsWith s.options.outDir = false := by
  have hjob : ∀ job, task.stage.job? = some job →
      job.source.startsWith s.options.outDir = false :=
    fun job hjob => (hs.placed_of_records (hs.recorded task htask job hjob)).1
  intro message hmessage source hsource
  cases hturn with
  | refuse e hstage =>
      rw [List.mem_singleton.1 hmessage] at hsource
      rw [← Option.some.inj hsource]
      exact (hapart _ _ hstage).1
  | assetFailed hstage =>
      rw [List.mem_singleton.1 hmessage] at hsource
      rw [← Option.some.inj hsource]
      exact (hapart _ _ hstage).1
  | @finish job locals hstage =>
      dsimp only at hmessage
      split at hmessage
      · obtain ⟨addressee, -, rfl⟩ := List.mem_map.1 hmessage
        rw [← Option.some.inj hsource]
        exact hjob job (by rw [hstage]; rfl)
      · contradiction
  | @finishFailed job e hstage =>
      obtain ⟨addressee, -, rfl⟩ := List.mem_map.1 hmessage
      rw [← Option.some.inj hsource]
      exact hjob job (by rw [hstage]; rfl)
  | report hstage =>
      rw [List.mem_singleton.1 hmessage] at hsource
      contradiction
  | _ => contradiction

omit hs htask hapart in
/-- The record of a path is the one that it had, or a turn has just made it. -/
theorem alias_turn (halias : turn.register.aliases.get? p = some d) :
    s.register.aliases.get? p = some d ∨
      (s.register.targets.contains d = false ∧
        turn.register.statusAt d = some .building) := by
  cases hturn.filing with
  | keep _ haliases =>
      rw [haliases] at halias
      exact Or.inl halias
  | make _ _ hnew hbuilding _ hafter =>
      rw [hafter] at halias
      split at halias
      · obtain rfl := Option.some.inj halias
        exact Or.inr ⟨hnew, hbuilding⟩
      · exact Or.inl halias

omit hturn hapart in
theorem contains_of_isAt (hat : task.stage.isAt d = true) :
    s.register.targets.contains d = true ∧ s.register.statusAt d = some .building := by
  obtain ⟨job, hjob, hdest⟩ := BuildTask.Stage.exists_job_of_isAt hat
  have hbuilding := hs.building htask hjob
  rw [Register.statusAt_congr hdest] at hbuilding
  exact ⟨Register.contains_iff_statusAt.2 ⟨_, hbuilding⟩, hbuilding⟩

/-- No turn unsettles a path. -/
theorem Settled.perform (h : s.Settled p) : (s.perform task turn).Settled p where
  work d halias u hu hat := by
    rcases (mem_tasks_perform hs.orderly htask turn).1 hu with ⟨hu, hid, -⟩ | rfl | hu
    · rcases alias_turn hturn halias with halias | ⟨hcontains, -⟩
      · refine (h.work d halias u hu hat).perform_of_ne hs htask hturn hapart hu ?_
        rintro rfl
        exact hid rfl
      · rw [(contains_of_isAt hs hu hat).1] at hcontains
        contradiction
    · change (s.perform task turn).IsCurrent turn.stage
      change turn.stage.isAt d = true at hat
      cases hturn.tenure with
      | regain _ _ hafter =>
          rw [hafter]
          trivial
      | gain _ _ _ hafter =>
          rw [hafter]
          trivial
      | lose _ hafter =>
          rw [hafter]
          trivial
      | keep hjob _ _ haliases =>
          change turn.register.aliases.get? p = some d at halias
          rw [haliases] at halias
          rcases hjob with hjob | hcrashed
          · rw [BuildTask.Stage.isAt, hjob] at hat
            exact (h.work d halias task htask hat).after hs htask hturn hjob
          · rw [hcrashed]
            trivial
    · rw [BuildTask.Stage.isAt_of_none (hturn.job?_of_started hu)] at hat
      contradiction
  rest d halias hstatus := by
    change turn.register.statusAt d = some .built at hstatus
    rcases alias_turn hturn halias with halias | ⟨-, hbuilding⟩
    · have hrecords := hs.aliased p d halias
      -- While a record is built by nobody, its output is left alone.
      have hkept : s.register.statusAt d = some .built → task.stage.isAt d = false →
          ∃ source, source.components = p.components ∧ (s.perform task turn).Holds source d := by
        intro hbuilt hidle
        obtain ⟨source, hsource, hholds⟩ := h.rest d halias hbuilt
        exact ⟨source, hsource, hholds.perform hs htask hturn hapart hrecords hsource hidle⟩
      cases hturn.tenure with
      | regain hstage hclaim _ hregister =>
          rw [hregister, (Register.reopen_started hclaim).2.2.2] at hstatus
          split at hstatus
          · contradiction
          · exact hkept hstatus (by rw [hstage]; rfl)
      | gain hstage _ _ _ hregister =>
          rw [hregister, Register.statusAt_enroll] at hstatus
          split at hstatus
          · contradiction
          · exact hkept hstatus (by rw [hstage]; rfl)
      | @lose job result count hstage _ hregister hstore =>
          have hjob : task.stage.job? = some job := by rw [hstage]; rfl
          rw [hregister, Register.statusAt_close] at hstatus
          split at hstatus
          · rename_i hboth
            obtain ⟨-, hdest⟩ := hboth
            have hcurrent := h.work d halias task htask
              (by rw [BuildTask.Stage.isAt_of_job? hjob, hdest])
            rw [hstage] at hcurrent
            obtain ⟨source, hsource, hcomponents⟩ := hs.recorded task htask job hjob
            obtain ⟨source', hsource', hp⟩ := hrecords
            rw [Register.sourceAt_congr (Path.same_iff.1 hdest), hsource'] at hsource
            obtain rfl := Option.some.inj hsource
            cases result with
            | error e => simp [Except.isOk, Except.toBool, Register.outcome] at hstatus
            | ok locals =>
                obtain ⟨output, houtput, hcode⟩ := hcurrent
                refine ⟨job.source, hcomponents.symm.trans hp, output, ?_, ?_⟩
                · exact Yields.congr (s := s) rfl rfl houtput (by rw [← hstore]; rfl)
                · change turn.store.content? d = _
                  rw [hstore, ← FileTree.content?_congr (Path.same_iff.1 hdest), hcode]
          · rename_i hboth
            refine hkept hstatus ?_
            rw [BuildTask.Stage.isAt_of_job? hjob, Bool.eq_false_iff]
            refine fun hdest => hboth ⟨?_, hdest⟩
            exact (hs.recorded task htask job hjob).contains
      | keep _ hstatusAt =>
          rw [hstatusAt] at hstatus
          refine hkept hstatus ?_
          rw [Bool.eq_false_iff]
          intro hat
          rw [(contains_of_isAt hs htask hat).2] at hstatus
          contradiction
    · rw [hbuilding] at hstatus
      contradiction

omit hapart in
/-- A build that starts anew has read nothing yet. -/
theorem settled_of_started (hstage : task.stage = .claim path)
    (hclaim : (s.register.reopen path task.addressee).2 = .started d)
    (hp : path.components = p.components) : (s.perform task turn).Settled p := by
  have hturn' : turn.stage = .read ⟨path, d⟩ ∧
      turn.register = (s.register.reopen path task.addressee).1 := by
    cases hturn <;> simp_all [turnTo]
  obtain ⟨hafter, hregister⟩ := hturn'
  obtain ⟨hrecorded, -, hidle, hstatus⟩ := Register.reopen_started hclaim
  rw [hs.recordedAs?_eq (hs.claims task htask path hstage), PathMap.get?_congr hp] at hrecorded
  have halias : ∀ d', turn.register.aliases.get? p = some d' → d' = d := by
    intro d' halias
    rw [hregister, Register.aliases_reopen, hrecorded] at halias
    exact (Option.some.inj halias).symm
  refine ⟨fun d' hd' u hu hat => ?_, fun d' hd' hbuilt => ?_⟩
  · obtain rfl := halias d' hd'
    rcases (mem_tasks_perform hs.orderly htask turn).1 hu with ⟨hu, -⟩ | rfl | hu
    · exact absurd (contains_of_isAt hs hu hat).2 hidle
    · change (s.perform task turn).IsCurrent turn.stage
      rw [hafter]
      trivial
    · rw [BuildTask.Stage.isAt_of_none (hturn.job?_of_started hu)] at hat
      contradiction
  · obtain rfl := halias d' hd'
    change turn.register.statusAt d' = some .built at hbuilt
    rw [hregister, hstatus, if_pos (Path.same_self _)] at hbuilt
    contradiction

end Turn

theorem settled_of_unknown {addressee : Addressee} (hs : s.Regular)
    (hpath : path.startsWith s.options.outDir = false)
    (h : (s.register.reopen path addressee).2 = .unknown) (hp : path.components = p.components) :
    s.Settled p := by
  have hnone : ∀ d, s.register.aliases.get? p ≠ some d := by
    intro d halias
    have hcontains := (hs.aliased p d halias).contains
    rw [← PathMap.get?_congr hp, ← hs.recordedAs?_eq hpath] at halias
    rw [Register.not_recorded_of_unknown h d halias] at hcontains
    contradiction
  exact ⟨fun d halias => absurd halias (hnone d), fun d halias => absurd halias (hnone d)⟩

/-- A record that nobody works on any more is never a good build. -/
theorem Forsaken.settled (h : s.Forsaken p) : s.Settled p := by
  obtain ⟨d, halias, hstatus, hnobody⟩ := h
  refine ⟨fun d' halias' u hu hat => ?_, fun d' halias' hbuilt => ?_⟩
  · obtain rfl := Option.some.inj (halias.symm.trans halias')
    have hpos : 0 < s.owners d := List.countP_pos_iff.2 ⟨u, hu, hat⟩
    omega
  · obtain rfl := Option.some.inj (halias.symm.trans halias')
    rw [hstatus] at hbuilt
    contradiction

/-- Other sources can be saved, and tasks that work on nothing come and go. -/
theorem Settled.congr (h : s.Settled p) (hs : s.Regular) (hoptions : t.options = s.options)
    (htransform : t.sourceTransform = s.sourceTransform) (hregister : t.register = s.register)
    (htasks : ∀ u ∈ t.tasks, u ∈ s.tasks ∨ u.stage.job? = none)
    (hcontent : ∀ q d, s.register.Records q d → q.components = p.components →
      t.store.content? q = s.store.content? q ∧ t.store.content? d = s.store.content? d) :
    t.Settled p where
  work d halias u hu hat := by
    rw [hregister] at halias
    rcases htasks u hu with hu | hnone
    · apply IsCurrent.congr hoptions htransform (h.work d halias u hu hat)
      intro job hjob
      refine hcontent _ _ (hs.recorded u hu job hjob) ?_
      obtain ⟨job', hjob', hdest⟩ := BuildTask.Stage.exists_job_of_isAt hat
      obtain rfl := Option.some.inj (hjob.symm.trans hjob')
      obtain ⟨source, hsource, hcomponents⟩ := hs.recorded u hu job hjob
      obtain ⟨source', hsource', hp⟩ := hs.aliased p d halias
      rw [Register.sourceAt_congr hdest, hsource'] at hsource
      obtain rfl := Option.some.inj hsource
      exact hcomponents.symm.trans hp
    · rw [BuildTask.Stage.isAt_of_none hnone] at hat
      contradiction
  rest d halias hstatus := by
    rw [hregister] at halias hstatus
    obtain ⟨source, hsource, hholds⟩ := h.rest d halias hstatus
    obtain ⟨source', hsource', hp⟩ := hs.aliased p d halias
    have hkept := hcontent source d ⟨source', hsource', hp.trans hsource.symm⟩ hsource
    exact ⟨source, hsource, hholds.congr hoptions htransform hkept.1 hkept.2⟩

/-- A path whose last build was good is settled exactly if that build was of its current text. -/
theorem settled_iff_holds (hs : s.Regular) (halias : s.register.aliases.get? p = some d)
    (hbuilt : s.register.statusAt d = some .built) :
    s.Settled p ↔ ∃ source, source.components = p.components ∧ s.Holds source d := by
  refine ⟨fun h => h.rest d halias hbuilt, fun hholds => ⟨fun d' halias' u hu hat => ?_,
    fun d' halias' _ => ?_⟩⟩
  · obtain rfl := Option.some.inj (halias.symm.trans halias')
    have hbuilding := (contains_of_isAt hs hu hat).2
    rw [hbuilt] at hbuilding
    contradiction
  · obtain rfl := Option.some.inj (halias.symm.trans halias')
    exact hholds

/-- The record of a path outside of the output directory is the one of its output. -/
theorem exists_alias_of_status? (hs : s.Regular) (hp : p.startsWith s.options.outDir = false)
    (hd : s.options.outputFor p = .ok d) {status : TargetStatus}
    (hstatus : s.register.status? p = some status) :
    ∃ d', s.register.aliases.get? p = some d' ∧ d'.components = d.components ∧
      s.register.statusAt d' = some status := by
  obtain ⟨target, htarget, rfl⟩ := Option.map_eq_some_iff.1 hstatus
  obtain ⟨d', hrecorded, hget⟩ := Option.bind_eq_some_iff.1 htarget
  rw [hs.recordedAs?_eq hp] at hrecorded
  obtain ⟨source, hsource, hcomponents⟩ := hs.aliased p d' hrecorded
  obtain ⟨-, -, rest, hbelow, houtput⟩ := hs.placed d' source hsource
  refine ⟨d', hrecorded, ?_, by rw [Register.statusAt, hget]; rfl⟩
  rw [BuildOptions.outputFor] at hd
  cases hrest : s.options.belowBase p with
  | error e =>
      rw [hrest] at hd
      contradiction
  | ok rest' =>
      rw [hrest] at hd
      rw [← Except.ok.inj hd, ← houtput]
      exact components_codeOutput_congr hs.base hs.out hbelow hrest hcomponents

end LiveBuild.BuildSession
