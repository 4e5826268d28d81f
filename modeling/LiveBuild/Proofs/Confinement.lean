import LiveBuild.Proofs.Ownership
import LiveBuild.Proofs.Places
import LiveBuild.Proofs.Refusals
import LiveBuild.Proofs.Subscribers

/-!
# A build keeps to its directories

Requests to compile may name any entries, and sources may import anything. Still only files below
the base directory are read, and only files below the output directory are written. Whatever leads
out of the base directory is refused, and the request is told.
-/

namespace LiveBuild

namespace BuildOptions

variable {σ : Type} [FileStore σ]

/-- A file is put out as an asset: it lies in the base directory, is not excluded, and has an
extension that says how it is treated. -/
structure IsAsset (o : BuildOptions) (store : σ) (p rest : Path) (kind : AssetTreatment) :
    Prop where
  file : FileStore.isFile store p = true
  below : o.belowBase p = .ok rest
  kept : o.excludes rest = false
  suffix : ∃ extension, p.suffix? = some extension ∧ o.extensions.contains extension = true ∧
    o.assets.treatmentOf? extension = some kind

end BuildOptions

namespace BuildSession

section Steps

variable {σ : Type} [FileStore σ]

/-- The next step of a task reads the content of a file: a source is read to be transformed, and an
asset to be put out. No other step asks for the content of a file. -/
inductive Reads (s : BuildSession σ) (task : BuildTask) : Path → Prop
  | source {job : BuildJob} : task.stage = .read job → Reads s task job.source
  | asset {path rest : Path} {requester : Option Path} {kind : AssetTreatment} :
      task.stage = .visit path requester → s.options.IsAsset s.store path rest kind →
      Reads s task path

/-- A look at a path leaves the files as they are, unless it is an asset. -/
theorem store_visit (s : BuildSession σ) (task : BuildTask) (path : Path)
    (requester : Option Path) : (s.visit task path requester).store = s.store ∨
      ∃ rest kind, s.options.IsAsset s.store path rest kind ∧
        (s.visit task path requester).store = (emit s.store s.options kind path rest).1 := by
  rw [visit]
  split
  · exact .inl rfl
  · rename_i hexists
    split
    · exact .inl rfl
    · rename_i rest hbelow
      split
      · exact .inl rfl
      · rename_i hkept
        split
        · left
          rw [visitDirectory]
          split <;> rfl
        · rename_i hdirectory
          split
          · exact .inl rfl
          · rename_i extension hsuffix
            split
            · exact .inl rfl
            · rename_i hallowed
              split
              · rename_i kind hkind
                have hfile : FileStore.isFile s.store path = true := by
                  rw [Bool.not_eq_true, Bool.not_eq_false', FileStore.exists?,
                    Option.isSome_iff_exists] at hexists
                  obtain ⟨found, hfound⟩ := hexists
                  cases found with
                  | file => simp [FileStore.isFile, hfound]
                  | directory => simp [FileStore.isDirectory, hfound] at hdirectory
                refine .inr ⟨rest, kind, ⟨hfile, hbelow, by simpa using hkept, extension, hsuffix,
                  by simpa using hallowed, hkind⟩, ?_⟩
                rw [visitAsset_eq]
                split <;> rfl
              · left
                rw [visitCode]
                dsimp only
                split <;> rfl

end Steps

/-- What a task may be about: a path that it looks at has names only, or no name at its end; a
source that it builds lies in the base directory, and the output in the output directory. -/
def Keeps (s : BuildSession FileTree) : BuildTask.Stage → Prop
  | .claim _ => False
  | .visit path _ =>
      path.IsNormal ∨ (FileStore.isFile s.store path = true ∧ path.fileName? = none)
  | stage => ∀ job, stage.job? = some job →
      job.source.IsBelow s.options.baseDir ∧ job.dest.IsBelow s.options.outDir

/-- What is true of a session on which only requests to compile are made. -/
structure Contained (s : BuildSession FileTree) : Prop where
  called : s.Called
  base : s.options.baseDir.IsNormal
  extensions : ∀ extension ∈ s.options.resolveExtensions, '/' ∉ extension.toList
  sound : s.store.Sound
  stages : ∀ task ∈ s.tasks, s.Keeps task.stage
  built : ∀ message ∈ s.sent, ∀ source dest locals parents,
    message.2 = .fileBuilt source dest locals parents →
      source.IsBelow s.options.baseDir ∧ dest.IsBelow s.options.outDir

variable {s t : BuildSession FileTree} {task u : BuildTask} {turn : Turn FileTree}
  {path rest : Path} {job : BuildJob} {id : Nat}

theorem Keeps.of_job? {stage : BuildTask.Stage} (h : s.Keeps stage)
    (hjob : stage.job? = some job) :
    job.source.IsBelow s.options.baseDir ∧ job.dest.IsBelow s.options.outDir := by
  cases stage with
  | claim path => exact h.elim
  | visit path requester => simp [BuildTask.Stage.job?] at hjob
  | _ => exact h job hjob

theorem keeps_of_job? {stage : BuildTask.Stage} (hclaim : ∀ path, stage ≠ .claim path)
    (hvisit : ∀ path requester, stage ≠ .visit path requester)
    (h : ∀ job, stage.job? = some job →
      job.source.IsBelow s.options.baseDir ∧ job.dest.IsBelow s.options.outDir) :
    s.Keeps stage := by
  cases stage with
  | claim path => exact absurd rfl (hclaim path)
  | visit path requester => exact absurd rfl (hvisit path requester)
  | _ => exact h

theorem Keeps.mono {stage : BuildTask.Stage} (h : s.Keeps stage) (hoptions : t.options = s.options)
    (hfiles : ∀ p, FileStore.isFile s.store p = true → FileStore.isFile t.store p = true) :
    t.Keeps stage := by
  cases stage with
  | claim path => exact h
  | visit path requester => exact h.imp_right fun ⟨hfile, hname⟩ => ⟨hfiles _ hfile, hname⟩
  | _ =>
      intro job hjob
      rw [hoptions]
      exact h job hjob

theorem startsWith_of_belowBase {o : BuildOptions} (h : o.belowBase path = .ok rest) :
    path.startsWith o.baseDir = true := by
  have hrelative := relativeTo?_of_belowBase h
  rw [Path.relativeTo?] at hrelative
  by_contra hstarts
  simp [hstarts] at hrelative

/-- What a walk finds below a normal path is normal. -/
theorem isNormal_of_finds {tree : FileTree} {o : BuildOptions} {directory file : Path}
    (hsound : tree.Sound) (h : Walk.Finds tree o directory file) (hnormal : directory.IsNormal) :
    file.IsNormal := by
  have hchild : ∀ d q, Walk.Child tree d q → d.IsNormal → q.IsNormal := by
    intro d q hchild hd
    obtain ⟨name, hlists, rfl⟩ := Walk.child_iff.1 hchild
    exact hd.join_name (hlists.isName hsound)
  induction h with
  | here hfile _ _ => exact hchild _ _ hfile hnormal
  | through hdirectory _ _ _ ih => exact ih (hchild _ _ hdirectory hnormal)

/-- What is only ever done on such a session: requests to compile are made, tasks go on, and what
has returned is collected. -/
def Move.compiles {σ : Type} : Move σ → Bool
  | .call _ (.compile _) => true
  | .step _ => true
  | .collect => true
  | _ => false

namespace Contained

section Turn

variable (h : s.Contained) (hroom : FileStore.isFile s.store s.options.baseDir = false)
  (htask : task ∈ s.tasks)
include h htask

/-- A file that a task looks at, and that has an extension, lies below the base directory. -/
theorem isBelow_of_visit (hroom : FileStore.isFile s.store s.options.baseDir = false)
    {requester : Option Path} {extension : String} (hstage : task.stage = .visit path requester)
    (hfile : FileStore.isFile s.store path = true) (hbelow : s.options.belowBase path = .ok rest)
    (hsuffix : path.suffix? = some extension) : path.IsBelow s.options.baseDir := by
  have hkeeps := h.stages task htask
  rw [hstage] at hkeeps
  have hnormal : path.IsNormal := by
    rcases hkeeps with hnormal | ⟨-, hname⟩
    · exact hnormal
    · simp [Path.suffix?, Path.extension?, hname] at hsuffix
  refine hnormal.isBelow (startsWith_of_belowBase hbelow) h.base.components_ne_nil fun heq => ?_
  have hkind : s.store.kindOf? path = s.store.kindOf? s.options.baseDir :=
    FileTree.kindOf?_congr heq
  change (s.store.kindOf? path == some .file) = true at hfile
  change (s.store.kindOf? s.options.baseDir == some .file) = false at hroom
  rw [hkind, hroom] at hfile
  exact Bool.false_ne_true hfile

include hroom

/-- Only files below the base directory are read. -/
theorem isBelow_of_reads (hreads : s.Reads task path) : path.IsBelow s.options.baseDir := by
  cases hreads with
  | source hstage => exact ((h.stages task htask).of_job? (by rw [hstage]; rfl)).1
  | asset hstage hasset =>
      obtain ⟨extension, hsuffix, -⟩ := hasset.suffix
      exact h.isBelow_of_visit htask hroom hstage hasset.file hasset.below hsuffix

/-- What every write below the output directory keeps, a step keeps. -/
theorem store_induction {P : FileTree → Prop} (hid : s.task? id = some task)
    (hstep : s.step? id = some t)
    (hwrite : ∀ tree q content, P tree → q.IsBelow s.options.outDir → P (tree.putFile q content))
    (hP : P s.store) : P t.store := by
  obtain ⟨other, turn, hother, hturn, rfl⟩ := exists_turn hstep
  obtain rfl := Option.some.inj (hid.symm.trans hother)
  rcases hturn.store_cases with hstore | ⟨path, requester, -, -, hstage, -⟩ |
    ⟨job, code, locals, hstage, hstore⟩
  · change P turn.store
    rwa [hstore]
  · have hperform := Option.some.inj (hstep.symm.trans (step?_visit hid hstage))
    rw [hperform]
    rcases s.store_visit task path requester with hstore | ⟨rest, kind, hasset, hstore⟩
    · rwa [hstore]
    · obtain ⟨extension, hsuffix, -⟩ := hasset.suffix
      have hbelow := h.isBelow_of_visit htask hroom hstage hasset.file hasset.below hsuffix
      rw [hstore]
      exact emit_writes
        (fun _ _ hP => hwrite _ _ _ hP
          (BuildOptions.isBelow_placeFor h.base.components_ne_nil hasset.below hbelow))
        (fun _ content hP => hwrite _ _ _ hP (BuildOptions.isBelow_assetName content path)) kind hP
  · change P turn.store
    rw [hstore]
    exact hwrite _ _ _ hP ((h.stages task htask).of_job? (by rw [hstage]; rfl)).2

theorem isFile_step (hid : s.task? id = some task) (hstep : s.step? id = some t) {q : Path}
    (hq : FileStore.isFile s.store q = true) : FileStore.isFile t.store q = true :=
  h.store_induction hroom htask (P := fun tree => FileStore.isFile tree q = true) hid hstep
    (fun _ p content htree _ => FileTree.isFile_putFile htree p content) hq

/-- A task stays with what it may be about. -/
theorem keeps_after (hturn : Turns s task turn) : s.Keeps turn.stage := by
  have hkeeps := h.stages task htask
  by_cases hvisit : ∃ path requester, turn.stage = .visit path requester
  · obtain ⟨path, requester, hvisit⟩ := hvisit
    rw [hvisit]
    rcases hturn.visit_cases hvisit with hclaim | ⟨-, entry, -, -, -, -, rfl⟩
    · rw [hclaim] at hkeeps
      exact hkeeps.elim
    · exact .inl (Path.isNormal_normalize (Path.isAbsolute_join h.base.isAbsolute entry))
  · refine keeps_of_job? hturn.stage_ne_claim (fun path requester heq => hvisit ⟨_, _, heq⟩)
      fun job hjob => ?_
    rcases hturn.job?_cases hjob with ⟨hgrants, -⟩ | ⟨hold, -⟩
    · cases hgrants with
      | first hstage hcode _ =>
          obtain ⟨extension, hsuffix, -⟩ := hcode.suffix
          have hbelow := h.isBelow_of_visit htask hroom hstage hcode.file hcode.below hsuffix
          exact ⟨hbelow,
            BuildOptions.isBelow_codeOutput h.base.components_ne_nil hcode.below hbelow⟩
      | again hstage _ =>
          rw [hstage] at hkeeps
          exact hkeeps.elim
    · exact hkeeps.of_job? hold

omit hroom in
/-- What a walk or a source leads to has names only, or no name at its end. -/
theorem keeps_spawned (hturn : Turns s task turn) :
    ∀ stage ∈ turn.spawned, s.Keeps stage := by
  intro stage hspawned
  have hkeeps := h.stages task htask
  rcases hturn.spawned_cases hspawned with
    ⟨directory, requester, files, file, hstage, hwalked, hfiles, hfile, -, rfl⟩ |
    ⟨job, output, files, file, hstage, hfiles, hfile, -, rfl⟩
  · rw [hstage] at hkeeps
    have hdirectory := Walk.isDirectory_iff.1 hwalked.1
    have hnormal : directory.IsNormal := by
      refine hkeeps.resolve_right fun ⟨hisfile, _⟩ => ?_
      rw [Walk.isFile_eq_false_of_isDirectory hwalked.1] at hisfile
      exact Bool.false_ne_true hisfile
    obtain ⟨found, hfound, hmem⟩ := Walk.mem_files h.sound s.options hdirectory
    obtain rfl := Except.ok.inj (hfiles.symm.trans hfound)
    exact .inl (isNormal_of_finds h.sound ((hmem file).1 hfile) hnormal)
  · have hsource := (hkeeps.of_job? (by rw [hstage]; rfl)).1
    rw [dependencies_eq] at hfiles
    have hisfile := isFile_of_findAll hfiles file hfile
    obtain ⟨names, hne, hnames, hcomponents⟩ := hsource
    obtain ⟨base, hbasenames, hbase⟩ := h.base
    have hnormal : job.source.IsNormal :=
      ⟨base ++ names, hbasenames.append hnames, by rw [hcomponents, hbase]; rfl⟩
    have hroot : job.source.components ≠ [.root] := by
      rw [hcomponents, hbase]
      simp [hne]
    obtain ⟨specifier, hfind⟩ := exists_find_of_findAll hfiles file hfile
    rcases Lookup.isNormal_of_mem_candidates hnormal hroot h.extensions
      (Lookup.mem_candidates_of_find hfind) with hfilenormal | hnameless
    · exact .inl hfilenormal
    · exact .inr ⟨hisfile, hnameless⟩

omit hroom in
/-- What is reported as built lies where it should. -/
theorem built_turn (hturn : Turns s task turn) : ∀ message ∈ turn.told,
    ∀ source dest locals parents, message.2 = .fileBuilt source dest locals parents →
      source.IsBelow s.options.baseDir ∧ dest.IsBelow s.options.outDir := by
  intro message hmessage source dest locals parents hevent
  obtain ⟨job, count, hstage⟩ := hturn.exists_finish_of_isFileBuilt hmessage (by rw [hevent]; rfl)
  suffices hjob : job = ⟨source, dest⟩ by
    subst hjob
    exact (h.stages task htask).of_job? (by rw [hstage]; rfl)
  cases hturn with
  | finish hfinish =>
      obtain ⟨rfl, -⟩ := BuildTask.Stage.finish.inj (hstage.symm.trans hfinish)
      dsimp only at hmessage
      split at hmessage
      · obtain ⟨addressee, -, rfl⟩ := List.mem_map.1 hmessage
        obtain ⟨rfl, rfl, -⟩ := BuildEvent.fileBuilt.inj hevent
        rfl
      · contradiction
  | _ => simp_all

end Turn

variable {move : Move FileTree}

theorem step (h : s.Contained) (hroom : FileStore.isFile s.store s.options.baseDir = false)
    (hstep : s.step? id = some t) : t.Contained := by
  obtain ⟨task, turn, hid, hturn, rfl⟩ := exists_turn hstep
  have htask := (mem_of_task? hid).1
  have hmono : ∀ stage, s.Keeps stage → (s.perform task turn).Keeps stage := fun stage hstage =>
    hstage.mono rfl fun q hq => h.isFile_step hroom htask hid hstep hq
  refine ⟨h.called.perform htask hturn, h.base, h.extensions, hturn.sound h.sound,
    fun u hu => ?_, fun message hmessage => ?_⟩
  · rcases (mem_tasks_perform h.called.orderly htask turn).1 hu with ⟨hu, -⟩ | rfl | hu
    · exact hmono _ (h.stages u hu)
    · exact hmono _ (h.keeps_after hroom htask hturn)
    · exact hmono _ (h.keeps_spawned htask hturn _ (mem_started hu).2.2.2.2.2.2)
  · rcases List.mem_append.1 hmessage with hmessage | hmessage
    · exact h.built message hmessage
    · exact h.built_turn htask hturn message hmessage

theorem next (h : s.Contained) (hroom : FileStore.isFile s.store s.options.baseDir = false)
    (hmove : move.compiles = true) (hnext : s.make? move = some t) : t.Contained := by
  cases move with
  | step id => exact h.step hroom hnext
  | edit store => contradiction
  | collect =>
      rw [← Option.some.inj hnext]
      exact ⟨h.called.collect, h.base, h.extensions, h.sound,
        fun task htask => h.stages task (List.mem_filter.1 htask).1, h.built⟩
  | call addressee request =>
      cases request with
      | compile entries =>
          rw [← Option.some.inj hnext]
          refine ⟨h.called.request addressee _, h.base, h.extensions, h.sound, fun task htask => ?_,
            h.built⟩
          rcases List.mem_append.1 htask with htask | htask
          · exact h.stages task htask
          · rw [List.mem_singleton.1 htask]
            exact fun job hjob => nomatch hjob
      | _ => contradiction

/-- What every write below the output directory keeps, a move keeps. -/
theorem store_next (h : s.Contained) (hroom : FileStore.isFile s.store s.options.baseDir = false)
    (hmove : move.compiles = true) (hnext : s.make? move = some t) {P : FileTree → Prop}
    (hwrite : ∀ tree q content, P tree → q.IsBelow s.options.outDir → P (tree.putFile q content))
    (hP : P s.store) : P t.store := by
  cases move with
  | step id =>
      obtain ⟨task, -, hid, -⟩ := exists_turn hnext
      exact h.store_induction hroom (mem_of_task? hid).1 hid hnext hwrite hP
  | edit store => contradiction
  | _ => rwa [← Option.some.inj hnext]

/-- A move changes the content of files below the output directory only. -/
theorem content?_next (h : s.Contained)
    (hroom : FileStore.isFile s.store s.options.baseDir = false) (hmove : move.compiles = true)
    (hnext : s.make? move = some t) {q : Path} (hq : ¬ q.IsBelow s.options.outDir) :
    t.store.content? q = s.store.content? q :=
  h.store_next hroom hmove hnext (P := fun tree => tree.content? q = s.store.content? q)
    (fun tree p content htree hp => by
      rw [FileTree.content?_putFile, if_neg (fun hsame => hq (hp.congr (Path.same_iff.1 hsame))),
        htree]) rfl

theorem exists?_next (h : s.Contained)
    (hroom : FileStore.isFile s.store s.options.baseDir = false) (hmove : move.compiles = true)
    (hnext : s.make? move = some t) {q : Path} (hq : FileStore.exists? s.store q = true) :
    FileStore.exists? t.store q = true :=
  h.store_next hroom hmove hnext (P := fun tree => FileStore.exists? tree q = true)
    (fun _ p content htree _ => FileTree.exists?_putFile htree p content) hq

end Contained

end BuildSession

/-- The base directory is given by names from the root and is none of the files, and no extension
that an import may leave out leads into another directory. -/
structure BuildOptions.IsSeated (o : BuildOptions) (tree : FileTree) : Prop where
  built : tree.Built
  base : o.baseDir.IsNormal
  directory : FileStore.isFile tree o.baseDir = false
  extensions : ∀ extension ∈ o.resolveExtensions, '/' ∉ extension.toList

namespace BuildSession

section Runs

variable {tree : FileTree} {o : BuildOptions} {sourceTransform : SourceTransform}
  {s t : BuildSession FileTree} {past later : History FileTree}
  {moment : BuildSession FileTree × Move FileTree} {addressee : Addressee} {path : Path}
  {call : Nat}

theorem contained_start (h : o.IsSeated tree) (sourceTransform : SourceTransform) :
    (start tree o sourceTransform).Contained where
  called := .start tree o sourceTransform
  base := h.base
  extensions := h.extensions
  sound := h.built.sound
  stages _ h := nomatch h
  built _ h := nomatch h

/-- The base directory becomes a file only where outputs go. -/
theorem not_isFile_baseDir (h : o.IsSeated tree)
    (hroom : o.baseDir.IsBelow o.outDir → FileStore.isFile s.store o.baseDir = false)
    (hcontent : ∀ q : Path, ¬ q.IsBelow o.outDir → s.store.content? q = tree.content? q) :
    FileStore.isFile s.store o.baseDir = false := by
  by_cases hbelow : o.baseDir.IsBelow o.outDir
  · exact hroom hbelow
  · rw [Bool.eq_false_iff, ne_eq, FileTree.isFile_iff_content?, hcontent _ hbelow,
      ← FileTree.isFile_iff_content?, h.directory]
    exact Bool.false_ne_true

/-- At every moment the session is contained, and no content has changed but that of files below
the output directory. -/
theorem Runs.contained (hrun : Runs (BuildSession.start tree o sourceTransform) past t)
    (h : o.IsSeated tree)
    (hmoves : ∀ moment ∈ past, moment.2.compiles = true)
    (hroom : o.baseDir.IsBelow o.outDir →
      ∀ moment ∈ past, FileStore.isFile moment.1.store o.baseDir = false) :
    t.Contained ∧ t.options = o ∧
      ∀ q : Path, ¬ q.IsBelow o.outDir → t.store.content? q = tree.content? q := by
  induction hrun with
  | start => exact ⟨contained_start h sourceTransform, rfl, fun _ _ => rfl⟩
  | @next past s t move hrun hnext ih =>
      obtain ⟨hs, hoptions, hcontent⟩ := ih
        (fun moment hmoment => hmoves moment (List.mem_append_left _ hmoment))
        (fun hbelow moment hmoment => hroom hbelow moment (List.mem_append_left _ hmoment))
      have hlast : (s, move) ∈ past ++ [(s, move)] := by simp
      have hmove := hmoves _ hlast
      have hfile : FileStore.isFile s.store s.options.baseDir = false := by
        rw [hoptions]
        exact not_isFile_baseDir h (fun hbelow => hroom hbelow _ hlast) hcontent
      refine ⟨hs.next hfile hmove hnext, (kept_next hs.called hnext).1.trans hoptions,
        fun q hq => ?_⟩
      rw [hs.content?_next hfile hmove hnext (hoptions ▸ hq), hcontent q hq]

/-- What is there stays there. -/
theorem Runs.exists?_moment (hrun : Runs s later t)
    (hlater : ∀ moment ∈ later, moment.1.Contained ∧ moment.2.compiles = true ∧
      FileStore.isFile moment.1.store moment.1.options.baseDir = false)
    (hexists : FileStore.exists? s.store path = true) :
    FileStore.exists? t.store path = true ∧
      ∀ moment ∈ later, FileStore.exists? moment.1.store path = true := by
  induction hrun with
  | start => exact ⟨hexists, fun _ h => nomatch h⟩
  | @next later x t move hrun hnext ih =>
      obtain ⟨hx, hmoments⟩ := ih fun moment hmoment =>
        hlater moment (List.mem_append_left _ hmoment)
      obtain ⟨hcontained, hmove, hfile⟩ := hlater (x, move) (by simp)
      refine ⟨hcontained.exists?_next hfile hmove hnext hx, fun moment hmoment => ?_⟩
      rcases List.mem_append.1 hmoment with hmoment | hmoment
      · exact hmoments moment hmoment
      · rw [List.mem_singleton.1 hmoment]
        exact hx

section Moments

variable (hrun : Runs (start tree o sourceTransform) past t) (h : o.IsSeated tree)
  (hmoves : ∀ moment ∈ past, moment.2.compiles = true)
  (hroom : o.baseDir.IsBelow o.outDir →
    ∀ moment ∈ past, FileStore.isFile moment.1.store o.baseDir = false)
include hrun h hmoves hroom

/-- Every moment is contained, as the end of the run that leads to it. -/
theorem contained_moment (hmoment : moment ∈ past) : moment.1.Contained ∧ moment.1.options = o ∧
    FileStore.isFile moment.1.store moment.1.options.baseDir = false := by
  obtain ⟨earlier, later, hpast⟩ := List.append_of_mem hmoment
  obtain ⟨hearlier, -⟩ := hrun.at_moment hpast
  have hbefore : ∀ other ∈ earlier, other ∈ past := fun other hother =>
    hpast ▸ List.mem_append_left _ hother
  obtain ⟨hs, hoptions, hcontent⟩ := hearlier.contained h
    (fun other hother => hmoves other (hbefore other hother))
    (fun hbelow other hother => hroom hbelow other (hbefore other hother))
  refine ⟨hs, hoptions, ?_⟩
  rw [hoptions]
  exact not_isFile_baseDir h (fun hbelow => hroom hbelow moment hmoment) hcontent

/-- A path that exists when a call comes to have it before it is still there when it is looked
at. -/
theorem refused_later (hlater : Runs s later t) (hsub : ∀ moment ∈ later, moment ∈ past)
    (hs : s.Called) (hoptions : s.options = o) (hcall : call < s.nextCall)
    (howes : s.Owes call addressee path) (houtside : path.startsWith o.baseDir = false)
    (hexists : FileStore.exists? s.store path = true) (hreturned : t.Returned call) :
    t.Refused addressee path := by
  refine hlater.refused_of_owes hs hcall howes (hoptions ▸ houtside)
    (hlater.exists?_moment (fun moment hmoment => ?_) hexists).2 hreturned
  obtain ⟨hcontained, -, hfile⟩ := contained_moment hrun h hmoves hroom (hsub moment hmoment)
  exact ⟨hcontained, hmoves moment (hsub moment hmoment), hfile⟩

/-- An entry that leads out of the base directory is refused before the request returns. -/
theorem refused_entry {earlier : History FileTree} {entries : List Path} {entry : Path}
    (hpast : past = earlier ++ (s, .call addressee (.compile entries)) :: later)
    (hentry : entry ∈ entries) (hexists : FileStore.exists? s.store (o.entryPath entry) = true)
    (houtside : (o.entryPath entry).startsWith o.baseDir = false)
    (hreturned : t.Returned s.nextCall) : t.Refused addressee (o.entryPath entry) := by
  have hsub : ∀ moment ∈ (s, .call addressee (.compile entries)) :: later, moment ∈ past :=
    fun moment hmem => hpast ▸ List.mem_append_right _ hmem
  obtain ⟨hs, hsame, -⟩ := contained_moment hrun h hmoves hroom (hsub _ List.mem_cons_self)
  obtain ⟨-, after, hafter, hlater⟩ := hrun.at_moment hpast
  obtain rfl := Option.some.inj hafter
  refine refused_later hrun h hmoves hroom hlater
    (fun moment hmem => hsub moment (List.mem_cons_of_mem _ hmem))
    (hs.called.request addressee _) hsame (Nat.lt_succ_self _) ?_ houtside hexists hreturned
  rw [← hsame]
  exact owes_compile s hentry

/-- An import that leads out of the base directory is refused before the request returns, if all
imports of its source are found. -/
theorem refused_import {earlier : History FileTree} {output : SourceOutput} {files : List Path}
    {file : Path} (hpast : past = earlier ++ moment :: later) (hturn : HasTurn moment task)
    (hstage : task.stage = .lookUp job output)
    (hfiles : moment.1.dependencies job.source output.imports = .ok files) (hfile : file ∈ files)
    (houtside : file.startsWith o.baseDir = false) (hreturned : t.Returned task.call) :
    t.Refused task.addressee file := by
  have hsub : ∀ other ∈ moment :: later, other ∈ past :=
    fun other hmem => hpast ▸ List.mem_append_right _ hmem
  have hmem := hsub _ List.mem_cons_self
  obtain ⟨hs, hsame, hbase⟩ := contained_moment hrun h hmoves hroom hmem
  have hmove := hmoves _ hmem
  obtain ⟨-, after, hafter, hlater⟩ := hrun.at_moment hpast
  obtain ⟨moment, move⟩ := moment
  obtain rfl := hturn.1
  -- What an import is resolved to exists.
  have hexists : FileStore.exists? moment.store file = true := by
    have hisfile := isFile_of_findAll (dependencies_eq moment _ _ ▸ hfiles) file hfile
    rw [FileStore.exists?, beq_iff_eq.1 hisfile]
    rfl
  obtain ⟨hkept, hle, -⟩ := kept_next hs.called hafter
  exact refused_later hrun h hmoves hroom hlater
    (fun other hmem => hsub other (List.mem_cons_of_mem _ hmem)) (hs.called.next hafter)
    (hkept.trans hsame) (Nat.lt_of_lt_of_le (hs.called.calls task (mem_of_task? hturn.2).1) hle)
    (owes_import hs.called hturn.2 hstage hfiles hfile hafter) houtside
    (hs.exists?_next hbase hmove hafter hexists) hreturned

end Moments

/-- **A build keeps to its directories.** Requests to compile are made on a session, with any
entries, and the sources import what they like. As long as the base directory does not become a
file, which it can only where outputs go, only files below it are read and reported as built, only
files below the output directory change, and every path that exists outside of the base directory
is refused when a task looks at it, with nothing else done. A request is told so, before it returns,
of each of its entries and of each import of a source whose imports are all found. A request that
has not returned can go on unless a transform has broken down. -/
theorem confined_to_directories (hrun : Runs (start tree o sourceTransform) past t)
    (h : o.IsSeated tree) (hmoves : ∀ moment ∈ past, moment.2.compiles = true)
    (hroom : o.baseDir.IsBelow o.outDir →
      ∀ moment ∈ past, FileStore.isFile moment.1.store o.baseDir = false) :
    (∀ moment ∈ past, ∀ task path, HasTurn moment task → moment.1.Reads task path →
      path.IsBelow o.baseDir) ∧
    (∀ moment ∈ past, ∀ after, moment.1.make? moment.2 = some after →
      ∀ q : Path, after.store.content? q ≠ moment.1.store.content? q → q.IsBelow o.outDir) ∧
    (∀ q : Path, ¬ q.IsBelow o.outDir → t.store.content? q = tree.content? q) ∧
    (∀ addressee source dest locals parents,
      (addressee, BuildEvent.fileBuilt source dest locals parents) ∈ t.sent →
        source.IsBelow o.baseDir ∧ dest.IsBelow o.outDir) ∧
    (∀ moment ∈ past, ∀ task path requester, HasTurn moment task →
      task.stage = .visit path requester → FileStore.exists? moment.1.store path = true →
      path.startsWith o.baseDir = false →
      moment.1.make? moment.2 = some (moment.1.refuse task path (.outsideBase path))) ∧
    (∀ earlier s addressee entries later,
      past = earlier ++ (s, .call addressee (.compile entries)) :: later →
      ∀ entry ∈ entries, FileStore.exists? s.store (o.entryPath entry) = true →
        (o.entryPath entry).startsWith o.baseDir = false → t.Returned s.nextCall →
        t.Refused addressee (o.entryPath entry)) ∧
    (∀ earlier moment later, past = earlier ++ moment :: later →
      ∀ task job output files, HasTurn moment task → task.stage = .lookUp job output →
        moment.1.dependencies job.source output.imports = .ok files →
        ∀ file ∈ files, file.startsWith o.baseDir = false → t.Returned task.call →
          t.Refused task.addressee file) ∧
    ∀ call, t.held = false → (∀ task ∈ t.tasks, task.stage ≠ .crashed) → t.Rooted call →
      ¬ t.Returned call → ∃ after, t.Steps after := by
  have hmoment : ∀ moment ∈ past, moment.1.Contained ∧ moment.1.options = o ∧
      FileStore.isFile moment.1.store moment.1.options.baseDir = false :=
    fun _ => contained_moment hrun h hmoves hroom
  obtain ⟨ht, hoptions, hcontent⟩ := hrun.contained h hmoves hroom
  refine ⟨?_, ?_, hcontent, ?_, ?_, ?_, ?_, ?_⟩
  · intro moment hmem task path hturn hreads
    obtain ⟨hs, hsame, hfile⟩ := hmoment moment hmem
    rw [← hsame]
    exact hs.isBelow_of_reads hfile (mem_of_task? hturn.2).1 hreads
  · intro moment hmem after hafter q hne
    obtain ⟨hs, hsame, hfile⟩ := hmoment moment hmem
    by_contra hq
    exact hne (hs.content?_next hfile (hmoves moment hmem) hafter (hsame ▸ hq))
  · intro addressee source dest locals parents hsent
    rw [← hoptions]
    exact ht.built _ hsent source dest locals parents rfl
  · intro moment hmem task path requester hturn hstage hexists houtside
    obtain ⟨-, hsame, -⟩ := hmoment moment hmem
    rw [hturn.1]
    refine (step?_visit hturn.2 hstage).trans (congrArg some ?_)
    rw [visit_outside (hsame ▸ houtside), if_pos hexists]
  · intro earlier s addressee entries later hpast entry hentry hexists houtside hreturned
    exact refused_entry hrun h hmoves hroom hpast hentry hexists houtside hreturned
  · intro earlier moment later hpast task job output files hturn hstage hfiles file hfile houtside
      hreturned
    exact refused_import hrun h hmoves hroom hpast hturn hstage hfiles hfile houtside hreturned
  · exact fun call hheld hsafe hrooted hreturned =>
      ht.called.orderly.exists_step_of_not_returned hheld hsafe hrooted hreturned

end Runs

/-! ### Entries and imports that lead out -/

section Leading

/-- A source that imports a file next to the base directory. -/
def leadingTree : FileTree :=
  ((FileTree.empty.putFile "/p/a.js" "import \"../y.js\"".toUTF8).putFile "/x.js"
    "x".toUTF8).putFile "/y.js" "y".toUTF8

def leadingOptions : BuildOptions :=
  { baseDir := "/p", outDir := "/p/out", extensions := [".js"], resolveExtensions := [".js"],
    exclude := [], assets := ⟨[], [], "", ""⟩, extra := {} }

theorem isSeated_leading : leadingOptions.IsSeated leadingTree where
  built := .putFile _ _ (.putFile _ _ (.putFile _ _ .empty))
  base := ⟨[.name "p"], Path.areNames_singleton ⟨by decide, rfl⟩, by decide +kernel⟩
  directory := by decide +kernel
  extensions := by decide

/-- The request, up to where the imports of its second entry are found, and from there on. -/
def leadingMoves : List (Move FileTree) × List (Move FileTree) :=
  (.call ⟨1, 0⟩ (.compile ["../x.js", "a.js"]) :: List.replicate 6 (.step 0),
    .step 0 :: .step 1 :: List.replicate 4 (.step 0))

def isLeading (past : History FileTree) (s t : BuildSession FileTree) : Bool :=
  past.all (fun moment => moment.2.compiles) &&
  past.all (fun moment => !FileStore.isFile moment.1.store leadingOptions.baseDir) &&
  (s.task? 0).any (fun task => decide (task.call = 0) && decide (task.addressee = ⟨1, 0⟩) &&
    match task.stage with
    | .lookUp job output =>
        match s.dependencies job.source output.imports with
        | .ok files => decide (Path.ofString "/y.js" ∈ files)
        | .error _ => false
    | _ => false) &&
  decide (t.collect.2 = [⟨0, some 1⟩]) && (t.store.content? "/p/out/a.js").isSome

/-- A request is told of its entry and of the import of its other entry that lie outside. It builds
that entry, and leaves the files outside as they are. -/
theorem confined_to_directories_leading : ∃ past t,
    Runs (start leadingTree leadingOptions .scan) past t ∧ leadingOptions.IsSeated leadingTree ∧
      (∀ moment ∈ past, moment.2.compiles = true) ∧ t.Returned 0 ∧ t.Refused ⟨1, 0⟩ "/x.js" ∧
      t.Refused ⟨1, 0⟩ "/y.js" ∧ (t.store.content? "/p/out/a.js").isSome = true ∧
      t.store.content? "/x.js" = leadingTree.content? "/x.js" := by
  have hleading : ((start leadingTree leadingOptions .scan).replay? leadingMoves.1).any
      (fun before => (before.2.replay? leadingMoves.2).any fun after =>
        isLeading (before.1 ++ after.1) before.2 after.2) = true := by
    decide +kernel
  obtain ⟨⟨earlier, s⟩, hearlier, hleading⟩ := (Option.any_eq_true _ _).1 hleading
  obtain ⟨⟨later, t⟩, hlater, hcheck⟩ := (Option.any_eq_true _ _).1 hleading
  have hrun := (Runs.start.replay hearlier).replay hlater
  obtain ⟨rest, rfl⟩ := exists_cons_of_replay? hearlier
  obtain ⟨others, rfl⟩ := exists_cons_of_replay? hlater
  simp only [isLeading, Bool.and_eq_true, decide_eq_true_eq, Option.any_eq_true, List.all_eq_true,
    Bool.not_eq_true'] at hcheck
  obtain ⟨⟨⟨⟨hmoves, hroom⟩, task, htask, ⟨hcall, haddressee⟩, hstage⟩, hcollect⟩, hout⟩ := hcheck
  have hreturned : t.Returned 0 := ⟨1, by rw [hcollect]; exact List.mem_singleton.2 rfl⟩
  obtain ⟨-, -, hcontent, -, -, hentries, himports, -⟩ :=
    confined_to_directories hrun isSeated_leading hmoves fun _ => hroom
  split at hstage
  · rename_i job output hlookup
    split at hstage
    · rename_i files hfiles
      have hx : leadingOptions.entryPath "../x.js" = "/x.js" := by decide +kernel
      have hkept : ¬ Path.IsBelow "/x.js" leadingOptions.outDir := fun hbelow =>
        absurd hbelow.startsWith (by decide +kernel)
      have hentry := hentries [] _ _ _ _ rfl "../x.js" (by simp) (by decide +kernel)
        (by decide +kernel) hreturned
      have himport := himports _ _ _ rfl task job output files (hasTurn_of_task? htask) hlookup
        hfiles "/y.js" (by simpa using hstage) (by decide +kernel) (hcall ▸ hreturned)
      rw [hx] at hentry
      rw [haddressee] at himport
      exact ⟨_, t, hrun, isSeated_leading, hmoves, hreturned, hentry, himport, hout,
        hcontent "/x.js" hkept⟩
    · exact absurd hstage Bool.false_ne_true
  · exact absurd hstage Bool.false_ne_true

/-- A base directory below the directory of outputs, with a file whose output takes its place. -/
def buriedTree : FileTree := FileTree.empty.putFile "/q/p.js/p.js" "A".toUTF8

def buriedOptions : BuildOptions :=
  { leadingOptions with baseDir := "/q/p.js", outDir := "/q" }

theorem isSeated_buried : buriedOptions.IsSeated buriedTree where
  built := .putFile _ _ .empty
  base := ⟨[.name "q", .name "p.js"], .append (Path.areNames_singleton ⟨by decide, rfl⟩)
    (Path.areNames_singleton ⟨by decide, rfl⟩), by decide +kernel⟩
  directory := by decide +kernel
  extensions := by decide

/-- The request builds the file in the base directory, whose output becomes the base directory, and
then takes that one for a source. -/
def buriedMoves : List (Move FileTree) × List (Move FileTree) :=
  (.call ⟨1, 0⟩ (.compile ["p.js", "."]) :: List.replicate 10 (.step 0), List.replicate 6 (.step 0))

def isBuried (past : History FileTree) (s t : BuildSession FileTree) : Bool :=
  past.all (fun moment => moment.2.compiles) &&
  (s.task? 0).any (fun task => match task.stage with
    | .read job => decide (job.source = "/q/p.js")
    | _ => false) &&
  (t.store.content? "/q.js").isSome

/-- A file is read that does not lie below the base directory, and one is written that does not lie
below the output directory. -/
theorem not_confined_buried : ∃ past t,
    Runs (start buriedTree buriedOptions .scan) past t ∧ buriedOptions.IsSeated buriedTree ∧
      (∀ moment ∈ past, moment.2.compiles = true) ∧
      (∃ moment ∈ past, ∃ task path, HasTurn moment task ∧ moment.1.Reads task path ∧
        ¬ path.IsBelow buriedOptions.baseDir) ∧
      ∃ q : Path, ¬ q.IsBelow buriedOptions.outDir ∧
        t.store.content? q ≠ buriedTree.content? q := by
  have hburied : ((start buriedTree buriedOptions .scan).replay? buriedMoves.1).any
      (fun before => (before.2.replay? buriedMoves.2).any fun after =>
        isBuried (before.1 ++ after.1) before.2 after.2) = true := by
    decide +kernel
  obtain ⟨⟨earlier, s⟩, hearlier, hburied⟩ := (Option.any_eq_true _ _).1 hburied
  obtain ⟨⟨later, t⟩, hlater, hcheck⟩ := (Option.any_eq_true _ _).1 hburied
  have hrun := (Runs.start.replay hearlier).replay hlater
  obtain ⟨others, rfl⟩ := exists_cons_of_replay? hlater
  simp only [isBuried, Bool.and_eq_true, Option.any_eq_true, List.all_eq_true] at hcheck
  obtain ⟨⟨hmoves, task, htask, hstage⟩, hout⟩ := hcheck
  refine ⟨_, t, hrun, isSeated_buried, hmoves, ⟨(s, .step 0), by simp, task, ?_⟩, "/q.js", ?_, ?_⟩
  · split at hstage
    · rename_i job hread
      refine ⟨job.source, hasTurn_of_task? htask, .source hread, ?_⟩
      rw [of_decide_eq_true hstage]
      -- A path does not lie below itself: no name is left of it.
      rintro ⟨names, hne, -, hcomponents⟩
      exact hne (List.self_eq_append_right.1 hcomponents)
    · exact absurd hstage Bool.false_ne_true
  · intro hbelow
    exact absurd hbelow.startsWith (by decide +kernel)
  · rw [show buriedTree.content? "/q.js" = none by decide +kernel]
    intro hnone
    rw [hnone] at hout
    exact absurd hout Bool.false_ne_true

end Leading

end BuildSession

end LiveBuild
