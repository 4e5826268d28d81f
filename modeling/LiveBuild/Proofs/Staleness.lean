import LiveBuild.Proofs.Rebuilds
import LiveBuild.Watch.Session

/-!
# What a rebuild makes stale

A rebuild tells of the importers of its source: the outputs of the members that lead to it by
imports, and no others. What the register hears of links meanwhile starts from the source itself, so
it changes nothing about that. These outputs and that of the source are what a watch session drops.
-/

namespace LiveBuild.FreshBuild

open BuildSession (Turns)

/-- The sessions at rest after a request and any number of rebuilds, one after the other, of sources
that cannot be built or import nothing new. -/
inductive Rests (b : FreshBuild) : BuildSession FileTree → Prop
  | finished {s : BuildSession FileTree} : b.Reaches s → (∀ id, s.step? id = none) →
      Rests b s.collect.1
  | rebuilt {r : b.Rebuild} {s : BuildSession FileTree} : Rests b r.rested → r.Proper →
      (∀ q, r.Requires q → b.Imports r.source q) → r.Reaches s → (∀ id, s.step? id = none) →
      Rests b s.collect.1

namespace Rebuild

variable {b : FreshBuild} {r : b.Rebuild} {s t : BuildSession FileTree} {task : BuildTask}
  {turn : BuildSession.Turn FileTree} {job : BuildJob} {event : BuildEvent}
  {before requests : List (Path × Path)} {told : List (Addressee × BuildEvent)}

/-- An event says that the source is built, and names its importers in order, each once. -/
def Reports (r : b.Rebuild) (event : BuildEvent) : Prop :=
  ∃ dest locals parents, event = .fileBuilt r.source dest locals parents ∧
    b.IsOutput r.source dest ∧
    parents.Pairwise (fun p q => compare p.components q.components = .lt) ∧
    ∀ d : Path, (∃ k ∈ parents, k.components = d.components) ↔ b.Importer r.source d

/-- What a rebuild knows and tells of links: what the register has heard of, and what was told since
the rebuild began. -/
structure Heard (r : b.Rebuild) (requests : List (Path × Path))
    (told : List (Addressee × BuildEvent)) (s : BuildSession FileTree) : Prop where
  traced : s.register.Traced requests
  links : ∀ d e, b.Links d e → (d, e) ∈ requests
  drawn : ∀ request ∈ requests, b.Links request.1 request.2 ∨
    ∃ q, r.Requires q ∧ b.IsOutput r.source request.1 ∧ b.IsOutput q request.2
  sent : s.sent = r.rested.sent ++ told
  reports : ∀ message ∈ told, message.2.isFileBuilt = true → r.Succeeds ∧ r.Reports message.2
  reported : r.Succeeds → ∀ task ∈ s.tasks, task.parent = none → ∀ count,
    task.stage = .done count → ∃ message ∈ told, message.1 = r.addressee ∧ r.Reports message.2

section Turn

variable (hb : b.Proper) (hrested : b.Rested before r.rested) (hr : r.Proper)
  (h : r.Underway s) (hheard : r.Heard requests told s) (htask : task ∈ s.tasks)
  (hturn : Turns s task turn)

include hrested hr h hheard htask

include hturn in
/-- The links that the register hears of are those from the source to its imports. -/
theorem exists_drawn : ∃ requests', turn.register.Traced requests' ∧
    (∀ d e, b.Links d e → (d, e) ∈ requests') ∧
    ∀ request ∈ requests', b.Links request.1 request.2 ∨
      ∃ q, r.Requires q ∧ b.IsOutput r.source request.1 ∧ b.IsOutput q request.2 := by
  have hrecorded : ∀ path requester, task.stage = .visit path (some requester) →
      s.register.targets.contains requester = true := by
    intro path requester hstage
    obtain ⟨-, d, hd, houtput⟩ := visit_cases h htask hstage
    obtain rfl := Option.some.inj hd
    exact contains_output hrested h hr.member houtput
  obtain ⟨requests', htraced, hmem⟩ := hturn.exists_traced hheard.traced hrecorded
  refine ⟨requests', htraced, fun d e hlinks => (hmem _).2 (Or.inl (hheard.links d e hlinks)), ?_⟩
  intro request hrequest
  rcases (hmem request).1 hrequest with hbefore | ⟨path, rest, hstage, hcode, houtput⟩
  · exact hheard.drawn request hbefore
  · obtain ⟨hfile, d, hd, hsource⟩ := visit_cases h htask hstage
    obtain rfl := Option.some.inj hd
    rw [houtput]
    exact Or.inr ⟨path, hfile, hsource, (isOutput_of_visit hr h htask hstage hcode).2⟩

include hb

/-- The end of the build names the importers of the source. -/
theorem reports_completion {locals : Nat} (hstage : task.stage = .finish job (.ok locals)) :
    r.Reports (job.completion (s.register.importersOf job.dest) (.ok locals)) := by
  have hjob : task.stage.job? = some job := by
    rw [hstage]
    rfl
  obtain ⟨hsource, houtput⟩ := target_of_job? h htask hjob
  obtain ⟨hsorted, hmem⟩ :=
    hheard.traced.importersOf (contains_output hrested h hr.member houtput)
  refine ⟨job.dest, locals, s.register.importersOf job.dest, ?_, houtput, hsorted, fun d => ?_⟩
  · rw [← hsource]
    rfl
  · rw [hmem]
    refine importer_iff hb hr.member houtput hheard.links (fun request hrequest => ?_) d
    refine (hheard.drawn request hrequest).imp_right fun ⟨q, _, hfirst, _⟩ => ?_
    rw [hfirst.unique houtput]

include hturn

theorem told_turn : ∀ message ∈ turn.told, message.2.isFileBuilt = true →
    r.Succeeds ∧ r.Reports message.2 := by
  intro message hmessage hbuilt
  obtain ⟨job, locals, hstage⟩ := hturn.exists_finish_of_isFileBuilt hmessage hbuilt
  have hjob : task.stage.job? = some job := by
    rw [hstage]
    rfl
  obtain ⟨-, houtput⟩ := target_of_job? h htask hjob
  rw [hturn.told_finish hstage (contains_output hrested h hr.member houtput)] at hmessage
  obtain ⟨addressee, -, rfl⟩ := List.mem_map.1 hmessage
  exact ⟨(succeeds_iff h htask hstage).1 ⟨locals, rfl⟩,
    reports_completion hb hrested hr h hheard htask hstage⟩

/-- If the source can be built, the task of the rebuild comes to its end by telling that it is. -/
theorem reported_turn (hsucceeds : r.Succeeds) (hroot : task.parent = none) {count : Nat}
    (hdone : turn.stage = .done count) :
    ∃ message ∈ turn.told, message.1 = r.addressee ∧ r.Reports message.2 := by
  obtain ⟨job, result, hstage⟩ := exists_finish h htask hturn hroot hdone
  obtain ⟨locals, rfl⟩ := (succeeds_iff h htask hstage).2 hsucceeds
  have hjob : task.stage.job? = some job := by
    rw [hstage]
    rfl
  rw [hturn.told_finish hstage
    (contains_output hrested h hr.member (target_of_job? h htask hjob).2)]
  exact ⟨_, List.mem_map_of_mem (h.subscribed task htask job hjob), rfl,
    reports_completion hb hrested hr h hheard htask hstage⟩

theorem Heard.perform : ∃ requests' told', r.Heard requests' told' (s.perform task turn) := by
  obtain ⟨requests', htraced, hlinks, hdrawn⟩ := exists_drawn hrested hr h hheard htask hturn
  refine ⟨requests', told ++ turn.told, htraced, hlinks, hdrawn, ?_,
    fun message hmessage hbuilt => ?_, fun hsucceeds u hu hroot count hstage => ?_⟩
  · change s.sent ++ turn.told = _
    rw [hheard.sent, List.append_assoc]
  · rcases List.mem_append.1 hmessage with hmessage | hmessage
    · exact hheard.reports message hmessage hbuilt
    · exact told_turn hb hrested hr h hheard htask hturn message hmessage hbuilt
  · rcases (BuildSession.mem_tasks_perform h.confined.orderly htask turn).1 hu with
      ⟨hu, -⟩ | rfl | hu
    · obtain ⟨message, hmessage, hreports⟩ := hheard.reported hsucceeds u hu hroot count hstage
      exact ⟨message, List.mem_append_left _ hmessage, hreports⟩
    · obtain ⟨message, hmessage, hreports⟩ :=
        reported_turn hb hrested hr h hheard htask hturn hsucceeds hroot hstage
      exact ⟨message, List.mem_append_right _ hmessage, hreports⟩
    · simp [(BuildSession.mem_started hu).1] at hroot

end Turn

theorem heard_session (hrested : b.Rested before r.rested) : r.Heard before [] r.session where
  traced := hrested.traced
  links d e := (hrested.links d e).2
  drawn request hrequest := Or.inl ((hrested.links request.1 request.2).1 hrequest)
  sent := (List.append_nil _).symm
  reports _ h := absurd h List.not_mem_nil
  reported := by simp [tasks_session hrested]

theorem Reaches.heard (hb : b.Proper) (hrested : b.Rested before r.rested) (hr : r.Proper)
    (h : r.Reaches s) : ∃ requests told, r.Heard requests told s := by
  induction h with
  | start => exact ⟨before, [], heard_session hrested⟩
  | step hs hstep _ ih =>
      obtain ⟨requests, told, hheard⟩ := ih
      obtain ⟨id, hid⟩ := hstep
      obtain ⟨task, turn, hfound, hturn, rfl⟩ := BuildSession.exists_turn hid
      exact hheard.perform hb hrested hr (hs.underway hb hrested hr)
        (BuildSession.mem_of_task? hfound).1 hturn

/-- A rebuild leaves what it has found, unless the source imports something new. -/
theorem Underway.rested (hrested : b.Rested before r.rested) (h : r.Underway s)
    (hheard : r.Heard requests told s) (himports : ∀ q, r.Requires q → b.Imports r.source q)
    (hstuck : ∀ id, s.step? id = none) : b.Rested requests s.collect.1 where
  options := h.options
  sourceTransform := h.sourceTransform
  held := h.held
  idle := collect_tasks_eq_nil fun _ htask => h.finished hstuck htask
  targets d p hsource := hrested.targets d p ((h.sources d).symm.trans hsource)
  recorded p d hp hd := (h.sources d).trans (hrested.recorded p d hp hd)
  aliased p hp := by
    change ∃ d, s.register.aliases.get? p = some d ∧ _
    rw [h.aliases]
    exact hrested.aliased p hp
  settled d := h.manned.not_building fun task htask => by
    obtain ⟨-, count, hstage, -⟩ := h.finished hstuck htask
    rw [hstage]
    rfl
  traced := hheard.traced
  links d e := by
    refine ⟨fun hrequest => ?_, hheard.links d e⟩
    rcases hheard.drawn (d, e) hrequest with hlinks | ⟨q, hq, hd, he⟩
    · exact hlinks
    · exact ⟨r.source, q, himports q hq, hd, he⟩

end Rebuild

theorem Rests.rested {b : FreshBuild} {s : BuildSession FileTree} (hb : b.Proper) (h : b.Rests s) :
    ∃ requests, b.Rested requests s := by
  induction h with
  | finished hreaches hstuck => exact hreaches.rested hb hstuck
  | rebuilt _ hr himports hreaches hstuck ih =>
      obtain ⟨before, hrested⟩ := ih
      obtain ⟨requests, told, hheard⟩ := hreaches.heard hb hrested hr
      exact ⟨requests, (hreaches.underway hb hrested hr).rested hrested hheard himports hstuck⟩

namespace Rebuild

variable {b : FreshBuild} {r : b.Rebuild} {event : BuildEvent}

/-- The source's own output and those of its importers. -/
def Outdates (r : b.Rebuild) (d : Path) : Prop :=
  (∃ e, b.IsOutput r.source e ∧ e.components = d.components) ∨ b.Importer r.source d

theorem Reports.isFileBuilt (h : r.Reports event) : event.isFileBuilt = true := by
  obtain ⟨dest, locals, parents, rfl, -⟩ := h
  rfl

/-- A watch session that takes in the event drops the outdated outputs and nothing else. -/
theorem Reports.takeEvent? (h : r.Reports event) (w : WatchSession) (store : FileTree)
    (accepts : Path → Bool) {rest : List BuildEvent} (hevents : w.events = event :: rest) :
    ∃ w' notice, w.takeEvent? store accepts = some (w', notice) ∧ w'.events = rest ∧
      ∀ d : Path, (∃ k ∈ notice.stale, k.components = d.components) ↔ r.Outdates d := by
  obtain ⟨dest, locals, parents, rfl, houtput, -, hparents⟩ := h
  refine ⟨_, _, by rw [WatchSession.takeEvent?, hevents], rfl, fun d => ?_⟩
  change (∃ k ∈ dest :: parents, _) ↔ _
  rw [List.exists_mem_cons_iff, hparents, Outdates]
  refine or_congr_left ⟨fun hsame => ⟨dest, houtput, hsame⟩, ?_⟩
  rintro ⟨e, he, hsame⟩
  rwa [houtput.unique he]

/-- **A rebuild outdates exactly the importers.** A source of the closure is built again at rest,
and the code files that it imports by then are in the closure, as they are when its imports have not
changed. In whatever order the tasks go on, the rebuild ends, and it tells that the source is built
if and only if the source can be built. This names the outputs of the recorded files, other than the
source, that import it, directly or through others, in order and each once. A watch session drops
these and the output of the source. -/
theorem names_importers (hb : b.Proper) (hrests : b.Rests r.rested) (hr : r.Proper) :
    (∀ p, b.Member p ↔ ∃ d, r.rested.register.sourceAt d = some p) ∧
    (¬ ∃ run : Nat → BuildSession FileTree, run 0 = r.session ∧
      ∀ n, (run n).Steps (run (n + 1)) ∧ (run n).Clear) ∧
    ∀ t, r.Reaches t → (∀ id, t.step? id = none) →
      t.Returned r.rested.nextCall ∧
      ∃ told, t.sent = r.rested.sent ++ told ∧
        ((∃ message ∈ told, message.1 = r.addressee ∧ message.2.isFileBuilt = true) ↔
          r.Succeeds) ∧
        ∀ message ∈ told, message.2.isFileBuilt = true → r.Reports message.2 ∧
          ∀ (w : WatchSession) (store : FileTree) (accepts : Path → Bool) (rest : List BuildEvent),
            w.events = message.2 :: rest →
            ∃ w' notice, w.takeEvent? store accepts = some (w', notice) ∧ w'.events = rest ∧
              ∀ d : Path, (∃ k ∈ notice.stale, k.components = d.components) ↔ r.Outdates d := by
  obtain ⟨before, hrested⟩ := hrests.rested hb
  refine ⟨fun p => ⟨fun hp => ?_, fun ⟨d, hd⟩ => ?_⟩,
    (underway_session hb hrested hr).confined.no_infinite_run, fun t ht hstuck => ?_⟩
  · obtain ⟨d, hd⟩ := hp.exists_output
    exact ⟨d, hrested.recorded p d hp hd⟩
  · obtain ⟨e, htarget, -⟩ := hrested.targets d p hd
    exact htarget.member
  · have h := ht.underway hb hrested hr
    obtain ⟨requests, told, hheard⟩ := ht.heard hb hrested hr
    refine ⟨?_, told, hheard.sent, ⟨?_, fun hsucceeds => ?_⟩, fun message hmessage hbuilt => ?_⟩
    · refine h.confined.orderly.returned_of_stuck h.held (fun task htask hcrashed => ?_) hstuck
        h.rooted
      obtain ⟨-, count, hstage, -⟩ := h.finished hstuck htask
      exact BuildTask.Stage.noConfusion (hstage.symm.trans hcrashed)
    · rintro ⟨message, hmessage, -, hbuilt⟩
      exact (hheard.reports message hmessage hbuilt).1
    · obtain ⟨root, hroot, hparent, -⟩ := h.rooted
      obtain ⟨-, count, hstage, -⟩ := h.finished hstuck hroot
      obtain ⟨message, hmessage, haddressee, hreports⟩ :=
        hheard.reported hsucceeds root hroot hparent count hstage
      exact ⟨message, hmessage, haddressee, hreports.isFileBuilt⟩
    · have hreports := (hheard.reports message hmessage hbuilt).2
      exact ⟨hreports, fun w store accepts _ hevents => hreports.takeEvent? w store accepts hevents⟩

theorem Reaches.run {s : BuildSession FileTree} (h : r.Reaches s) (fuel : Nat)
    (hclear : s.isClearFor fuel = true) : r.Reaches (s.run fuel) :=
  BuildSession.run_induction (fun _ _ hs hstep ht => hs.step hstep ht) fuel h hclear

/-- A file imports two that import each other. Another one imports one of these and what is not
there. -/
def lattice : FreshBuild where
  tree := (((FileTree.empty.putFile "/p/a.js" "import \"./b\"; import \"./c\"".toUTF8).putFile
    "/p/b.js" "import \"./c\"".toUTF8).putFile "/p/c.js" "import \"./b\"".toUTF8).putFile
    "/p/d.js" "import \"./c\"; import \"./x\"".toUTF8
  options :=
    { baseDir := "/p", outDir := "/p/out", extensions := [".js"], resolveExtensions := [".js"],
      exclude := [], assets := ⟨[], [], "", ""⟩, extra := {} }
  sourceTransform := .scan
  entries := ["a.js", "d.js"]
  addressee := ⟨1, 0⟩

def latticeFiles : List Path := ["/p/a.js", "/p/b.js", "/p/c.js", "/p/d.js"]

/-- One of the two files that import each other is changed and built again. -/
def latticeRebuild : lattice.Rebuild where
  rested := (BuildSession.run 50 lattice.session).collect.1
  tree := lattice.tree.putFile "/p/c.js" "import \"./b\"; more".toUTF8
  addressee := ⟨2, 0⟩
  source := "/p/c.js"

/-- What is computed of the lattice, in one go. -/
theorem lattice_computes :
    (lattice.isClosed latticeFiles = true ∧ lattice.isApart latticeFiles = true) ∧
    (lattice.options.baseDir.isAbsolute = true ∧ lattice.options.outDir.isAbsolute = true ∧
      FileStore.isFile lattice.tree lattice.options.baseDir = false ∧
      FileStore.isFile latticeRebuild.tree lattice.options.baseDir = false ∧
      lattice.options.entryPath "a.js" = "/p/a.js") ∧
    (lattice.session.isClearFor 50 = true ∧
      (BuildSession.run 50 lattice.session).next?.isNone = true) ∧
    lattice.resolved? "/p/a.js" = some (["/p/b.js", "/p/c.js"] : List Path) ∧
    lattice.resolved? "/p/b.js" = some (["/p/c.js"] : List Path) ∧
    lattice.resolved? "/p/c.js" = some (["/p/b.js"] : List Path) ∧
    latticeRebuild.after.resolved? "/p/c.js" = some (["/p/b.js"] : List Path) ∧
    lattice.resolved? "/p/d.js" = none := by
  decide +kernel

theorem mem_lattice {p : Path} (h : lattice.Member p) : p ∈ latticeFiles :=
  mem_of_isClosed lattice_computes.1.1 h

theorem proper_lattice : lattice.Proper where
  built := .putFile _ _ (.putFile _ _ (.putFile _ _ (.putFile _ _ .empty)))
  base := lattice_computes.2.1.1
  directory := lattice_computes.2.1.2.2.1
  out := lattice_computes.2.1.2.1
  answers _ _ _ := by simp [lattice, SourceTransform.scan]
  distinct p q d e hp hq := eq_of_isApart lattice_computes.1.2 (mem_lattice hp) (mem_lattice hq)

theorem rests_latticeRebuild : lattice.Rests latticeRebuild.rested := by
  obtain ⟨-, -, ⟨hclear, hnext⟩, -⟩ := lattice_computes
  exact .finished (FreshBuild.Reaches.start.run 50 hclear)
    (BuildSession.step?_eq_none_of_next? (Option.isNone_iff_eq_none.1 hnext))

theorem resolves_lattice : lattice.Resolves "/p/a.js" ["/p/b.js", "/p/c.js"] ∧
    lattice.Resolves "/p/b.js" ["/p/c.js"] ∧ lattice.Resolves "/p/c.js" ["/p/b.js"] ∧
    latticeRebuild.after.Resolves "/p/c.js" ["/p/b.js"] ∧
    ∀ files, ¬ lattice.Resolves "/p/d.js" files := by
  obtain ⟨-, -, -, ha, hb, hc, hafter, hd⟩ := lattice_computes
  simp only [resolves_iff]
  exact ⟨ha, hb, hc, hafter, by simp [hd]⟩

theorem isOutput_lattice : lattice.IsOutput "/p/a.js" "/p/out/a.js" ∧
    lattice.IsOutput "/p/b.js" "/p/out/b.js" ∧ lattice.IsOutput "/p/c.js" "/p/out/c.js" :=
  ⟨⟨"a.js", ⟨by decide +kernel, rfl, by decide +kernel, ".js", by decide +kernel⟩,
      by decide +kernel⟩,
    ⟨"b.js", ⟨by decide +kernel, rfl, by decide +kernel, ".js", by decide +kernel⟩,
      by decide +kernel⟩,
    ⟨"c.js", ⟨by decide +kernel, rfl, by decide +kernel, ".js", by decide +kernel⟩,
      by decide +kernel⟩⟩

theorem imports_lattice : lattice.Imports "/p/a.js" "/p/c.js" ∧
    lattice.Imports "/p/b.js" "/p/c.js" ∧ lattice.Imports "/p/c.js" "/p/b.js" := by
  obtain ⟨ha, hb, hc, -⟩ := resolves_lattice
  obtain ⟨⟨arest, hacode, -⟩, ⟨brest, hbcode, -⟩, ⟨crest, hccode, -⟩⟩ := isOutput_lattice
  obtain ⟨-, ⟨-, -, -, -, hentry⟩, -⟩ := lattice_computes
  have hmember : lattice.Member "/p/a.js" :=
    hentry ▸ .entry List.mem_cons_self ⟨arest, hentry ▸ hacode⟩
  have hbmember : lattice.Member "/p/b.js" := .imported hmember ha (by simp) ⟨brest, hbcode⟩
  have hcmember : lattice.Member "/p/c.js" := .imported hmember ha (by simp) ⟨crest, hccode⟩
  exact ⟨⟨hmember, _, ha, by simp⟩, ⟨hbmember, _, hb, by simp⟩, ⟨hcmember, _, hc, by simp⟩⟩

theorem proper_latticeRebuild : latticeRebuild.Proper where
  sound := (proper_lattice.built.putFile _ _).sound
  directory := lattice_computes.2.1.2.2.2.1
  member := imports_lattice.2.2.1
  recorded := recorded_of_imports fun q ⟨files, hfiles, hq⟩ => by
    obtain ⟨-, -, hbefore, hafter, -⟩ := resolves_lattice
    obtain rfl := hfiles.unique hafter
    exact ⟨imports_lattice.2.2.1, _, hbefore, hq⟩

/-- The file that cannot be built is no importer. -/
theorem outdates_lattice (d : Path) : latticeRebuild.Outdates d ↔
    ∃ e ∈ (["/p/out/a.js", "/p/out/b.js", "/p/out/c.js"] : List Path),
      e.components = d.components := by
  obtain ⟨hacode, hbcode, hccode⟩ := isOutput_lattice
  constructor
  · rintro (⟨e, he, hsame⟩ | ⟨p, e, hne, hchain, he, hsame⟩)
    · obtain rfl := he.unique hccode
      exact ⟨_, by simp, hsame⟩
    · have hp := mem_lattice (Imports.member_of_transGen hchain)
      simp only [latticeFiles, List.mem_cons, List.not_mem_nil, or_false] at hp
      obtain rfl | rfl | rfl | rfl := hp
      · obtain rfl := he.unique hacode
        exact ⟨_, by simp, hsame⟩
      · obtain rfl := he.unique hbcode
        exact ⟨_, by simp, hsame⟩
      · exact absurd rfl hne
      · obtain ⟨_, ⟨-, files, hfiles, -⟩, -⟩ := Relation.TransGen.head'_iff.1 hchain
        exact absurd hfiles (resolves_lattice.2.2.2.2 files)
  · rintro ⟨e, he, hsame⟩
    simp only [List.mem_cons, List.not_mem_nil, or_false] at he
    obtain rfl | rfl | rfl := he
    · exact Or.inr ⟨_, _, by decide, .single imports_lattice.1, hacode, hsame⟩
    · exact Or.inr ⟨_, _, by decide, .single imports_lattice.2.1, hbcode, hsame⟩
    · exact Or.inl ⟨_, hccode, hsame⟩

/-- A watch session drops three outputs. -/
theorem names_importers_lattice : lattice.Proper ∧ lattice.Rests latticeRebuild.rested ∧
    latticeRebuild.Proper ∧
    ∃ told, (BuildSession.run 50 latticeRebuild.session).sent =
        latticeRebuild.rested.sent ++ told ∧
      ∃ message ∈ told, message.1 = ⟨2, 0⟩ ∧ message.2.isFileBuilt = true ∧
        ∀ w : WatchSession, w.events = [message.2] → ∃ w' notice,
          w.takeEvent? latticeRebuild.tree (fun _ => true) = some (w', notice) ∧
          ∀ d : Path, (∃ k ∈ notice.stale, k.components = d.components) ↔
            ∃ e ∈ (["/p/out/a.js", "/p/out/b.js", "/p/out/c.js"] : List Path),
              e.components = d.components := by
  have hreaches : latticeRebuild.Reaches (BuildSession.run 50 latticeRebuild.session) :=
    Reaches.start.run 50 (by decide +kernel)
  have hnext : (BuildSession.run 50 latticeRebuild.session).next? = none :=
    Option.isNone_iff_eq_none.1 (by decide +kernel)
  obtain ⟨-, -, hends⟩ :=
    names_importers proper_lattice rests_latticeRebuild proper_latticeRebuild
  obtain ⟨-, told, hsent, hsucceeds, hreports⟩ :=
    hends _ hreaches (BuildSession.step?_eq_none_of_next? hnext)
  obtain ⟨message, hmessage, haddressee, hbuilt⟩ :=
    hsucceeds.2 ⟨_, resolves_lattice.2.2.2.1⟩
  refine ⟨proper_lattice, rests_latticeRebuild, proper_latticeRebuild, told, hsent, message,
    hmessage, haddressee, hbuilt, fun w hevents => ?_⟩
  obtain ⟨-, htake⟩ := hreports message hmessage hbuilt
  obtain ⟨w', notice, htaken, -, hstale⟩ := htake w latticeRebuild.tree (fun _ => true) [] hevents
  exact ⟨w', notice, htaken, fun d => (hstale d).trans (outdates_lattice d)⟩

end Rebuild

end LiveBuild.FreshBuild
