import LiveBuild.Proofs.Importers
import LiveBuild.Proofs.Requests

/-!
# The links between outputs

A task that looks at a code file on behalf of another target asks for its output, and nothing else
is ever asked for in this way. Such a task is started for every import of a member whose imports are
all found, and for no others. So when a request is through, the register knows the import graph of
the closure: one output is linked to another if the source of the one was transformed and imports
the source of the other.
-/

namespace LiveBuild

open Relation

namespace BuildSession

variable {σ : Type} [FileStore σ] {s : BuildSession σ} {task : BuildTask} {turn : Turn σ}
  {requests : List (Path × Path)} {request : Path × Path}

/-- The next step of a task asks for the output of a code file on behalf of another target. -/
def Asks (s : BuildSession σ) (task : BuildTask) (request : Path × Path) : Prop :=
  ∃ path rest, task.stage = .visit path (some request.1) ∧ s.options.IsCode s.store path rest ∧
    request.2 = s.options.codeOutput rest

theorem asks_iff_of_visit {path rest : Path} {requester : Option Path}
    (hstage : task.stage = .visit path requester) (hcode : s.options.IsCode s.store path rest) :
    s.Asks task request ↔ request ∈ Register.asked requester (s.options.codeOutput rest) := by
  simp only [Register.asked, List.mem_map, Option.mem_toList]
  constructor
  · rintro ⟨path', rest', hstage', hcode', houtput⟩
    obtain ⟨rfl, rfl⟩ := BuildTask.Stage.visit.inj (hstage.symm.trans hstage')
    obtain rfl := Except.ok.inj (hcode.below.symm.trans hcode'.below)
    exact ⟨request.1, rfl, Prod.ext rfl houtput.symm⟩
  · rintro ⟨q, rfl, rfl⟩
    exact ⟨path, rest, hstage, hcode, rfl⟩

/-- The register takes in what a turn asks for on behalf of a recorded target. -/
theorem Turns.exists_traced (hturn : Turns s task turn) (h : s.register.Traced requests)
    (hrecorded : ∀ path requester, task.stage = .visit path (some requester) →
      s.register.targets.contains requester = true) :
    ∃ requests', turn.register.Traced requests' ∧
      ∀ request, request ∈ requests' ↔ request ∈ requests ∨ s.Asks task request := by
  have hnone : turn.register.Traced requests → (∀ request, ¬ s.Asks task request) →
      ∃ requests', turn.register.Traced requests' ∧
        ∀ request, request ∈ requests' ↔ request ∈ requests ∨ s.Asks task request := by
    intro htraced hnot
    exact ⟨requests, htraced, fun request => (or_iff_left (hnot request)).symm⟩
  have hpassed : ∀ {path : Path} {requester : Option Path}, task.stage = .visit path requester →
      (∀ rest, ¬ s.options.IsCode s.store path rest) → ∀ request, ¬ s.Asks task request := by
    rintro path requester hstage hnot request ⟨path', rest, hstage', hcode, -⟩
    obtain ⟨rfl, -⟩ := BuildTask.Stage.visit.inj (hstage.symm.trans hstage')
    exact hnot rest hcode
  have hother : (∀ path requester, task.stage ≠ .visit path requester) →
      ∀ request, ¬ s.Asks task request := by
    rintro hstage request ⟨path, rest, hvisit, -⟩
    exact hstage _ _ hvisit
  cases hturn with
  | claim hstage => exact hnone (h.reopen _ _) (hother (by simp [hstage]))
  | attach hstage => exact hnone (h.reopen _ _) (hother (by simp [hstage]))
  | meet hstage => exact hnone (h.reopen _ _) (hother (by simp [hstage]))
  | pass hstage hcode => exact hnone h (hpassed hstage hcode)
  | refuse e hstage hcode => exact hnone h (hpassed hstage hcode)
  | asset hstage hcode => exact hnone h (hpassed hstage hcode)
  | assetFailed hstage hcode => exact hnone h (hpassed hstage hcode)
  | walk hstage hwalked =>
      exact hnone h (hpassed hstage hwalked.not_isCode)
  | join hstage hcode hcontains =>
      refine ⟨_, h.join (fun q hq => hrecorded _ q (by rw [hstage, hq])) hcontains,
        fun request => ?_⟩
      rw [List.mem_append, asks_iff_of_visit hstage hcode]
  | begin hstage hcode hnew =>
      refine ⟨_, h.create (fun q hq => hrecorded _ q (by rw [hstage, hq])) hnew, fun request => ?_⟩
      rw [List.mem_append, asks_iff_of_visit hstage hcode]
  | finish hstage => exact hnone (h.close _ _) (hother (by simp [hstage]))
  | finishFailed hstage => exact hnone (h.close _ _) (hother (by simp [hstage]))
  | _ => exact hnone h (hother (by simp_all))

end BuildSession

namespace FreshBuild

/-- A member of the closure was read and transformed, all its imports were found, and one of them is
this. -/
def Imports (b : FreshBuild) (p q : Path) : Prop :=
  b.Member p ∧ ∃ files, b.Resolves p files ∧ q ∈ files

/-- One output is that of a source which imports the source of the other. -/
def Links (b : FreshBuild) (d e : Path) : Prop :=
  ∃ p q, b.Imports p q ∧ b.IsOutput p d ∧ b.IsOutput q e

/-- An import of a source is about to be looked at for the output of the source, or its own output
was asked for. -/
def Sought (b : FreshBuild) (requests : List (Path × Path)) (s : BuildSession FileTree)
    (d q : Path) : Prop :=
  (∃ task ∈ s.tasks, task.stage = .visit q (some d)) ∨ ∀ e, b.IsOutput q e → (d, e) ∈ requests

/-- The register has heard of the links between outputs, except for those that are still sought. -/
structure Linked (b : FreshBuild) (requests : List (Path × Path)) (s : BuildSession FileTree) :
    Prop where
  traced : s.register.Traced requests
  drawn : ∀ request ∈ requests, b.Links request.1 request.2
  asking : ∀ task ∈ s.tasks, ∀ path requester, task.stage = .visit path (some requester) →
    s.register.targets.contains requester = true ∧
      ∃ p, b.Imports p path ∧ b.IsOutput p requester
  sought : ∀ p ∈ s.register.sources, (∃ task ∈ s.tasks, task.stage.early? = some p) ∨
    ∀ q, b.Imports p q → ∀ d, b.IsOutput p d → b.Sought requests s d q

variable {b : FreshBuild} {s t : BuildSession FileTree} {task u : BuildTask}
  {turn : BuildSession.Turn FileTree} {p q d e : Path} {requests : List (Path × Path)}

theorem linked_session : b.Linked [] b.session where
  traced := Register.traced_empty
  drawn _ h := nomatch h
  asking task htask path requester hstage := by
    rw [List.mem_singleton.1 htask] at hstage
    contradiction
  sought _ h := nomatch h

section Turn

variable (hb : b.Proper) (h : b.Going s) (htask : task ∈ s.tasks) (hturn : s.Turns task turn)
  (hclear : b.Clear (s.perform task turn)) {requests' : List (Path × Path)}
  (hmem : ∀ request, request ∈ requests' ↔ request ∈ requests ∨ s.Asks task request)

include h htask

theorem isOutput_of_isCode {path rest : Path} {requester : Option Path}
    (hstage : task.stage = .visit path requester) (hcode : s.options.IsCode s.store path rest) :
    b.IsOutput path (s.options.codeOutput rest) := by
  rw [h.underway.isCode_iff (h.clear task htask path requester hstage)] at hcode
  exact ⟨rest, hcode, by rw [h.underway.options]⟩

include hmem

theorem drawn_turn (hlinked : b.Linked requests s) :
    ∀ request ∈ requests', b.Links request.1 request.2 := by
  intro request hrequest
  rcases (hmem request).1 hrequest with hbefore | ⟨path, rest, hstage, hcode, houtput⟩
  · exact hlinked.drawn request hbefore
  · obtain ⟨-, p, himports, hp⟩ := hlinked.asking task htask path request.1 hstage
    rw [houtput]
    exact ⟨p, path, himports, hp, isOutput_of_isCode h htask hstage hcode⟩

include hturn

theorem Sought.perform (hsought : b.Sought requests s d q) :
    b.Sought requests' (s.perform task turn) d q := by
  rcases hsought with ⟨u, hu, hstage⟩ | hasked
  · by_cases hne : u = task
    · subst hne
      refine Or.inr fun e ⟨rest, hcode, houtput⟩ => (hmem _).2 (Or.inr ⟨q, rest, hstage, ?_, ?_⟩)
      · rwa [h.underway.isCode_iff (h.clear u hu q (some d) hstage)]
      · rw [h.underway.options]
        exact houtput
    · exact Or.inl ⟨u, BuildSession.mem_perform_of_ne h.underway.orderly htask hturn hu hne
        (count?_eq_none_of_visit hstage), hstage⟩
  · exact Or.inr fun e he => (hmem _).2 (Or.inl (hasked e he))

include hb hclear

theorem sought_turn (hlinked : b.Linked requests s) :
    ∀ p ∈ turn.register.sources,
      (∃ u ∈ (s.perform task turn).tasks, u.stage.early? = some p) ∨
        ∀ q, b.Imports p q → ∀ d, b.IsOutput p d →
          b.Sought requests' (s.perform task turn) d q := by
  intro p hp
  have hafter := BuildSession.after_mem_perform h.underway.orderly htask turn
  rcases mem_sources_of_mem_turn h.underway htask hturn hp with hp | hearly
  · rcases hlinked.sought p hp with ⟨u, hu, hearly⟩ | hsought
    · by_cases hne : u = task
      · subst hne
        rcases early?_turn hb h.underway htask hturn h.clear hclear hearly with
          hearly | hnone | ⟨job, files, rfl, hjob, hfiles, hspawned⟩
        · exact Or.inl ⟨_, hafter, hearly⟩
        · exact Or.inr fun q ⟨_, files, hfiles, _⟩ => absurd hfiles (hnone files)
        · refine Or.inr fun q ⟨_, files', hfiles', hq⟩ d hd => Or.inl ?_
          obtain rfl := hfiles'.unique hfiles
          obtain rfl := hd.unique ((h.underway.fits u htask).target hjob).output
          have hvisit : BuildTask.Stage.visit q (some job.dest) ∈ turn.spawned := by
            rw [hspawned]
            exact List.mem_map_of_mem hq
          obtain ⟨v, hv, hstage⟩ := BuildSession.exists_started s u hvisit
          exact ⟨v, BuildSession.started_mem_perform h.underway.orderly htask hv, hstage⟩
      · exact Or.inl ⟨u, BuildSession.mem_perform_of_ne h.underway.orderly htask hturn hu hne
          (count?_eq_none_of_early? hearly), hearly⟩
    · exact Or.inr fun q himports d hd =>
        (hsought q himports d hd).perform h htask hturn hmem
  · exact Or.inl ⟨_, hafter, hearly⟩

include hturn hb hclear in
omit hmem in
theorem asking_started (hu : u ∈ s.started task turn.spawned) {path requester : Path}
    (hstage : u.stage = .visit path (some requester)) :
    s.register.targets.contains requester = true ∧
      ∃ p, b.Imports p path ∧ b.IsOutput p requester := by
  have hspawned := (BuildSession.mem_started hu).2.2.2.2.2.2
  rw [hstage] at hspawned
  cases hturn with
  | walk => simp at hspawned
  | @resolve job output files hlookUp hfiles =>
      obtain ⟨file, hfile, hvisit⟩ := List.mem_map.1 hspawned
      obtain ⟨rfl, hrequester⟩ := BuildTask.Stage.visit.inj hvisit
      obtain rfl := Option.some.inj hrequester
      obtain ⟨hjob, hresolves⟩ := h.underway.resolves htask hclear hlookUp rfl hfiles
      refine ⟨(h.accounted.contains_iff hb hjob).2 ?_, job.source,
        ⟨hjob.member, files, hresolves, hfile⟩, hjob.output⟩
      exact h.accounted.mem_sources_of_source? htask hjob.member (by rw [hlookUp]; rfl)
  | _ => simp [BuildSession.turnTo] at hspawned

include hturn hb hclear in
omit hmem in
theorem Linked.perform (hlinked : b.Linked requests s) :
    ∃ requests', b.Linked requests' (s.perform task turn) := by
  obtain ⟨requests', htraced, hmem⟩ := hturn.exists_traced hlinked.traced
    fun path requester hstage => (hlinked.asking task htask path requester hstage).1
  have hkept : ∀ d, s.register.targets.contains d = true →
      turn.register.targets.contains d = true := by
    intro d hd
    obtain ⟨source, hsource⟩ := Register.contains_iff_sourceAt.1 hd
    exact Register.contains_iff_sourceAt.2 ⟨source, hturn.sourceAt_eq hsource⟩
  refine ⟨requests', htraced, drawn_turn h htask hmem hlinked, fun u hu path requester hstage => ?_,
    sought_turn hb h htask hturn hclear hmem hlinked⟩
  rcases (BuildSession.mem_tasks_perform h.underway.orderly htask turn).1 hu with ⟨hu, -⟩ | rfl | hu
  · exact (hlinked.asking u hu path requester hstage).imp_left (hkept requester)
  · exact absurd hstage (hturn.stage_ne_visit path requester)
  · exact (asking_started hb h htask hturn hclear hu hstage).imp_left (hkept requester)

end Turn

theorem Reaches.linked (hb : b.Proper) (h : b.Reaches s) : ∃ requests, b.Linked requests s := by
  induction h with
  | start => exact ⟨[], linked_session⟩
  | step hs hstep hclear ih =>
      obtain ⟨requests, hlinked⟩ := ih
      obtain ⟨id, hid⟩ := hstep
      obtain ⟨task, turn, hfound, hturn, rfl⟩ := BuildSession.exists_turn hid
      exact hlinked.perform hb (hs.going hb) (BuildSession.mem_of_task? hfound).1 hturn hclear

/-- At the end of a request the register has heard of exactly the links between outputs. -/
theorem Linked.mem_iff (h : b.Linked requests s) (hgoing : b.Going s)
    (hstuck : ∀ id, s.step? id = none) : (d, e) ∈ requests ↔ b.Links d e := by
  refine ⟨h.drawn (d, e), fun ⟨p, q, himports, hd, he⟩ => ?_⟩
  have hp := (hgoing.pursued.mem_sources_iff hgoing.underway hgoing.accounted hstuck).2 himports.1
  have hdone : ∀ task ∈ s.tasks, ∃ count, task.stage = .done count := fun task htask =>
    (hgoing.underway.finished hstuck htask).imp fun _ => And.left
  rcases h.sought p hp with ⟨task, htask, hearly⟩ | hsought
  · obtain ⟨count, hcount⟩ := hdone task htask
    simp [hcount, BuildTask.Stage.early?] at hearly
  · rcases hsought q himports d hd with ⟨task, htask, hvisit⟩ | hasked
    · obtain ⟨count, hcount⟩ := hdone task htask
      simp [hcount] at hvisit
    · exact hasked e he

/-- A destination is the output of a recorded source that imports another one, directly or through
others. -/
def Importer (b : FreshBuild) (q d : Path) : Prop :=
  ∃ p e, p ≠ q ∧ TransGen b.Imports p q ∧ b.IsOutput p e ∧ e.components = d.components

theorem Member.exists_output (h : b.Member p) : ∃ d, b.IsOutput p d := by
  obtain ⟨rest, hcode⟩ := h.eligible
  exact ⟨_, rest, hcode, rfl⟩

theorem Imports.member (h : b.Imports p q) (he : b.IsOutput q e) : b.Member q := by
  obtain ⟨hp, files, hfiles, hq⟩ := h
  obtain ⟨rest, hcode, -⟩ := he
  exact hp.imported hfiles hq ⟨rest, hcode⟩

theorem Imports.member_of_transGen (h : TransGen b.Imports p q) : b.Member p := by
  obtain ⟨_, himports, -⟩ := TransGen.head'_iff.1 h
  exact himports.1

theorem Proper.eq_of_output (hb : b.Proper) (hp : b.Member p) (hq : b.Member q)
    (hd : b.IsOutput p d) (he : b.IsOutput q e) (hde : d.components = e.components) : p = q :=
  hb.distinct p q d e hp hq hd.outputFor he.outputFor hde

/-- The chains of requests that lead to an output come from those that import its source. Requests
on behalf of the output itself make no difference. -/
theorem importer_iff (hb : b.Proper) (hq : b.Member q) (he : b.IsOutput q e)
    (hlinks : ∀ d e, b.Links d e → (d, e) ∈ requests)
    (hdrawn : ∀ request ∈ requests, b.Links request.1 request.2 ∨
      request.1.components = e.components) (d : Path) :
    (d.components ≠ e.components ∧
      TransGen (Register.Leads requests) d.components e.components) ↔ b.Importer q d := by
  constructor
  · rintro ⟨hne, hchain⟩
    have hall : ∀ x, TransGen (Register.Leads requests) x e.components → x = e.components ∨
        ∃ p d', TransGen b.Imports p q ∧ b.IsOutput p d' ∧ d'.components = x := by
      intro x hx
      induction hx using TransGen.head_induction_on with
      | single hleads =>
          obtain ⟨request, hrequest, hstart, hend⟩ := hleads
          rcases hdrawn request hrequest with ⟨p, k, himports, hp, hk⟩ | hsame
          · obtain rfl := hb.eq_of_output (himports.member hk) hq hk he hend
            exact Or.inr ⟨p, request.1, .single himports, hp, hstart⟩
          · exact Or.inl (hstart.symm.trans hsame)
      | head hleads _ ih =>
          obtain ⟨request, hrequest, hstart, hend⟩ := hleads
          rcases hdrawn request hrequest with ⟨p, k, himports, hp, hk⟩ | hsame
          · have hkmember := himports.member hk
            refine Or.inr ⟨p, request.1, ?_, hp, hstart⟩
            rcases ih with hfinal | ⟨k', d', hchain, hd', hsame⟩
            · obtain rfl := hb.eq_of_output hkmember hq hk he (hend.trans hfinal)
              exact .single himports
            · obtain rfl := hb.eq_of_output hkmember (Imports.member_of_transGen hchain) hk hd'
                (hend.trans hsame.symm)
              exact .head himports hchain
          · exact Or.inl (hstart.symm.trans hsame)
    obtain ⟨p, d', hchain, hd', hsame⟩ := (hall _ hchain).resolve_left hne
    refine ⟨p, d', ?_, hchain, hd', hsame⟩
    rintro rfl
    rw [hd'.unique he] at hsame
    exact hne hsame.symm
  · rintro ⟨p, d', hne, hchain, hd', hsame⟩
    rw [← hsame]
    refine ⟨fun hde => hne ?_, ?_⟩
    · exact hb.eq_of_output (Imports.member_of_transGen hchain) hq hd' he hde
    · clear hne hsame
      induction hchain using TransGen.head_induction_on generalizing d' with
      | single himports => exact .single ⟨_, hlinks d' e ⟨_, _, himports, hd', he⟩, rfl, rfl⟩
      | head himports hchain ih =>
          obtain ⟨k, hk⟩ := (Imports.member_of_transGen hchain).exists_output
          exact .head ⟨_, hlinks d' k ⟨_, _, himports, hd', hk⟩, rfl, rfl⟩ (ih k hk)

end FreshBuild

end LiveBuild
