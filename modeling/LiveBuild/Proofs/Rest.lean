import LiveBuild.Proofs.Links

/-!
# What a finished request leaves behind

When a request is through and its tasks are gone, each member of the closure has a record under its
output, which can be found under the member itself. None of the records is being built, and the
register knows the links between the outputs.
-/

namespace LiveBuild

namespace Register

variable {r : Register} {d p : Path}

theorem exists_record_of_sourceAt (h : r.sourceAt d = some p) :
    ∃ record ∈ r.outline, record.1.components = d.components ∧ record.2.1 = p := by
  obtain ⟨target, hget, rfl⟩ := Option.map_eq_some_iff.1 h
  obtain ⟨k, hk, hsame⟩ := PathMap.exists_mem_of_get? hget
  exact ⟨_, List.mem_map_of_mem hk, hsame, rfl⟩

end Register

namespace FreshBuild

/-- A session that no task works on any more, with the records of a closure. -/
structure Rested (b : FreshBuild) (requests : List (Path × Path)) (s : BuildSession FileTree) :
    Prop where
  options : s.options = b.options
  sourceTransform : s.sourceTransform = b.sourceTransform
  held : s.held = false
  idle : s.tasks = []
  targets : ∀ d p, s.register.sourceAt d = some p →
    ∃ e, b.Target ⟨p, e⟩ ∧ e.components = d.components
  recorded : ∀ p d, b.Member p → b.IsOutput p d → s.register.sourceAt d = some p
  aliased : ∀ p, b.Member p → ∃ d, s.register.aliases.get? p = some d ∧ b.IsOutput p d
  settled : ∀ d, s.register.statusAt d ≠ some .building
  traced : s.register.Traced requests
  links : ∀ d e, (d, e) ∈ requests ↔ b.Links d e

/-- Every recorded source is an alias of its output, and what is being built is worked on. -/
structure Filed (b : FreshBuild) (s : BuildSession FileTree) : Prop where
  aliased : ∀ p ∈ s.register.sources,
    ∃ d, s.register.aliases.get? p = some d ∧ b.IsOutput p d
  manned : s.Manned

variable {b : FreshBuild} {s t : BuildSession FileTree} {task : BuildTask}
  {turn : BuildSession.Turn FileTree} {p q d : Path} {requests : List (Path × Path)}

theorem Proper.eq_of_components (hb : b.Proper) (hp : b.Member p) (hq : b.Member q)
    (hpq : p.components = q.components) : p = q := by
  obtain ⟨rest, hcode⟩ := hp.eligible
  obtain ⟨rest', hcode'⟩ := hq.eligible
  exact hb.eq_of_output hp hq ⟨rest, hcode, rfl⟩ ⟨rest', hcode', rfl⟩
    (components_codeOutput_congr hb.base hb.out hcode.below hcode'.below hpq)

theorem Rested.outside (h : b.Rested requests s) (hp : b.Member p) :
    p.startsWith b.options.outDir = false := by
  obtain ⟨d, hd⟩ := hp.exists_output
  obtain ⟨e, htarget, -⟩ := h.targets d p (h.recorded p d hp hd)
  exact htarget.outside

theorem filed_session : b.Filed b.session where
  aliased _ h := nomatch h
  manned _ h := nomatch h

theorem aliased_turn (hb : b.Proper) (hgoing : b.Going s) (h : b.Filed s) (htask : task ∈ s.tasks)
    (hturn : s.Turns task turn) :
    ∀ p ∈ turn.register.sources, ∃ d, turn.register.aliases.get? p = some d ∧ b.IsOutput p d := by
  have hfits := hgoing.underway.fits task htask
  cases hturn with
  | claim hstage => simp [hstage, Fits] at hfits
  | attach hstage => simp [hstage, Fits] at hfits
  | meet hstage => simp [hstage, Fits] at hfits
  | join hstage hcode hcontains =>
      intro p hp
      rw [Register.sources_enroll_of_contains hcontains] at hp
      simpa [Register.aliases_enroll, hcontains] using h.aliased p hp
  | @begin path rest requester hstage hcode hnew =>
      have htarget := (target_of_visit hb hgoing.underway hgoing.accounted htask hgoing.clear hstage
        hcode).1
      intro p hp
      rw [Register.sources_enroll_of_not_contains hnew] at hp
      simp only [Register.aliases_enroll, hnew, Bool.false_eq_true, ↓reduceIte, PathMap.get?_insert]
      have hmember : b.Member p := by
        rcases List.mem_append.1 hp with hp | hp
        · exact hgoing.accounted.mem_sources hp
        · rw [List.mem_singleton.1 hp]
          exact htarget.member
      split
      · rename_i hsame
        obtain rfl := hb.eq_of_components htarget.member hmember (Path.same_iff.1 hsame)
        exact ⟨_, rfl, htarget.output⟩
      · rename_i hother
        rcases List.mem_append.1 hp with hp | hp
        · exact h.aliased p hp
        · rw [List.mem_singleton.1 hp] at hother
          exact absurd (Path.same_self path) hother
  | finish => simpa using h.aliased
  | finishFailed => simpa using h.aliased
  | _ => exact h.aliased

theorem Reaches.filed (hb : b.Proper) (h : b.Reaches s) : b.Filed s := by
  induction h with
  | start => exact filed_session
  | step hs hstep hclear ih =>
      obtain ⟨id, hid⟩ := hstep
      obtain ⟨task, turn, hfound, hturn, rfl⟩ := BuildSession.exists_turn hid
      obtain ⟨htask, -⟩ := BuildSession.mem_of_task? hfound
      have hgoing := hs.going hb
      refine ⟨aliased_turn hb hgoing ih htask hturn, ?_⟩
      refine ih.manned.perform hgoing.underway.orderly htask hturn fun hcrashed => ?_
      have hfits := hgoing.underway.fits_after hb htask hturn hgoing.clear hclear
      rwa [hcrashed] at hfits

/-- Nothing is left of the tasks of a finished request. -/
theorem collect_tasks_eq_nil
    (h : ∀ task ∈ s.tasks, task.parent = none ∧ ∃ count, task.stage = .done count ∧
      task.agenda = .single) : s.collect.1.tasks = [] := by
  apply List.filter_eq_nil_iff.2
  intro task htask
  obtain ⟨hparent, count, hstage, hagenda⟩ := h task htask
  simp [BuildSession.outcome?, hparent, hstage, hagenda]

theorem Reaches.rested (hb : b.Proper) (h : b.Reaches s) (hstuck : ∀ id, s.step? id = none) :
    ∃ requests, b.Rested requests s.collect.1 := by
  obtain ⟨requests, hlinked⟩ := h.linked hb
  have hgoing := h.going hb
  have hfiled := h.filed hb
  have hsources : ∀ p, p ∈ s.register.sources ↔ b.Member p := fun p =>
    hgoing.pursued.mem_sources_iff hgoing.underway hgoing.accounted hstuck
  have hfinished : ∀ task ∈ s.tasks, ∃ count, task.stage = .done count ∧ task.agenda = .single :=
    fun _ htask => hgoing.underway.finished hstuck htask
  refine ⟨requests, ?_⟩
  exact
    { options := hgoing.underway.options
      sourceTransform := hgoing.underway.sourceTransform
      held := hgoing.underway.held
      idle := collect_tasks_eq_nil fun task htask =>
        ⟨(hgoing.underway.orderly.finished hgoing.underway.held hstuck htask).1,
          hfinished task htask⟩
      targets := fun d p hsource => by
        obtain ⟨record, hrecord, hsame, rfl⟩ := Register.exists_record_of_sourceAt hsource
        exact ⟨record.1, (hgoing.accounted.records record hrecord).1, hsame⟩
      recorded := fun p d hp hd => by
        have hrecorded := (hsources p).2 hp
        have htarget : b.Target ⟨p, d⟩ := by
          obtain ⟨record, hrecord, rfl⟩ := List.mem_map.1 hrecorded
          have hrecord := (hgoing.accounted.records record hrecord).1
          rwa [hd.unique hrecord.output]
        obtain ⟨p', hp'⟩ := Register.contains_iff_sourceAt.1
          ((hgoing.accounted.contains_iff hb htarget).2 hrecorded)
        obtain ⟨record, hrecord, hsame, rfl⟩ := Register.exists_record_of_sourceAt hp'
        rw [← hb.eq_of_same_output (hgoing.accounted.records record hrecord).1 htarget hsame]
        exact hp'
      aliased := fun p hp => hfiled.aliased p ((hsources p).2 hp)
      settled := fun d => hfiled.manned.not_building fun task htask => by
        obtain ⟨count, hstage, -⟩ := hfinished task htask
        rw [hstage]
        rfl
      traced := hlinked.traced
      links := fun d e => hlinked.mem_iff hgoing hstuck }

end FreshBuild

end LiveBuild
