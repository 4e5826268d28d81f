import LiveBuild.Proofs.Descent
import LiveBuild.Proofs.Pursuit

/-!
# A request builds the closure of its entries

In whatever order the tasks of a request go on, the request comes to an end, and then each member of
the closure has one record, was transformed once if it can be read, and was reported once: as built
if it could be transformed and its imports were found, and as failed otherwise.
-/

namespace LiveBuild.FreshBuild

/-- The sessions that a request leads to while no task looks into the output directory. -/
inductive Reaches (b : FreshBuild) : BuildSession FileTree → Prop
  | start : Reaches b b.session
  | step {s t : BuildSession FileTree} : Reaches b s → s.Steps t → b.Clear t → Reaches b t

/-- The end of a request. -/
structure Completed (b : FreshBuild) (s : BuildSession FileTree) : Prop where
  returned : ∃ total, ⟨0, some total⟩ ∈ s.collect.2
  recordedOnce : s.register.sources.Nodup
  recorded : ∀ p, p ∈ s.register.sources ↔ b.Member p
  outputs : ∀ record ∈ s.register.outline, b.IsOutput record.2.1 record.1
  transformedOnce : s.transformed.Nodup
  transformed : ∀ p, p ∈ s.transformed ↔ b.Member p ∧ b.Readable p
  reportedOnce : ∀ p, b.Member p → (subjects s.sent).count p = 1
  told : ∀ message ∈ s.sent, message.1 = b.addressee ∧ b.Tells message.2

/-- What is true at every moment of a request. -/
structure Going (b : FreshBuild) (s : BuildSession FileTree) : Prop where
  underway : b.Underway s
  accounted : b.Accounted s
  pursued : b.Pursued s
  clear : b.Clear s
  root : ∃ root ∈ s.tasks, root.parent = none ∧ root.call = 0

variable {b : FreshBuild} {s t : BuildSession FileTree}

theorem going_session (hb : b.Proper) : b.Going b.session where
  underway := underway_session hb
  accounted := accounted_session
  pursued := pursued_session
  clear := by
    intro task htask path requester hstage
    rw [List.mem_singleton.1 htask] at hstage
    contradiction
  root := ⟨⟨0, none, 0, b.addressee, .entries b.entries 0, .done 0⟩, List.mem_singleton.2 rfl,
    rfl, rfl⟩

theorem Going.step (hb : b.Proper) (h : b.Going s) (hstep : s.Steps t) (hclear : b.Clear t) :
    b.Going t := by
  obtain ⟨id, hid⟩ := hstep
  obtain ⟨task, turn, hfound, hturn, rfl⟩ := BuildSession.exists_turn hid
  obtain ⟨htask, -⟩ := BuildSession.mem_of_task? hfound
  refine ⟨?_, ?_, ?_, hclear, ?_⟩
  · exact h.underway.perform hb htask hturn h.clear hclear
  · exact h.accounted.perform hb h.underway htask hturn h.clear
  · exact h.pursued.perform hb h.underway h.accounted htask hturn h.clear hclear
  · exact BuildSession.exists_root_perform h.underway.orderly htask turn h.root

theorem Reaches.going (hb : b.Proper) (h : b.Reaches s) : b.Going s := by
  induction h with
  | start => exact going_session hb
  | step _ hstep hclear ih => exact ih.step hb hstep hclear

theorem Going.confined (hb : b.Proper) (h : b.Going s) : s.Confined b.tree where
  orderly := h.underway.orderly
  base := h.underway.options ▸ hb.base
  out := h.underway.options ▸ hb.out
  directory := h.underway.options ▸ hb.directory
  sound := h.underway.sound
  kept := h.underway.options ▸ h.underway.kept
  jobs task htask job hjob := by
    rw [h.underway.options]
    exact hb.startsWith_output ((h.underway.fits task htask).target hjob).output
  recorded d hd := by
    obtain ⟨record, hrecord, hsame⟩ := Register.contains_iff_outline.1 hd
    rw [h.underway.options, ← FileTree.startsWith_congr hsame]
    exact hb.startsWith_output (h.accounted.records record hrecord).1.output

theorem Going.no_infinite_run (hb : b.Proper) (h : b.Going s) :
    ¬ ∃ run : Nat → BuildSession FileTree, run 0 = s ∧
      ∀ n, (run n).Steps (run (n + 1)) ∧ b.Clear (run n) := by
  rintro ⟨run, rfl, hrun⟩
  have hgoing : ∀ n, b.Going (run n) := by
    intro n
    induction n with
    | zero => exact h
    | succ n ih => exact ih.step hb (hrun n).1 (hrun (n + 1)).2
  refine (h.confined hb).no_infinite_run ⟨run, rfl, fun n => ⟨(hrun n).1, ?_⟩⟩
  intro task htask path requester hstage
  rw [(hgoing n).underway.options]
  exact (hrun n).2 task htask path requester hstage

theorem workers_eq_zero {concerns : BuildTask.Stage → Option Path} {p : Path}
    (hconcerns : ∀ stage, stage.source? = none → concerns stage = none)
    (hdone : ∀ task ∈ s.tasks, ∃ count, task.stage = .done count) : workers concerns s p = 0 := by
  apply List.countP_eq_zero.2
  intro task htask
  obtain ⟨count, hstage⟩ := hdone task htask
  simp [hstage, hconcerns (.done count) rfl]

theorem Going.completed (h : b.Going s) (hstuck : ∀ id, s.step? id = none) : b.Completed s := by
  have hdone : ∀ task ∈ s.tasks, ∃ count, task.stage = .done count := by
    intro task htask
    obtain ⟨count, hstage, -⟩ := h.underway.finished hstuck htask
    exact ⟨count, hstage⟩
  have hmem : ∀ p, p ∈ s.register.sources ↔ b.Member p :=
    fun p => h.pursued.mem_sources_iff h.underway h.accounted hstuck
  have hcount : ∀ p, b.Member p → s.register.sources.count p = 1 :=
    fun p hp => List.count_eq_one_of_mem h.accounted.nodup ((hmem p).2 hp)
  have hread : ∀ p, b.Member p → b.Readable p → s.transformed.count p = 1 := by
    intro p hp hreadable
    have hunread := h.accounted.unread p hp hreadable
    rwa [workers_eq_zero (fun _ => unread?_of_source?) hdone, Nat.zero_add, hcount p hp] at hunread
  refine ⟨?_, h.accounted.nodup, hmem, ?_, ?_, ?_, ?_, h.accounted.told⟩
  · refine h.underway.orderly.returned_of_stuck h.underway.held (fun task htask hcrashed => ?_)
      hstuck h.root
    have hfits := h.underway.fits task htask
    rwa [hcrashed] at hfits
  · exact fun record hrecord => (h.accounted.records record hrecord).1.output
  · apply List.nodup_iff_count_eq_one.2
    intro p hp
    obtain ⟨hmember, hreadable⟩ := h.accounted.readable p hp
    exact hread p hmember hreadable
  · refine fun p => ⟨h.accounted.readable p, fun ⟨hp, hreadable⟩ => ?_⟩
    exact List.count_pos_iff.1 (by rw [hread p hp hreadable]; exact Nat.one_pos)
  · intro p hp
    have hreported := h.accounted.reported p hp
    rwa [workers_eq_zero (fun _ hstage => hstage) hdone, Nat.zero_add, hcount p hp] at hreported

theorem Reaches.options (h : b.Reaches s) : s.options = b.options := by
  induction h with
  | start => rfl
  | step _ hstep _ ih => rw [hstep.options_eq, ih]

theorem Reaches.run (h : b.Reaches s) (fuel : Nat) (hclear : s.isClearFor fuel = true) :
    b.Reaches (s.run fuel) := by
  refine BuildSession.run_induction (fun s t hs hstep ht => hs.step hstep ?_) fuel h hclear
  rwa [BuildSession.Clear, hstep.options_eq, hs.options] at ht

/-- **A request builds its closure.** In whatever order its tasks go on, a request ends, and at its
end each member of the closure of its entries has one record, was read and transformed at most once,
and was reported once. -/
theorem builds_closure (hb : b.Proper) :
    (¬ ∃ run : Nat → BuildSession FileTree, run 0 = b.session ∧
      ∀ n, (run n).Steps (run (n + 1)) ∧ b.Clear (run n)) ∧
    ∀ s, b.Reaches s → (∀ id, s.step? id = none) → b.Completed s :=
  ⟨(going_session hb).no_infinite_run hb, fun _ hs hstuck => (hs.going hb).completed hstuck⟩

/-- Files among which are the entries, none of them a directory, and the imports of each file. -/
def isClosed (b : FreshBuild) (files : List Path) : Bool :=
  (b.entries.all fun entry => !FileStore.isDirectory b.tree (b.options.entryPath entry) &&
    (!FileStore.isFile b.tree (b.options.entryPath entry) ||
      files.contains (b.options.entryPath entry))) &&
  files.all fun p => ((b.resolved? p).getD []).all files.contains

/-- No two files have one output. -/
def isApart (b : FreshBuild) (files : List Path) : Bool :=
  files.all fun p => files.all fun q => p == q ||
    ((b.options.outputFor p).toOption.map (·.components) !=
      (b.options.outputFor q).toOption.map (·.components))

theorem mem_of_isClosed {files : List Path} {p : Path} (hclosed : b.isClosed files = true)
    (h : b.Member p) : p ∈ files := by
  obtain ⟨hentries, hfiles⟩ := (Bool.and_eq_true _ _).mp hclosed
  induction h with
  | entry hentry heligible =>
      have hthis := List.all_eq_true.1 hentries _ hentry
      simp only [heligible.isFile, Bool.and_eq_true, Bool.not_true, Bool.false_or] at hthis
      exact List.contains_iff_mem.1 hthis.2
  | walk hentry hwalked =>
      have hthis := List.all_eq_true.1 hentries _ hentry
      simp [hwalked.1] at hthis
  | @imported p q files' _ hresolves hq _ ih =>
      have hthis := List.all_eq_true.1 hfiles p ih
      rw [resolves_iff.1 hresolves] at hthis
      exact List.contains_iff_mem.1 (List.all_eq_true.1 hthis q hq)

theorem eq_of_isApart {files : List Path} {p q d e : Path} (hapart : b.isApart files = true)
    (hp : p ∈ files) (hq : q ∈ files) (hd : b.options.outputFor p = .ok d)
    (he : b.options.outputFor q = .ok e) (hde : d.components = e.components) : p = q := by
  have hthis := List.all_eq_true.1 (List.all_eq_true.1 hapart p hp) q hq
  simpa [hd, he, hde, Except.toOption] using hthis

/-- Two files that import each other, and one that imports what is not there. -/
def trio : FreshBuild where
  tree := ((FileTree.empty.putFile "/p/a.js" "import \"./b\"".toUTF8).putFile
    "/p/b.js" "import \"./a\"".toUTF8).putFile "/p/c.js" "import \"./d\"".toUTF8
  options :=
    { baseDir := "/p", outDir := "/p/out", extensions := [".js"], resolveExtensions := [".js"],
      exclude := [], assets := ⟨[], [], "", ""⟩, extra := {} }
  sourceTransform := .scan
  entries := ["a.js", "c.js"]
  addressee := ⟨1, 0⟩

def trioFiles : List Path := ["/p/a.js", "/p/b.js", "/p/c.js"]

theorem proper_trio : trio.Proper where
  built := .putFile _ _ (.putFile _ _ (.putFile _ _ .empty))
  base := by decide +kernel
  directory := by decide +kernel
  out := by decide +kernel
  answers _ _ _ := by simp [trio, SourceTransform.scan]
  distinct p q d e hp hq := by
    have hclosed : trio.isClosed trioFiles = true := by decide +kernel
    have hapart : trio.isApart trioFiles = true := by decide +kernel
    exact eq_of_isApart hapart (mem_of_isClosed hclosed hp) (mem_of_isClosed hclosed hq)

theorem builds_closure_trio : trio.Proper ∧ trio.Completed (BuildSession.run 40 trio.session) := by
  have hreaches : trio.Reaches (BuildSession.run 40 trio.session) :=
    Reaches.start.run 40 (by decide +kernel)
  have hnext : (BuildSession.run 40 trio.session).next? = none :=
    Option.isNone_iff_eq_none.1 (by decide +kernel)
  exact ⟨proper_trio,
    (builds_closure proper_trio).2 _ hreaches (BuildSession.step?_eq_none_of_next? hnext)⟩

end LiveBuild.FreshBuild
