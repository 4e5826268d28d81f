import LiveBuild.Proofs.Coverage
import LiveBuild.Proofs.Ownership
import LiveBuild.Proofs.Refusals
import LiveBuild.Proofs.Subscribers
import Mathlib.Data.List.Induction

/-!
# Sources with one output

The register has one record for each destination. Where several sources have one output, the request
builds the source that it comes to first, and hears how that ends. Of the others it hears nothing:
they join the record of the first.
-/

namespace LiveBuild

namespace BuildOptions

variable {o : BuildOptions} {p rest : Path}

/-- A path is one of code, be there a file or not: it lies in the base directory, is not excluded,
and has an extension of code. -/
structure IsCodePath (o : BuildOptions) (p rest : Path) : Prop where
  below : o.belowBase p = .ok rest
  kept : o.excludes rest = false
  suffix : ∃ extension, p.suffix? = some extension ∧ o.extensions.contains extension = true ∧
    o.assets.treatmentOf? extension = none

theorem IsCode.isCodePath {σ : Type} [FileStore σ] {store : σ} (h : o.IsCode store p rest) :
    o.IsCodePath p rest := ⟨h.below, h.kept, h.suffix⟩

theorem IsCodePath.isCode {σ : Type} [FileStore σ] {store : σ} (h : o.IsCodePath p rest)
    (hfile : FileStore.isFile store p = true) : o.IsCode store p rest :=
  ⟨hfile, h.below, h.kept, h.suffix⟩

end BuildOptions

namespace BuildSession

section Moments

variable {σ : Type} [FileStore σ] {s : BuildSession σ} {task : BuildTask} {past : History σ}
  {moment : BuildSession σ × Move σ} {p d source : Path} {id : Nat}

/-- A task looks at a code file, whose output goes to a destination. -/
def Takes (moment : BuildSession σ × Move σ) (source d : Path) : Prop :=
  ∃ task requester rest, HasTurn moment task ∧ task.stage = .visit source requester ∧
    moment.1.options.IsCode moment.1.store source rest ∧ moment.1.options.codeOutput rest = d

/-- A source is the first one with its destination that a task has looked at. -/
def IsFirst (past : History σ) (d source : Path) : Prop :=
  ∃ earlier moment later dest, past = earlier ++ moment :: later ∧ Takes moment source dest ∧
    dest.components = d.components ∧
    ∀ other ∈ earlier, ∀ p e, Takes other p e → e.components ≠ d.components

/-- A task looks at a path where nothing is. -/
def lacks (p : Path) (moment : BuildSession σ × Move σ) : Bool :=
  match moment.2 with
  | .step id => (moment.1.task? id).any fun task =>
      match task.stage with
      | .visit path _ => decide (path = p) && !FileStore.exists? moment.1.store p
      | _ => false
  | _ => false

/-- The transform breaks down over a source. -/
def breaks (p : Path) (moment : BuildSession σ × Move σ) : Bool :=
  match moment.2 with
  | .step id => (moment.1.task? id).any fun task =>
      match task.stage with
      | .transform job text => decide (job.source = p) &&
          match moment.1.sourceTransform job.source text
            (.ofSource moment.1.store moment.1.options job.source) with
          | .crash => true
          | _ => false
      | _ => false
  | _ => false

variable {turn : Turn σ} {e : Path}

theorem takes_step (h : s.task? id = some task) : Takes (s, .step id) source d ↔
    ∃ requester rest, task.stage = .visit source requester ∧
      s.options.IsCode s.store source rest ∧ s.options.codeOutput rest = d := by
  constructor
  · rintro ⟨u, requester, rest, hturn, htakes⟩
    obtain rfl := hturn.unique (hasTurn_of_task? h)
    exact ⟨requester, rest, htakes⟩
  · rintro ⟨requester, rest, htakes⟩
    exact ⟨task, requester, rest, hasTurn_of_task? h, htakes⟩

theorem Takes.unique (h : Takes moment source d) (h' : Takes moment p e) : source = p ∧ d = e := by
  obtain ⟨task, requester, rest, hturn, hstage, hcode, rfl⟩ := h
  obtain ⟨u, requester', rest', hturn', hstage', hcode', rfl⟩ := h'
  obtain rfl := hturn.unique hturn'
  obtain ⟨rfl, -⟩ := BuildTask.Stage.visit.inj (hstage.symm.trans hstage')
  rw [Except.ok.inj (hcode.below.symm.trans hcode'.below)]
  exact ⟨rfl, rfl⟩

/-- A turn records the source that its task takes up, unless its destination has one. -/
theorem Turns.takes_cases (hturn : Turns s task turn) (hid : s.task? id = some task) :
    (∃ source e, Takes (s, .step id) source e ∧ ∀ q, turn.register.sourceAt q =
      if s.register.targets.contains e = false ∧ e.same q then some source
      else s.register.sourceAt q) ∨
    ((∀ source e, ¬ Takes (s, .step id) source e) ∧
      ∀ q, turn.register.sourceAt q = s.register.sourceAt q) := by
  simp only [takes_step hid]
  cases hturn with
  | join hstage hcode =>
      exact .inl ⟨_, _, ⟨_, _, hstage, hcode, rfl⟩, Register.sourceAt_enroll _ _ _ _ _⟩
  | begin hstage hcode =>
      exact .inl ⟨_, _, ⟨_, _, hstage, hcode, rfl⟩, Register.sourceAt_enroll _ _ _ _ _⟩
  | walk hstage hwalked =>
      refine .inr ⟨?_, fun _ => rfl⟩
      rintro source e ⟨requester, rest, hvisit, hcode, -⟩
      obtain ⟨rfl, -⟩ := BuildTask.Stage.visit.inj (hstage.symm.trans hvisit)
      exact hwalked.not_isCode _ hcode
  | pass hstage hnone | refuse e hstage hnone | asset hstage hnone | assetFailed hstage hnone =>
      refine .inr ⟨?_, fun _ => rfl⟩
      rintro source e ⟨requester, rest, hvisit, hcode, -⟩
      obtain ⟨rfl, -⟩ := BuildTask.Stage.visit.inj (hstage.symm.trans hvisit)
      exact hnone _ hcode
  | _ =>
      refine .inr ⟨?_, fun q => by simp [turnTo]⟩
      rintro source e ⟨requester, rest, hvisit, -⟩
      simp_all

theorem isFirst_snoc : IsFirst (past ++ [moment]) d source ↔ IsFirst past d source ∨
    (∀ other ∈ past, ∀ p e, Takes other p e → e.components ≠ d.components) ∧
      ∃ e, Takes moment source e ∧ e.components = d.components := by
  constructor
  · rintro ⟨earlier, first, later, e, hpast, htakes, he, hearlier⟩
    rcases snoc_cases hpast with ⟨rfl, rfl, -⟩ | ⟨later, -, rfl⟩
    · exact .inr ⟨hearlier, e, htakes, he⟩
    · exact .inl ⟨earlier, first, later, e, rfl, htakes, he, hearlier⟩
  · rintro (⟨earlier, first, later, e, rfl, htakes, he, hearlier⟩ | ⟨hpast, e, htakes, he⟩)
    · exact ⟨earlier, first, later ++ [moment], e, by simp, htakes, he, hearlier⟩
    · exact ⟨past, moment, [], e, rfl, htakes, he, hpast⟩

theorem exists_isFirst (h : ∃ other ∈ past, ∃ p e, Takes other p e ∧ e.components = d.components) :
    ∃ source, IsFirst past d source := by
  induction past using List.reverseRecOn with
  | nil =>
      obtain ⟨other, hother, -⟩ := h
      contradiction
  | append_singleton past moment ih =>
      simp only [isFirst_snoc]
      by_cases hpast : ∃ other ∈ past, ∃ p e, Takes other p e ∧ e.components = d.components
      · obtain ⟨source, hfirst⟩ := ih hpast
        exact ⟨source, .inl hfirst⟩
      · obtain ⟨other, hother, p, e, htakes, he⟩ := h
        rcases List.mem_append.1 hother with hother | hother
        · exact absurd ⟨other, hother, p, e, htakes, he⟩ hpast
        · rw [List.mem_singleton.1 hother] at htakes
          exact ⟨p, .inr ⟨fun other hother p e htakes he => hpast ⟨other, hother, p, e, htakes, he⟩,
            e, htakes, he⟩⟩

theorem lacks_step (h : s.task? id = some task) : lacks p (s, .step id) = true ↔
    ∃ requester, task.stage = .visit p requester ∧ FileStore.exists? s.store p = false := by
  simp only [lacks, h, Option.any_some]
  cases hstage : task.stage with
  | visit path requester =>
      simp only [Bool.and_eq_true, decide_eq_true_eq, Bool.not_eq_true']
      constructor
      · rintro ⟨rfl, hmissing⟩
        exact ⟨requester, rfl, hmissing⟩
      · rintro ⟨_, hvisit, hmissing⟩
        exact ⟨(BuildTask.Stage.visit.inj hvisit).1, hmissing⟩
  | _ => simp

theorem breaks_step (h : s.task? id = some task) : breaks p (s, .step id) = true ↔
    ∃ job text, task.stage = .transform job text ∧ job.source = p ∧
      s.sourceTransform job.source text (.ofSource s.store s.options job.source) = .crash := by
  simp only [breaks, h, Option.any_some]
  cases hstage : task.stage with
  | transform job text =>
      simp only [Bool.and_eq_true, decide_eq_true_eq]
      constructor
      · rintro ⟨hsource, hcrash⟩
        refine ⟨job, text, rfl, hsource, ?_⟩
        split at hcrash
        · assumption
        · contradiction
      · rintro ⟨job', text', htransform, hsource, hcrash⟩
        obtain ⟨rfl, rfl⟩ := BuildTask.Stage.transform.inj htransform
        exact ⟨hsource, by rw [hcrash]⟩
  | _ => simp

end Moments

end BuildSession

namespace FreshBuild

open BuildSession (History Turn HasTurn Runs Takes IsFirst lacks breaks)

/-- What a request hears of, at every moment. -/
structure Reckoned (b : FreshBuild) (past : History FileTree) (s : BuildSession FileTree) :
    Prop where
  options : s.options = b.options
  held : s.held = false
  called : s.Called
  root : s.Rooted 0
  sound : s.store.Sound
  task : ∀ task ∈ s.tasks, task.addressee = b.addressee ∧ task.call = 0 ∧
    ∀ path, task.stage ≠ .claim path
  subscribed : ∀ d, s.register.targets.contains d = true →
    s.register.subscribersAt d = [b.addressee]
  jobs : ∀ task ∈ s.tasks, ∀ job, task.stage.job? = some job →
    s.register.sourceAt job.dest = some job.source
  recorded : ∀ d source, s.register.sourceAt d = some source ↔ IsFirst past d source
  told : ∀ message ∈ s.sent, message.1 = b.addressee
  balance : ∀ p rest, b.options.IsCodePath p rest →
    workers (·.source?) s p + (subjects s.sent).count p + past.countP (breaks p) =
      past.countP (lacks p) +
        if s.register.sourceAt (b.options.codeOutput rest) = some p then 1 else 0

variable {b : FreshBuild} {s t : BuildSession FileTree} {past : History FileTree}
  {task u : BuildTask} {turn : Turn FileTree} {p d source rest : Path} {id : Nat}

open BuildSession in
/-- A look at a path where nothing is tells so. -/
theorem told_of_missing {path : Path} {requester : Option Path}
    (hstage : task.stage = .visit path requester) (hid : s.task? id = some task)
    (hstep : s.step? id = some (s.perform task turn))
    (hmissing : FileStore.exists? s.store path = false) :
    turn.told = [(task.addressee, .forFile path (.io path "no such file or directory"))] := by
  have hvisit := Option.some.inj (hstep.symm.trans (step?_visit hid hstage))
  rw [visit, if_pos (by simp [hmissing])] at hvisit
  exact List.append_cancel_left (congrArg BuildSession.sent hvisit)

namespace Reckoned

section Turn

variable (h : b.Reckoned past s) (hid : s.task? id = some task) (hturn : s.Turns task turn)
include h hid hturn

/-- The record of a destination is that of the source which is the first in the history. -/
theorem recorded_turn (d source : Path) : turn.register.sourceAt d = some source ↔
    IsFirst (past ++ [(s, .step id)]) d source := by
  rw [BuildSession.isFirst_snoc, ← h.recorded]
  -- Whoever has taken the destination up before is recorded.
  have hearlier : (∀ other ∈ past, ∀ p e, Takes other p e → e.components ≠ d.components) ↔
      s.register.sourceAt d = none := by
    constructor
    · intro hnone
      by_contra hsome
      obtain ⟨source, hsource⟩ := Option.ne_none_iff_exists'.1 hsome
      obtain ⟨earlier, moment, later, e, rfl, htakes, he, -⟩ := (h.recorded d source).1 hsource
      exact hnone moment (by simp) source e htakes he
    · intro hnone other hother p e htakes he
      obtain ⟨source, hfirst⟩ := BuildSession.exists_isFirst ⟨other, hother, p, e, htakes, he⟩
      rw [← h.recorded, hnone] at hfirst
      contradiction
  rw [hearlier]
  rcases hturn.takes_cases hid with ⟨p, e, htakes, hafter⟩ | ⟨hnone, hafter⟩
  · have hunique : (∃ e', Takes (s, .step id) source e' ∧ e'.components = d.components) ↔
        p = source ∧ e.components = d.components := by
      constructor
      · rintro ⟨e', htakes', he'⟩
        obtain ⟨rfl, rfl⟩ := htakes.unique htakes'
        exact ⟨rfl, he'⟩
      · rintro ⟨rfl, he⟩
        exact ⟨e, htakes, he⟩
    rw [hafter, hunique]
    by_cases hsame : e.same d = true
    · rw [PathMap.contains_congr (Path.same_iff.1 hsame), Register.contains_eq]
      cases s.register.sourceAt d <;> simp [hsame, Path.same_iff.1 hsame]
    · have hne : e.components ≠ d.components := fun he => hsame (Path.same_iff.2 he)
      simp [hsame, hne]
  · rw [hafter]
    refine (or_iff_left ?_).symm
    rintro ⟨-, e, htakes, -⟩
    exact hnone source e htakes

theorem subscribed_turn (d : Path) (hcontains : turn.register.targets.contains d = true) :
    turn.register.subscribersAt d = [b.addressee] := by
  obtain ⟨haddressee, -, hclaim⟩ := h.task task (BuildSession.mem_of_task? hid).1
  have hbefore : s.register.subscribersAt d = [] ∨
      s.register.subscribersAt d = [b.addressee] := by
    cases hold : s.register.targets.contains d with
    | true => exact .inr (h.subscribed d hold)
    | false =>
        rw [PathMap.contains_eq_false_iff] at hold
        exact .inl (by simp [Register.subscribersAt, hold])
  have hself : Register.subscribe b.addressee (s.register.subscribersAt d) = [b.addressee] := by
    rcases hbefore with hbefore | hbefore <;> simp [hbefore, Register.subscribe]
  rcases hturn.takes_cases hid with ⟨p, e, htakes, hafter⟩ | ⟨hnone, hafter⟩
  · obtain ⟨requester, rest, hstage, hcode, rfl⟩ := (BuildSession.takes_step hid).1 htakes
    rcases hturn.subscribersAt_cases with ⟨e, hattaches, hsubscribers⟩ | ⟨hnone, -⟩
    · obtain rfl := hattaches.unique (.enroll hstage hcode)
      rw [hsubscribers]
      by_cases hsame : (s.options.codeOutput rest).same d = true
      · rw [if_pos hsame, haddressee, hself]
      · rw [if_neg hsame]
        rw [Register.contains_eq, hafter, if_neg (fun hnew => hsame hnew.2),
          ← Register.contains_eq] at hcontains
        exact h.subscribed d hcontains
    · exact absurd (.enroll hstage hcode) (hnone _)
  · rcases hturn.subscribersAt_cases with ⟨e, hattaches, -⟩ | ⟨-, hsubscribers⟩
    · cases hattaches with
      | enroll hstage hcode =>
          exact absurd ((BuildSession.takes_step hid).2 ⟨_, _, hstage, hcode, rfl⟩) (hnone _ _)
      | reopen hstage => exact absurd hstage (hclaim _)
    · rw [hsubscribers]
      rw [Register.contains_eq, hafter, ← Register.contains_eq] at hcontains
      exact h.subscribed d hcontains

/-- The end of a build is told to the one who made the request. -/
theorem told_finish {job : BuildJob} {result : Except BuildError Nat}
    (hstage : task.stage = .finish job result) : turn.told =
      [(b.addressee, job.completion (s.register.importersOf job.dest) result)] := by
  have hsource := h.jobs task (BuildSession.mem_of_task? hid).1 job (by rw [hstage]; rfl)
  have hcontains : s.register.targets.contains job.dest = true :=
    Register.contains_iff_sourceAt.2 ⟨_, hsource⟩
  rw [hturn.told_finish hstage hcontains, h.subscribed _ hcontains]
  rfl

theorem jobs_turn {job : BuildJob} (hjob : turn.stage.job? = some job) :
    turn.register.sourceAt job.dest = some job.source := by
  have htask := (BuildSession.mem_of_task? hid).1
  rcases hturn.job?_cases hjob with ⟨hgrants, -⟩ | ⟨hbefore, -⟩
  · cases hgrants with
    | first hstage hcode hnew =>
        rcases hturn.takes_cases hid with ⟨p, e, htakes, hafter⟩ | ⟨hnone, -⟩
        · obtain ⟨rfl, rfl⟩ := htakes.unique
            ((BuildSession.takes_step hid).2 ⟨_, _, hstage, hcode, rfl⟩)
          rw [hafter, if_pos ⟨hnew, Path.same_self _⟩]
        · exact absurd ((BuildSession.takes_step hid).2 ⟨_, _, hstage, hcode, rfl⟩) (hnone _ _)
    | again hstage => exact absurd hstage ((h.task task htask).2.2 _)
  · exact hturn.sourceAt_eq (h.jobs task htask job hbefore)

theorem told_turn : ∀ message ∈ turn.told, message.1 = b.addressee := by
  intro message hmessage
  by_cases hfinish : ∃ job result, task.stage = .finish job result
  · obtain ⟨job, result, hstage⟩ := hfinish
    rw [h.told_finish hid hturn hstage, List.mem_singleton] at hmessage
    rw [hmessage]
  · rw [hturn.told_of_ne_finish (fun job result hstage => hfinish ⟨job, result, hstage⟩) message
      hmessage]
    exact (h.task task (BuildSession.mem_of_task? hid).1).1

/-- A path of code is told of by a look at it if and only if nothing is there. -/
theorem told_visit {requester : Option Path} (hp : b.options.IsCodePath p rest)
    (hstep : s.step? id = some (s.perform task turn)) {path : Path}
    (hstage : task.stage = .visit path requester) :
    (subjects turn.told).count p = if lacks p (s, .step id) then 1 else 0 := by
  by_cases hlacks : lacks p (s, .step id) = true
  · obtain ⟨requester', hvisit, hmissing⟩ := (BuildSession.lacks_step hid).1 hlacks
    rw [told_of_missing hvisit hid hstep hmissing, if_pos hlacks]
    simp [subjects, BuildEvent.forFile, WatchedSources.subject?]
  · rw [if_neg hlacks]
    -- What is there is a file of code, or a directory, which can be walked through.
    have hthere : path = p → FileStore.exists? s.store p = true := by
      rintro rfl
      by_contra hmissing
      exact hlacks ((BuildSession.lacks_step hid).2 ⟨requester, hstage, by simpa using hmissing⟩)
    have hcode : path = p → FileStore.isFile s.store p = true →
        s.options.IsCode s.store path rest := by
      rintro rfl hfile
      exact (h.options ▸ hp).isCode hfile
    cases hturn with
    | refuse e hvisit hnone hwalk =>
        obtain ⟨rfl, -⟩ := BuildTask.Stage.visit.inj (hstage.symm.trans hvisit)
        have hne : path ≠ p := by
          intro hpath
          obtain ⟨kind, hkind⟩ := Option.isSome_iff_exists.1 (hthere hpath)
          cases kind with
          | file => exact hnone rest (hcode hpath (by simp [FileStore.isFile, hkind]))
          | directory =>
              subst hpath
              have hdirectory : s.store.kindOf? path = some .directory := hkind
              obtain ⟨found, hfound, -⟩ := Walk.mem_files h.sound s.options hdirectory
              have hbelow := hp.below
              have hkept := hp.kept
              rw [← h.options] at hbelow hkept
              rw [hwalk ⟨Walk.isDirectory_iff.2 hdirectory, rest, hbelow, hkept⟩] at hfound
              contradiction
        simp [subjects, BuildEvent.forFile, WatchedSources.subject?, hne]
    | assetFailed hvisit hnone hfile =>
        obtain ⟨rfl, -⟩ := BuildTask.Stage.visit.inj (hstage.symm.trans hvisit)
        have hne : path ≠ p := fun hpath => hnone rest (hcode hpath (hpath ▸ hfile))
        simp [subjects, BuildEvent.forFile, WatchedSources.subject?, hne]
    | _ => simp_all [BuildSession.turnTo, subjects]

omit hid in
/-- The task of a path of code begins to build it exactly if the turn records it. -/
theorem source?_visit {path : Path} {requester : Option Path} (hp : b.options.IsCodePath p rest)
    (hstage : task.stage = .visit path requester) :
    (if turn.stage.source? = some p then 1 else 0) +
        (if s.register.sourceAt (b.options.codeOutput rest) = some p then 1 else 0) =
      if turn.register.sourceAt (b.options.codeOutput rest) = some p then 1 else 0 := by
  cases hturn with
  | join hvisit hcode hcontains =>
      simp [BuildSession.turnTo, BuildTask.Stage.source?, BuildTask.Stage.job?,
        Register.sourceAt_enroll, hcontains]
  | @begin path' rest' _ hvisit hcode hcontains =>
      obtain ⟨rfl, -⟩ := BuildTask.Stage.visit.inj (hstage.symm.trans hvisit)
      change (if some path = some p then 1 else 0) + _ = _
      have hnone : s.register.sourceAt (s.options.codeOutput rest') = none := by
        rw [Register.contains_eq] at hcontains
        simpa using hcontains
      simp only [Option.some.injEq, Register.sourceAt_enroll, hcontains, true_and]
      by_cases hpath : path = p
      · subst hpath
        have hrest := hcode.below
        rw [h.options, hp.below] at hrest
        rw [← Except.ok.inj hrest, h.options] at hnone ⊢
        simp [hnone, Path.same_self]
      · by_cases hsame : (s.options.codeOutput rest').same (b.options.codeOutput rest) = true
        · rw [Register.sourceAt_congr (Path.same_iff.1 hsame)] at hnone
          simp [hpath, hsame, hnone]
        · simp [hpath, hsame]
  | pass | refuse | walk | asset | assetFailed => exact Nat.zero_add _
  | _ => simp_all

/-- What a turn does to the account of a path of code. -/
theorem balance_turn (hp : b.options.IsCodePath p rest)
    (hstep : s.step? id = some (s.perform task turn)) :
    (if turn.stage.source? = some p then 1 else 0) + (subjects turn.told).count p +
        (if breaks p (s, .step id) then 1 else 0) +
        (if s.register.sourceAt (b.options.codeOutput rest) = some p then 1 else 0) =
      (if task.stage.source? = some p then 1 else 0) +
        (if lacks p (s, .step id) then 1 else 0) +
        if turn.register.sourceAt (b.options.codeOutput rest) = some p then 1 else 0 := by
  have hbreaks : (∀ job text, task.stage ≠ .transform job text) →
      ¬ breaks p (s, .step id) = true := by
    rw [BuildSession.breaks_step hid]
    rintro hstage ⟨job, text, htransform, -⟩
    exact hstage job text htransform
  by_cases hvisit : ∃ path requester, task.stage = .visit path requester
  · obtain ⟨path, requester, hstage⟩ := hvisit
    have hsource := h.source?_visit hturn hp hstage
    have hidle : ¬ task.stage.source? = some p := by
      rw [hstage]
      exact nofun
    rw [h.told_visit hid hturn hp hstep hstage, if_neg hidle, if_neg (hbreaks (by simp [hstage]))]
    omega
  · have hlacks : ¬ lacks p (s, .step id) = true := by
      rw [BuildSession.lacks_step hid]
      rintro ⟨requester, hstage, -⟩
      exact hvisit ⟨p, requester, hstage⟩
    have hclaim := (h.task task (BuildSession.mem_of_task? hid).1).2.2
    have hsame : turn.register.sourceAt (b.options.codeOutput rest) =
        s.register.sourceAt (b.options.codeOutput rest) := by
      rcases hturn.takes_cases hid with ⟨q, e, htakes, -⟩ | ⟨-, hafter⟩
      · obtain ⟨requester, rest, hstage, -⟩ := (BuildSession.takes_step hid).1 htakes
        exact absurd ⟨q, requester, hstage⟩ hvisit
      · exact hafter _
    rw [if_neg hlacks, hsame]
    by_cases hfinish : ∃ job result, task.stage = .finish job result
    · obtain ⟨job, result, hstage⟩ := hfinish
      have hdone : turn.stage.source? = none := by
        cases hturn <;> simp_all [BuildSession.turnTo, BuildTask.Stage.source?,
          BuildTask.Stage.job?]
      have hsource : task.stage.source? = some job.source := by
        rw [hstage]
        rfl
      rw [h.told_finish hid hturn hstage, if_neg (hbreaks (by simp [hstage])), hdone, hsource]
      cases result <;>
        simp [subjects, BuildJob.completion, BuildEvent.forFile, WatchedSources.subject?,
          List.count_singleton]
    · cases hturn with
      | @crash job text hstage hcrash =>
          have hbroken : breaks p (s, .step id) = true ↔ job.source = p := by
            rw [BuildSession.breaks_step hid]
            constructor
            · rintro ⟨other, text', htransform, hsource, -⟩
              rw [(BuildTask.Stage.transform.inj (hstage.symm.trans htransform)).1]
              exact hsource
            · exact fun hsource => ⟨job, text, hstage, hsource, hcrash⟩
          simp [hbroken, hstage, BuildSession.turnTo, BuildTask.Stage.source?,
            BuildTask.Stage.job?, subjects]
      | claim hstage | attach hstage | meet hstage => exact absurd hstage (hclaim _)
      | finish hstage | finishFailed hstage => exact absurd ⟨_, _, hstage⟩ hfinish
      | pass hstage | refuse e hstage | walk hstage | asset hstage | assetFailed hstage
      | join hstage | begin hstage => exact absurd ⟨_, _, hstage⟩ hvisit
      | transform hstage hanswer | fail hstage hanswer =>
          have hbroken : ¬ breaks p (s, .step id) = true := by
            rw [BuildSession.breaks_step hid]
            rintro ⟨other, text', htransform, -, hcrash⟩
            obtain ⟨rfl, rfl⟩ := BuildTask.Stage.transform.inj (hstage.symm.trans htransform)
            exact Transformed.noConfusion (hanswer.symm.trans hcrash)
          simp [hbroken, hstage, BuildSession.turnTo, BuildTask.Stage.source?,
            BuildTask.Stage.job?, subjects]
      | _ => simp_all [BuildSession.turnTo, BuildTask.Stage.source?, BuildTask.Stage.job?, subjects,
          WatchedSources.subject?]

theorem perform (hstep : s.step? id = some (s.perform task turn)) :
    b.Reckoned (past ++ [(s, .step id)]) (s.perform task turn) where
  options := h.options
  held := h.held
  called := h.called.perform (BuildSession.mem_of_task? hid).1 hturn
  root := BuildSession.exists_root_perform h.called.orderly (BuildSession.mem_of_task? hid).1 turn
    h.root
  sound := hturn.sound h.sound
  task u hu := by
    have htask := (BuildSession.mem_of_task? hid).1
    rcases (BuildSession.mem_tasks_perform h.called.orderly htask turn).1 hu with
      ⟨hu, -⟩ | rfl | hu
    · exact h.task u hu
    · obtain ⟨haddressee, hcall, -⟩ := h.task task htask
      exact ⟨haddressee, hcall, hturn.stage_ne_claim⟩
    · obtain ⟨haddressee, hcall, -⟩ := h.task task htask
      obtain ⟨-, hsame, hsamecall, -, -, -, hstage⟩ := BuildSession.mem_started hu
      refine ⟨hsame.trans haddressee, hsamecall.trans hcall, fun path hclaim => ?_⟩
      obtain ⟨path', requester, hvisit⟩ := hturn.spawned_visits _ hstage
      exact BuildTask.Stage.noConfusion (hvisit.symm.trans hclaim)
  subscribed := h.subscribed_turn hid hturn
  jobs u hu job hjob := by
    rcases (BuildSession.mem_tasks_perform h.called.orderly (BuildSession.mem_of_task? hid).1
      turn).1 hu with ⟨hu, -⟩ | rfl | hu
    · exact hturn.sourceAt_eq (h.jobs u hu job hjob)
    · exact h.jobs_turn hid hturn hjob
    · rw [hturn.job?_of_started hu] at hjob
      contradiction
  recorded := h.recorded_turn hid hturn
  told message hmessage := by
    rcases List.mem_append.1 hmessage with hmessage | hmessage
    · exact h.told message hmessage
    · exact h.told_turn hid hturn message hmessage
  balance p rest hp := by
    have hworkers := workers_perform h.called.orderly (BuildSession.mem_of_task? hid).1 hturn
      (·.source?) (fun _ hstage => hstage) p
    have hbalance := h.balance_turn hid hturn hp hstep
    have hbefore := h.balance p rest hp
    have htold : (subjects (s.perform task turn).sent).count p =
        (subjects s.sent).count p + (subjects turn.told).count p := by
      rw [← List.count_append, ← subjects_append]
      rfl
    change _ = _ + if turn.register.sourceAt _ = some p then 1 else 0
    rw [List.countP_append, List.countP_append, List.countP_singleton, List.countP_singleton]
    omega

end Turn

end Reckoned

theorem reckoned_session (hb : b.tree.Built) : b.Reckoned [] b.session where
  options := rfl
  held := rfl
  called := (BuildSession.Called.start b.tree b.options b.sourceTransform).request _ _
  root := ⟨_, List.mem_singleton.2 rfl, rfl, rfl⟩
  sound := hb.sound
  task u hu := by
    rw [List.mem_singleton.1 hu]
    exact ⟨rfl, rfl, fun _ => nofun⟩
  subscribed _ h := nomatch h
  jobs u hu job hjob := by
    rw [List.mem_singleton.1 hu] at hjob
    contradiction
  recorded d source := by
    refine ⟨fun h => (nomatch h), ?_⟩
    rintro ⟨earlier, moment, later, e, hpast, -⟩
    simp at hpast
  told _ h := nomatch h
  balance _ _ _ := rfl

/-- Nothing happens but that tasks go on. -/
def Uncalled (past : History FileTree) : Prop := ∀ moment ∈ past, ∃ id, moment.2 = .step id

theorem Reckoned.of_runs (hb : b.tree.Built) (hrun : Runs b.session past t)
    (hsteps : Uncalled past) : b.Reckoned past t := by
  induction hrun with
  | start => exact reckoned_session hb
  | @next past s t move hrun hnext ih =>
      have hs := ih fun moment hmoment => hsteps moment (List.mem_append_left _ hmoment)
      obtain ⟨id, rfl⟩ : ∃ id, move = .step id := hsteps (s, move) (by simp)
      obtain ⟨task, turn, hid, hturn, rfl⟩ := BuildSession.exists_turn hnext
      exact hs.perform hid hturn hnext

/-- **Which sources a request hears of.** A request is made on a fresh session, and its tasks go on
in any order. All that is told is told to it, and some task can go on until it has returned, unless
the transform has broken down. Take a code file that one of its tasks has looked at. Some source was
the first with the same destination that was looked at. When the request has returned, an event
names the file once if it is that source itself, unless the transform has broken down over it, and
never if it is another. Beyond that it is named once for each look at it when nothing was there. -/
theorem named_iff_first (hb : b.tree.Built) (hrun : Runs b.session past t)
    (hsteps : Uncalled past) :
    (∀ message ∈ t.sent, message.1 = b.addressee) ∧
    ((∀ task ∈ t.tasks, task.stage ≠ .crashed) → ¬ t.Returned 0 → ∃ after, t.Steps after) ∧
    ∀ p d, (∃ moment ∈ past, Takes moment p d) → ∃ source, IsFirst past d source ∧
      (t.Returned 0 → (subjects t.sent).count p + past.countP (breaks p) =
        past.countP (lacks p) + if source = p then 1 else 0) := by
  have ht := Reckoned.of_runs hb hrun hsteps
  refine ⟨ht.told, fun hsafe =>
    ht.called.orderly.exists_step_of_not_returned ht.held hsafe ht.root,
    fun p d ⟨moment, hmoment, htakes⟩ => ?_⟩
  obtain ⟨source, hfirst⟩ := BuildSession.exists_isFirst ⟨moment, hmoment, p, d, htakes, rfl⟩
  refine ⟨source, hfirst, fun hreturned => ?_⟩
  -- Nothing is left to be done once the request has returned.
  have hidle : workers (·.source?) t p = 0 := by
    refine List.countP_eq_zero.2 fun u hu => ?_
    obtain ⟨-, count, hstage⟩ := ht.called.finished hreturned hu (ht.task u hu).2.1
    rw [hstage]
    simp [BuildTask.Stage.source?, BuildTask.Stage.job?]
  obtain ⟨task, requester, rest, hturn, hstage, hcode, rfl⟩ := htakes
  obtain ⟨earlier, later, hpast⟩ := List.append_of_mem hmoment
  obtain ⟨hearlier, -⟩ := hrun.at_moment hpast
  have hoptions := (Reckoned.of_runs hb hearlier fun other hother =>
    hsteps other (hpast ▸ List.mem_append_left _ hother)).options
  have hbalance := ht.balance p rest (hoptions ▸ hcode.isCodePath)
  rw [hidle, Nat.zero_add, ← hoptions, (ht.recorded _ _).2 hfirst] at hbalance
  simpa using hbalance

/-! ### Two sources with one output -/

section Twins

def twins : FreshBuild where
  tree := (FileTree.empty.putFile "/p/a.js" "A".toUTF8).putFile "/p/a.jsx" "B".toUTF8
  options :=
    { baseDir := "/p", outDir := "/p/out", extensions := [".js", ".jsx"],
      resolveExtensions := [".js"], exclude := [], assets := ⟨[], [], "", ""⟩, extra := {} }
  sourceTransform := .scan
  entries := ["a.js", "a.jsx"]
  addressee := ⟨1, 0⟩

theorem built_twins : twins.tree.Built := .putFile _ _ (.putFile _ _ .empty)

def isTwins (past : History FileTree) (s t : BuildSession FileTree) : Bool :=
  past.all (fun moment => match moment.2 with | .step _ => true | _ => false) &&
  (s.task? 0).any (fun task => match task.stage with
    | .visit path none => decide (path = "/p/a.jsx")
    | _ => false) &&
  FileStore.isFile s.store "/p/a.jsx" && decide (t.collect.2 = [⟨0, some 1⟩]) &&
  decide (subjects t.sent = ["/p/a.js"])

theorem isCodePath_twins : twins.options.IsCodePath "/p/a.jsx" "a.jsx" where
  below := by
    rw [BuildOptions.belowBase]
    rfl
  kept := rfl
  suffix := ⟨".jsx", by decide +kernel, by decide +kernel, rfl⟩

/-- The request looks at its second entry after the first one is built, and returns. -/
theorem exists_twins : ∃ past t, Runs twins.session past t ∧ Uncalled past ∧ t.Returned 0 ∧
    (∃ moment ∈ past, Takes moment "/p/a.jsx" "/p/out/a.js") ∧ subjects t.sent = ["/p/a.js"] := by
  have htwins : (twins.session.replay? (List.replicate 9 (.step 0))).any (fun before =>
      (before.2.replay? (List.replicate 2 (.step 0))).any fun after =>
        isTwins (before.1 ++ after.1) before.2 after.2) = true := by
    decide +kernel
  obtain ⟨⟨earlier, s⟩, hearlier, htwins⟩ := (Option.any_eq_true _ _).1 htwins
  obtain ⟨⟨later, t⟩, hlater, hcheck⟩ := (Option.any_eq_true _ _).1 htwins
  have hbefore := Runs.start.replay hearlier
  have hrun := hbefore.replay hlater
  obtain ⟨others, rfl⟩ := BuildSession.exists_cons_of_replay? hlater
  simp only [isTwins, Bool.and_eq_true, decide_eq_true_eq, Option.any_eq_true, List.all_eq_true]
    at hcheck
  obtain ⟨⟨⟨⟨hsteps, task, htask, hstage⟩, hfile⟩, hcollect⟩, hsubjects⟩ := hcheck
  have huncalled : Uncalled (earlier ++ (s, .step 0) :: others) := by
    intro moment hmoment
    have hstep := hsteps moment hmoment
    split at hstep
    · exact ⟨_, ‹_›⟩
    · exact absurd hstep Bool.false_ne_true
  refine ⟨_, t, hrun, huncalled, ⟨1, by rw [hcollect]; exact List.mem_singleton.2 rfl⟩,
    ⟨(s, .step 0), by simp, ?_⟩, hsubjects⟩
  have hoptions := (Reckoned.of_runs built_twins hbefore fun moment hmoment =>
    huncalled moment (List.mem_append_left _ hmoment)).options
  split at hstage
  · rename_i path hvisit
    rw [of_decide_eq_true hstage] at hvisit
    refine (BuildSession.takes_step htask).2 ⟨none, "a.jsx", hvisit, ?_, ?_⟩
    · rw [hoptions]
      exact isCodePath_twins.isCode hfile
    · rw [hoptions]
      decide +kernel
  · exact absurd hstage Bool.false_ne_true

/-- The second entry joins the record of the first. -/
theorem named_iff_first_twins : ∃ past t, twins.tree.Built ∧ Runs twins.session past t ∧
    Uncalled past ∧ t.Returned 0 ∧ (∃ moment ∈ past, Takes moment "/p/a.jsx" "/p/out/a.js") ∧
    ∃ source, IsFirst past "/p/out/a.js" source ∧
      (subjects t.sent).count (.ofString "/p/a.jsx") + past.countP (breaks "/p/a.jsx") =
        past.countP (lacks "/p/a.jsx") + if source = "/p/a.jsx" then 1 else 0 := by
  obtain ⟨past, t, hrun, hsteps, hreturned, htakes, -⟩ := exists_twins
  obtain ⟨source, hfirst, hnamed⟩ :=
    (named_iff_first built_twins hrun hsteps).2.2 "/p/a.jsx" "/p/out/a.js" htakes
  exact ⟨past, t, built_twins, hrun, hsteps, hreturned, htakes, source, hfirst, hnamed hreturned⟩

/-- No event names the second entry, which is a code file like the first. -/
theorem not_named_twins : ∃ past t, Runs twins.session past t ∧ Uncalled past ∧ t.Returned 0 ∧
    (∃ moment ∈ past, Takes moment "/p/a.jsx" "/p/out/a.js") ∧
    (subjects t.sent).count (.ofString "/p/a.jsx") ≠ 1 := by
  obtain ⟨past, t, hrun, hsteps, hreturned, htakes, hsubjects⟩ := exists_twins
  refine ⟨past, t, hrun, hsteps, hreturned, htakes, ?_⟩
  rw [hsubjects]
  decide +kernel

end Twins

end FreshBuild

end LiveBuild
