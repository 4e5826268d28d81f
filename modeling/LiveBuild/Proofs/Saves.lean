import LiveBuild.Proofs.Custody
import Mathlib

/-!
# When a save is lost

Moves are made in any order. Once everything has come to rest, the output of a source whose last
build was good is the code for the text that the source has then, unless a change of the source was
overlooked while the source was not settled, and nothing has settled it since.
-/

namespace LiveBuild.LiveWatch

/-- A run: the moves that were made, each with the state that it was made in, and the state that
they lead to. -/
inductive Run (first : LiveWatch) : List (LiveWatch × Move) → LiveWatch → Prop
  | start : Run first [] first
  | next {past : List (LiveWatch × Move)} {x y : LiveWatch} {move : Move} : Run first past x →
      x.next? move = some y → x.Apart move y → Run first (past ++ [(x, move)]) y

/-- Everything has come to rest. -/
structure Quiescent (x : LiveWatch) : Prop where
  changes : x.watch.changes = []
  events : x.watch.events = []
  pending : x.watch.sources.pending.isEmpty = true
  rebuilds : x.watch.rebuilds = []
  rebuilt : x.watch.rebuilt = []
  build : ∀ id, x.build.step? id = none

/-- A change of a path was overlooked while the path was not settled, and it was not settled
since. -/
def IsLost (past : List (LiveWatch × Move)) (x : LiveWatch) (p : Path) : Prop :=
  ∃ earlier y move later, past = earlier ++ (y, move) :: later ∧ y.Overlooks p move ∧
    ¬ y.build.Settled p ∧ (∀ z ∈ later, ¬ z.1.build.Settled p) ∧ ¬ x.build.Settled p

variable {first x y : LiveWatch} {past : List (LiveWatch × Move)} {move : Move} {p d : Path}

theorem setup_requests (x : LiveWatch) (paths : List Path) :
    (paths.foldl request x).build.options = x.build.options ∧
      (paths.foldl request x).build.sourceTransform = x.build.sourceTransform := by
  induction paths generalizing x with
  | nil => exact ⟨rfl, rfl⟩
  | cons path rest ih => exact ih (x.request path)

theorem next_setup (h : x.next? move = some y) (hsent : x.build.sent = []) :
    y.build.options = x.build.options ∧ y.build.sourceTransform = x.build.sourceTransform := by
  cases move with
  | save path kind content =>
      obtain ⟨-, -, -, rfl⟩ := next_save h
      exact ⟨rfl, rfl⟩
  | wait duration =>
      obtain rfl := Option.some.inj h
      exact ⟨rfl, rfl⟩
  | build id =>
      obtain ⟨task, turn, -, -, rfl⟩ := next_build h hsent
      exact ⟨rfl, rfl⟩
  | collect =>
      obtain ⟨rebuilds, rebuilt, rfl, -⟩ := next_collect h
      exact ⟨rfl, rfl⟩
  | event =>
      obtain ⟨event, events, -, rfl⟩ := next_event h
      exact ⟨rfl, rfl⟩
  | change =>
      obtain ⟨change, changes, -, rfl⟩ := next_change h
      exact ⟨rfl, rfl⟩
  | deadline =>
      rw [next_deadline h]
      exact setup_requests _ _
  | rebuilt =>
      obtain ⟨call, rebuilt, -, ⟨-, rfl⟩ | ⟨path, -, rfl⟩⟩ := next_rebuilt h
      · exact ⟨rfl, rfl⟩
      · exact setup_requests _ _

namespace Run

theorem tracked (h : Run first past x) (hfirst : first.Tracked []) : x.Tracked [] := by
  induction h with
  | start => exact hfirst
  | next _ hnext hapart ih => exact ih.next hnext hapart

theorem setup (h : Run first past x) (hfirst : first.Tracked []) :
    x.build.options = first.build.options ∧
      x.build.sourceTransform = first.build.sourceTransform := by
  induction h with
  | start => exact ⟨rfl, rfl⟩
  | next hrun hnext _ ih =>
      obtain ⟨hoptions, htransform⟩ := next_setup hnext (hrun.tracked hfirst).sent
      exact ⟨hoptions.trans ih.1, htransform.trans ih.2⟩

theorem isKept_or_isLost (h : Run first past x) (hfirst : first.Tracked [])
    (hsettled : first.build.Settled p) : x.IsKept [] p ∨ IsLost past x p := by
  induction h with
  | start => exact Or.inl (Or.inl hsettled)
  | @next past x y move hrun hnext hapart ih =>
      -- A path that the move settles is kept, whatever was lost before.
      by_cases hy : y.build.Settled p
      · exact Or.inl (Or.inl hy)
      · rcases ih with hkept | ⟨earlier, z, move', later, rfl, hoverlooks, hz, hlater, hx⟩
        · by_cases hlost : x.Overlooks p move ∧ ¬ x.build.Settled p
          · exact Or.inr ⟨past, x, move, [], rfl, hlost.1, hlost.2, by simp, hy⟩
          · refine Or.inl (hkept.next (hrun.tracked hfirst) hnext hapart fun hoverlooks => ?_)
            by_contra hx
            exact hlost ⟨hoverlooks, hx⟩
        · refine Or.inr ⟨earlier, z, move', later ++ [(x, move)], by simp, hoverlooks, hz, ?_, hy⟩
          intro z' hz'
          rcases List.mem_append.1 hz' with hz' | hz'
          · exact hlater z' hz'
          · rw [List.mem_singleton.1 hz']
            exact hx

end Run

theorem Quiescent.not_inCustody (h : x.Quiescent) (hx : x.Tracked []) : ¬ x.InCustody [] p := by
  intro hcustody
  cases hcustody with
  | changed hchange =>
      rw [h.changes] at hchange
      contradiction
  | held hp =>
      obtain ⟨entry, hentry, -⟩ := PathMap.contains_iff_mem.1 hp
      rw [List.isEmpty_iff.1 h.pending] at hentry
      contradiction
  | again _ hentry =>
      rw [h.rebuilds] at hentry
      contradiction
  | @claimed task path htask hstage =>
      have hstuck := h.build task.id
      rw [BuildSession.step?, hx.regular.orderly.task?_eq htask, Option.bind_eq_bind,
        Option.bind_some, hstage] at hstuck
      contradiction
  | due hpath => contradiction

theorem settled_start (tree : FileTree) (options : BuildOptions)
    (sourceTransform : SourceTransform) (addressee : Addressee) (window : Nat)
    (entries : List Path) (accepts : Path → Bool) (p : Path) :
    (start tree options sourceTransform addressee window entries accepts).build.Settled p :=
  ⟨fun _ h => (nomatch h), fun _ h => (nomatch h)⟩

/-- A file is the code that a transform makes of the text that a source has now. -/
def IsCodeFor (sourceTransform : SourceTransform) (options : BuildOptions) (tree : FileTree)
    (p d : Path) : Prop :=
  ∃ source text output, source.components = p.components ∧
    FileStore.readText tree source = .ok text ∧
    sourceTransform source text (.ofSource tree options source) = .output output ∧
    tree.content? d = some output.code.toUTF8

/-- **A save is lost only if it is overlooked.** In whatever order moves are made, once everything
has come to rest the output of a watched source whose last build was good is the code for the
current text of the source, exactly if no change of it was lost. -/
theorem isCodeFor_iff_not_isLost {tree : FileTree} {options : BuildOptions}
    {sourceTransform : SourceTransform} {addressee : Addressee} {window : Nat}
    {entries : List Path} {accepts : Path → Bool} (hrooted : IsRooted tree options)
    (hrun : Run (start tree options sourceTransform addressee window entries accepts) past x)
    (hquiet : x.Quiescent) (hwatched : x.watch.sources.watched.contains p = true)
    (hbuilt : x.build.register.status? p = some .built) (hd : options.outputFor p = .ok d) :
    IsCodeFor sourceTransform options x.build.store p d ↔ ¬ IsLost past x p := by
  have hfirst := tracked_start hrooted sourceTransform addressee window entries accepts
  have hx := hrun.tracked hfirst
  obtain ⟨hoptions, htransform⟩ := hrun.setup hfirst
  change x.build.options = options at hoptions
  change x.build.sourceTransform = sourceTransform at htransform
  obtain ⟨d', halias, hd', hstatus⟩ := BuildSession.exists_alias_of_status? hx.regular
    (hx.watched p hwatched) (hoptions ▸ hd) hbuilt
  have hcurrent : x.build.Settled p ↔ IsCodeFor sourceTransform options x.build.store p d := by
    rw [BuildSession.settled_iff_holds hx.regular halias hstatus, ← hoptions, ← htransform,
      IsCodeFor, ← FileTree.content?_congr hd']
    constructor
    · rintro ⟨source, hsource, output, ⟨text, htext, houtput⟩, hcode⟩
      exact ⟨source, text, output, hsource, htext, houtput, hcode⟩
    · rintro ⟨source, text, output, hsource, htext, houtput, hcode⟩
      exact ⟨source, hsource, output, ⟨text, htext, houtput⟩, hcode⟩
  rw [← hcurrent]
  constructor
  · rintro hsettled ⟨-, -, -, -, -, -, -, -, hnot⟩
    exact hnot hsettled
  · intro hnot
    rcases hrun.isKept_or_isLost hfirst (settled_start _ _ _ _ _ _ _ p) with
      (hsettled | hcustody) | hlost
    · exact hsettled
    · exact absurd hcustody (hquiet.not_inCustody hx)
    · exact absurd hlost hnot

section Runs

def isQuiescent (x : LiveWatch) : Bool :=
  x.watch.changes.isEmpty && x.watch.events.isEmpty && x.watch.sources.pending.isEmpty &&
    x.watch.rebuilds.isEmpty && x.watch.rebuilt.isEmpty && x.build.next?.isNone

theorem quiescent_of_isQuiescent (h : x.isQuiescent = true) : x.Quiescent := by
  simp only [isQuiescent, Bool.and_eq_true, List.isEmpty_iff, Option.isNone_iff_eq_none] at h
  obtain ⟨⟨⟨⟨⟨hchanges, hevents⟩, hpending⟩, hrebuilds⟩, hrebuilt⟩, hnext⟩ := h
  exact ⟨hchanges, hevents, hpending, hrebuilds, hrebuilt,
    BuildSession.step?_eq_none_of_next? hnext⟩

/-- Whether a move keeps sources and outputs apart. -/
def isApart (x : LiveWatch) (move : Move) (y : LiveWatch) : Bool :=
  match move with
  | .build id => (x.build.task? id).all fun task =>
      match task.stage with
      | .visit path _ => !path.startsWith x.build.options.outDir &&
          x.build.register.targets.entries.all fun entry =>
            decide (y.build.store.content? entry.1 = x.build.store.content? entry.1)
      | _ => true
  | _ => true

theorem apart_of_isApart (h : x.isApart move y = true) : x.Apart move y := by
  cases move with
  | build id =>
      intro task htask path requester hstage
      simp only [isApart, htask, Option.all_some, hstage, Bool.and_eq_true, Bool.not_eq_true',
        List.all_eq_true, decide_eq_true_eq] at h
      refine ⟨h.1, fun d hd => ?_⟩
      obtain ⟨entry, hentry, hsame⟩ := PathMap.contains_iff_mem.1 hd
      rw [← FileTree.content?_congr (Path.same_iff.1 hsame), h.2 entry hentry,
        FileTree.content?_congr (Path.same_iff.1 hsame)]
  | _ => trivial

/-- Make some moves, if each can be made when it is its turn. -/
def trace? (x : LiveWatch) : List Move → Option (List (LiveWatch × Move) × LiveWatch)
  | [] => some ([], x)
  | move :: moves =>
      match x.next? move with
      | none => none
      | some y =>
          if x.isApart move y then (trace? y moves).map fun found => ((x, move) :: found.1, found.2)
          else none

theorem Run.trace {moves : List Move} {later : List (LiveWatch × Move)} {z : LiveWatch}
    (h : Run first past x) (htrace : x.trace? moves = some (later, z)) :
    Run first (past ++ later) z := by
  induction moves generalizing past x later with
  | nil =>
      obtain ⟨rfl, rfl⟩ := Prod.mk.inj (Option.some.inj htrace)
      rwa [List.append_nil]
  | cons move moves ih =>
      rw [trace?] at htrace
      cases hnext : x.next? move with
      | none => simp [hnext] at htrace
      | some y =>
          rw [hnext] at htrace
          dsimp only at htrace
          split at htrace
          · rename_i hapart
            obtain ⟨⟨later', z'⟩, hfound, heq⟩ := Option.map_eq_some_iff.1 htrace
            obtain ⟨rfl, rfl⟩ := Prod.mk.inj heq
            have hlater := ih (h.next hnext (apart_of_isApart hapart)) hfound
            rwa [List.append_assoc] at hlater
          · contradiction

theorem exists_run {moves : List Move} (check : LiveWatch → Bool)
    (h : (first.trace? moves).any (fun found => found.2.isQuiescent && check found.2) = true) :
    ∃ past x, first.trace? moves = some (past, x) ∧ Run first past x ∧ x.Quiescent ∧
      check x = true := by
  obtain ⟨⟨past, x⟩, htrace, hx⟩ := (Option.any_eq_true _ _).1 h
  rw [Bool.and_eq_true] at hx
  exact ⟨past, x, htrace, Run.start.trace htrace, quiescent_of_isQuiescent hx.1, hx.2⟩

theorem isCodeFor_scan {options : BuildOptions} {tree : FileTree} :
    IsCodeFor .scan options tree p d ↔
      ∃ text, tree.textContent? p = some text ∧ tree.content? d = some text.toUTF8 := by
  constructor
  · rintro ⟨source, text, output, hsource, htext, houtput, hcode⟩
    obtain rfl := Transformed.output.inj houtput
    obtain ⟨content, hcontent, hdecode⟩ := FileTree.readText_eq_ok.1 htext
    rw [FileTree.content?_congr hsource] at hcontent
    exact ⟨text, by simp [FileTree.textContent?, hcontent, hdecode, Except.toOption], hcode⟩
  · rintro ⟨text, htext, hcode⟩
    refine ⟨p, text, ⟨text, Imports.scan text⟩, rfl, FileTree.readText_eq_ok.2 ?_, rfl, hcode⟩
    obtain ⟨content, hcontent, hdecode⟩ := Option.bind_eq_some_iff.1 htext
    refine ⟨content, hcontent, ?_⟩
    cases hresult : Utf8.decode content with
    | error e => simp [hresult, Except.toOption] at hdecode
    | ok found => simpa [hresult, Except.toOption] using hdecode

end Runs

section Pair

def pairTree : FileTree := FileTree.empty.putFile "/p/a.js" "import \"./b\"".toUTF8

def pairOptions : BuildOptions where
  baseDir := "/p"
  outDir := "/p/out"
  extensions := [".js"]
  resolveExtensions := [".js"]
  exclude := []
  assets := ⟨[], [], "", ""⟩
  extra := {}

/-- A watch session for a source that is missing and one that imports it. -/
def pair : LiveWatch :=
  start pairTree pairOptions .scan ⟨1, 0⟩ 50 ["b.js", "a.js"] fun _ => true

def isBuilt (x : LiveWatch) (p : Path) : Bool :=
  x.watch.sources.watched.contains p && decide (x.build.register.status? p = some .built)

theorem outputFor_pair : pairOptions.outputFor "/p/b.js" = .ok "/p/out/b.js" := by
  have hsome : (pairOptions.outputFor "/p/b.js").toOption = some "/p/out/b.js" := by
    decide +kernel
  cases hresult : pairOptions.outputFor "/p/b.js" with
  | error e => simp [hresult, Except.toOption] at hsome
  | ok d => simpa [hresult, Except.toOption] using hsome

theorem isRooted_pair : IsRooted pairTree pairOptions where
  base := by decide +kernel
  out := by decide +kernel
  directory := by decide +kernel

/-- The missing source is saved once the request is over. -/
def saveAtRest : List Move :=
  List.replicate 9 (Move.build 0) ++ [Move.event, .event, .event,
    .save "/p/b.js" .created "1".toUTF8, .change, .wait 50, .deadline] ++
    List.replicate 8 (Move.build 1) ++ [Move.collect, .rebuilt, .event]

/-- The source was built from its first text. -/
def isFresh (x : LiveWatch) : Bool :=
  x.isBuilt "/p/b.js" && decide (x.build.store.textContent? "/p/b.js" = some "1") &&
    decide (x.build.store.content? "/p/out/b.js" = some "1".toUTF8)

theorem isCodeFor_saveAtRest : IsRooted pairTree pairOptions ∧ ∃ past x, Run pair past x ∧
    x.Quiescent ∧ x.isBuilt "/p/b.js" = true ∧
    (IsCodeFor .scan pairOptions x.build.store "/p/b.js" "/p/out/b.js" ↔
      ¬ IsLost past x "/p/b.js") ∧
    IsCodeFor .scan pairOptions x.build.store "/p/b.js" "/p/out/b.js" := by
  obtain ⟨past, x, -, hrun, hquiet, hcheck⟩ := exists_run isFresh
    (show (pair.trace? saveAtRest).any (fun found => found.2.isQuiescent && found.2.isFresh) = true
      by decide +kernel)
  simp only [isFresh, Bool.and_eq_true, decide_eq_true_eq] at hcheck
  obtain ⟨⟨hbuilt, htext⟩, hcode⟩ := hcheck
  obtain ⟨hwatched, hstatus⟩ := (Bool.and_eq_true _ _).mp hbuilt
  exact ⟨isRooted_pair, past, x, hrun, hquiet, hbuilt,
    isCodeFor_iff_not_isLost isRooted_pair hrun hquiet hwatched (of_decide_eq_true hstatus)
      outputFor_pair,
    isCodeFor_scan.2 ⟨"1", htext, hcode⟩⟩

/-- The source was built from its old text. -/
def isStale (x : LiveWatch) : Bool :=
  x.isBuilt "/p/b.js" && decide (x.build.store.textContent? "/p/b.js" = some "2") &&
    decide (x.build.store.content? "/p/out/b.js" = some "1".toUTF8)

theorem exists_stale {moves : List Move}
    (h : (pair.trace? moves).any (fun found => found.2.isQuiescent && found.2.isStale) = true) :
    ∃ past x, pair.trace? moves = some (past, x) ∧ Run pair past x ∧ x.Quiescent ∧
      x.watch.sources.watched.contains "/p/b.js" = true ∧
      x.build.register.status? "/p/b.js" = some .built ∧
      pairOptions.outputFor "/p/b.js" = .ok "/p/out/b.js" ∧
      ¬ IsCodeFor .scan pairOptions x.build.store "/p/b.js" "/p/out/b.js" := by
  obtain ⟨past, x, htrace, hrun, hquiet, hcheck⟩ := exists_run isStale h
  simp only [isStale, Bool.and_eq_true, decide_eq_true_eq] at hcheck
  obtain ⟨⟨hbuilt, htext⟩, hcode⟩ := hcheck
  obtain ⟨hwatched, hstatus⟩ := (Bool.and_eq_true _ _).mp hbuilt
  refine ⟨past, x, htrace, hrun, hquiet, hwatched, of_decide_eq_true hstatus, outputFor_pair,
    fun hfor => ?_⟩
  obtain ⟨text, htext', hcode'⟩ := isCodeFor_scan.1 hfor
  obtain rfl := Option.some.inj (htext.symm.trans htext')
  exact absurd (hcode.symm.trans hcode') (by decide +kernel)

/-- The source is saved again after it was read for the one that imports it, and its rebuild finds
that build going on. -/
def saveWhileBuilt : List Move :=
  [Move.build 0, .build 0, .event, .save "/p/b.js" .created "1".toUTF8] ++
    List.replicate 5 (Move.build 0) ++ [Move.build 1, .build 1,
    .save "/p/b.js" .modified "2".toUTF8, .change, .change, .wait 50, .deadline, .build 2,
    .collect, .rebuilt] ++ List.replicate 5 (Move.build 1) ++ List.replicate 4 (Move.build 0) ++
    [Move.collect, .event, .event, .event]

/-- A save is lost when its rebuild finds the source being built. -/
theorem not_isCodeFor_saveWhileBuilt :
    ∃ past x, pair.trace? saveWhileBuilt = some (past, x) ∧ Run pair past x ∧ x.Quiescent ∧
      x.watch.sources.watched.contains "/p/b.js" = true ∧
      x.build.register.status? "/p/b.js" = some .built ∧
      pairOptions.outputFor "/p/b.js" = .ok "/p/out/b.js" ∧
      ¬ IsCodeFor .scan pairOptions x.build.store "/p/b.js" "/p/out/b.js" :=
  exists_stale (by decide +kernel)

/-- The source is changed, changed back before its rebuild reads it, and changed again after. -/
def saveBackAndForth : List Move :=
  saveAtRest ++ [Move.save "/p/b.js" .modified "2".toUTF8, .change, .wait 50, .deadline, .build 2,
    .save "/p/b.js" .modified "1".toUTF8, .build 2, .save "/p/b.js" .modified "2".toUTF8] ++
    List.replicate 5 (Move.build 2) ++ [Move.event, .collect, .rebuilt, .change, .change, .wait 50,
    .deadline]

/-- A save is lost when the digest that was noted for a build is not the one of what it read. -/
theorem not_isCodeFor_saveBackAndForth :
    ∃ past x, pair.trace? saveBackAndForth = some (past, x) ∧ Run pair past x ∧ x.Quiescent ∧
      x.watch.sources.watched.contains "/p/b.js" = true ∧
      x.build.register.status? "/p/b.js" = some .built ∧
      pairOptions.outputFor "/p/b.js" = .ok "/p/out/b.js" ∧
      ¬ IsCodeFor .scan pairOptions x.build.store "/p/b.js" "/p/out/b.js" :=
  exists_stale (by decide +kernel)

end Pair

end LiveBuild.LiveWatch
