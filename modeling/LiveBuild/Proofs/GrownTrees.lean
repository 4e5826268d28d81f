import LiveBuild.Proofs.Places

/-!
# Trees that are complete

A tree that is made by putting in files and directories, none of which is a file in the way of
another one, is connected: every directory above a file lists what leads down to it.
-/

namespace LiveBuild

namespace Path

variable {p q d e parent : Path} {name : String}

theorem IsBelow.trans (hpq : p.IsBelow q) (hqd : q.IsBelow d) : p.IsBelow d := by
  obtain ⟨names, hne, hnames, hp⟩ := hpq
  obtain ⟨others, -, hothers, hq⟩ := hqd
  exact ⟨others ++ names, by simp [hne], hothers.append hnames, by
    rw [hp, hq, List.append_assoc]⟩

theorem IsBelow.congr_base (h : p.IsBelow d) (hde : d.components = e.components) :
    p.IsBelow e := by
  obtain ⟨names, hne, hnames, hp⟩ := h
  exact ⟨names, hne, hnames, by rw [hp, hde]⟩

theorem IsBelow.components_ne (h : p.IsBelow q) : p.components ≠ q.components := by
  obtain ⟨names, hne, -, hp⟩ := h
  rw [hp]
  simpa using hne

theorem IsNormal.of_isBelow (h : p.IsNormal) (hbelow : p.IsBelow q) : q.IsNormal := by
  obtain ⟨all, hall, hp⟩ := h
  obtain ⟨names, -, hnames, hcomponents⟩ := hbelow
  rw [hcomponents] at hp
  cases hq : q.components with
  | nil =>
      obtain ⟨name, hname, -⟩ := hnames .root (by simp [hq] at hp; simp [hp])
      contradiction
  | cons first rest =>
      rw [hq, List.cons_append, List.cons.injEq] at hp
      obtain ⟨rfl, rfl⟩ := hp
      exact ⟨rest, fun c hc => hall c (List.mem_append_left _ hc), hq⟩

theorem IsNormal.congr (h : p.IsNormal) (hpq : p.components = q.components) : q.IsNormal := by
  obtain ⟨names, hnames, hp⟩ := h
  exact ⟨names, hnames, hpq.symm.trans hp⟩

theorem isBelow_of_components (h : p.components = parent.components ++ [.name name]) :
    p.IsBelow parent :=
  ⟨[.name name], by simp, areNames_singleton (isName_of_mem (p := p) (by simp [h])), h⟩

/-- What a path lies below, the directory above it is, or lies below too. -/
theorem IsBelow.of_components (h : p.IsBelow e)
    (hp : p.components = parent.components ++ [.name name]) :
    e.components = parent.components ∨ parent.IsBelow e := by
  obtain ⟨names, hne, hnames, hcomponents⟩ := h
  obtain ⟨others, last, rfl⟩ := (List.eq_nil_or_concat' names).resolve_left hne
  rw [hp, ← List.append_assoc] at hcomponents
  obtain ⟨hparent, -⟩ := List.append_inj' hcomponents rfl
  by_cases hothers : others = []
  · exact .inl (by rw [hparent, hothers, List.append_nil])
  · exact .inr ⟨others, hothers, fun c hc => hnames c (List.mem_append_left _ hc), hparent⟩

theorem IsNormal.eq_concat (h : p.IsNormal) (hp : p.components ≠ [.root]) :
    ∃ names name, AreNames names ∧ p.components = .root :: names ++ [.name name] := by
  obtain ⟨names, hnames, hcomponents⟩ := h
  obtain ⟨others, last, rfl⟩ := (List.eq_nil_or_concat' names).resolve_left fun hnil => by
    rw [hnil] at hcomponents
    exact hp hcomponents
  obtain ⟨name, rfl, -⟩ := hnames last (by simp)
  exact ⟨others, name, fun c hc => hnames c (List.mem_append_left _ hc), hcomponents⟩

theorem IsNormal.exists_parent_name (h : p.IsNormal) (hp : p.components ≠ [.root]) :
    ∃ d name, p.parent? = some d ∧ p.fileName? = some name ∧ d.IsNormal ∧
      p.components = d.components ++ [.name name] := by
  obtain ⟨parent, hparent, -⟩ := h.exists_parent? hp
  obtain ⟨names, name, hnames, hcomponents⟩ := h.eq_concat hp
  have hroot : parent.components = .root :: names := by
    rw [components_parent? hparent, hcomponents, List.dropLast_concat]
  refine ⟨parent, name, hparent, ?_, ⟨names, hnames, hroot⟩, by rw [hcomponents, hroot]⟩
  rw [fileName?, hcomponents, List.getLast?_concat]

theorem isNormal_of_isName (h : p.isAbsolute = true)
    (hnames : p.components.tail.all Component.isName = true) : p.IsNormal := by
  obtain ⟨rest, hp, -⟩ := components_of_isAbsolute h
  rw [hp, List.tail_cons, List.all_eq_true] at hnames
  exact ⟨rest, areNames_of_isName (p := p) hnames fun c hc => hp ▸ List.mem_cons_of_mem _ hc, hp⟩

end Path

namespace FileTree

open LiveBuild.Path

variable {tree : FileTree} {p q d e parent : Path} {above : List Path} {entry : Entry}
  {name : String}

/-- A tree into which entries were put at normal paths. No file was put where a directory is, nor
below a file; a directory may have been put anywhere. -/
inductive Grown : FileTree → Prop
  | empty : Grown FileTree.empty
  | putFile {tree : FileTree} {p : Path} (content : ByteArray) : Grown tree → p.IsNormal →
      tree.kindOf? p ≠ some .directory → (∀ e, p.IsBelow e → tree.kindOf? e ≠ some .file) →
      Grown (tree.putFile p content)
  | putDirectory {tree : FileTree} {p : Path} : Grown tree → p.IsNormal →
      Grown (tree.putDirectory p)

theorem Grown.built (h : tree.Grown) : tree.Built := by
  induction h with
  | empty => exact .empty
  | putFile content _ _ _ _ ih => exact .putFile _ content ih
  | putDirectory _ _ ih => exact .putDirectory _ ih

/-- Each directory on the way to a path lists the next one. -/
def Linked (tree : FileTree) (p : Path) : Prop :=
  ∀ (d : Path) (name : String) (rest : List Component), d.components ≠ [] →
    p.components = d.components ++ .name name :: rest → tree.Lists d name

/-- A path leads through a file. -/
def Obstructed (tree : FileTree) (p : Path) : Prop :=
  ∃ e, p.IsBelow e ∧ tree.kindOf? e = some .file

/-- A path can be reached through listings, unless a file is in the way. -/
def Attached (tree : FileTree) (p : Path) : Prop := tree.Obstructed p ∨ tree.Linked p

/-- What a tree without a file in the way of another one looks like. -/
structure Connected (tree : FileTree) : Prop where
  unobstructed : ∀ p, tree.kindOf? p = some .file → ¬ tree.Obstructed p
  attached : ∀ p, tree.entries.contains p = true → tree.Attached p
  normal : ∀ p, tree.entries.contains p = true → p.components = [.here] ∨ p.IsNormal
  exists_child : ∀ d name child, tree.Lists d name →
    child.components = d.components ++ [.name name] → tree.entries.contains child = true

section Climbing

/-- The directories above a path one after the other, up to the root. -/
inductive Ascends : Path → List Path → Prop
  | root {p : Path} : p.components = [.root] → Ascends p []
  | step {p parent : Path} {above : List Path} {name : String} : p.fileName? = some name →
      p.components = parent.components ++ [.name name] → Ascends parent above →
      Ascends p (parent :: above)

theorem exists_directoryOf? (h : p.IsNormal) (hp : p.components ≠ [.root]) :
    ∃ d name, directoryOf? p = some d ∧ p.fileName? = some name ∧ d.IsNormal ∧
      p.components = d.components ++ [.name name] := by
  obtain ⟨parent, name, hparent, hname, hnormal, hcomponents⟩ := h.exists_parent_name hp
  have hempty : parent.isEmpty = false := by
    rw [Bool.eq_false_iff]
    exact fun hempty => hnormal.components_ne_nil (components_of_isEmpty hempty)
  have hsame : parent.same p = false := by
    rw [Bool.eq_false_iff, ne_eq, same_iff, hcomponents]
    simp
  refine ⟨parent, name, ?_, hname, hnormal, hcomponents⟩
  rw [directoryOf?, hparent]
  simp [hempty, hsame]

theorem ascends_ancestorsWithin (n : Nat) (h : p.IsNormal) (hn : p.components.length ≤ n) :
    Ascends p (ancestorsWithin n p) := by
  induction n generalizing p with
  | zero => exact absurd (List.eq_nil_of_length_eq_zero (by omega)) h.components_ne_nil
  | succ n ih =>
      rw [ancestorsWithin]
      by_cases hroot : p.components = [.root]
      · have hnone : directoryOf? p = none := by
          rw [directoryOf?, Option.bind_eq_none_iff]
          intro parent hparent
          exact absurd hroot (ne_root_of_parent? hparent)
        rw [hnone]
        exact .root hroot
      · obtain ⟨d, name, hd, hname, hnormal, hcomponents⟩ := exists_directoryOf? h hroot
        rw [hd]
        refine .step hname hcomponents (ih hnormal ?_)
        rw [hcomponents, List.length_append, List.length_singleton] at hn
        omega

theorem ascends_ancestors (h : p.IsNormal) : Ascends p (ancestors p) :=
  ascends_ancestorsWithin _ h (by omega)

end Climbing

section Members

theorem Connected.components_ne_nil (h : tree.Connected) (hp : tree.entries.contains p = true) :
    p.components ≠ [] := by
  rcases h.normal p hp with hhere | hnormal
  · simp [hhere]
  · exact hnormal.components_ne_nil

/-- Whatever stands behind a directory in the path of an entry is a name. -/
theorem Connected.areNames (h : tree.Connected) {rest : List Component}
    (hd : tree.entries.contains d = true) (hp : tree.entries.contains p = true)
    (hcomponents : p.components = d.components ++ rest) : AreNames rest := by
  have hne := h.components_ne_nil hd
  obtain ⟨first, others, hd⟩ := List.exists_cons_of_ne_nil hne
  rw [hd, List.cons_append] at hcomponents
  intro component hmem
  rcases h.normal p hp with hhere | ⟨names, hnames, hnormal⟩
  · rw [hhere, List.cons.injEq, List.nil_eq, List.append_eq_nil_iff] at hcomponents
    rw [hcomponents.2.2] at hmem
    contradiction
  · rw [hnormal, List.cons.injEq] at hcomponents
    exact hnames component (hcomponents.2 ▸ List.mem_append_right _ hmem)

end Members

section Growth

theorem lists_put (hp : tree.kindOf? p ≠ some .directory) (h : tree.Lists d name) :
    (tree.put p entry).Lists d name := by
  obtain ⟨names, hget, hname⟩ := h
  refine ⟨names, ?_, hname⟩
  rw [get?_put, if_neg, hget]
  intro hsame
  apply hp
  rw [kindOf?_congr (same_iff.1 hsame), kindOf?_eq, hget]
  rfl

theorem lists_of_put (hentry : ∀ names, entry = .directory names → names = [])
    (h : (tree.put p entry).Lists d name) : tree.Lists d name := by
  obtain ⟨names, hget, hname⟩ := h
  rw [get?_put] at hget
  split at hget
  · rw [hentry names (Option.some.inj hget)] at hname
    contradiction
  · exact ⟨names, hget, hname⟩

theorem contains_put : (tree.put p entry).entries.contains q = true ↔
    p.components = q.components ∨ tree.entries.contains q = true := by
  rw [put, PathMap.contains_insert, Bool.or_eq_true, same_iff]

@[simp]
theorem contains_link (name? : Option String) :
    (tree.link d name?).entries.contains q = tree.entries.contains q := PathMap.contains_modify _

theorem isFile_put_directory (hp : tree.kindOf? p = none) (he : tree.kindOf? e = some .file)
    (names : List String) : (tree.put p (.directory names)).kindOf? e = some .file := by
  rw [kindOf?_put, if_neg, he]
  intro hsame
  rw [← kindOf?_congr (same_iff.1 hsame), hp] at he
  contradiction

theorem isFile_attach (p : Path) (above : List Path) :
    (tree.attach p above).kindOf? e = some .file ↔ tree.kindOf? e = some .file := by
  rw [kindOf?_eq_file, kindOf?_eq_file, content?_attach]

theorem contains_attach (h : tree.entries.contains q = true) (p : Path) (above : List Path) :
    (tree.attach p above).entries.contains q = true := by
  obtain ⟨kind, hkind⟩ := contains_iff_kindOf?.1 h
  exact contains_iff_kindOf?.2 ⟨kind, kindOf?_attach hkind p above⟩

theorem lists_attach (h : tree.Lists d name) (p : Path) (above : List Path) :
    (tree.attach p above).Lists d name := by
  induction above generalizing tree p with
  | nil => exact h
  | cons parent above ih =>
      rw [attach_cons]
      refine (lists_link _).2 (.inl ?_)
      split
      · exact h
      · rename_i hcontains
        refine ih (lists_put ?_ h) parent
        rw [kindOf?_of_not_contains hcontains]
        simp

theorem contains_of_attach (habove : Ascends p above)
    (h : (tree.attach p above).entries.contains q = true) :
    tree.entries.contains q = true ∨ p.IsBelow q := by
  induction habove generalizing tree with
  | root _ => exact .inl h
  | @step p parent above name _ hcomponents _ ih =>
      have hbelow := isBelow_of_components hcomponents
      rw [attach_cons, contains_link] at h
      split at h
      · exact .inl h
      · rcases ih h with hput | hparent
        · exact (contains_put.1 hput).symm.imp_right hbelow.congr_base
        · exact .inr (hbelow.trans hparent)

theorem Attached.mono {after : FileTree} (h : tree.Attached p)
    (hfiles : ∀ e, tree.kindOf? e = some .file → after.kindOf? e = some .file)
    (hlists : ∀ d name, tree.Lists d name → after.Lists d name) : after.Attached p := by
  rcases h with ⟨e, hbelow, he⟩ | hlinked
  · exact .inl ⟨e, hbelow, hfiles e he⟩
  · exact .inr fun d name rest hd hp => hlists d name (hlinked d name rest hd hp)

theorem Attached.congr (h : tree.Attached p) (hpq : p.components = q.components) :
    tree.Attached q := by
  rcases h with ⟨e, hbelow, he⟩ | hlinked
  · exact .inl ⟨e, hbelow.congr hpq, he⟩
  · exact .inr fun d name rest hd hq => hlinked d name rest hd (hpq.trans hq)

theorem Attached.put_directory (h : tree.Attached q) (hp : tree.kindOf? p = none) :
    (tree.put p (.directory [])).Attached q :=
  h.mono (fun e he => isFile_put_directory hp he []) fun d name => lists_put (by simp [hp])

theorem Attached.keep_link (h : tree.Attached q) (name? : Option String) :
    (tree.link d name?).Attached q :=
  h.mono (fun e he => by rwa [kindOf?_link]) fun d name hlists => (lists_link _).2 (.inl hlists)

/-- A path is attached once it is linked into a directory that is. -/
theorem Attached.link (h : tree.Attached parent) (hparent : tree.entries.contains parent = true)
    (hname : p.fileName? = some name) (hp : p.components = parent.components ++ [.name name]) :
    (tree.link parent p.fileName?).Attached p := by
  have hbelow := isBelow_of_components hp
  obtain ⟨kind, hkind⟩ := contains_iff_kindOf?.1 hparent
  rcases h with ⟨e, hparentbelow, he⟩ | hlinked
  · exact .inl ⟨e, hbelow.trans hparentbelow, by rwa [kindOf?_link]⟩
  cases kind with
  | file => exact .inl ⟨parent, hbelow, by rwa [kindOf?_link]⟩
  | directory =>
      refine .inr fun d first rest hd hcomponents => ?_
      rw [lists_link]
      rw [hp] at hcomponents
      rcases List.eq_nil_or_concat' rest with rfl | ⟨others, last, rfl⟩
      · obtain ⟨hparentd, hlast⟩ := List.append_inj' hcomponents rfl
        obtain rfl : name = first := by simpa using hlast
        exact .inr ⟨by rw [← kindOf?_congr hparentd, hkind], hparentd, hname⟩
      · rw [← List.cons_append, ← List.append_assoc] at hcomponents
        exact .inl (hlinked d first others hd (List.append_inj' hcomponents rfl).1)

theorem Linked.kindOf? (h : tree.Linked p) (hbelow : p.IsBelow d) (hd : d.components ≠ []) :
    tree.kindOf? d = some .directory := by
  obtain ⟨names, hne, hnames, hcomponents⟩ := hbelow
  obtain ⟨first, rest, rfl⟩ := List.exists_cons_of_ne_nil hne
  obtain ⟨name, rfl, -⟩ := hnames first (by simp)
  exact (h d name rest hd hcomponents).kindOf?

theorem attached_singleton {component : Component} (hp : p.components = [component]) :
    tree.Attached p := by
  refine .inr fun d name rest hd hcomponents => ?_
  have hpos := List.length_pos_iff.2 hd
  have hlength := congrArg List.length (hp.symm.trans hcomponents)
  simp only [List.length_append, List.length_cons, List.length_nil] at hlength
  omega

/-- Attaching a path makes every directory above it list what leads down to it. -/
theorem attached_attach (habove : Ascends p above)
    (h : ∀ q, p.IsBelow q → tree.entries.contains q = true → tree.Attached q)
    (hq : q.components = p.components ∨
      (p.IsBelow q ∧ (tree.attach p above).entries.contains q = true)) :
    (tree.attach p above).Attached q := by
  induction habove generalizing tree q with
  | root hroot =>
      rcases hq with hq | ⟨hbelow, hcontains⟩
      · exact attached_singleton (hq.trans hroot)
      · exact h q hbelow hcontains
  | @step p parent above name hname hcomponents _ ih =>
      have hbelow := isBelow_of_components hcomponents
      -- The tree in which `parent` is there and attached, before `p` is linked into it.
      obtain ⟨mid, hmid, hparent, hattached⟩ : ∃ mid : FileTree,
          tree.attach p (parent :: above) = mid.link parent p.fileName? ∧
          mid.entries.contains parent = true ∧
          ∀ q, p.IsBelow q → mid.entries.contains q = true → mid.Attached q := by
        rw [attach_cons]
        by_cases hold : tree.entries.contains parent = true
        · exact ⟨tree, by rw [if_pos hold], hold, h⟩
        · refine ⟨_, by rw [if_neg hold], contains_attach (contains_put.2 (.inl rfl)) parent above,
            fun q hq hmem => ?_⟩
          refine ih (fun q hq hmem => ?_) ((hq.of_components hcomponents).imp_right (⟨·, hmem⟩))
          have hqold := (contains_put.1 hmem).resolve_left hq.components_ne
          exact (h q (hbelow.trans hq) hqold).put_directory (kindOf?_of_not_contains hold)
      rw [hmid] at hq ⊢
      rcases hq with hq | ⟨hq, hmem⟩
      · exact ((hattached parent hbelow hparent).link hparent hname hcomponents).congr hq.symm
      · rw [contains_link] at hmem
        exact (hattached q hq hmem).keep_link _

theorem exists_child_attach (habove : Ascends p above) (hp : tree.entries.contains p = true)
    (h : ∀ d name child, tree.Lists d name → child.components = d.components ++ [.name name] →
      tree.entries.contains child = true) {child : Path}
    (hlists : (tree.attach p above).Lists d name)
    (hchild : child.components = d.components ++ [.name name]) :
    (tree.attach p above).entries.contains child = true := by
  induction habove generalizing tree d name child with
  | root _ => exact h d name child hlists hchild
  | @step p parent above last hname hcomponents _ ih =>
      rw [attach_cons, lists_link] at hlists
      rcases hlists with hlists | ⟨-, hd, hlast⟩
      · rw [attach_cons, contains_link]
        split at hlists
        · rename_i hold
          rw [if_pos hold]
          exact h d name child hlists hchild
        · rename_i hnew
          rw [if_neg hnew]
          refine ih (contains_put.2 (.inl rfl)) (fun d name child hlists hchild => ?_) hlists hchild
          exact contains_put.2 (.inr (h d name child (lists_of_put (by simp) hlists) hchild))
      · obtain rfl : last = name := by simpa [hname] using hlast
        have hpchild : p.components = child.components := by rw [hcomponents, hd, hchild]
        rw [← PathMap.contains_congr hpchild]
        exact contains_attach hp _ _

theorem unobstructed_put (h : tree.Connected) (hp : p.components ≠ [])
    (hdirectory : tree.kindOf? p ≠ some .directory)
    (hfile : entry.kind = .file → ¬ tree.Obstructed p)
    (hq : (tree.put p entry).kindOf? q = some .file) : ¬ (tree.put p entry).Obstructed q := by
  rintro ⟨e, hbelow, he⟩
  rw [kindOf?_put] at hq he
  by_cases hpq : p.same q = true
  · rw [if_pos hpq, Option.some.injEq] at hq
    have hpe : ¬ p.same e = true := fun hpe =>
      hbelow.components_ne ((same_iff.1 hpq).symm.trans (same_iff.1 hpe))
    rw [if_neg hpe] at he
    exact hfile hq ⟨e, hbelow.congr (same_iff.1 hpq).symm, he⟩
  · rw [if_neg hpq] at hq
    have hobstructed := h.unobstructed q hq
    by_cases hpe : p.same e = true
    · -- Nothing that is there lies below `p`: it would be linked, and `p` a directory.
      have hlinked := (h.attached q (contains_iff_kindOf?.2 ⟨_, hq⟩)).resolve_left hobstructed
      exact hdirectory (hlinked.kindOf? (hbelow.congr_base (same_iff.1 hpe).symm) hp)
    · rw [if_neg hpe] at he
      exact hobstructed ⟨e, hbelow, he⟩

/-- Putting an entry in keeps a tree connected, if it takes the place of no directory and no file is
put below another one. -/
theorem Connected.put (h : tree.Connected) (hp : p.IsNormal)
    (hdirectory : tree.kindOf? p ≠ some .directory)
    (hentry : (∃ content, entry = .file content) ∨
      (entry = .directory [] ∧ tree.kindOf? p = none))
    (hfile : entry.kind = .file → ¬ tree.Obstructed p) :
    ((tree.put p entry).attach p (ancestors p)).Connected := by
  have habove := ascends_ancestors hp
  have hself : (tree.put p entry).entries.contains p = true := contains_put.2 (.inl rfl)
  have hempty : ∀ names, entry = .directory names → names = [] := by
    rintro names rfl
    obtain ⟨content, hcontent⟩ | ⟨hnames, -⟩ := hentry
    · contradiction
    · exact Entry.directory.inj hnames
  have hfiles : ∀ e, tree.kindOf? e = some .file →
      (tree.put p entry).kindOf? e = some .file := by
    intro e he
    rcases hentry with ⟨content, rfl⟩ | ⟨rfl, hnone⟩
    · rw [kindOf?_put]
      split
      · rfl
      · exact he
    · exact isFile_put_directory hnone he []
  have hold : ∀ q, tree.entries.contains q = true → (tree.put p entry).Attached q :=
    fun q hq => (h.attached q hq).mono hfiles fun d name => lists_put hdirectory
  have hattached := fun q => attached_attach habove (q := q) fun e hbelow he =>
    hold e ((contains_put.1 he).resolve_left hbelow.components_ne)
  refine ⟨fun q hq hobstructed => ?_, fun q hq => ?_, fun q hq => ?_,
    fun d name child hlists hchild => ?_⟩
  · obtain ⟨e, hbelow, he⟩ := hobstructed
    exact unobstructed_put h hp.components_ne_nil hdirectory hfile ((isFile_attach p _).1 hq)
      ⟨e, hbelow, (isFile_attach p _).1 he⟩
  · rcases contains_of_attach habove hq with hput | hbelow
    · rcases contains_put.1 hput with hsame | hqold
      · exact hattached q (.inl hsame.symm)
      · exact (hold q hqold).mono (fun e => (isFile_attach p _).2) fun d name hlists =>
          lists_attach hlists p _
    · exact hattached q (.inr ⟨hbelow, hq⟩)
  · rcases contains_of_attach habove hq with hput | hbelow
    · exact (contains_put.1 hput).elim (fun hsame => .inr (hp.congr hsame)) (h.normal q)
    · exact .inr (hp.of_isBelow hbelow)
  · refine exists_child_attach habove hself (fun d name child hlists hchild => ?_) hlists hchild
    exact contains_put.2 (.inr (h.exists_child d name child (lists_of_put hempty hlists) hchild))

theorem connected_empty : FileTree.empty.Connected := by
  have hempty : FileTree.empty =
      (⟨PathMap.empty⟩ : FileTree).put (ofString ".") (.directory []) := rfl
  rw [hempty]
  have hhere : ∀ p, ((⟨PathMap.empty⟩ : FileTree).put (ofString ".")
      (.directory [])).entries.contains p = true → p.components = [.here] := by
    intro p hp
    exact ((contains_put.1 hp).resolve_right (by simp [PathMap.contains_iff])).symm
  refine ⟨fun p hp => ?_, fun p hp => attached_singleton (hhere p hp),
    fun p hp => .inl (hhere p hp), fun d name child hlists => ?_⟩
  · rw [kindOf?_put] at hp
    split at hp <;> contradiction
  · obtain ⟨names, hget, -⟩ := lists_of_put (by simp) hlists
    simp at hget

theorem Grown.connected (h : tree.Grown) : tree.Connected := by
  induction h with
  | empty => exact connected_empty
  | putFile content _ hp hdirectory hfiles ih =>
      exact ih.put hp hdirectory (.inl ⟨content, rfl⟩)
        fun _ ⟨e, hbelow, he⟩ => hfiles e hbelow he
  | @putDirectory tree p _ hp ih =>
      rw [FileTree.putDirectory]
      split
      · exact ih
      · rename_i hcontains
        have hnone := kindOf?_of_not_contains hcontains
        exact ih.put hp (by simp [hnone]) (.inr ⟨rfl, hnone⟩) (by simp [Entry.kind])

end Growth

/-- Whether a file can be put at a path: no directory is there, and no file stands above it. -/
def isFree (tree : FileTree) (p : Path) : Bool :=
  tree.kindOf? p != some .directory && tree.entries.entries.all fun entry =>
    entry.2.kind != .file || !p.startsWith entry.1 || entry.1.same p

theorem not_obstructed_of_isFree (h : tree.isFree p = true) : ¬ tree.Obstructed p := by
  rw [isFree, Bool.and_eq_true, List.all_eq_true] at h
  rintro ⟨e, hbelow, he⟩
  rw [kindOf?_eq] at he
  obtain ⟨entry, hget, hkind⟩ := Option.map_eq_some_iff.1 he
  obtain ⟨k, hmem, hk⟩ := PathMap.exists_mem_of_get? hget
  have hstarts : p.startsWith k = true := by
    rw [startsWith_iff, hk, ← startsWith_iff]
    exact hbelow.startsWith
  have hdiffers : k.same p = false := by
    rw [Bool.eq_false_iff, ne_eq, same_iff, hk]
    exact hbelow.components_ne.symm
  have hentry := h.2 _ hmem
  simp [hkind, hstarts, hdiffers] at hentry

theorem ne_directory_of_isFree (h : tree.isFree p = true) : tree.kindOf? p ≠ some .directory := by
  rw [isFree, Bool.and_eq_true, bne_iff_ne] at h
  exact h.1

theorem Grown.putFile_of_isFree {content : ByteArray} (h : tree.Grown)
    (hp : (p.isAbsolute && p.components.tail.all Component.isName) = true)
    (hfree : tree.isFree p = true) : (tree.putFile p content).Grown := by
  rw [Bool.and_eq_true] at hp
  exact .putFile content h (isNormal_of_isName hp.1 hp.2) (ne_directory_of_isFree hfree)
    fun e hbelow he => not_obstructed_of_isFree hfree ⟨e, hbelow, he⟩

end FileTree

end LiveBuild
