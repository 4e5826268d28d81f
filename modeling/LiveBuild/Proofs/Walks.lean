import LiveBuild.Build.Walk
import LiveBuild.Proofs.Trees

/-!
# What a walk finds

A walk is bounded by the number of places in the tree. The directories that are still to be listed
lie apart from each other, and every listing takes one place out of them, so the bound is never
reached: a walk finds what can be reached through listings.
-/

namespace LiveBuild.Walk

/-- A path is among the entries of a directory. -/
def Child {σ : Type} [FileStore σ] (store : σ) (d q : Path) : Prop :=
  ∃ entries, FileStore.list store d = .ok entries ∧ q ∈ entries

/-- From a directory a walk comes to a path: through directories that it does not pass over. -/
inductive Finds {σ : Type} [FileStore σ] (store : σ) (o : BuildOptions) : Path → Path → Prop
  | here {d q : Path} : Child store d q → isSkipped o q = false →
      FileStore.isDirectory store q = false → Finds store o d q
  | through {d e q : Path} : Child store d e → isSkipped o e = false →
      FileStore.isDirectory store e = true → Finds store o e q → Finds store o d q

variable {tree before after : FileTree} {o : BuildOptions} {outDir d p q : Path}

theorem isDirectory_iff :
    FileStore.isDirectory tree p = true ↔ tree.kindOf? p = some .directory := by
  simp [FileStore.isDirectory, FileStore.kindOf?]

theorem isFile_eq_false_of_isDirectory (h : FileStore.isDirectory tree p = true) :
    FileStore.isFile tree p = false := by
  simp_all [FileStore.isDirectory, FileStore.isFile]

theorem child_iff :
    Child tree d q ↔ ∃ name, tree.Lists d name ∧ q = d.join (Path.ofString name) := by
  rw [Child]
  change (∃ entries, tree.list d = .ok entries ∧ q ∈ entries) ↔ _
  rw [FileTree.list]
  constructor
  · rintro ⟨entries, hlist, hq⟩
    split at hlist
    · rename_i names hget
      obtain rfl := Except.ok.inj hlist
      rw [Path.sort, List.mem_mergeSort] at hq
      obtain ⟨name, hname, rfl⟩ := List.mem_map.1 hq
      exact ⟨name, ⟨names, hget, hname⟩, rfl⟩
    · simp at hlist
  · rintro ⟨name, ⟨names, hget, hname⟩, rfl⟩
    refine ⟨_, by rw [hget], ?_⟩
    rw [Path.sort, List.mem_mergeSort]
    exact List.mem_map_of_mem hname

theorem components_of_lists {name : String} (hsound : tree.Sound) (h : tree.Lists d name) :
    (d.join (Path.ofString name)).components = d.components ++ [.name name] :=
  Path.components_join_name (h.isName hsound) d

theorem startsWith_of_child (hsound : tree.Sound) (h : Child tree d q) :
    q.startsWith d = true := by
  obtain ⟨name, hlists, rfl⟩ := child_iff.1 h
  rw [Path.startsWith_iff, components_of_lists hsound hlists]
  exact List.prefix_append _ _

theorem startsWith_trans {base : Path} (hqp : q.startsWith p = true)
    (hp : p.startsWith base = true) : q.startsWith base = true := by
  rw [Path.startsWith_iff] at *
  exact hp.trans hqp

theorem startsWith_of_finds (hsound : tree.Sound) (h : Finds tree o d q) :
    q.startsWith d = true := by
  induction h with
  | here hchild => exact startsWith_of_child hsound hchild
  | through hchild _ _ _ ih => exact startsWith_trans ih (startsWith_of_child hsound hchild)

theorem isDirectory_of_child (h : Child tree d q) : tree.kindOf? d = some .directory := by
  obtain ⟨name, hlists, -⟩ := child_iff.1 h
  exact hlists.kindOf?

theorem isDirectory_of_finds (h : Finds tree o d q) : tree.kindOf? d = some .directory := by
  cases h with
  | here hchild => exact isDirectory_of_child hchild
  | through hchild => exact isDirectory_of_child hchild

theorem isDirectory_eq_false_of_finds (h : Finds tree o d q) :
    FileStore.isDirectory tree q = false := by
  induction h with
  | here _ _ hkind => exact hkind
  | through _ _ _ _ ih => exact ih

section Collect

/-- Neither of two places lies below the other. -/
def Apart (p q : Path) : Prop := p.startsWith q = false ∧ q.startsWith p = false

/-- How many places lie at or below some directories. -/
def extent (tree : FileTree) (directories : List Path) : Nat :=
  tree.entries.entries.countP fun entry => directories.any (entry.1.startsWith ·)

theorem Apart.symm (h : Apart p q) : Apart q p := ⟨h.2, h.1⟩

theorem Apart.same_eq_false (h : Apart p q) : p.same q = false := by
  rw [Bool.eq_false_iff, ne_eq, Path.same_iff]
  intro heq
  have hprefix : p.startsWith q = true := Path.startsWith_iff.2 (heq ▸ List.prefix_rfl)
  rw [h.1] at hprefix
  contradiction

/-- The entries of a directory can be listed, and lie apart. -/
theorem list_eq (hsound : tree.Sound) (hd : tree.kindOf? d = some .directory) :
    ∃ entries, FileStore.list tree d = .ok entries ∧ (∀ q, q ∈ entries ↔ Child tree d q) ∧
      entries.Pairwise Apart := by
  obtain ⟨names, hget⟩ : ∃ names, tree.entries.get? d = some (.directory names) := by
    rw [FileTree.kindOf?_eq] at hd
    obtain ⟨entry, hget, hkind⟩ := Option.map_eq_some_iff.1 hd
    cases entry with
    | file content => simp [FileTree.Entry.kind] at hkind
    | directory names => exact ⟨names, hget⟩
  have hlist : FileStore.list tree d =
      .ok (Path.sort (names.map fun name => d.join (Path.ofString name))) := by
    change tree.list d = _
    rw [FileTree.list, hget]
  obtain ⟨hnodup, hnames⟩ := hsound d names hget
  refine ⟨_, hlist, fun q => ?_, ?_⟩
  · rw [Child, hlist]
    simp
  · rw [Path.sort, (List.mergeSort_perm _ _).pairwise_iff fun h => h.symm, List.pairwise_map]
    refine hnodup.imp_of_mem fun {a b} ha hb hab => ?_
    have hcomponents := fun name hname =>
      Path.components_join_name (hnames name hname) d
    have hne : ∀ a ∈ names, ∀ b ∈ names, a ≠ b →
        (d.join (Path.ofString a)).startsWith (d.join (Path.ofString b)) = false := by
      intro a ha b hb hab
      rw [Bool.eq_false_iff, ne_eq, Path.startsWith_iff, hcomponents a ha, hcomponents b hb]
      intro hprefix
      have heq := hprefix.eq_of_length (by simp)
      exact hab (by simpa using heq.symm)
    exact ⟨hne a ha b hb hab, hne b hb a ha (Ne.symm hab)⟩

theorem apart_of_child (hsound : tree.Sound) (hchild : Child tree d q) (h : Apart d p) :
    Apart q p := by
  obtain ⟨name, hlists, rfl⟩ := child_iff.1 hchild
  have hcomponents := components_of_lists hsound hlists
  have hbelow := startsWith_of_child hsound hchild
  constructor
  · rw [Bool.eq_false_iff, ne_eq, Path.startsWith_iff, hcomponents, List.prefix_concat_iff]
    rintro (heq | hprefix)
    · have hstarts : p.startsWith d = true := by
        rw [Path.startsWith_iff, heq]
        exact List.prefix_append _ _
      rw [h.2] at hstarts
      contradiction
    · rw [← Path.startsWith_iff, h.1] at hprefix
      contradiction
  · rw [Bool.eq_false_iff]
    intro hstarts
    have hpd := startsWith_trans hstarts hbelow
    rw [h.2] at hpd
    contradiction

theorem countP_lt {α : Type} {P Q : α → Bool} {l : List α} {a : α} (h : ∀ x, P x → Q x)
    (ha : a ∈ l) (hQ : Q a = true) (hP : P a = false) : l.countP P < l.countP Q := by
  obtain ⟨left, right, rfl⟩ := List.append_of_mem ha
  have hleft := List.countP_mono_left (l := left) fun x _ => h x
  have hright := List.countP_mono_left (l := right) fun x _ => h x
  simp only [List.countP_append, List.countP_cons, hQ, hP]
  simp
  omega

/-- A directory that is replaced by entries of its own takes its place out of the extent. -/
theorem extent_lt (hsound : tree.Sound) (hd : tree.kindOf? d = some .directory)
    {entries others : List Path} (hentries : ∀ e ∈ entries, Child tree d e)
    (hothers : ∀ p ∈ others, Apart d p) :
    extent tree (entries ++ others) < extent tree (d :: others) := by
  rw [FileTree.kindOf?_eq] at hd
  obtain ⟨entry, hget, -⟩ := Option.map_eq_some_iff.1 hd
  obtain ⟨k, hmem, hk⟩ := PathMap.exists_mem_of_get? hget
  refine countP_lt (a := (k, entry)) ?_ hmem ?_ ?_
  · intro x hx
    rw [List.any_append, Bool.or_eq_true] at hx
    rw [List.any_cons, Bool.or_eq_true]
    apply hx.imp_left
    intro hx
    obtain ⟨e, he, hstarts⟩ := List.any_eq_true.1 hx
    exact startsWith_trans hstarts (startsWith_of_child hsound (hentries e he))
  · have hstarts : k.startsWith d = true := Path.startsWith_iff.2 (by simp [hk])
    simp [hstarts]
  · rw [← Bool.not_eq_true, List.any_eq_true]
    rintro ⟨e, he, hstarts⟩
    rw [FileTree.startsWith_congr hk] at hstarts
    rcases List.mem_append.1 he with he | he
    · obtain ⟨name, hlists, rfl⟩ := child_iff.1 (hentries e he)
      rw [Path.startsWith_iff, components_of_lists hsound hlists] at hstarts
      have hlength := hstarts.length_le
      rw [List.length_append, List.length_singleton] at hlength
      omega
    · rw [(hothers e he).1] at hstarts
      contradiction

theorem finds_iff : Finds tree o d q ↔
    (Child tree d q ∧ isSkipped o q = false ∧ FileStore.isDirectory tree q = false) ∨
      ∃ e, (Child tree d e ∧ isSkipped o e = false ∧ FileStore.isDirectory tree e = true) ∧
        Finds tree o e q := by
  constructor
  · rintro (⟨hchild, hskip, hkind⟩ | ⟨hchild, hskip, hkind, hfinds⟩)
    · exact Or.inl ⟨hchild, hskip, hkind⟩
    · exact Or.inr ⟨_, ⟨hchild, hskip, hkind⟩, hfinds⟩
  · rintro (⟨hchild, hskip, hkind⟩ | ⟨e, ⟨hchild, hskip, hkind⟩, hfinds⟩)
    · exact .here hchild hskip hkind
    · exact .through hchild hskip hkind hfinds

/-- What a step of a walk puts in the place of a directory lies apart from all the rest. -/
theorem pairwise_apart_children (hsound : tree.Sound) {found others entries next : List Path}
    (hapart : (found ++ d :: others).Pairwise Apart) (hentries : ∀ e ∈ entries, Child tree d e)
    (hentriesapart : entries.Pairwise Apart) (hperm : next.Perm (found ++ (entries ++ others))) :
    next.Pairwise Apart := by
  obtain ⟨hfound, hdirectories, haway⟩ := List.pairwise_append.1 hapart
  obtain ⟨hd, hothers⟩ := List.pairwise_cons.1 hdirectories
  rw [hperm.pairwise_iff fun h => h.symm]
  refine List.pairwise_append.2 ⟨hfound, List.pairwise_append.2 ⟨hentriesapart, hothers, ?_⟩, ?_⟩
  · intro e he p hp
    exact apart_of_child hsound (hentries e he) (hd p hp)
  · intro p hp e he
    rcases List.mem_append.1 he with he | he
    · exact (apart_of_child hsound (hentries e he) (haway p hp d (by simp)).symm).symm
    · exact haway p hp e (List.mem_cons_of_mem _ he)

theorem collect_spec (hsound : tree.Sound) (o : BuildOptions) (fuel : Nat)
    {found directories : List Path}
    (hdirectories : ∀ d ∈ directories, tree.kindOf? d = some .directory)
    (hapart : (found ++ directories).Pairwise Apart) (hfuel : extent tree directories ≤ fuel) :
    ∃ files, collect tree o fuel found directories = .ok files ∧ files.Pairwise Apart ∧
      ∀ q, q ∈ files ↔ q ∈ found ∨ ∃ d ∈ directories, Finds tree o d q := by
  induction fuel generalizing found directories with
  | zero =>
      cases directories with
      | nil => exact ⟨found, by rw [collect], by simpa using hapart, by simp⟩
      | cons d others =>
          have hnone : ∀ e ∈ ([] : List Path), Child tree d e := by simp
          have hlt := extent_lt hsound (hdirectories d (by simp)) hnone
            (List.pairwise_cons.1 (List.pairwise_append.1 hapart).2.1).1
          omega
  | succ fuel ih =>
      cases directories with
      | nil => exact ⟨found, by rw [collect], by simpa using hapart, by simp⟩
      | cons d others =>
          obtain ⟨hd, hothers⟩ := List.forall_mem_cons.1 hdirectories
          have haway := (List.pairwise_cons.1 (List.pairwise_append.1 hapart).2.1).1
          obtain ⟨entries, hlist, hentries, hentriesapart⟩ := list_eq hsound hd
          have hcollect : collect tree o (fuel + 1) found (d :: others) = collect tree o fuel
              (found ++ (entries.filter fun p => !isSkipped o p).filter
                fun p => !FileStore.isDirectory tree p)
              (((entries.filter fun p => !isSkipped o p).filter
                (FileStore.isDirectory tree)).reverse ++ others) := by
            rw [collect, hlist]
            simp only [Except.mapError, List.partition_eq_filter_filter]
            rfl
          have hnext : ∀ e, e ∈ ((entries.filter fun p => !isSkipped o p).filter
              (FileStore.isDirectory tree)).reverse ↔
              Child tree d e ∧ isSkipped o e = false ∧ FileStore.isDirectory tree e = true := by
            intro e
            simp only [List.mem_reverse, List.mem_filter, hentries, Bool.not_eq_true', and_assoc]
          have hlt := extent_lt hsound hd (fun e he => ((hnext e).1 he).1) haway
          have hbelow : ∀ e ∈ ((entries.filter fun p => !isSkipped o p).filter
              (FileStore.isDirectory tree)).reverse ++ others,
              tree.kindOf? e = some .directory := by
            intro e he
            rcases List.mem_append.1 he with he | he
            · exact isDirectory_iff.1 ((hnext e).1 he).2.2
            · exact hothers e he
          have hnextapart : ((found ++ (entries.filter fun p => !isSkipped o p).filter
                fun p => !FileStore.isDirectory tree p) ++
              (((entries.filter fun p => !isSkipped o p).filter
                (FileStore.isDirectory tree)).reverse ++ others)).Pairwise Apart := by
            refine pairwise_apart_children hsound hapart
              (fun e he => (hentries e).1 (List.mem_filter.1 he).1)
              (hentriesapart.filter fun p => !isSkipped o p) ?_
            rw [List.append_assoc, ← List.append_assoc (List.filter _ _)]
            refine ((List.Perm.append_left _ (List.reverse_perm _)).trans ?_).append_right _
              |>.append_left _
            exact List.perm_append_comm.trans (List.filter_append_perm _ _)
          obtain ⟨files, hfiles, hfilesapart, hmem⟩ := @ih (found ++
            (entries.filter fun p => !isSkipped o p).filter
              fun p => !FileStore.isDirectory tree p) _ hbelow hnextapart (by omega)
          refine ⟨files, by rw [hcollect, hfiles], hfilesapart, fun q => ?_⟩
          rw [hmem]
          simp only [List.mem_append, List.mem_cons, or_and_right, exists_or, exists_eq_left,
            hnext, finds_iff (d := d), List.mem_filter, hentries, Bool.not_eq_true', and_assoc,
            or_assoc]

end Collect

/-- A walk from a directory finds exactly what can be reached through listings, in path order and
each path once. -/
theorem files_spec (hsound : tree.Sound) (o : BuildOptions)
    (hd : tree.kindOf? d = some .directory) :
    ∃ found, files tree o d = .ok found ∧
      found.Pairwise (fun p q => compare p.components q.components = .lt) ∧
      ∀ q, q ∈ found ↔ Finds tree o d q := by
  have hfuel : extent tree [d] ≤ FileStore.size tree + 1 := by
    have hcount : extent tree [d] ≤ tree.entries.entries.length := List.countP_le_length
    change extent tree [d] ≤ tree.entries.entries.length + 1
    omega
  obtain ⟨found, hfound, hapart, hmem⟩ := @collect_spec _ hsound o _ [] [d]
    (by simpa using hd) (by simp) hfuel
  have hdistinct : Path.Distinct found := hapart.imp Apart.same_eq_false
  refine ⟨Path.sort found, by rw [files, hfound]; rfl, hdistinct.pairwise_sort, fun q => ?_⟩
  rw [Path.sort, List.mem_mergeSort, hmem]
  simp

theorem mem_files (hsound : tree.Sound) (o : BuildOptions)
    (hd : tree.kindOf? d = some .directory) :
    ∃ found, files tree o d = .ok found ∧ ∀ q, q ∈ found ↔ Finds tree o d q := by
  obtain ⟨found, hfound, -, hmem⟩ := files_spec hsound o hd
  exact ⟨found, hfound, hmem⟩

section Kept

variable (h : FileTree.Kept outDir before after)

include h

/-- What a walk finds outside of the directory of outputs was found before anything was written
there. -/
theorem finds_before (hafter : after.Sound) (hfinds : Finds after o d q)
    (hq : q.startsWith outDir = false) : Finds before o d q := by
  have hlists : ∀ d e, Child after d e → e.startsWith outDir = false →
      Child before d e ∨ (before.kindOf? e = none ∧ after.kindOf? e = some .directory) := by
    intro d e hchild he
    obtain ⟨name, hlists, rfl⟩ := child_iff.1 hchild
    rcases h.new d name hlists with hbefore | hfresh
    · exact Or.inl (child_iff.2 ⟨name, hbefore, rfl⟩)
    · refine Or.inr ((hfresh _ (components_of_lists hafter hlists)).resolve_left ?_)
      simp [he]
  induction hfinds with
  | @here d q hchild hskip hkind =>
      rw [← Bool.not_eq_true, isDirectory_iff] at hkind
      rcases hlists d q hchild hq with hchild | ⟨-, hdirectory⟩
      · refine .here hchild hskip ?_
        rw [← Bool.not_eq_true, isDirectory_iff]
        intro hbefore
        rcases h.directory q hbefore with hafter | ⟨hin, -⟩
        · exact hkind hafter
        · simp [hq] at hin
      · exact absurd hdirectory hkind
  | @through d e q hchild hskip hkind hfinds ih =>
      have he : e.startsWith outDir = false := by
        rw [Bool.eq_false_iff]
        intro hin
        rw [startsWith_trans (startsWith_of_finds hafter hfinds) hin] at hq
        contradiction
      have hbefore := ih hq
      have hdirectory := isDirectory_of_finds hbefore
      rcases hlists d e hchild he with hchild | ⟨hnone, -⟩
      · exact .through hchild hskip (isDirectory_iff.2 hdirectory) hbefore
      · simp [hnone] at hdirectory

theorem finds_of_files {found : List Path} (hafter : after.Sound)
    (hd : FileStore.isDirectory after d = true) (hfiles : files after o d = .ok found)
    (hmem : q ∈ found) (hq : q.startsWith outDir = false) :
    Finds after o d q ∧ Finds before o d q := by
  obtain ⟨found', hfound, hiff⟩ := mem_files hafter o (isDirectory_iff.1 hd)
  obtain rfl := Except.ok.inj (hfiles.symm.trans hfound)
  have hfinds := (hiff q).1 hmem
  exact ⟨hfinds, finds_before h hafter hfinds hq⟩

/-- A file that a walk would have found is still found, unless something in the directory of outputs
is found. -/
theorem exists_finds (hfinds : Finds before o d q) (hq : before.kindOf? q = some .file)
    (hd : after.kindOf? d = some .directory) :
    ∃ p, Finds after o d p ∧ (p = q ∨ p.startsWith outDir = true) := by
  have hchildren : ∀ d e, Child before d e → after.kindOf? d = some .directory →
      Child after d e := by
    intro d e hchild hd
    obtain ⟨name, hlists, rfl⟩ := child_iff.1 hchild
    exact child_iff.2 ⟨name, h.listed d name hlists hd, rfl⟩
  induction hfinds with
  | @here d q hchild hskip hkind =>
      have hfile := h.file q hq
      refine ⟨q, .here (hchildren d q hchild hd) hskip ?_, Or.inl rfl⟩
      rw [← Bool.not_eq_true, isDirectory_iff, hfile]
      simp
  | @through d e q hchild hskip hkind hfinds ih =>
      rcases h.directory e (isDirectory_iff.1 hkind) with he | ⟨hin, he⟩
      · obtain ⟨p, hp, hpq⟩ := ih hq he
        exact ⟨p, .through (hchildren d e hchild hd) hskip (isDirectory_iff.2 he) hp, hpq⟩
      · refine ⟨e, .here (hchildren d e hchild hd) hskip ?_, Or.inr hin⟩
        rw [← Bool.not_eq_true, isDirectory_iff, he]
        simp

end Kept

end LiveBuild.Walk
