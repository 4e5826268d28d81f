import LiveBuild.Proofs.GrownTrees
import LiveBuild.Proofs.Walks

/-!
# A walk lists what is visible

In a tree in which no file is in the way of another one, a walk finds the files below a directory
that are neither hidden nor excluded, nor lie below something that is.
-/

namespace LiveBuild

open LiveBuild.Path

/-- The path that components lead to from a directory, spelled on from the directory's spelling. -/
def Path.descend (d : Path) (components : List Component) : Path :=
  components.foldl (fun p component => p.join (ofString component.text)) d

@[simp]
theorem Path.descend_nil (d : Path) : d.descend [] = d := rfl

@[simp]
theorem Path.descend_cons (d : Path) (component : Component) (rest : List Component) :
    d.descend (component :: rest) = (d.join (ofString component.text)).descend rest := rfl

theorem Path.components_descend {names : List Component} (hnames : AreNames names) (d : Path) :
    (d.descend names).components = d.components ++ names := by
  induction names generalizing d with
  | nil => simp
  | cons component rest ih =>
      obtain ⟨⟨name, rfl, hname⟩, hrest⟩ := List.forall_mem_cons.1 hnames
      rw [descend_cons, ih hrest, Component.text, components_join_name hname, List.append_assoc]
      rfl

/-- Whether a path in the base directory is excluded. -/
def BuildOptions.Excludes (o : BuildOptions) (p : Path) : Prop :=
  ∃ rest, o.belowBase p = .ok rest ∧ o.excludes rest = true

namespace Walk

variable {tree : FileTree} {o : BuildOptions} {d e f p q : Path} {name : String}
  {rest : List Component}

/-- Neither what components lead to from a directory nor anything on the way there is hidden or
excluded. -/
structure Shows (o : BuildOptions) (d : Path) (rest : List Component) : Prop where
  not_hidden : ∀ component ∈ rest, component.text.toList.head? ≠ some '.'
  not_excluded : ∀ upTo, upTo ≠ [] → upTo <+: rest → ¬ o.Excludes (d.descend upTo)

/-- A file below a directory that is neither hidden nor excluded, and no directory between them is
either. -/
def IsVisible (tree : FileTree) (o : BuildOptions) (d f : Path) : Prop :=
  tree.kindOf? f = some .file ∧
    ∃ rest, rest ≠ [] ∧ f.components = d.components ++ rest ∧ Shows o d rest

theorem isVisible_iff_of_components (hf : f.components = d.components ++ rest) (hne : rest ≠ []) :
    IsVisible tree o d f ↔ tree.kindOf? f = some .file ∧ Shows o d rest := by
  refine and_congr_right fun _ => ⟨?_, fun h => ⟨rest, hne, hf, h⟩⟩
  rintro ⟨others, -, hothers, hshows⟩
  obtain rfl := List.append_cancel_left (hf.symm.trans hothers)
  exact hshows

theorem isSkipped_eq_false_iff (hname : p.fileName? = some name) :
    isSkipped o p = false ↔ name.toList.head? ≠ some '.' ∧ ¬ o.Excludes p := by
  rw [isSkipped, Bool.or_eq_false_iff, isHidden, hname, beq_eq_false_iff_ne,
    BuildOptions.Excludes, BuildOptions.belowBase]
  cases p.relativeTo? o.baseDir with
  | none => simp
  | some rest => simp

theorem shows_cons (hname : IsName name) : Shows o d (.name name :: rest) ↔
    isSkipped o (d.join (ofString name)) = false ∧ Shows o (d.join (ofString name)) rest := by
  have hfile : (d.join (ofString name)).fileName? = some name := by
    rw [fileName?, components_join_name hname, List.getLast?_concat]
  rw [isSkipped_eq_false_iff hfile]
  constructor
  · rintro ⟨hhidden, hexcluded⟩
    obtain ⟨hfirst, hothers⟩ := List.forall_mem_cons.1 hhidden
    have hhere := hexcluded [.name name] (by simp) (by simp)
    refine ⟨⟨hfirst, hhere⟩, hothers, fun upTo _ hprefix => ?_⟩
    exact hexcluded (.name name :: upTo) (by simp) ((List.prefix_cons_inj _).2 hprefix)
  · rintro ⟨⟨hfirst, hhere⟩, hothers, hexcluded⟩
    refine ⟨List.forall_mem_cons.2 ⟨hfirst, hothers⟩, fun upTo hne hprefix => ?_⟩
    obtain ⟨first, others, rfl⟩ := List.exists_cons_of_ne_nil hne
    obtain ⟨rfl, hothersprefix⟩ := List.cons_prefix_cons.1 hprefix
    by_cases hnil : others = []
    · rw [hnil]
      exact hhere
    · exact hexcluded others hnil hothersprefix

theorem shows_nil : Shows o d [] where
  not_hidden _ h := nomatch h
  not_excluded _ hne hprefix := absurd (List.prefix_nil.1 hprefix) hne

/-- What a walk finds is a file, and it has come there past nothing hidden or excluded. -/
theorem exists_shows_of_finds (h : tree.Connected) (hsound : tree.Sound)
    (hfinds : Finds tree o d q) : tree.kindOf? q = some .file ∧
      ∃ rest, rest ≠ [] ∧ AreNames rest ∧ q = d.descend rest ∧ Shows o d rest := by
  induction hfinds with
  | here hchild hskip hkind =>
      obtain ⟨name, hlists, rfl⟩ := child_iff.1 hchild
      have hcomponents := components_of_lists hsound hlists
      have hname := hlists.isName hsound
      refine ⟨?_, [.name name], by simp, areNames_singleton hname, rfl,
        (shows_cons hname).2 ⟨hskip, shows_nil⟩⟩
      obtain ⟨kind, hexists⟩ :=
        FileTree.contains_iff_kindOf?.1 (h.exists_child _ name _ hlists hcomponents)
      rw [← Bool.not_eq_true, isDirectory_iff] at hkind
      cases kind with
      | file => exact hexists
      | directory => exact absurd hexists hkind
  | through hchild hskip _ _ ih =>
      obtain ⟨name, hlists, rfl⟩ := child_iff.1 hchild
      have hname := hlists.isName hsound
      obtain ⟨hfile, rest, -, hrest, hq, hshows⟩ := ih
      exact ⟨hfile, .name name :: rest, by simp, (areNames_singleton hname).append hrest, hq,
        (shows_cons hname).2 ⟨hskip, hshows⟩⟩

/-- A file to which names lead past nothing hidden or excluded is found. -/
theorem finds_of_shows (h : tree.Connected) (hd : d.components ≠ []) (hne : rest ≠ [])
    (hnames : AreNames rest) (hfile : tree.kindOf? (d.descend rest) = some .file)
    (hshows : Shows o d rest) : Finds tree o d (d.descend rest) := by
  have hlinked : tree.Linked (d.descend rest) :=
    (h.attached _ (FileTree.contains_iff_kindOf?.2 ⟨_, hfile⟩)).resolve_left
      (h.unobstructed _ hfile)
  induction rest generalizing d with
  | nil => contradiction
  | cons component rest ih =>
      obtain ⟨⟨name, rfl, hname⟩, hrest⟩ := List.forall_mem_cons.1 hnames
      have hcomponents := components_descend hnames d
      have hchild : Child tree d (d.join (ofString name)) :=
        child_iff.2 ⟨name, hlinked d name rest hd hcomponents, rfl⟩
      obtain ⟨hskip, hshows⟩ := (shows_cons hname).1 hshows
      -- The last name is that of the file; every other one is listed further down, so it is that of
      -- a directory.
      cases rest with
      | nil =>
          refine .here hchild hskip ?_
          rw [← Bool.not_eq_true, isDirectory_iff]
          intro hdirectory
          have hboth := hfile.symm.trans hdirectory
          contradiction
      | cons next others =>
          obtain ⟨⟨second, rfl, -⟩, -⟩ := List.forall_mem_cons.1 hrest
          have hjoin : (d.join (ofString name)).components ≠ [] := by
            simp [components_join_name hname]
          have hdirectory : tree.kindOf? (d.join (ofString name)) = some .directory := by
            refine (hlinked _ second others hjoin ?_).kindOf?
            rw [hcomponents, components_join_name hname, List.append_assoc]
            rfl
          exact .through hchild hskip (isDirectory_iff.2 hdirectory)
            (ih hjoin (by simp) hrest hfile hshows hlinked)

/-- A directory with a file that is hidden, one that is excluded and one that is neither. -/
def yard : FileTree :=
  (((FileTree.empty.putDirectory "/p/src").putFile "/p/src/.git/a.js" "".toUTF8).putFile
    "/p/src/b/c.js" "".toUTF8).putFile "/p/src/d/e.js" "".toUTF8

def yardOptions : BuildOptions :=
  { baseDir := "/p", outDir := "/p/out", extensions := [".js"], resolveExtensions := [".js"],
    exclude := [⟨"src/d", "src/d".toList.map .literal⟩], assets := ⟨[], [], "", ""⟩, extra := {} }

theorem grown_yard : yard.Grown := by
  have hsrc : (FileTree.empty.putDirectory "/p/src").Grown :=
    .putDirectory .empty (isNormal_of_isName (by decide) (by decide))
  refine .putFile_of_isFree (.putFile_of_isFree (.putFile_of_isFree hsrc ?_ ?_) ?_ ?_) ?_ ?_
  all_goals decide +kernel

end Walk

end LiveBuild
