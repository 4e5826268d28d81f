import LiveBuild.Proofs.GrownTrees
import LiveBuild.Proofs.Walks
import Mathlib.Data.List.Nodup
import Mathlib.Logic.Relation

/-!
# The listings of a tree and its entries

A tree in memory keeps the names in a directory apart from the table of its entries. As long as no
call puts a file where a directory is, or anything below a file, the two say the same: what a
directory lists is what stands directly below it, and whatever is there can be reached by listing
one directory after the other.
-/

namespace LiveBuild

open LiveBuild.Path Relation

/-- A path is directly below a directory. -/
def Path.IsIn (p d : Path) : Prop := ∃ parent, p.parent? = some parent ∧ parent.same d = true

instance (p d : Path) : Decidable (p.IsIn d) :=
  decidable_of_iff (p.parent?.any (·.same d) = true) (Option.any_eq_true _ _)

namespace FileTree

/-- A call that puts something into a tree. -/
inductive Call where
  | addFile (p : Path) (content : ByteArray)
  | addDirectory (p : Path)
  | write (p : Path) (content : ByteArray)

def Call.path : Call → Path
  | .addFile p _ | .addDirectory p | .write p _ => p

/-- What a call puts into a file. -/
def Call.content? : Call → Option ByteArray
  | .addFile _ content | .write _ content => some content
  | .addDirectory _ => none

def Call.contentAt? (call : Call) (f : Path) : Option ByteArray :=
  if call.path.same f then call.content? else none

def act (tree : FileTree) : Call → FileTree
  | .addFile p content => tree.putFile p content
  | .addDirectory p => tree.putDirectory p
  | .write p content => (FileStore.write tree p content).1

/-- A call at a normal path that puts no file where a directory is, and nothing below a file. -/
structure Call.Fits (call : Call) (tree : FileTree) : Prop where
  normal : call.path.IsNormal
  free : call.content?.isSome = true → tree.kindOf? call.path ≠ some .directory
  clear : ¬ tree.Obstructed call.path

/-- A tree after calls each of which fits. -/
inductive GrownBy : List Call → FileTree → Prop
  | empty : GrownBy [] FileTree.empty
  | next {calls : List Call} {tree : FileTree} {call : Call} : GrownBy calls tree →
      call.Fits tree → GrownBy (calls ++ [call]) (tree.act call)

/-- The content that calls have put at a path last. -/
def lastContent? (calls : List Call) (f : Path) : Option ByteArray :=
  (calls.filterMap (·.contentAt? f)).getLast?

variable {tree : FileTree} {calls : List Call} {call : Call} {p q d e f parent : Path}
  {above : List Path} {entry : Entry} {name : String}

section Keys

theorem distinct_attach (h : tree.entries.Distinct) (p : Path) (above : List Path) :
    (tree.attach p above).entries.Distinct := by
  induction above generalizing tree p with
  | nil => exact h
  | cons parent above ih =>
      rw [attach_cons]
      refine PathMap.Distinct.modify ?_ parent _
      split
      · exact h
      · exact ih (h.insert parent (.directory [])) parent

theorem Built.distinct (h : tree.Built) : tree.entries.Distinct := by
  induction h with
  | empty => exact List.pairwise_singleton _ _
  | putFile p content _ ih => exact distinct_attach (ih.insert p _) p _
  | putDirectory p _ ih =>
      rw [FileTree.putDirectory]
      split
      · exact ih
      · exact distinct_attach (ih.insert p _) p _

/-- The path of an entry, if it is a file in or below a directory. -/
def fileBelow? (d : Path) (entry : Path × Entry) : Option Path :=
  if entry.2.kind = .file ∧ entry.1.startsWith d = true then some entry.1 else none

theorem filesBelow_eq (tree : FileTree) (d : Path) :
    tree.filesBelow d = Path.sort (tree.entries.entries.filterMap (fileBelow? d)) := by
  rw [filesBelow]
  congr 2
  funext ⟨k, entry⟩
  cases entry <;> simp [fileBelow?, Entry.kind]

theorem fileBelow?_eq_some {entry : Path × Entry} : fileBelow? d entry = some q ↔
    (entry.2.kind = .file ∧ q.startsWith d = true) ∧ entry.1 = q := by
  rw [fileBelow?, Option.ite_none_right_eq_some, Option.some.injEq]
  refine and_congr_left fun hq => ?_
  rw [hq]

theorem mem_filesBelow : q ∈ tree.filesBelow d ↔
    (∃ content, (q, .file content) ∈ tree.entries.entries) ∧ q.startsWith d = true := by
  rw [filesBelow_eq, Path.sort, List.mem_mergeSort, List.mem_filterMap]
  simp only [fileBelow?_eq_some]
  constructor
  · rintro ⟨⟨k, entry⟩, hmem, ⟨hkind, hstarts⟩, rfl⟩
    cases entry with
    | directory names => contradiction
    | file content => exact ⟨⟨content, hmem⟩, hstarts⟩
  · rintro ⟨⟨content, hmem⟩, hstarts⟩
    exact ⟨(q, .file content), hmem, ⟨rfl, hstarts⟩, rfl⟩

theorem isFile_iff_kindOf? : FileStore.isFile tree p = true ↔ tree.kindOf? p = some .file :=
  beq_iff_eq

theorem exists?_iff : FileStore.exists? tree p = true ↔ tree.entries.contains p = true := by
  rw [contains_iff_kindOf?]
  exact Option.isSome_iff_exists

theorem eq_sort_of_list {entries : List Path} (h : FileStore.list tree d = .ok entries) :
    ∃ children, entries = Path.sort children := by
  change tree.list d = _ at h
  rw [FileTree.list] at h
  split at h
  · exact ⟨_, (Except.ok.inj h).symm⟩
  · contradiction

theorem content?_eq_some {content : ByteArray} :
    tree.content? p = some content ↔ tree.entries.get? p = some (.file content) := by
  rw [content?_eq]
  cases tree.entries.get? p with
  | none => simp
  | some entry => cases entry <;> simp [Entry.content?]

theorem exists_mem_filesBelow (h : tree.entries.Distinct) :
    (∃ q ∈ tree.filesBelow d, q.same f = true) ↔
      tree.kindOf? f = some .file ∧ f.startsWith d = true := by
  have hstarts : ∀ q : Path, q.same f = true → q.startsWith d = f.startsWith d :=
    fun q hsame => startsWith_congr (same_iff.1 hsame) d
  have hfile : tree.kindOf? f = some .file ↔
      ∃ q, (∃ content, (q, .file content) ∈ tree.entries.entries) ∧ q.same f = true := by
    simp only [kindOf?_eq_file, content?_eq_some, h.get?_eq_some_iff]
    rw [exists_comm]
    simp only [exists_and_right]
  rw [hfile]
  constructor
  · rintro ⟨q, hmem, hsame⟩
    obtain ⟨hentry, hbelow⟩ := mem_filesBelow.1 hmem
    exact ⟨⟨q, hentry, hsame⟩, by rw [← hstarts q hsame, hbelow]⟩
  · rintro ⟨⟨q, hentry, hsame⟩, hbelow⟩
    exact ⟨q, mem_filesBelow.2 ⟨hentry, by rw [hstarts q hsame, hbelow]⟩, hsame⟩

/-- The files below a directory stand in path order, each of them once. -/
theorem pairwise_filesBelow (h : tree.entries.Distinct) (d : Path) :
    (tree.filesBelow d).Pairwise fun p q => compare p.components q.components = .lt := by
  rw [filesBelow_eq]
  refine Path.Distinct.pairwise_sort (List.Pairwise.filterMap _ ?_ (List.pairwise_map.1 h))
  intro first second hne p hp q hq
  rw [fileBelow?_eq_some] at hp hq
  rwa [← hp.2, ← hq.2]

end Keys

section Contents

theorem content?_empty (f : Path) : FileTree.empty.content? f = none := by
  have hempty : FileTree.empty =
      (⟨PathMap.empty⟩ : FileTree).put (ofString ".") (.directory []) := rfl
  rw [hempty, content?_put]
  split
  · rfl
  · rw [content?_eq, PathMap.get?_empty, Option.bind_none]

theorem content?_putDirectory (tree : FileTree) (p q : Path) :
    (tree.putDirectory p).content? q = tree.content? q := by
  rw [FileTree.putDirectory]
  split
  · rfl
  · rename_i hcontains
    have hput : (FileTree.attach (tree.put p (.directory [])) p (ancestors p)).content? q =
        (tree.put p (.directory [])).content? q := content?_attach p (ancestors p)
    refine hput.trans ?_
    rw [content?_put]
    split
    · rename_i hsame
      have hnone := PathMap.contains_eq_false_iff.1 (by simpa using hcontains)
      rw [content?_eq, ← PathMap.get?_congr (same_iff.1 hsame), hnone]
      rfl
    · rfl

theorem content?_act (tree : FileTree) (call : Call) (f : Path) :
    (tree.act call).content? f = (call.contentAt? f).or (tree.content? f) := by
  cases call with
  | addDirectory p => simp [act, Call.contentAt?, Call.content?, content?_putDirectory]
  | addFile p content =>
      rw [act, content?_putFile, Call.contentAt?, Call.path, Call.content?]
      split <;> rfl
  | write p content =>
      rw [act, FileStore.write]
      change (tree.putFile p content).content? f = _
      rw [content?_putFile, Call.contentAt?, Call.path, Call.content?]
      split <;> rfl

theorem lastContent?_snoc (calls : List Call) (call : Call) (f : Path) :
    lastContent? (calls ++ [call]) f = (call.contentAt? f).or (lastContent? calls f) := by
  rw [lastContent?, List.filterMap_append, List.getLast?_append, lastContent?]
  cases hcall : call.contentAt? f with
  | none => simp [hcall]
  | some content => simp [hcall]

/-- A file holds what was put there last. -/
theorem GrownBy.content?_eq (h : GrownBy calls tree) (f : Path) :
    tree.content? f = lastContent? calls f := by
  induction h with
  | empty => exact content?_empty f
  | next _ _ ih => rw [content?_act, lastContent?_snoc, ih]

end Contents

/-- A grown tree that has nothing below a file, also no directory. -/
structure Tidy (tree : FileTree) : Prop where
  grown : tree.Grown
  clear : ∀ p, tree.entries.contains p = true → ¬ tree.Obstructed p

section Growth

theorem Tidy.linked (h : tree.Tidy) (hp : tree.entries.contains p = true) : tree.Linked p :=
  (h.grown.connected.attached p hp).resolve_left (h.clear p hp)

/-- With an entry that takes the place of no directory, and has no file above it, there still is
nothing below a file. -/
theorem Tidy.clear_put (h : tree.Tidy) (hp : p.IsNormal)
    (hdirectory : tree.kindOf? p ≠ some .directory) (hclear : ¬ tree.Obstructed p)
    (hq : ((tree.put p entry).attach p (ancestors p)).entries.contains q = true) :
    ¬ ((tree.put p entry).attach p (ancestors p)).Obstructed q := by
  rintro ⟨e, hbelow, he⟩
  rw [isFile_attach, kindOf?_put] at he
  have hcases := (contains_of_attach (ascends_ancestors hp) hq).imp_left contains_put.1
  by_cases hpe : p.same e = true
  · -- Then `q` is below `p`, so it was there before, and `p` was a directory that leads to it.
    have hqp := hbelow.congr_base (same_iff.1 hpe).symm
    rcases hcases with (hsame | hold) | habove
    · exact hqp.components_ne hsame.symm
    · exact hdirectory ((h.linked hold).kindOf? hqp hp.components_ne_nil)
    · exact (habove.trans hqp).components_ne rfl
  · rw [if_neg hpe] at he
    rcases hcases with (hsame | hold) | habove
    · exact hclear ⟨e, hbelow.congr hsame.symm, he⟩
    · exact h.clear q hold ⟨e, hbelow, he⟩
    · exact hclear ⟨e, habove.trans hbelow, he⟩

theorem Tidy.putFile (h : tree.Tidy) (hp : p.IsNormal)
    (hdirectory : tree.kindOf? p ≠ some .directory) (hclear : ¬ tree.Obstructed p)
    (content : ByteArray) : (tree.putFile p content).Tidy where
  grown := .putFile content h.grown hp hdirectory fun e hbelow he => hclear ⟨e, hbelow, he⟩
  clear _ hq := h.clear_put hp hdirectory hclear hq

theorem Tidy.putDirectory (h : tree.Tidy) (hp : p.IsNormal) (hclear : ¬ tree.Obstructed p) :
    (tree.putDirectory p).Tidy := by
  refine ⟨.putDirectory h.grown hp, fun q hq => ?_⟩
  rw [FileTree.putDirectory] at hq ⊢
  split at hq
  · rename_i hcontains
    rw [if_pos hcontains]
    exact h.clear q hq
  · rename_i hcontains
    rw [if_neg hcontains]
    exact h.clear_put hp (by simp [kindOf?_of_not_contains hcontains]) hclear hq

theorem Tidy.act (h : tree.Tidy) (hcall : call.Fits tree) : (tree.act call).Tidy := by
  obtain ⟨hnormal, hfree, hclear⟩ := hcall
  cases call with
  | addFile p content => exact h.putFile hnormal (hfree rfl) hclear content
  | addDirectory p => exact h.putDirectory hnormal hclear
  | write p content => exact h.putFile hnormal (hfree rfl) hclear content

theorem tidy_empty : FileTree.empty.Tidy := by
  refine ⟨.empty, fun p _ => ?_⟩
  rintro ⟨e, -, he⟩
  obtain ⟨content, hcontent⟩ := kindOf?_eq_file.1 he
  rw [content?_empty] at hcontent
  contradiction

theorem GrownBy.tidy (h : GrownBy calls tree) : tree.Tidy := by
  induction h with
  | empty => exact tidy_empty
  | next _ hcall ih => exact ih.act hcall

end Growth

section Listings

theorem contains_of_directory (hd : tree.kindOf? d = some .directory) :
    tree.entries.contains d = true := contains_iff_kindOf?.2 ⟨_, hd⟩

/-- What is there below the root is listed by the directory above it. -/
theorem Tidy.exists_parent (h : tree.Tidy) (hp : tree.entries.contains p = true)
    (habsolute : p.isAbsolute = true) (hroot : p.components ≠ [.root]) :
    ∃ parent name, p.parent? = some parent ∧ p.fileName? = some name ∧
      tree.Lists parent name := by
  have hnormal : p.IsNormal := (h.grown.connected.normal p hp).resolve_left fun hhere => by
    rw [isAbsolute_iff, hhere] at habsolute
    contradiction
  obtain ⟨parent, name, hparent, hname, habove, hcomponents⟩ := hnormal.exists_parent_name hroot
  exact ⟨parent, name, hparent, hname,
    h.linked hp parent name [] habove.components_ne_nil hcomponents⟩

/-- What is there is in a directory if it has one name more. -/
theorem Tidy.isIn_iff (h : tree.Tidy) (hd : tree.kindOf? d = some .directory)
    (hq : tree.entries.contains q = true) :
    q.IsIn d ↔ ∃ name, q.components = d.components ++ [.name name] := by
  have hne := h.grown.connected.components_ne_nil (contains_of_directory hd)
  constructor
  · rintro ⟨parent, hparent, hsame⟩
    have hdirectory : d.components = q.components.dropLast := by
      rw [← same_iff.1 hsame, components_parent? hparent]
    rcases h.grown.connected.normal q hq with hhere | hnormal
    · rw [hhere] at hdirectory
      exact absurd hdirectory hne
    · obtain ⟨names, name, -, hcomponents⟩ := hnormal.eq_concat (ne_root_of_parent? hparent)
      exact ⟨name, by rw [hdirectory, hcomponents, List.dropLast_concat]⟩
  · rintro ⟨name, hcomponents⟩
    have hlength := congrArg List.length hcomponents
    have hpos := List.length_pos_iff.2 hne
    rw [List.length_append, List.length_singleton] at hlength
    have hnormal : q.IsNormal := (h.grown.connected.normal q hq).resolve_left fun hhere => by
      rw [hhere, List.length_singleton] at hlength
      omega
    obtain ⟨parent, hparent, -⟩ := hnormal.exists_parent? fun hroot => by
      rw [hroot, List.length_singleton] at hlength
      omega
    refine ⟨parent, hparent, same_iff.2 ?_⟩
    rw [components_parent? hparent, hcomponents, List.dropLast_concat]

/-- A directory lists what is in it, in path order and each of them once. -/
theorem Tidy.list_spec (h : tree.Tidy) (hd : tree.kindOf? d = some .directory) :
    ∃ entries, FileStore.list tree d = .ok entries ∧
      entries.Pairwise (fun p q => compare p.components q.components = .lt) ∧
      ∀ q, (∃ e ∈ entries, e.same q = true) ↔
        FileStore.exists? tree q = true ∧ q.IsIn d := by
  have hsound := h.grown.built.sound
  have hne := h.grown.connected.components_ne_nil (contains_of_directory hd)
  obtain ⟨entries, hlist, hmem, hapart⟩ := Walk.list_eq hsound hd
  have hsorted : entries.Pairwise fun p q => p.le q = true := by
    obtain ⟨names, rfl⟩ := eq_sort_of_list hlist
    exact pairwise_sort_le names
  refine ⟨entries, hlist, pairwise_lt hsorted (hapart.imp Walk.Apart.same_eq_false),
    fun q => ⟨?_, ?_⟩⟩
  · rintro ⟨e, he, hsame⟩
    obtain ⟨name, hlists, rfl⟩ := Walk.child_iff.1 ((hmem e).1 he)
    have hcomponents : q.components = d.components ++ [.name name] := by
      rw [← same_iff.1 hsame, Walk.components_of_lists hsound hlists]
    have hq := h.grown.connected.exists_child d name q hlists hcomponents
    exact ⟨exists?_iff.2 hq, (h.isIn_iff hd hq).2 ⟨name, hcomponents⟩⟩
  · rintro ⟨hq, hin⟩
    have hq := exists?_iff.1 hq
    obtain ⟨name, hcomponents⟩ := (h.isIn_iff hd hq).1 hin
    have hlists := h.linked hq d name [] hne hcomponents
    exact ⟨d.join (ofString name), (hmem _).2 (Walk.child_iff.2 ⟨name, hlists, rfl⟩),
      same_iff.2 ((Walk.components_of_lists hsound hlists).trans hcomponents.symm)⟩

/-- Whatever is there below a directory can be reached from it through listings. -/
theorem Tidy.exists_transGen (h : tree.Tidy) {names : List Component} (hnames : AreNames names)
    (hne : names ≠ []) (hd : d.components ≠ []) (hq : tree.entries.contains q = true)
    (hcomponents : q.components = d.components ++ names) :
    ∃ e, TransGen (Walk.Child tree) d e ∧ e.same q = true := by
  induction names generalizing d with
  | nil => contradiction
  | cons component rest ih =>
      obtain ⟨⟨name, rfl, -⟩, hrest⟩ := List.forall_mem_cons.1 hnames
      have hlists := h.linked hq d name rest hd hcomponents
      have hchild : Walk.Child tree d (d.join (ofString name)) :=
        Walk.child_iff.2 ⟨name, hlists, rfl⟩
      have hjoin := Walk.components_of_lists h.grown.built.sound hlists
      by_cases hlast : rest = []
      · refine ⟨_, .single hchild, same_iff.2 ?_⟩
        rw [hjoin, hcomponents, hlast]
      · obtain ⟨e, hreach, hsame⟩ := ih (d := d.join (ofString name)) hrest hlast
          (by simp [hjoin]) (by rw [hcomponents, hjoin, List.append_assoc]; rfl)
        exact ⟨e, .head hchild hreach, hsame⟩

theorem startsWith_of_transGen (hsound : tree.Sound) (h : TransGen (Walk.Child tree) d q) :
    q.startsWith d = true := by
  induction h with
  | single hchild => exact Walk.startsWith_of_child hsound hchild
  | tail _ hchild ih => exact Walk.startsWith_trans (Walk.startsWith_of_child hsound hchild) ih

/-- The files below a directory are the files that can be reached from it through listings. -/
theorem Tidy.exists_mem_filesBelow_iff (h : tree.Tidy) (hd : tree.kindOf? d = some .directory) :
    (∃ q ∈ tree.filesBelow d, q.same f = true) ↔
      FileStore.isFile tree f = true ∧
        ∃ e, TransGen (Walk.Child tree) d e ∧ e.same f = true := by
  rw [exists_mem_filesBelow h.grown.built.distinct, isFile_iff_kindOf?]
  refine and_congr_right fun hf => ⟨fun hstarts => ?_, ?_⟩
  · obtain ⟨names, hcomponents⟩ := startsWith_iff.1 hstarts
    have hfcontains := contains_iff_kindOf?.2 ⟨_, hf⟩
    have hdcontains := contains_of_directory hd
    refine h.exists_transGen
      (h.grown.connected.areNames hdcontains hfcontains hcomponents.symm) ?_
      (h.grown.connected.components_ne_nil hdcontains) hfcontains hcomponents.symm
    rintro rfl
    rw [List.append_nil] at hcomponents
    rw [← kindOf?_congr hcomponents, hd] at hf
    contradiction
  · rintro ⟨e, hreach, hsame⟩
    rw [← startsWith_congr (same_iff.1 hsame)]
    exact startsWith_of_transGen h.grown.built.sound hreach

end Listings

theorem Call.fits_of_isFree (hpath : (call.path.isAbsolute &&
      call.path.components.tail.all Component.isName) = true)
    (hfree : tree.isFree call.path = true) : call.Fits tree := by
  rw [Bool.and_eq_true] at hpath
  exact ⟨isNormal_of_isName hpath.1 hpath.2, fun _ => ne_directory_of_isFree hfree,
    not_obstructed_of_isFree hfree⟩

def shelfCalls : List Call :=
  [.addFile "/s/a/b" "x".toUTF8, .addDirectory "/s/c", .write "/s/a//b" "y".toUTF8]

def shelf : FileTree := shelfCalls.foldl act FileTree.empty

theorem grownBy_shelf : GrownBy shelfCalls shelf := by
  refine .next (.next (.next .empty ?_) ?_) ?_
  all_goals exact Call.fits_of_isFree (by decide +kernel) (by decide +kernel)

end FileTree

end LiveBuild
