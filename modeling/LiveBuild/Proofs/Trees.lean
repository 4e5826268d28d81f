import LiveBuild.Files.Tree
import LiveBuild.Proofs.PathParts
import LiveBuild.Proofs.PathTables

/-!
# What a write leaves as it was

A write into a tree puts one file in and makes the directories above it that are missing. So what
lies outside of a directory stays as it was while files are written into that directory, except that
the directories that lead there may be new.
-/

namespace LiveBuild.FileTree

variable {tree before after : FileTree} {outDir p q d child : Path} {entry : Entry}
  {name : String}

section Entries

def Entry.kind : Entry → FileKind
  | .file _ => .file
  | .directory _ => .directory

def Entry.content? : Entry → Option ByteArray
  | .file content => some content
  | .directory _ => none

theorem kindOf?_eq (tree : FileTree) (p : Path) :
    tree.kindOf? p = (tree.entries.get? p).map Entry.kind := by
  rw [kindOf?]
  congr 1

theorem kindOf?_congr (h : p.components = q.components) : tree.kindOf? p = tree.kindOf? q := by
  rw [kindOf?_eq, kindOf?_eq, PathMap.get?_congr h]

theorem contains_iff_kindOf? :
    tree.entries.contains p = true ↔ ∃ kind, tree.kindOf? p = some kind := by
  rw [PathMap.contains_iff, kindOf?_eq]
  constructor
  · rintro ⟨entry, h⟩
    exact ⟨entry.kind, by rw [h]; rfl⟩
  · rintro ⟨kind, h⟩
    obtain ⟨entry, hentry, -⟩ := Option.map_eq_some_iff.1 h
    exact ⟨entry, hentry⟩

theorem kindOf?_of_not_contains (h : ¬ tree.entries.contains p = true) :
    tree.kindOf? p = none := by
  rw [Option.eq_none_iff_forall_ne_some]
  exact fun kind hkind => h (contains_iff_kindOf?.2 ⟨kind, hkind⟩)

theorem content?_eq (tree : FileTree) (p : Path) :
    tree.content? p = (tree.entries.get? p).bind Entry.content? := by
  rw [FileTree.content?]
  cases tree.entries.get? p with
  | none => rfl
  | some entry => cases entry <;> rfl

theorem content?_congr (h : p.components = q.components) : tree.content? p = tree.content? q := by
  rw [content?, content?, PathMap.get?_congr h]

theorem kindOf?_eq_file :
    tree.kindOf? p = some .file ↔ ∃ content, tree.content? p = some content := by
  rw [kindOf?_eq, content?_eq]
  cases tree.entries.get? p with
  | none => simp
  | some entry => cases entry <;> simp [Entry.kind, Entry.content?]

/-- A directory lists a name. -/
def Lists (tree : FileTree) (d : Path) (name : String) : Prop :=
  ∃ names, tree.entries.get? d = some (.directory names) ∧ name ∈ names

theorem Lists.kindOf? (h : tree.Lists d name) : tree.kindOf? d = some .directory := by
  obtain ⟨names, hget, -⟩ := h
  rw [kindOf?_eq, hget]
  rfl

/-- The tree with an entry put in its place. -/
def put (tree : FileTree) (p : Path) (entry : Entry) : FileTree := ⟨tree.entries.insert p entry⟩

/-- The tree with a name added to a directory. -/
def link (tree : FileTree) (d : Path) (name? : Option String) : FileTree :=
  ⟨tree.entries.modify d (Entry.addName name?)⟩

theorem get?_put : (tree.put p entry).entries.get? q =
    if p.same q then some entry else tree.entries.get? q := PathMap.get?_insert

theorem kindOf?_put : (tree.put p entry).kindOf? q =
    if p.same q then some entry.kind else tree.kindOf? q := by
  rw [kindOf?_eq, get?_put, kindOf?_eq]
  split <;> rfl

theorem get?_link (name? : Option String) : (tree.link d name?).entries.get? q =
    if d.same q then (tree.entries.get? q).map (Entry.addName name?)
    else tree.entries.get? q := PathMap.get?_modify _

theorem kind_addName (name? : Option String) (entry : Entry) :
    (entry.addName name?).kind = entry.kind := by
  cases entry with
  | file content => rfl
  | directory names =>
      cases name? with
      | none => rfl
      | some name =>
          rw [Entry.addName]
          split <;> rfl

@[simp]
theorem kindOf?_link (name? : Option String) : (tree.link d name?).kindOf? q = tree.kindOf? q := by
  rw [kindOf?_eq, get?_link, kindOf?_eq]
  split
  · rw [Option.map_map]
    congr 1
    funext entry
    exact kind_addName name? entry
  · rfl

theorem content?_addName (name? : Option String) (entry : Entry) :
    (entry.addName name?).content? = entry.content? := by
  cases entry with
  | file content => rfl
  | directory names =>
      cases name? with
      | none => rfl
      | some name =>
          rw [Entry.addName]
          split <;> rfl

@[simp]
theorem content?_link (name? : Option String) :
    (tree.link d name?).content? q = tree.content? q := by
  rw [content?_eq, get?_link, content?_eq]
  split
  · cases tree.entries.get? q with
    | none => rfl
    | some entry => exact content?_addName name? entry
  · rfl

theorem content?_put : (tree.put p entry).content? q =
    if p.same q then entry.content? else tree.content? q := by
  rw [content?_eq, get?_put, content?_eq]
  split <;> rfl

theorem lists_link (name? : Option String) : (tree.link d name?).Lists q name ↔
    tree.Lists q name ∨
      (tree.kindOf? q = some .directory ∧ d.components = q.components ∧ name? = some name) := by
  rw [Lists, get?_link, Lists, kindOf?_eq]
  by_cases hdq : d.same q
  · rw [if_pos hdq]
    cases tree.entries.get? q with
    | none => simp
    | some entry =>
        cases entry with
        | file content => simp [Entry.addName, Entry.kind]
        | directory names =>
            cases name? with
            | none => simp [Entry.addName]
            | some new =>
                by_cases hnew : new ∈ names
                · simp only [Option.map_some, Entry.addName, List.contains_iff_mem, hnew,
                    ↓reduceIte, Option.some.injEq, Entry.directory.injEq, exists_eq_left']
                  constructor
                  · exact Or.inl
                  · rintro (h | ⟨-, -, rfl⟩)
                    · exact h
                    · exact hnew
                · simp only [Option.map_some, Entry.addName, List.contains_iff_mem, hnew,
                    ↓reduceIte, Option.some.injEq, Entry.directory.injEq, exists_eq_left',
                    List.mem_append, List.mem_singleton, Entry.kind, true_and,
                    Path.same_iff.1 hdq, eq_comm (a := new)]
  · rw [if_neg hdq]
    have hne : d.components ≠ q.components := fun heq => hdq (Path.same_iff.2 heq)
    simp [hne]

end Entries

section Names

/-- Directories list names, each once. -/
def Sound (tree : FileTree) : Prop :=
  ∀ d names, tree.entries.get? d = some (.directory names) →
    names.Nodup ∧ ∀ name ∈ names, Path.IsName name

theorem Lists.isName (h : tree.Lists d name) (hsound : tree.Sound) : Path.IsName name := by
  obtain ⟨names, hget, hname⟩ := h
  exact (hsound d names hget).2 name hname

/-- A tree that files and directories were put into one after the other. -/
inductive Built : FileTree → Prop
  | empty : Built FileTree.empty
  | putFile {tree : FileTree} (p : Path) (content : ByteArray) :
      Built tree → Built (tree.putFile p content)
  | putDirectory {tree : FileTree} (p : Path) : Built tree → Built (tree.putDirectory p)

theorem isName_of_fileName? (h : p.fileName? = some name) : Path.IsName name := by
  have hmem : Component.name name ∈ p.components := by
    rw [Path.components_of_fileName? h]
    simp
  exact Path.isName_of_mem hmem

theorem Sound.put (h : tree.Sound) (hentry : ∀ names, entry = .directory names → names = [])
    (p : Path) : (tree.put p entry).Sound := by
  intro d names hget
  rw [get?_put] at hget
  split at hget
  · rw [hentry names (Option.some.inj hget)]
    simp
  · exact h d names hget

theorem Sound.link (h : tree.Sound) (d p : Path) : (tree.link d p.fileName?).Sound := by
  intro e names hget
  rw [get?_link] at hget
  split at hget
  · obtain ⟨entry, hentry, hadd⟩ := Option.map_eq_some_iff.1 hget
    cases entry with
    | file content => simp [Entry.addName] at hadd
    | directory old =>
        obtain ⟨hnodup, hnames⟩ := h e old hentry
        cases hname : p.fileName? with
        | none =>
            rw [hname, Entry.addName, Entry.directory.injEq] at hadd
            exact hadd ▸ ⟨hnodup, hnames⟩
        | some name =>
            rw [hname, Entry.addName] at hadd
            split at hadd
            · rw [Entry.directory.injEq] at hadd
              exact hadd ▸ ⟨hnodup, hnames⟩
            · rename_i hnew
              rw [Entry.directory.injEq] at hadd
              rw [← hadd]
              refine ⟨?_, ?_⟩
              · rw [List.nodup_append]
                refine ⟨hnodup, by simp, fun n hn m hm => ?_⟩
                rintro rfl
                rw [List.mem_singleton.1 hm] at hn
                exact hnew (List.contains_iff_mem.2 hn)
              · intro n hn
                rcases List.mem_append.1 hn with hn | hn
                · exact hnames n hn
                · rw [List.mem_singleton.1 hn]
                  exact isName_of_fileName? hname
  · exact h e names hget

theorem attach_cons (tree : FileTree) (p parent : Path) (above : List Path) :
    tree.attach p (parent :: above) =
      (if tree.entries.contains parent then tree
        else (tree.put parent (.directory [])).attach parent above).link parent p.fileName? := rfl

theorem Sound.attach (h : tree.Sound) (p : Path) (above : List Path) :
    (tree.attach p above).Sound := by
  induction above generalizing tree p with
  | nil => exact h
  | cons parent above ih =>
      rw [attach_cons]
      apply Sound.link
      split
      · exact h
      · exact ih (h.put (by simp) parent) parent

theorem Sound.putFile (h : tree.Sound) (p : Path) (content : ByteArray) :
    (tree.putFile p content).Sound := (h.put (by simp) p).attach p _

theorem Built.sound (h : tree.Built) : tree.Sound := by
  induction h with
  | empty =>
      intro d names hget
      have hempty : FileTree.empty = (⟨PathMap.empty⟩ : FileTree).put "." (.directory []) := rfl
      rw [hempty, get?_put] at hget
      split at hget
      · obtain rfl := Entry.directory.inj (Option.some.inj hget)
        simp
      · simp at hget
  | putFile p content _ ih => exact ih.putFile p content
  | putDirectory p _ ih =>
      rw [FileTree.putDirectory]
      split
      · exact ih
      · exact (ih.put (by simp) p).attach p _

end Names

section Writes

/-- A place that is in the directory of outputs, or that became a directory. -/
def Fresh (outDir : Path) (before after : FileTree) (p : Path) : Prop :=
  p.startsWith outDir = true ∨
    (before.kindOf? p = none ∧ after.kindOf? p = some .directory)

/-- What is left of a tree while files are written into one directory. -/
structure Kept (outDir : Path) (before after : FileTree) : Prop where
  content : ∀ p, p.startsWith outDir = false → ∀ content, before.content? p = some content →
    after.content? p = some content
  file : ∀ p, before.kindOf? p = some .file → after.kindOf? p = some .file
  directory : ∀ p, before.kindOf? p = some .directory → after.kindOf? p = some .directory ∨
    (p.startsWith outDir = true ∧ after.kindOf? p = some .file)
  absent : ∀ p, p.startsWith outDir = false → before.kindOf? p = none →
    after.kindOf? p ≠ some .file
  listed : ∀ d name, before.Lists d name → after.kindOf? d = some .directory → after.Lists d name
  new : ∀ d name, after.Lists d name → before.Lists d name ∨
    ∀ child, child.components = d.components ++ [.name name] → Fresh outDir before after child

theorem Kept.refl (outDir : Path) (tree : FileTree) : Kept outDir tree tree where
  content _ _ _ h := h
  file _ h := h
  directory _ h := Or.inl h
  absent _ _ h := by simp [h]
  listed _ _ h _ := h
  new _ _ h := Or.inl h

theorem startsWith_congr (h : p.components = q.components) (base : Path) :
    p.startsWith base = q.startsWith base := by
  rw [Path.startsWith, Path.startsWith, h]

theorem Fresh.congr (h : Fresh outDir before after p) (hpq : p.components = q.components) :
    Fresh outDir before after q := by
  rw [Fresh, ← startsWith_congr hpq, ← kindOf?_congr hpq, ← kindOf?_congr hpq]
  exact h

theorem Kept.put_file (h : Kept outDir before after) (hq : q.startsWith outDir = true)
    (content : ByteArray) : Kept outDir before (after.put q (.file content)) := by
  have hne : ∀ p, p.startsWith outDir = false → q.same p = false := by
    intro p hp
    rw [Bool.eq_false_iff]
    intro hqp
    rw [← startsWith_congr (Path.same_iff.1 hqp), hq] at hp
    contradiction
  have hlists : ∀ d name, (after.put q (.file content)).Lists d name → after.Lists d name := by
    rintro d name ⟨names, hget, hname⟩
    rw [get?_put] at hget
    split at hget
    · simp at hget
    · exact ⟨names, hget, hname⟩
  refine ⟨fun p hp c hc => ?_, fun p hp => ?_, fun p hp => ?_, fun p hp hnone => ?_,
    fun d name hd hafter => ?_, fun d name hd => ?_⟩
  · rw [content?_put, if_neg (by simp [hne p hp])]
    exact h.content p hp c hc
  · rw [kindOf?_put]
    split
    · rfl
    · exact h.file p hp
  · rw [kindOf?_put]
    by_cases hqp : q.same p
    · rw [if_pos hqp, ← startsWith_congr (Path.same_iff.1 hqp)]
      exact Or.inr ⟨hq, rfl⟩
    · rw [if_neg hqp]
      exact h.directory p hp
  · rw [kindOf?_put, if_neg (by simp [hne p hp])]
    exact h.absent p hp hnone
  · rw [kindOf?_put] at hafter
    by_cases hqd : q.same d
    · simp [hqd, Entry.kind] at hafter
    · rw [if_neg hqd] at hafter
      obtain ⟨names, hget, hname⟩ := h.listed d name hd hafter
      exact ⟨names, by rw [get?_put, if_neg hqd, hget], hname⟩
  · apply (h.new d name (hlists d name hd)).imp_right
    intro hfresh child hchild
    rcases hfresh child hchild with hin | ⟨hbefore, hafter⟩
    · exact Or.inl hin
    · by_cases hqc : q.same child
      · exact Or.inl (by rw [← startsWith_congr (Path.same_iff.1 hqc), hq])
      · exact Or.inr ⟨hbefore, by rw [kindOf?_put, if_neg hqc, hafter]⟩

theorem Kept.put_directory (h : Kept outDir before after) (hd : after.kindOf? d = none) :
    Kept outDir before (after.put d (.directory [])) := by
  have hnone : ∀ p, d.same p = true → after.kindOf? p = none := by
    intro p hp
    rw [← kindOf?_congr (Path.same_iff.1 hp), hd]
  refine ⟨fun p hp c hc => ?_, fun p hp => ?_, fun p hp => ?_, fun p hp hbefore => ?_,
    fun e name he hafter => ?_, fun e name he => ?_⟩
  · have hfile : after.kindOf? p = some .file := kindOf?_eq_file.2 ⟨c, h.content p hp c hc⟩
    rw [content?_put, if_neg (fun hdp => by simp [hnone p hdp] at hfile)]
    exact h.content p hp c hc
  · rw [kindOf?_put, if_neg (fun hdp => by simpa [hnone p hdp] using h.file p hp)]
    exact h.file p hp
  · rw [kindOf?_put]
    split
    · exact Or.inl rfl
    · exact h.directory p hp
  · rw [kindOf?_put]
    split
    · simp [Entry.kind]
    · exact h.absent p hp hbefore
  · by_cases hde : d.same e
    · rcases h.directory e he.kindOf? with hkind | ⟨-, hkind⟩ <;> simp [hnone e hde] at hkind
    · rw [kindOf?_put, if_neg hde] at hafter
      obtain ⟨names, hget, hname⟩ := h.listed e name he hafter
      exact ⟨names, by rw [get?_put, if_neg hde, hget], hname⟩
  · obtain ⟨names, hget, hname⟩ := he
    rw [get?_put] at hget
    split at hget
    · obtain rfl := Entry.directory.inj (Option.some.inj hget)
      simp at hname
    · refine (h.new e name ⟨names, hget, hname⟩).imp_right fun hfresh child hchild => ?_
      refine (hfresh child hchild).imp_right fun ⟨hbefore, hafter⟩ => ⟨hbefore, ?_⟩
      rw [kindOf?_put]
      split
      · rfl
      · exact hafter

theorem Kept.link (h : Kept outDir before after) {name? : Option String}
    (hchild : ∀ name ∈ name?, ∀ child, child.components = d.components ++ [.name name] →
      Fresh outDir before after child) :
    Kept outDir before (after.link d name?) := by
  refine ⟨fun p hp c hc => ?_, fun p hp => ?_, fun p hp => ?_, fun p hp hbefore => ?_,
    fun e name he hafter => ?_, fun e name he => ?_⟩
  · rw [content?_link]
    exact h.content p hp c hc
  · rw [kindOf?_link]
    exact h.file p hp
  · rw [kindOf?_link]
    exact h.directory p hp
  · rw [kindOf?_link]
    exact h.absent p hp hbefore
  · rw [kindOf?_link] at hafter
    exact (lists_link name?).2 (Or.inl (h.listed e name he hafter))
  · simp only [Fresh, kindOf?_link]
    rcases (lists_link name?).1 he with he | ⟨-, hde, hname⟩
    · exact h.new e name he
    · rw [← hde]
      exact Or.inr (hchild name hname)

/-- A list of directories each of which is the one above the path before it. -/
def Climbs : Path → List Path → Prop
  | _, [] => True
  | p, directory :: above => directory.components = p.components.dropLast ∧ Climbs directory above

theorem kindOf?_attach {kind : FileKind} (h : tree.kindOf? q = some kind) (p : Path)
    (above : List Path) : (tree.attach p above).kindOf? q = some kind := by
  induction above generalizing tree p with
  | nil => exact h
  | cons parent above ih =>
      rw [attach_cons, kindOf?_link]
      split
      · exact h
      · rename_i hcontains
        refine ih ?_ parent
        rw [kindOf?_put, if_neg, h]
        intro hsame
        rw [PathMap.contains_congr (Path.same_iff.1 hsame), contains_iff_kindOf?.2 ⟨kind, h⟩]
          at hcontains
        exact hcontains rfl

theorem content?_attach (p : Path) (above : List Path) :
    (tree.attach p above).content? q = tree.content? q := by
  induction above generalizing tree p with
  | nil => rfl
  | cons parent above ih =>
      rw [attach_cons, content?_link]
      split
      · rfl
      · rename_i hcontains
        rw [ih, content?_put]
        split
        · rename_i hsame
          have hnone := PathMap.contains_eq_false_iff.1 (by simpa using hcontains)
          rw [content?_eq, ← PathMap.get?_congr (Path.same_iff.1 hsame), hnone]
          rfl
        · rfl

theorem content?_putFile (tree : FileTree) (p : Path) (content : ByteArray) (q : Path) :
    (tree.putFile p content).content? q =
      if p.same q then some content else tree.content? q := by
  have hput : (tree.putFile p content).content? q = (tree.put p (.file content)).content? q :=
    content?_attach p (ancestors p)
  rw [hput, content?_put]
  rfl

theorem kindOf?_putFile {kind : FileKind} (h : tree.kindOf? q = some kind) (hpq : ¬ p.same q)
    (content : ByteArray) : (tree.putFile p content).kindOf? q = some kind := by
  have hput : (tree.put p (.file content)).kindOf? q = some kind := by
    rw [kindOf?_put, if_neg hpq, h]
  exact kindOf?_attach hput p (ancestors p)

theorem isFile_iff_content? :
    FileStore.isFile tree p = true ↔ ∃ content, tree.content? p = some content := by
  rw [← kindOf?_eq_file]
  exact beq_iff_eq

theorem isFile_putFile (h : FileStore.isFile tree q = true) (p : Path) (content : ByteArray) :
    FileStore.isFile (tree.putFile p content) q = true := by
  rw [isFile_iff_content?, content?_putFile]
  split
  · exact ⟨content, rfl⟩
  · exact isFile_iff_content?.1 h

/-- What is there stays there, be it as a file. -/
theorem exists?_putFile (h : FileStore.exists? tree q = true) (p : Path) (content : ByteArray) :
    FileStore.exists? (tree.putFile p content) q = true := by
  obtain ⟨kind, hkind⟩ := Option.isSome_iff_exists.1 h
  refine Option.isSome_iff_exists.2 ?_
  by_cases hpq : p.same q
  · exact ⟨.file, kindOf?_eq_file.2 ⟨content, by rw [content?_putFile, if_pos hpq]⟩⟩
  · exact ⟨kind, kindOf?_putFile hkind hpq content⟩

theorem read_of_content? {content : ByteArray} (h : tree.content? p = some content) :
    tree.read p = .ok content := by
  rw [content?] at h
  rw [read]
  split at h
  · rename_i found hget
    rw [hget, Option.some.inj h]
  · contradiction

theorem readText_eq_ok {text : String} : FileStore.readText tree p = .ok text ↔
    ∃ content, tree.content? p = some content ∧ Utf8.decode content = .ok text := by
  change tree.readText p = .ok text ↔ _
  rw [readText, read, content?]
  cases tree.entries.get? p with
  | none => simp [bind, Except.bind]
  | some entry =>
      cases entry with
      | directory names => simp [bind, Except.bind]
      | file content =>
          simp only [bind, Except.bind, Option.some.injEq, exists_eq_left']
          cases Utf8.decode content <;> simp

theorem isFile_of_readText {text : String} (h : FileStore.readText tree p = .ok text) :
    FileStore.isFile tree p = true := by
  obtain ⟨content, hcontent, -⟩ := readText_eq_ok.1 h
  simp only [FileStore.isFile, FileStore.kindOf?, beq_iff_eq]
  exact kindOf?_eq_file.2 ⟨content, hcontent⟩

theorem Kept.attach (h : Kept outDir before after) {above : List Path} (habove : Climbs p above)
    (hp : Fresh outDir before after p) : Kept outDir before (after.attach p above) := by
  induction above generalizing after p with
  | nil => exact h
  | cons parent above ih =>
      obtain ⟨hparent, habove⟩ := habove
      have hchild : ∀ name ∈ p.fileName?, ∀ child : Path,
          child.components = parent.components ++ [.name name] →
            p.components = child.components := by
        intro name hname child hchild
        rw [hchild, hparent, ← Path.components_of_fileName? hname]
      rw [attach_cons]
      split
      · exact h.link fun name hname child hcomponents =>
          hp.congr (hchild name hname child hcomponents)
      · rename_i hcontains
        have hnone := kindOf?_of_not_contains hcontains
        have hbefore : before.kindOf? parent = none := by
          cases hkind : before.kindOf? parent with
          | none => rfl
          | some kind =>
              cases kind with
              | file => simpa [hnone] using h.file parent hkind
              | directory => simpa [hnone] using h.directory parent hkind
        have hmade : (after.put parent (.directory [])).kindOf? parent = some .directory := by
          rw [kindOf?_put, if_pos (Path.same_self parent)]
          rfl
        have hkept := ih (h.put_directory hnone) habove (Or.inr ⟨hbefore, hmade⟩)
        apply hkept.link
        intro name hname child hcomponents
        refine Fresh.congr ?_ (hchild name hname child hcomponents)
        refine hp.imp_right fun ⟨hpbefore, hpafter⟩ => ⟨hpbefore, kindOf?_attach ?_ _ _⟩
        rw [kindOf?_put]
        split
        · rfl
        · exact hpafter

theorem directoryOf?_eq_some (hp : p.isAbsolute = true) (h : directoryOf? p = some d) :
    d.isAbsolute = true ∧ d.components = p.components.dropLast := by
  obtain ⟨parent, hparent, hd⟩ := Option.bind_eq_some_iff.1 h
  have hcomponents := Path.components_parent? hparent
  obtain ⟨rest, hrest⟩ : ∃ rest, p.components = .root :: rest := by
    rw [Path.isAbsolute_iff, List.head?_eq_some_iff] at hp
    exact hp
  have hne : parent.components ≠ [] := by
    intro hnil
    cases rest with
    | nil => exact Path.ne_root_of_parent? hparent hrest
    | cons first others => simp [hcomponents, hrest] at hnil
  have hnonempty : parent.isEmpty = false := by
    rw [Bool.eq_false_iff]
    exact fun hempty => hne (Path.components_of_isEmpty hempty)
  simp only [hnonempty, Bool.false_eq_true, ↓reduceIte] at hd
  split at hd
  · simp at hd
  · obtain rfl := Option.some.inj hd
    refine ⟨?_, hcomponents⟩
    rw [Path.isAbsolute_iff, hcomponents, hrest]
    cases rest with
    | nil => simp [hcomponents, hrest] at hne
    | cons first others => rfl

theorem climbs_ancestorsWithin (n : Nat) (hp : p.isAbsolute = true) :
    Climbs p (ancestorsWithin n p) := by
  induction n generalizing p with
  | zero => trivial
  | succ n ih =>
      rw [ancestorsWithin]
      cases hdirectory : directoryOf? p with
      | none => trivial
      | some directory =>
          obtain ⟨habsolute, hcomponents⟩ := directoryOf?_eq_some hp hdirectory
          exact ⟨hcomponents, ih habsolute⟩

/-- A file written into a directory leaves everything outside of it as it was, except that the
directories that lead there may be new. -/
theorem Kept.putFile (h : Kept outDir before after) (hp : p.startsWith outDir = true)
    (habsolute : p.isAbsolute = true) (content : ByteArray) :
    Kept outDir before (after.putFile p content) :=
  (h.put_file hp content).attach (climbs_ancestorsWithin _ habsolute) (Or.inl hp)

end Writes

end LiveBuild.FileTree
