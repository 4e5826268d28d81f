import LiveBuild.Proofs.TaskTree
import LiveBuild.Proofs.Trees
import LiveBuild.Proofs.Walks
import Mathlib.Data.List.Forall2

/-!
# Outputs and sources

Whatever a build writes, it writes into the output directory. So as long as no source is looked for
there, every source reads as it did in the beginning, and is found from an import just as it was.
-/

namespace LiveBuild

variable {o : BuildOptions} {before after tree : FileTree} {p q rest outDir : Path}

section Places

theorem relativeTo?_of_belowBase (h : o.belowBase p = .ok rest) :
    p.relativeTo? o.baseDir = some rest := by
  rw [BuildOptions.belowBase] at h
  split at h
  · rename_i found hfound
    rw [hfound, Except.ok.inj h]
  · simp at h

theorem components_ne_nil_of_isAbsolute (h : p.isAbsolute = true) : p.components ≠ [] := by
  rw [Path.isAbsolute_iff] at h
  intro hnil
  simp [hnil] at h

theorem isAbsolute_of_startsWith (h : p.startsWith q = true) (hq : q.isAbsolute = true) :
    p.isAbsolute = true := by
  rw [Path.isAbsolute_iff] at *
  obtain ⟨rest, hrest⟩ := Path.startsWith_iff.1 h
  rw [← hrest, List.head?_append, hq]
  rfl

theorem startsWith_placeFor (hbase : o.baseDir.isAbsolute = true)
    (h : o.belowBase p = .ok rest) : (o.placeFor rest).startsWith o.outDir = true :=
  Path.startsWith_join (Path.relativeTo?_eq_some (components_ne_nil_of_isAbsolute hbase)
    (relativeTo?_of_belowBase h)).1 _

theorem withExtension_of_fileName? (h : p.fileName? = none) : p.withExtension "js" = p := by
  rw [Path.withExtension, h]
  split <;> simp_all

theorem startsWith_codeOutput (hbase : o.baseDir.isAbsolute = true)
    (h : o.belowBase p = .ok rest) (hne : p.components ≠ o.baseDir.components) :
    (o.codeOutput rest).startsWith o.outDir = true := by
  obtain ⟨hrelative, hcomponents⟩ := Path.relativeTo?_eq_some
    (components_ne_nil_of_isAbsolute hbase) (relativeTo?_of_belowBase h)
  have hrest : Path.inner (Path.pieces rest.text.toList) ≠ [] := by
    intro hnil
    rw [hnil, List.append_nil] at hcomponents
    exact hne hcomponents
  rw [BuildOptions.codeOutput, BuildOptions.placeFor]
  cases hname : (o.outDir.join rest).fileName? with
  | none =>
      rw [withExtension_of_fileName? hname]
      exact Path.startsWith_join hrelative _
  | some name =>
      rw [Path.startsWith_iff, Path.components_withExtension hname]
      by_cases hempty : o.outDir.isEmpty
      · rw [Path.components_of_isEmpty hempty]
        exact List.nil_prefix
      · rw [Path.components_join hrelative (by simpa using hempty),
          List.dropLast_append_of_ne_nil hrest, List.append_assoc]
        exact List.prefix_append _ _

theorem components_withExtension_congr (h : p.components = q.components) :
    (p.withExtension "js").components = (q.withExtension "js").components := by
  have hnames : p.fileName? = q.fileName? := by
    rw [Path.fileName?, Path.fileName?, h]
  cases hname : p.fileName? with
  | none =>
      rw [withExtension_of_fileName? hname, withExtension_of_fileName? (hnames ▸ hname), h]
  | some name =>
      rw [Path.components_withExtension hname, Path.components_withExtension (hnames ▸ hname), h]

/-- Where the output of a source goes depends on the place of the source only. -/
theorem components_codeOutput_congr {rest' : Path} (hbase : o.baseDir.isAbsolute = true)
    (hout : o.outDir.isAbsolute = true) (hp : o.belowBase p = .ok rest)
    (hq : o.belowBase q = .ok rest') (h : p.components = q.components) :
    (o.codeOutput rest).components = (o.codeOutput rest').components := by
  obtain ⟨hrelative, hcomponents⟩ := Path.relativeTo?_eq_some
    (components_ne_nil_of_isAbsolute hbase) (relativeTo?_of_belowBase hp)
  obtain ⟨hrelative', hcomponents'⟩ := Path.relativeTo?_eq_some
    (components_ne_nil_of_isAbsolute hbase) (relativeTo?_of_belowBase hq)
  have hempty : o.outDir.isEmpty = false := by
    rw [Bool.eq_false_iff]
    exact fun hempty => components_ne_nil_of_isAbsolute hout (Path.components_of_isEmpty hempty)
  refine components_withExtension_congr ?_
  rw [BuildOptions.placeFor, BuildOptions.placeFor, Path.components_join hrelative hempty,
    Path.components_join hrelative' hempty]
  exact congrArg _ (List.append_cancel_left (hcomponents.symm.trans (h.trans hcomponents')))

theorem not_mem_hex {c : Char} (hdigit : ∀ n < 16, Nat.digitChar n ≠ c) (bytes : List UInt8) :
    c ∉ (Blake3.hex bytes).toList := by
  rw [Blake3.hex, String.toList_ofList, List.mem_flatMap]
  rintro ⟨w, -, hw⟩
  rw [Blake3.wordDigits, List.mem_flatMap] at hw
  obtain ⟨part, -, hpart⟩ := hw
  have hlt := part.toUInt8.toNat_lt
  simp only [Blake3.byteDigits, List.mem_cons, List.not_mem_nil, or_false] at hpart
  rcases hpart with hpart | hpart
  · exact hdigit _ (by omega) hpart.symm
  · exact hdigit _ (by omega) hpart.symm

theorem isAbsolute_assetName (content : ByteArray) (p : Path) :
    (Path.ofString (Digest.assetName content (p.suffix?.getD ""))).isAbsolute = false := by
  rw [Path.isAbsolute, Path.text_ofString, Digest.assetName, String.toList_append, Digest.short,
    String.toList_ofList]
  cases hdigits : ((Digest.ofBytes content).toList.take Digest.shortLength) with
  | cons c others =>
      have hmem : c ∈ (Digest.ofBytes content).toList :=
        List.mem_of_mem_take (by rw [hdigits]; simp)
      rw [List.cons_append, List.head?_cons, beq_eq_false_iff_ne]
      intro hc
      rw [Option.some.inj hc] at hmem
      exact not_mem_hex (by decide) _ hmem
  | nil =>
      rw [List.nil_append, Path.suffix?]
      cases p.extension? with
      | none => rfl
      | some extension => simp

end Places

/-- What a transform is told beside the text does not depend on the files. -/
theorem SourceContext.ofSource_eq (tree tree' : FileTree) (o : BuildOptions) (p : Path) :
    ofSource tree o p = ofSource tree' o p := rfl

section Sources

variable (h : FileTree.Kept o.outDir before after) (hp : p.startsWith o.outDir = false)

include h

theorem isFile_mono (hp : FileStore.isFile before p = true) : FileStore.isFile after p = true := by
  simp only [FileStore.isFile, FileStore.kindOf?, beq_iff_eq] at *
  exact h.file p hp

include hp

theorem isFile_iff : FileStore.isFile after p = true ↔ FileStore.isFile before p = true := by
  refine ⟨fun hafter => ?_, isFile_mono h⟩
  simp only [FileStore.isFile, FileStore.kindOf?, beq_iff_eq] at *
  cases hkind : before.kindOf? p with
  | none => exact absurd hafter (h.absent p hp hkind)
  | some kind =>
      cases kind with
      | file => rfl
      | directory =>
          rcases h.directory p hkind with hdirectory | ⟨hin, -⟩
          · simp [hafter] at hdirectory
          · simp [hp] at hin

theorem isDirectory_mono (hd : FileStore.isDirectory before p = true) :
    FileStore.isDirectory after p = true := by
  rw [Walk.isDirectory_iff] at *
  exact (h.directory p hd).resolve_right (by simp [hp])

theorem isCode_iff : o.IsCode after p rest ↔ o.IsCode before p rest :=
  ⟨fun hcode => ⟨(isFile_iff h hp).1 hcode.file, hcode.below, hcode.kept, hcode.suffix⟩,
    fun hcode => ⟨(isFile_iff h hp).2 hcode.file, hcode.below, hcode.kept, hcode.suffix⟩⟩

theorem readText_eq (hfile : FileStore.isFile before p = true) :
    FileStore.readText after p = FileStore.readText before p := by
  obtain ⟨content, hbefore⟩ : ∃ content, before.content? p = some content := by
    simp only [FileStore.isFile, FileStore.kindOf?, beq_iff_eq] at hfile
    exact FileTree.kindOf?_eq_file.1 hfile
  have hafter := h.content p hp content hbefore
  change after.readText p = before.readText p
  rw [FileTree.readText, FileTree.readText, FileTree.read_of_content? hafter,
    FileTree.read_of_content? hbefore]

theorem readText_eq_ok_iff {text : String} :
    FileStore.readText after p = .ok text ↔ FileStore.readText before p = .ok text := by
  constructor
  · intro hafter
    rwa [← readText_eq h hp ((isFile_iff h hp).1 (FileTree.isFile_of_readText hafter))]
  · intro hbefore
    rwa [readText_eq h hp (FileTree.isFile_of_readText hbefore)]

end Sources

section Imports

/-- The files that the local specifiers of a source name; all of them have to be found. -/
def Lookup.findAll {σ : Type} [FileStore σ] (store : σ) (o : BuildOptions) (source : Path)
    (specifiers : List String) : Except BuildError (List Path) :=
  (specifiers.filter Imports.isLocal).mapM fun specifier =>
    Lookup.find store source specifier o.resolveExtensions

theorem dependencies_eq {σ : Type} [FileStore σ] (s : BuildSession σ) (source : Path)
    (specifiers : List String) :
    s.dependencies source specifiers = Lookup.findAll s.store s.options source specifiers := rfl

theorem mapM_eq_ok_iff {ε α β : Type} {f : α → Except ε β} {xs : List α} {ys : List β} :
    xs.mapM f = .ok ys ↔ List.Forall₂ (fun x y => f x = .ok y) xs ys := by
  induction xs generalizing ys with
  | nil => cases ys <;> simp [pure, Except.pure]
  | cons x xs ih =>
      rw [List.mapM_cons]
      cases hx : f x with
      | error e => cases ys <;> simp [bind, Except.bind, hx]
      | ok y =>
          cases hxs : xs.mapM f with
          | error e =>
              cases ys with
              | nil => simp [bind, Except.bind]
              | cons y' ys => simp [bind, Except.bind, ← ih, hxs]
          | ok zs =>
              cases ys with
              | nil => simp [bind, Except.bind, pure, Except.pure]
              | cons y' ys => simp [bind, Except.bind, pure, Except.pure, ← ih, hxs, hx]

variable (h : FileTree.Kept o.outDir before after) {specifier : String} {specifiers : List String}
  {source : Path} {extensions : List String} {files : List Path}

include h

theorem find_before (hfind : Lookup.find after source specifier extensions = .ok q)
    (hq : q.startsWith o.outDir = false) :
    Lookup.find before source specifier extensions = .ok q := by
  rw [Lookup.find] at *
  split at hfind
  · rename_i found hfound
    obtain rfl := Except.ok.inj hfind
    obtain ⟨hfile, left, right, hcandidates, hleft⟩ := List.find?_eq_some_iff_append.1 hfound
    have hbefore : (Lookup.candidates (Lookup.target source specifier) extensions).find?
        (FileStore.isFile before) = some found := by
      refine List.find?_eq_some_iff_append.2
        ⟨(isFile_iff h hq).1 hfile, left, right, hcandidates, fun c hc => ?_⟩
      have hnone := hleft c hc
      rw [Bool.not_eq_true'] at hnone ⊢
      rw [Bool.eq_false_iff] at hnone ⊢
      exact fun hbefore => hnone (isFile_mono h hbefore)
    rw [hbefore]
  · simp at hfind

theorem find_after (hfind : Lookup.find before source specifier extensions = .ok q) :
    ∃ p, Lookup.find after source specifier extensions = .ok p := by
  rw [Lookup.find] at *
  split at hfind
  · rename_i found hfound
    have hsome : ((Lookup.candidates (Lookup.target source specifier) extensions).find?
        (FileStore.isFile after)).isSome = true := by
      rw [List.find?_isSome]
      exact ⟨found, List.mem_of_find?_eq_some hfound, isFile_mono h (List.find?_some hfound)⟩
    obtain ⟨p, hp⟩ := Option.isSome_iff_exists.1 hsome
    exact ⟨p, by rw [hp]⟩
  · simp at hfind

theorem findAll_before (hfiles : Lookup.findAll after o source specifiers = .ok files)
    (houtside : ∀ q ∈ files, q.startsWith o.outDir = false) :
    Lookup.findAll before o source specifiers = .ok files := by
  rw [Lookup.findAll, mapM_eq_ok_iff] at *
  generalize specifiers.filter Imports.isLocal = locals at *
  induction hfiles with
  | nil => exact .nil
  | cons hfind _ ih =>
      obtain ⟨hq, hothers⟩ := List.forall_mem_cons.1 houtside
      exact .cons (find_before h hfind hq) (ih hothers)

theorem findAll_after (hfiles : Lookup.findAll before o source specifiers = .ok files) :
    ∃ found, Lookup.findAll after o source specifiers = .ok found := by
  rw [Lookup.findAll, mapM_eq_ok_iff] at hfiles
  simp only [Lookup.findAll, mapM_eq_ok_iff]
  generalize specifiers.filter Imports.isLocal = locals at *
  induction hfiles with
  | nil => exact ⟨[], .nil⟩
  | cons hfind _ ih =>
      obtain ⟨p, hp⟩ := find_after h hfind
      obtain ⟨others, hothers⟩ := ih
      exact ⟨p :: others, .cons hp hothers⟩

end Imports

theorem isFile_of_find {σ : Type} [FileStore σ] {store : σ} {source : Path} {specifier : String}
    {extensions : List String} (h : Lookup.find store source specifier extensions = .ok q) :
    FileStore.isFile store q = true := by
  rw [Lookup.find] at h
  split at h
  · rename_i found hfound
    rw [← Except.ok.inj h]
    exact List.find?_some hfound
  · simp at h

theorem exists_find_of_findAll {σ : Type} [FileStore σ] {store : σ} {source : Path}
    {specifiers : List String} {files : List Path}
    (h : Lookup.findAll store o source specifiers = .ok files) :
    ∀ q ∈ files, ∃ specifier,
      Lookup.find store source specifier o.resolveExtensions = .ok q := by
  rw [Lookup.findAll, mapM_eq_ok_iff] at h
  generalize specifiers.filter Imports.isLocal = locals at h
  induction h with
  | nil => simp
  | cons hfind _ ih => exact List.forall_mem_cons.2 ⟨⟨_, hfind⟩, ih⟩

theorem isFile_of_findAll {σ : Type} [FileStore σ] {store : σ} {source : Path}
    {specifiers : List String} {files : List Path}
    (h : Lookup.findAll store o source specifiers = .ok files) :
    ∀ q ∈ files, FileStore.isFile store q = true := by
  intro q hq
  obtain ⟨specifier, hfind⟩ := exists_find_of_findAll h q hq
  exact isFile_of_find hfind

section Writes

/-- What is kept by writes to the place of an asset and to a name that stands for its content, the
treatment of the asset keeps. -/
theorem emit_writes {P : FileTree → Prop}
    (hplace : ∀ tree content, P tree → P (tree.putFile (o.placeFor rest) content))
    (hrenamed : ∀ tree content, P tree → P (tree.putFile
      (o.outDir.join (Path.ofString (Digest.assetName content (p.suffix?.getD "")))) content))
    (kind : AssetTreatment) (h : P tree) : P (BuildSession.emit tree o kind p rest).1 := by
  cases kind with
  | copy =>
      rw [BuildSession.emit, Asset.copy]
      split
      · exact h
      · exact hplace _ _ h
  | hashed =>
      rw [BuildSession.emit, Asset.hashed]
      cases Asset.read tree p with
      | error e => exact h
      | ok content => exact hplace _ _ (hrenamed _ _ h)

/-- What every write into the output directory keeps, the treatment of an asset keeps. -/
theorem emit_induction {P : FileTree → Prop} (hbase : o.baseDir.isAbsolute = true)
    (hbelow : o.belowBase p = .ok rest)
    (hwrite : ∀ tree q content, P tree → q.startsWith o.outDir = true →
      P (tree.putFile q content))
    (kind : AssetTreatment) (h : P tree) : P (BuildSession.emit tree o kind p rest).1 :=
  emit_writes (fun _ _ h => hwrite _ _ _ h (startsWith_placeFor hbase hbelow))
    (fun _ content h => hwrite _ _ _ h (Path.startsWith_join (isAbsolute_assetName content p) _))
    kind h

section Turn

variable {s : BuildSession FileTree} {task : BuildTask} {turn : BuildSession.Turn FileTree}

/-- A turn leaves the store as it is, or treats an asset, or writes the code of a source. -/
theorem BuildSession.Turns.store_cases (h : Turns s task turn) : turn.store = s.store ∨
    (∃ path requester rest kind, task.stage = .visit path requester ∧
      s.options.belowBase path = .ok rest ∧
      turn.store = (emit s.store s.options kind path rest).1) ∨
    ∃ job code locals, task.stage = .write job code locals ∧
      turn.store = s.store.putFile job.dest code.toUTF8 := by
  cases h with
  | asset hstage _ _ hbelow => exact Or.inr (Or.inl ⟨_, _, _, _, hstage, hbelow, rfl⟩)
  | assetFailed hstage _ _ hbelow => exact Or.inr (Or.inl ⟨_, _, _, _, hstage, hbelow, rfl⟩)
  | write hstage => exact Or.inr (Or.inr ⟨_, _, _, hstage, rfl⟩)
  | _ => exact Or.inl rfl

/-- What every write into the output directory keeps, a turn keeps. -/
theorem BuildSession.Turns.store_induction {P : FileTree → Prop} (h : Turns s task turn)
    (hbase : s.options.baseDir.isAbsolute = true)
    (hdest : ∀ job, task.stage.job? = some job → job.dest.startsWith s.options.outDir = true)
    (hwrite : ∀ tree q content, P tree → q.startsWith s.options.outDir = true →
      P (tree.putFile q content)) (hP : P s.store) : P turn.store := by
  rcases h.store_cases with hstore | ⟨path, requester, rest, kind, -, hbelow, hstore⟩ |
    ⟨job, code, locals, hstage, hstore⟩
  · rwa [hstore]
  · rw [hstore]
    exact emit_induction hbase hbelow hwrite kind hP
  · rw [hstore]
    exact hwrite _ _ _ hP (hdest job (by rw [hstage]; rfl))

end Turn

theorem kept_putFile (hout : outDir.isAbsolute = true) {q : Path}
    (h : FileTree.Kept outDir before after) (hq : q.startsWith outDir = true)
    (content : ByteArray) : FileTree.Kept outDir before (after.putFile q content) :=
  h.putFile hq (isAbsolute_of_startsWith hq hout) content

end Writes

end LiveBuild
