import LiveBuild.Proofs.Aggregates
import LiveBuild.Proofs.JsonText
import LiveBuild.Proofs.Places

/-!
# What a hashed asset leaves

Two files are written for a hashed asset: a copy under a name that stands for its content, directly
in the output directory, and at its place the module with the address of the copy. The module is
written last. It takes the place of the copy exactly if the asset lies directly in the base
directory and has the name that its copy gets.
-/

namespace LiveBuild

open LiveBuild.Path

namespace Blake3

/-- The digest of a text of one block. -/
theorem hex_of_length_le {bytes : List UInt8} (h : bytes.length ≤ 64) :
    hex bytes = String.ofList ((Node.compress ⟨iv, blockOf bytes, 0, bytes.length,
      chunkStart ||| chunkEnd⟩ root).toList.flatMap wordDigits) := by
  rw [hex, treeNode, dif_neg (by omega), chunkNode, if_neg (by omega), List.take_of_length_le h]

end Blake3

namespace BuildOptions

variable {o : BuildOptions} {p rest : Path} {content : ByteArray}

/-- The name of the copy of an asset. -/
def copyName (content : ByteArray) (p : Path) : String :=
  Digest.assetName content (p.suffix?.getD "")

/-- Where the copy of an asset goes. -/
def copyPlace (o : BuildOptions) (content : ByteArray) (p : Path) : Path :=
  o.outDir.join (ofString (copyName content p))

/-- The place of an asset is that of its copy. -/
def IsContested (o : BuildOptions) (content : ByteArray) (p rest : Path) : Prop :=
  (o.placeFor rest).same (o.copyPlace content p) = true

/-- An asset and its copy have one place exactly if the asset lies directly in the base directory
and has the very name its copy gets. -/
theorem isContested_iff (hbase : o.baseDir.components ≠ []) (h : o.belowBase p = .ok rest) :
    o.IsContested content p rest ↔
      p.components = o.baseDir.components ++ [.name (copyName content p)] := by
  rw [IsContested, same_iff, components_placeFor hbase h, copyPlace, copyName,
    components_join_name (isName_assetName content p),
    components_of_relativeTo? (relativeTo?_of_belowBase h), List.append_right_inj,
    List.append_right_inj]

end BuildOptions

namespace BuildSession

variable {s : BuildSession FileTree} {tree : FileTree} {o : BuildOptions} {task : BuildTask}
  {p q rest : Path} {content : ByteArray}

/-- What is there after a hashed asset was put out. -/
structure PutsOut (s t : BuildSession FileTree) (task : BuildTask) (content : ByteArray)
    (p rest : Path) : Prop where
  done : t = { s with store := t.store }.setStage task (.done 1)
  /-- The quoted text in the module is read back as the prefix and the name of the copy. -/
  shim : ∃ literal,
    Json.parse? literal =
      some (.text (s.options.assets.staticPrefix ++ BuildOptions.copyName content p)) ∧
    t.store.content? (s.options.placeFor rest) = some ("module.exports = " ++
      s.options.assets.publicPath ++ " + " ++ literal ++ ";\n").toUTF8
  copy : ¬ s.options.IsContested content p rest →
    t.store.content? (s.options.copyPlace content p) = some content
  overwritten : s.options.IsContested content p rest →
    t.store.content? (s.options.copyPlace content p) =
      t.store.content? (s.options.placeFor rest)
  kept : ∀ q, ¬ (s.options.placeFor rest).same q → ¬ (s.options.copyPlace content p).same q →
    t.store.content? q = s.store.content? q

theorem emit_hashed (h : tree.content? p = some content) : emit tree o .hashed p rest =
    ((tree.putFile (o.copyPlace content p) content).putFile (o.placeFor rest)
      (Asset.shim o.assets (BuildOptions.copyName content p)).toUTF8, .ok ()) := by
  have hread : FileStore.read tree p = .ok content := FileTree.read_of_content? h
  rw [emit, Asset.hashed, Asset.read, hread]
  rfl

theorem putsOut_visitAsset (hcontent : s.store.content? p = some content) (task : BuildTask)
    (rest : Path) : PutsOut s (s.visitAsset task .hashed p rest) task content p rest := by
  have hvisit : s.visitAsset task .hashed p rest =
      { s with store := (emit s.store s.options .hashed p rest).1 }.setStage task (.done 1) := by
    rw [visitAsset_eq, emit_hashed hcontent]
  have hstore : (s.visitAsset task .hashed p rest).store =
      (emit s.store s.options .hashed p rest).1 := by
    rw [hvisit]
    rfl
  rw [emit_hashed hcontent] at hstore
  refine ⟨by rw [hstore, hvisit, emit_hashed hcontent], ?_, fun hcopy => ?_, fun hcopy => ?_,
    fun q hq hcopy => ?_⟩
  · refine ⟨_, Json.parse?_compact rfl, ?_⟩
    rw [hstore, FileTree.content?_putFile, if_pos (same_self _)]
    rfl
  · rw [BuildOptions.IsContested] at hcopy
    rw [hstore, FileTree.content?_putFile, if_neg hcopy, FileTree.content?_putFile,
      if_pos (same_self _)]
  · exact (FileTree.content?_congr (same_iff.1 hcopy)).symm
  · rw [hstore, FileTree.content?_putFile, if_neg hq, FileTree.content?_putFile, if_neg hcopy]

/-- **A hashed asset and its module.** The module is written at the place of the asset, the copy
gets the bytes of the asset, and no other file changes; but if the asset lies directly in the base
directory and has the very name its copy gets, then the module is written over the copy. An asset
with the same bytes and extension that is put out later has the same copy. -/
theorem hashed_asset_written (hcontent : s.store.content? p = some content) (task : BuildTask)
    (rest : Path) :
    ∃ t, s.visitAsset task .hashed p rest = t ∧ PutsOut s t task content p rest ∧
      (s.options.baseDir.components ≠ [] → s.options.belowBase p = .ok rest →
        (s.options.IsContested content p rest ↔ p.components =
          s.options.baseDir.components ++ [.name (BuildOptions.copyName content p)])) ∧
      ∀ other rest' next, t.store.content? other = some content → other.suffix? = p.suffix? →
        ¬ s.options.IsContested content other rest' →
        (t.visitAsset next .hashed other rest').store.content? (s.options.copyPlace content p) =
          some content := by
  have hputs := putsOut_visitAsset hcontent task rest
  have hoptions : (s.visitAsset task .hashed p rest).options = s.options := by
    rw [hputs.done]
    rfl
  refine ⟨_, rfl, hputs, BuildOptions.isContested_iff,
    fun other rest' next hother hsuffix hcontested => ?_⟩
  rw [← hoptions] at hcontested
  have hcopy := (putsOut_visitAsset hother next rest').copy hcontested
  rwa [hoptions, BuildOptions.copyPlace, BuildOptions.copyName, hsuffix] at hcopy

/-- Three files with the same bytes, the last of which has the name that its copy gets. -/
def fonts : FileTree :=
  ((FileTree.empty.putFile "/p/font.woff" "font".toUTF8).putFile "/p/a/font.woff"
    "font".toUTF8).putFile "/p/8921bed73923ac34.woff" "font".toUTF8

def fontOptions : BuildOptions :=
  { baseDir := "/p", outDir := "/p/out", extensions := [".woff"], resolveExtensions := [".js"],
    exclude := [], assets := ⟨[], [".woff"], "_static/", "__webpack_public_path__"⟩, extra := {} }

def fontTask (p : Path) : BuildTask := ⟨0, none, 0, ⟨1, 0⟩, .single, .visit p none⟩

/-- A session that is about to look at one of the files. -/
def fontSession (p : Path) : BuildSession FileTree :=
  { start fonts fontOptions .scan with tasks := [fontTask p], nextTask := 1 }

theorem copyName_fonts {p : Path} (h : p.suffix? = some ".woff") :
    BuildOptions.copyName "font".toUTF8 p = "8921bed73923ac34.woff" := by
  have hbytes : "font".toUTF8.toList = [102, 111, 110, 116] := by
    rw [Utf8.toList_toUTF8]
    decide
  rw [BuildOptions.copyName, h, Digest.assetName, Digest.ofBytes, hbytes,
    Blake3.hex_of_length_le (by decide)]
  decide +kernel

theorem copyPlace_fonts {p : Path} (h : p.suffix? = some ".woff") :
    fontOptions.copyPlace "font".toUTF8 p = "/p/out/8921bed73923ac34.woff" := by
  rw [BuildOptions.copyPlace, copyName_fonts h]
  rfl

/-- Two of the files are put out, one after the other. The copy that they share is intact, and what
the module of the first one quotes is read back as its address. -/
theorem hashed_asset_written_fonts : ∃ t u,
    (fontSession "/p/font.woff").visitAsset (fontTask "/p/font.woff") .hashed "/p/font.woff"
      "font.woff" = t ∧
    t.visitAsset (fontTask "/p/a/font.woff") .hashed "/p/a/font.woff" "a/font.woff" = u ∧
    fonts.content? "/p/font.woff" = some "font".toUTF8 ∧
    t.tasks.map BuildTask.count? = [some 1] ∧
    t.store.content? "/p/out/8921bed73923ac34.woff" = some "font".toUTF8 ∧
    (∃ literal, Json.parse? literal = some (.text "_static/8921bed73923ac34.woff") ∧
      t.store.content? "/p/out/font.woff" =
        some ("module.exports = __webpack_public_path__ + " ++ literal ++ ";\n").toUTF8) ∧
    t.store.content? "/p/a/font.woff" = some "font".toUTF8 ∧
    u.store.content? "/p/out/8921bed73923ac34.woff" = some "font".toUTF8 := by
  have hcontent : (fontSession "/p/font.woff").store.content? "/p/font.woff" =
      some "font".toUTF8 := rfl
  have hsuffix : (Path.ofString "/p/font.woff").suffix? = some ".woff" := by decide
  have hplace := copyPlace_fonts hsuffix
  have hcontested : ∀ rest ∈ ["font.woff", "a/font.woff"].map Path.ofString,
      ∀ p : Path, p.suffix? = some ".woff" →
        ¬ fontOptions.IsContested "font".toUTF8 p rest := by
    intro rest hrest p hp
    rw [BuildOptions.IsContested, copyPlace_fonts hp]
    revert rest
    decide
  obtain ⟨t, ht, hputs, -, hshared⟩ :=
    hashed_asset_written hcontent (fontTask "/p/font.woff") "font.woff"
  obtain ⟨literal, hliteral, hshim⟩ := hputs.shim
  have hcopy := hputs.copy (hcontested _ (by simp) _ hsuffix)
  have hkept := hputs.kept "/p/a/font.woff" (by decide) (by
    change ¬ (fontOptions.copyPlace "font".toUTF8 "/p/font.woff").same _ = true
    rw [hplace]
    decide)
  have hother := hshared "/p/a/font.woff" "a/font.woff" (fontTask "/p/a/font.woff")
    (hkept.trans rfl) (by decide) (hcontested _ (by simp) _ (by decide))
  rw [copyName_fonts hsuffix] at hliteral
  refine ⟨t, _, ht, rfl, rfl, ?_, ?_, ⟨literal, hliteral, hshim⟩, hkept.trans rfl, ?_⟩
  · rw [hputs.done]
    rfl
  · rw [← hplace]
    exact hcopy
  · rw [← hplace]
    exact hother

/-- The third file is put out with success, and its copy is lost: what the module refers to is the
module. -/
theorem copy_lost_namesake :
    fonts.content? "/p/8921bed73923ac34.woff" = some "font".toUTF8 ∧
    fontOptions.belowBase "/p/8921bed73923ac34.woff" = .ok "8921bed73923ac34.woff" ∧
    Digest.assetName "font".toUTF8 ".woff" = "8921bed73923ac34.woff" ∧
    ∃ t, (fontSession "/p/8921bed73923ac34.woff").visit (fontTask "/p/8921bed73923ac34.woff")
        "/p/8921bed73923ac34.woff" none = t ∧
      t.tasks.map BuildTask.count? = [some 1] ∧
      t.store.content? (fontOptions.outDir.join
        (Path.ofString (Digest.assetName "font".toUTF8 ".woff"))) ≠ some "font".toUTF8 := by
  have hname : Digest.assetName "font".toUTF8 ".woff" = "8921bed73923ac34.woff" :=
    copyName_fonts (p := "/p/8921bed73923ac34.woff") (by decide)
  have hcontent : (fontSession "/p/8921bed73923ac34.woff").store.content?
      "/p/8921bed73923ac34.woff" = some "font".toUTF8 := rfl
  have hvisit : (fontSession "/p/8921bed73923ac34.woff").visit
      (fontTask "/p/8921bed73923ac34.woff") "/p/8921bed73923ac34.woff" none =
      (fontSession "/p/8921bed73923ac34.woff").visitAsset (fontTask "/p/8921bed73923ac34.woff")
        .hashed "/p/8921bed73923ac34.woff" "8921bed73923ac34.woff" := rfl
  have hputs := putsOut_visitAsset hcontent (fontTask "/p/8921bed73923ac34.woff")
    "8921bed73923ac34.woff"
  refine ⟨rfl, rfl, hname, _, rfl, ?_, ?_⟩
  · rw [hvisit, hputs.done]
    rfl
  · obtain ⟨literal, -, hshim⟩ := hputs.shim
    rw [hvisit, hname]
    intro hfont
    have hbytes := Option.some.inj (hshim.symm.trans hfont)
    have htext := congrArg String.toList (String.toByteArray_inj.1 hbytes)
    simp only [String.toList_append] at htext
    exact absurd (List.cons.inj htext).1 (by decide)

end BuildSession

end LiveBuild
