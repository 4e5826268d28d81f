import LiveBuild.Build.Options
import LiveBuild.Pages.History
import LiveBuild.Settings.Checks
import Mathlib

/-!
# Settings are accepted when they can be used

The checks look at one entry after the other and report the first fault that they find. What passes
them all is said by one conjunction over all entries. A session and a test of page names can then be
made of the settings without another check, and every asset extension has one treatment, so that the
two lists of them can be asked in either order. How globs and patterns are read makes no difference
to this.
-/

namespace LiveBuild

/-- The policy that has each treatment in place of the other. -/
def AssetPolicy.exchanged (policy : AssetPolicy) : AssetPolicy :=
  { policy with copy := policy.hashed, hashed := policy.copy }

def AssetTreatment.other : AssetTreatment → AssetTreatment
  | copy => hashed
  | hashed => copy

theorem AssetPolicy.treatmentOf?_eq (policy : AssetPolicy) (extension : String) :
    policy.treatmentOf? extension = if extension ∈ policy.copy then some .copy
      else if extension ∈ policy.hashed then some .hashed else none := by
  simp only [treatmentOf?, List.contains_iff_mem]

/-- A policy gives the extensions of two lists their treatment, whichever list it asks first. -/
structure AssetPolicy.Follows (policy : AssetPolicy) (b : BuildSettings) : Prop where
  copy_iff : ∀ extension, policy.treatmentOf? extension = some .copy ↔ extension ∈ b.copyAssets
  hashed_iff : ∀ extension, policy.treatmentOf? extension = some .hashed ↔
    extension ∈ b.hashedAssets
  either_order : ∀ extension, policy.treatmentOf? extension =
    (policy.exchanged.treatmentOf? extension).map AssetTreatment.other

namespace Settings

variable {grammars : Grammars} {s : Settings} {b : BuildSettings} {r : ReloadSettings}

/-- What settings have to be so that they can be used. -/
structure IsUsable (s : Settings) (grammars : Grammars) : Prop where
  /-- All extensions begin with a dot and have a byte behind it. -/
  dotted : ∀ extension ∈ s.build.extensions ++ s.build.resolveExtensions ++ s.build.copyAssets ++
    s.build.hashedAssets, extension.toList.head? = some '.' ∧ 2 ≤ extension.utf8ByteSize
  resolves : s.build.resolveExtensions ≠ []
  allowed : ∀ extension ∈ s.build.copyAssets ++ s.build.hashedAssets,
    extension ∈ s.build.extensions
  /-- No asset is both copied and hashed. -/
  exclusive : ∀ extension ∈ s.build.copyAssets, extension ∉ s.build.hashedAssets
  globs : ∀ text ∈ s.build.exclude, ∃ glob, grammars.glob text = .ok glob
  pattern : ∃ pattern, grammars.pattern? s.reload.pageChunkPattern = some pattern
  waits : 1 ≤ s.watch.window
  routes : ∀ route ∈ s.reload.hardReloadRoutes, route.toList.head? = some '/'

section Checks

theorem firstError_eq_none_iff {α : Type} {check : α → Option String} {items : List α} :
    firstError check items = none ↔ ∀ item ∈ items, check item = none :=
  List.findSome?_eq_none_iff

theorem orElse_eq_none_iff {first second : Option String} :
    (first <|> second) = none ↔ first = none ∧ second = none := by
  cases first <;> simp

theorem isExtension_iff {extension : String} : isExtension extension = true ↔
    extension.toList.head? = some '.' ∧ 2 ≤ extension.utf8ByteSize := by
  rw [isExtension, Bool.and_eq_true, beq_iff_eq, decide_eq_true_iff]

theorem extensionError_eq_none_iff {field : String} {extensions : List String} :
    extensionError field extensions = none ↔
      ∀ extension ∈ extensions, isExtension extension = true := by
  rw [extensionError, firstError_eq_none_iff]
  apply forall₂_congr
  intro extension _
  cases isExtension extension <;> simp

theorem extensionsError_eq_none_iff : extensionsError b = none ↔
    (∀ extension ∈ b.extensions ++ b.resolveExtensions ++ b.copyAssets ++ b.hashedAssets,
      isExtension extension = true) ∧ b.resolveExtensions ≠ [] := by
  have hempty : (if b.resolveExtensions.isEmpty then
      some "[build].resolve_extensions must not be empty" else none) = none ↔
        b.resolveExtensions ≠ [] := by
    cases b.resolveExtensions <;> simp
  simp only [extensionsError, orElse_eq_none_iff, extensionError_eq_none_iff, hempty,
    List.forall_mem_append, and_assoc]

/-- Looking at every asset extension in turn comes to two conditions on the lists. -/
theorem assetsError_eq_none_iff : assetsError b = none ↔
    (∀ extension ∈ b.copyAssets ++ b.hashedAssets, extension ∈ b.extensions) ∧
      ∀ extension ∈ b.copyAssets, extension ∉ b.hashedAssets := by
  have hone : ∀ extension, (if !b.extensions.contains extension then
        some ("asset extension '" ++ extension ++ "' is not in [build].extensions")
      else if b.copyAssets.contains extension && b.hashedAssets.contains extension then
        some ("asset extension '" ++ extension ++ "' cannot be both copied and hashed")
      else none) = none ↔
        extension ∈ b.extensions ∧ ¬ (extension ∈ b.copyAssets ∧ extension ∈ b.hashedAssets) := by
    intro extension
    by_cases hallowed : extension ∈ b.extensions
    · by_cases hboth : extension ∈ b.copyAssets ∧ extension ∈ b.hashedAssets
      · simp [hallowed, hboth]
      · simp [hallowed, hboth]
    · simp [hallowed]
  rw [assetsError, firstError_eq_none_iff]
  simp only [hone]
  constructor
  · intro hall
    refine ⟨fun extension hmem => (hall extension hmem).1, fun extension hcopy hhashed => ?_⟩
    exact (hall extension (List.mem_append_left _ hcopy)).2 ⟨hcopy, hhashed⟩
  · rintro ⟨hallowed, hexclusive⟩ extension hmem
    exact ⟨hallowed extension hmem, fun hboth => hexclusive extension hboth.1 hboth.2⟩

theorem excludeError_eq_none_iff : excludeError grammars b = none ↔
    ∀ text ∈ b.exclude, ∃ glob, grammars.glob text = .ok glob := by
  rw [excludeError, firstError_eq_none_iff]
  apply forall₂_congr
  intro text _
  cases grammars.glob text <;> simp

theorem watchError_eq_none_iff {w : WatchSettings} : watchError w = none ↔ 1 ≤ w.window := by
  rw [watchError, Nat.one_le_iff_ne_zero]
  split <;> simp_all

theorem reloadError_eq_none_iff : reloadError grammars r = none ↔
    (∃ pattern, grammars.pattern? r.pageChunkPattern = some pattern) ∧
      ∀ route ∈ r.hardReloadRoutes, route.toList.head? = some '/' := by
  rw [reloadError]
  cases grammars.pattern? r.pageChunkPattern with
  | none => simp
  | some pattern =>
      rw [if_neg (by simp), firstError_eq_none_iff]
      simp

/-- Of settings that can be used no check reports anything, and only of these. -/
theorem fault?_eq_none_iff : s.fault? grammars = none ↔ s.IsUsable grammars := by
  simp only [fault?, orElse_eq_none_iff, extensionsError_eq_none_iff, assetsError_eq_none_iff,
    excludeError_eq_none_iff, watchError_eq_none_iff, reloadError_eq_none_iff, isExtension_iff]
  constructor
  · rintro ⟨⟨hdotted, hresolves⟩, ⟨hallowed, hexclusive⟩, hglobs, hwaits, hpattern, hroutes⟩
    exact ⟨hdotted, hresolves, hallowed, hexclusive, hglobs, hpattern, hwaits, hroutes⟩
  · intro h
    exact ⟨⟨h.dotted, h.resolves⟩, ⟨h.allowed, h.exclusive⟩, h.globs, h.waits, h.pattern, h.routes⟩

theorem checked_eq_ok_iff : s.checked grammars = .ok s ↔ s.IsUsable grammars := by
  rw [← fault?_eq_none_iff, checked]
  cases s.fault? grammars <;> simp

end Checks

section Use

/-- The globs of usable settings are read once more, with the same outcome. -/
theorem exists_globs {texts : List String}
    (h : ∀ text ∈ texts, ∃ glob, grammars.glob text = .ok glob) :
    ∃ globs, texts.mapM (BuildOptions.readGlob grammars) = .ok globs ∧
      ∀ glob ∈ globs, ∃ text, grammars.glob text = .ok glob := by
  induction texts with
  | nil => exact ⟨[], rfl, by simp⟩
  | cons text rest ih =>
      obtain ⟨⟨glob, hglob⟩, hrest⟩ := List.forall_mem_cons.1 h
      obtain ⟨globs, hglobs, hread⟩ := ih hrest
      refine ⟨glob :: globs, ?_, List.forall_mem_cons.2 ⟨⟨text, hglob⟩, hread⟩⟩
      rw [List.mapM_cons, BuildOptions.readGlob, hglob, hglobs]
      rfl

theorem IsUsable.exists_options (h : s.IsUsable grammars)
    (hmatch : ∀ globs : List Glob, (∀ glob ∈ globs, ∃ text, grammars.glob text = .ok glob) →
      grammars.conflict? globs = none) (baseDir : Path) :
    ∃ options, BuildOptions.ofSettings s baseDir grammars = .ok options ∧
      options.assets = AssetPolicy.ofSettings s.build := by
  obtain ⟨globs, hglobs, hread⟩ := exists_globs h.globs
  have hexclude : BuildOptions.readExclude grammars s.build.exclude = .ok globs := by
    simp only [BuildOptions.readExclude, hglobs, bind, Except.bind, hmatch globs hread]
    rfl
  rw [BuildOptions.ofSettings, hexclude]
  exact ⟨_, rfl, rfl⟩

/-- No extension stands in both lists, so it makes no difference which is asked first. -/
theorem follows_ofSettings (h : ∀ extension ∈ b.copyAssets, extension ∉ b.hashedAssets) :
    (AssetPolicy.ofSettings b).Follows b := by
  have hexchanged : ∀ extension, (AssetPolicy.ofSettings b).exchanged.treatmentOf? extension =
      if extension ∈ b.hashedAssets then some .copy
      else if extension ∈ b.copyAssets then some .hashed else none :=
    AssetPolicy.treatmentOf?_eq _
  have hone : ∀ extension, (AssetPolicy.ofSettings b).treatmentOf? extension =
      if extension ∈ b.copyAssets then some .copy
      else if extension ∈ b.hashedAssets then some .hashed else none :=
    AssetPolicy.treatmentOf?_eq _
  refine ⟨fun extension => ?_, fun extension => ?_, fun extension => ?_⟩
  -- An extension stands in the first list, or in the second, or in none.
  all_goals
    have hexclusive := h extension
    by_cases hcopy : extension ∈ b.copyAssets
    · have hhashed := hexclusive hcopy
      simp [hone, hexchanged, hcopy, hhashed, AssetTreatment.other]
    · by_cases hhashed : extension ∈ b.hashedAssets
      · simp [hone, hexchanged, hcopy, hhashed, AssetTreatment.other]
      · simp [hone, hexchanged, hcopy, hhashed]

theorem IsUsable.exists_pageTest (h : s.IsUsable grammars) :
    ∃ isPage, pageTest s.reload.pageChunkPattern grammars = .ok isPage := by
  obtain ⟨pattern, hpattern⟩ := h.pattern
  exact ⟨pattern.occursInText, by rw [pageTest, hpattern]⟩

end Use

/-- **The checks accept exactly the settings that can be used.** Whatever can be read as a glob or a
pattern, settings are accepted if and only if they are usable. If moreover globs that can be read
can be matched together, a build for any base directory and a test of page names are then made from
accepted settings, and the build copies and hashes just the assets that they say. -/
theorem checked_iff_usable (grammars : Grammars)
    (hmatch : ∀ globs : List Glob, (∀ glob ∈ globs, ∃ text, grammars.glob text = .ok glob) →
      grammars.conflict? globs = none) (s : Settings) :
    (s.checked grammars = .ok s ↔ s.IsUsable grammars) ∧
    (s.checked grammars = .ok s →
      (∀ baseDir, ∃ options, BuildOptions.ofSettings s baseDir grammars = .ok options ∧
        options.assets.Follows s.build) ∧
      ∃ isPage, pageTest s.reload.pageChunkPattern grammars = .ok isPage) := by
  refine ⟨checked_eq_ok_iff, fun haccepted => ?_⟩
  have husable := checked_eq_ok_iff.1 haccepted
  refine ⟨fun baseDir => ?_, husable.exists_pageTest⟩
  obtain ⟨options, hoptions, hassets⟩ := husable.exists_options hmatch baseDir
  refine ⟨options, hoptions, ?_⟩
  rw [hassets]
  exact follows_ofSettings husable.exclusive

set_option maxRecDepth 4000 in
/-- What takes its default passes the checks. -/
theorem isUsable_default : ({} : Settings).IsUsable {} where
  dotted := by decide
  resolves := by decide
  allowed := by decide
  exclusive := by decide
  globs := List.forall_mem_cons.2 ⟨⟨_, rfl⟩, List.forall_mem_singleton.2 ⟨_, rfl⟩⟩
  pattern := by
    rw [← Option.isSome_iff_exists]
    cbv
  waits := by decide
  routes := by decide

theorem checked_iff_usable_default :
    (∀ globs : List Glob, (∀ glob ∈ globs, ∃ text, ({} : Grammars).glob text = .ok glob) →
      ({} : Grammars).conflict? globs = none) ∧
    ({} : Settings).checked = .ok {} ∧ ({} : Settings).IsUsable {} ∧
    (∀ baseDir, ∃ options, BuildOptions.ofSettings {} baseDir = .ok options ∧
      options.assets.Follows {}) ∧
    ∃ isPage, pageTest ({} : ReloadSettings).pageChunkPattern = .ok isPage := by
  have hmatch : ∀ globs : List Glob,
      (∀ glob ∈ globs, ∃ text, ({} : Grammars).glob text = .ok glob) →
        ({} : Grammars).conflict? globs = none := fun _ _ => rfl
  obtain ⟨haccepted, hused⟩ := checked_iff_usable {} hmatch {}
  have hchecked : ({} : Settings).checked = .ok {} := haccepted.2 isUsable_default
  exact ⟨hmatch, hchecked, haccepted.1 hchecked, hused hchecked⟩

end Settings

end LiveBuild
