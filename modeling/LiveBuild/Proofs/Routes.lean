import LiveBuild.Pages.Route
import Mathlib.Data.List.Forall2
import Mathlib.Data.List.TakeWhile
import Mathlib.Tactic.Common

/-!
# Routes follow the layout of pages

A chunk is a page below a root directory. The text of its route is read off its name in two steps:
what stands behind the root is the page's own path, and of that path the ending is left out. Each
step is described by how it takes apart a text that was put together.
-/

namespace LiveBuild.Route

/-- A character that stands between the names of a path. -/
def IsSeparator (c : Char) : Prop := c = '/' ∨ c = '\\'

instance : DecidablePred IsSeparator := fun c => inferInstanceAs (Decidable (c = '/' ∨ c = '\\'))

/-- Two texts that differ at most in how their separators are written. -/
def Respelled (text other : String) : Prop :=
  List.Forall₂ (fun c d => c = d ∨ (IsSeparator c ∧ IsSeparator d)) text.toList other.toList

instance (text other : String) : Decidable (Respelled text other) :=
  inferInstanceAs (Decidable (List.Forall₂ _ _ _))

/-- A root directory without the separators at its end. -/
def bare (root : String) : String :=
  String.ofList (root.toList.reverse.dropWhile fun c => decide (IsSeparator c)).reverse

/-- The path of a page below the root directory, as a route shows it. -/
structure IsPage (page : String) : Prop where
  nonempty : page ≠ ""
  no_backslash : '\\' ∉ page.toList
  relative : page.toList.head? ≠ some '/'
  not_index : page ≠ "index"
  not_index_below : ¬ "/index".toList <:+ page.toList

variable {name root other page : String} {suffix text rest behind : List Char} {c : Char}

section Separators

/-- Every separator is written as a slash. -/
theorem slashed_eq_of_forall₂ {a b : List Char}
    (h : List.Forall₂ (fun c d => c = d ∨ (IsSeparator c ∧ IsSeparator d)) a b) :
    slashed a = slashed b := by
  have hslash : ∀ c, IsSeparator c → (if c = '\\' then '/' else c) = '/' := by
    rintro c (rfl | rfl) <;> rfl
  induction h with
  | nil => rfl
  | cons hhead _ ih =>
      rw [slashed, slashed, List.map_cons, List.map_cons]
      refine congrArg₂ _ ?_ ih
      rcases hhead with rfl | ⟨hc, hd⟩
      · rfl
      · rw [hslash _ hc, hslash _ hd]

theorem backslash_not_mem_slashed (text : List Char) : '\\' ∉ slashed text := by
  intro hmem
  obtain ⟨c, -, hc⟩ := List.mem_map.1 hmem
  split at hc
  · contradiction
  · exact absurd hc ‹_›

theorem slashed_eq_self (h : '\\' ∉ text) : slashed text = text := by
  refine (List.map_congr_left fun c hc => ?_).trans (List.map_id text)
  have hne : c ≠ '\\' := fun heq => h (heq ▸ hc)
  rw [if_neg hne, id]

theorem dropTrailing_slashed (text : List Char) : dropTrailing '/' (slashed text) =
    slashed (text.reverse.dropWhile fun c => decide (IsSeparator c)).reverse := by
  have hslash : ∀ c : Char,
      decide ((if c = '\\' then '/' else c) = '/') = decide (IsSeparator c) := by
    intro c
    by_cases hback : c = '\\' <;> simp [IsSeparator, hback]
  rw [dropTrailing, slashed, slashed, ← List.map_reverse, List.dropWhile_map, ← List.map_reverse]
  simp only [Function.comp_def, hslash]

/-- Separators at the end of a root do not count. -/
theorem dropTrailing_slashed_append (h : ∀ c ∈ rest, IsSeparator c) :
    dropTrailing '/' (slashed (text ++ rest)) = dropTrailing '/' (slashed text) := by
  have hall : ∀ c ∈ rest.reverse, decide (IsSeparator c) = true := fun c hc =>
    decide_eq_true (h c (List.mem_reverse.1 hc))
  rw [dropTrailing_slashed, dropTrailing_slashed, List.reverse_append,
    List.dropWhile_append_of_pos hall]

/-- What is dropped from the end of a root are slashes. -/
theorem exists_slashes (text : List Char) :
    ∃ n, text = dropTrailing '/' text ++ List.replicate n '/' := by
  have hslashes : ∀ c ∈ text.reverse.takeWhile (· = '/'), c = '/' := by
    intro c hc
    simpa using List.mem_takeWhile_imp hc
  refine ⟨(text.reverse.takeWhile (· = '/')).length, ?_⟩
  calc text
      = (text.reverse.takeWhile (· = '/') ++ text.reverse.dropWhile (· = '/')).reverse := by
        rw [List.takeWhile_append_dropWhile, List.reverse_reverse]
    _ = dropTrailing '/' text ++ (text.reverse.takeWhile (· = '/')).reverse := by
        rw [List.reverse_append, dropTrailing]
    _ = dropTrailing '/' text ++
          List.replicate (text.reverse.takeWhile (· = '/')).length '/' := by
        rw [← List.reverse_replicate, ← List.eq_replicate_iff.2 ⟨rfl, hslashes⟩]

end Separators

section Below

/-- A name below a root is the end of the name. -/
theorem below_suffix (root name : List Char) : below root name <:+ name := by
  rw [below]
  split
  · dsimp only
    split
    · exact List.drop_suffix _ _
    · split
      · rename_i rest hrest
        exact (List.suffix_cons _ _).trans (hrest ▸ List.drop_suffix root.length name)
      · exact List.suffix_rfl
  · exact List.suffix_rfl

/-- Where slashes follow the root, the name below it begins behind them. -/
theorem dropWhile_below (root : List Char) (n : Nat) (rest : List Char) :
    (below root (root ++ List.replicate (n + 1) '/' ++ rest)).dropWhile (· = '/') =
      rest.dropWhile (· = '/') := by
  have hslashes : ∀ n, (List.replicate n '/' ++ rest).dropWhile (· = '/') =
      rest.dropWhile (· = '/') := fun n =>
    List.dropWhile_append_of_pos fun c hc => decide_eq_true (List.eq_of_mem_replicate hc)
  have hprefix : root.isPrefixOf (root ++ (List.replicate (n + 1) '/' ++ rest)) = true :=
    List.isPrefixOf_iff_prefix.2 (List.prefix_append _ _)
  rw [List.append_assoc, below, if_pos hprefix]
  dsimp only
  rw [List.drop_left]
  split
  · exact hslashes (n + 1)
  · rw [List.replicate_succ, List.cons_append]
    exact hslashes n

/-- A root that is followed by something else than a slash is a part of the name. -/
theorem below_append_of_ne (root : List Char) (hc : c ≠ '/') :
    below root (root ++ c :: rest) = root ++ c :: rest := by
  have hprefix : root.isPrefixOf (root ++ c :: rest) = true :=
    List.isPrefixOf_iff_prefix.2 (List.prefix_append _ _)
  rw [below, if_pos hprefix]
  dsimp only
  rw [List.drop_left]
  split
  · rename_i hroot
    rw [List.isEmpty_iff.1 hroot, List.nil_append]
  · split
    · rename_i heq
      exact absurd (List.cons.inj heq).1 hc
    · rfl

end Below

section Endings

theorem withoutSuffix?_append (rest suffix : List Char) :
    withoutSuffix? suffix (rest ++ suffix) = some rest := by
  have hsuffix : suffix.isSuffixOf (rest ++ suffix) = true :=
    List.isSuffixOf_iff_suffix.2 (List.suffix_append _ _)
  rw [withoutSuffix?, if_pos hsuffix, List.length_append, Nat.add_sub_cancel, List.take_left]

theorem withoutSuffix?_eq_none_iff : withoutSuffix? suffix text = none ↔ ¬ suffix <:+ text := by
  rw [withoutSuffix?, ← List.isSuffixOf_iff_suffix]
  split <;> simp_all

theorem prefix_of_withoutSuffix? (h : withoutSuffix? suffix text = some rest) : rest <+: text := by
  rw [withoutSuffix?] at h
  split at h
  · rw [← Option.some.inj h]
    exact List.take_prefix _ _
  · contradiction

/-- A path without the ending that says what kind of file it is or that it is the index of its
directory. -/
def withoutEnding (path : List Char) : List Char :=
  match withoutSuffix? "/index.js".toList path with
  | some rest => rest
  | none => (withoutSuffix? ".js".toList path).getD path

theorem withoutEnding_prefix (path : List Char) : withoutEnding path <+: path := by
  rw [withoutEnding]
  cases hindex : withoutSuffix? "/index.js".toList path with
  | some rest => exact prefix_of_withoutSuffix? hindex
  | none =>
      cases hfile : withoutSuffix? ".js".toList path with
      | some rest => exact prefix_of_withoutSuffix? hfile
      | none => exact List.prefix_rfl

theorem withoutEnding_index (rest : List Char) :
    withoutEnding (rest ++ "/index.js".toList) = rest := by
  rw [withoutEnding, withoutSuffix?_append]

theorem withoutEnding_file (h : ¬ "/index".toList <:+ rest) :
    withoutEnding (rest ++ ".js".toList) = rest := by
  have hindex : ¬ "/index.js".toList <:+ rest ++ ".js".toList := by
    have hsplit : "/index.js".toList = "/index".toList ++ ".js".toList := rfl
    rwa [hsplit, List.suffix_append_inj_of_length_eq rfl, and_iff_left rfl]
  rw [withoutEnding, withoutSuffix?_eq_none_iff.2 hindex, withoutSuffix?_append, Option.getD_some]

end Endings

section Routes

/-- What stands behind the root in the name of a chunk. -/
def pathBelow (root name : String) : List Char :=
  (below (dropTrailing '/' (slashed root.toList)) (slashed name.toList)).dropWhile (· = '/')

theorem ofChunk_eq (name root : String) : ofChunk name root =
    if withoutEnding ('/' :: pathBelow root name) = [] then "/"
    else String.ofList (withoutEnding ('/' :: pathBelow root name)) := by
  simp only [← List.isEmpty_iff]
  rfl

theorem toList_ofChunk (h : withoutEnding ('/' :: pathBelow root name) = '/' :: rest) :
    (ofChunk name root).toList = '/' :: rest := by
  rw [ofChunk_eq, h, if_neg (List.cons_ne_nil _ _), String.toList_ofList]

theorem ofChunk_congr {directory : String} (h : pathBelow root name = pathBelow directory other) :
    ofChunk name root = ofChunk other directory := by
  rw [ofChunk_eq, ofChunk_eq, h]

theorem head?_pathBelow (root name : String) : (pathBelow root name).head? ≠ some '/' := by
  intro hhead
  have hstop := List.head?_dropWhile_not (fun c : Char => decide (c = '/'))
    (below (dropTrailing '/' (slashed root.toList)) (slashed name.toList))
  rw [pathBelow] at hhead
  rw [hhead] at hstop
  simp at hstop

theorem backslash_not_mem_pathBelow (root name : String) : '\\' ∉ pathBelow root name := by
  intro hmem
  have hsuffix : pathBelow root name <:+ slashed name.toList :=
    (List.dropWhile_suffix _).trans (below_suffix _ _)
  exact backslash_not_mem_slashed _ (hsuffix.subset hmem)

/-- A route is a slash and the beginning of what stands behind the root. -/
theorem exists_route (name root : String) :
    ∃ rest, (ofChunk name root).toList = '/' :: rest ∧ rest <+: pathBelow root name := by
  have hprefix := withoutEnding_prefix ('/' :: pathBelow root name)
  cases hpath : withoutEnding ('/' :: pathBelow root name) with
  | nil =>
      refine ⟨[], ?_, List.nil_prefix⟩
      rw [ofChunk_eq, if_pos hpath]
      rfl
  | cons c rest =>
      rw [hpath, List.cons_prefix_cons] at hprefix
      obtain ⟨rfl, hrest⟩ := hprefix
      exact ⟨rest, toList_ofChunk hpath, hrest⟩

/-- Neither the spelling of separators nor those at the end of the root count. -/
theorem pathBelow_respelled {spelled separators : String} (hname : Respelled name spelled)
    (hroot : Respelled root other) (hseparators : ∀ c ∈ separators.toList, IsSeparator c) :
    pathBelow (other ++ separators) spelled = pathBelow root name := by
  rw [pathBelow, pathBelow, String.toList_append, dropTrailing_slashed_append hseparators,
    slashed_eq_of_forall₂ hname, slashed_eq_of_forall₂ hroot]

/-- What follows the root and a separator stands behind the root. -/
theorem pathBelow_append (root rest : String) (hhead : rest.toList.head? ≠ some '/')
    (hback : '\\' ∉ rest.toList) : pathBelow root (root ++ "/" ++ rest) = rest.toList := by
  obtain ⟨n, hn⟩ := exists_slashes (slashed root.toList)
  have hname : slashed (root ++ "/" ++ rest).toList = dropTrailing '/' (slashed root.toList) ++
      List.replicate (n + 1) '/' ++ rest.toList := by
    rw [String.toList_append, String.toList_append, slashed, List.map_append, List.map_append]
    change slashed root.toList ++ ['/'] ++ slashed rest.toList = _
    rw [slashed_eq_self hback, List.replicate_succ', ← List.append_assoc, ← hn]
  rw [pathBelow, hname, dropWhile_below]
  cases hrest : rest.toList with
  | nil => rfl
  | cons c others =>
      rw [hrest, List.head?_cons] at hhead
      exact List.dropWhile_cons_of_neg (by simpa using hhead)

/-- A route stays as it is when the ending of the chunk's name is left out. -/
theorem ofChunk_page (h : withoutEnding ('/' :: pathBelow root name) = '/' :: page.toList) :
    ofChunk name root = "/" ++ page := by
  rw [← String.toList_inj, toList_ofChunk h, String.toList_append]
  rfl

theorem IsPage.pathBelow (h : IsPage page) (root ending : String) (hback : '\\' ∉ ending.toList) :
    pathBelow root (root ++ "/" ++ page ++ ending) = page.toList ++ ending.toList := by
  have hpage : page.toList ≠ [] := by simpa using h.nonempty
  rw [String.append_assoc, pathBelow_append, String.toList_append]
  · rw [String.toList_append, List.head?_append_of_ne_nil _ hpage]
    exact h.relative
  · rw [String.toList_append, List.mem_append, not_or]
    exact ⟨h.no_backslash, hback⟩

theorem IsPage.ofChunk_file (h : IsPage page) (root : String) :
    ofChunk (root ++ "/" ++ page ++ ".js") root = "/" ++ page := by
  refine ofChunk_page ?_
  rw [h.pathBelow root ".js" (by decide), ← List.cons_append]
  refine withoutEnding_file fun hindex => ?_
  rcases List.suffix_cons_iff.1 hindex with heq | hbelow
  · exact h.not_index (String.toList_inj.1 (List.cons.inj heq).2.symm)
  · exact h.not_index_below hbelow

theorem IsPage.ofChunk_index (h : IsPage page) (root : String) :
    ofChunk (root ++ "/" ++ page ++ "/index.js") root = "/" ++ page := by
  refine ofChunk_page ?_
  rw [h.pathBelow root "/index.js" (by decide), ← List.cons_append]
  exact withoutEnding_index _

theorem ofChunk_index (root : String) : ofChunk (root ++ "/" ++ "index.js") root = "/" := by
  have hpath := pathBelow_append root "index.js" (by decide) (by decide)
  rw [ofChunk_eq, hpath, if_pos]
  exact withoutEnding_index []

theorem slashed_bare (root : String) :
    slashed (bare root).toList = dropTrailing '/' (slashed root.toList) := by
  rw [dropTrailing_slashed, bare, String.toList_ofList]

/-- A root has to end where the name has a separator. -/
theorem pathBelow_of_not_separator (hc : ¬ IsSeparator c)
    (hname : Respelled (bare root ++ String.ofList (c :: behind)) name) :
    pathBelow root name = pathBelow "" name := by
  have hne : c ≠ '/' := fun heq => hc (.inl heq)
  have hback : c ≠ '\\' := fun heq => hc (.inr heq)
  have hslashed : slashed name.toList =
      dropTrailing '/' (slashed root.toList) ++ c :: slashed behind := by
    rw [← slashed_eq_of_forall₂ hname, String.toList_append, String.toList_ofList, ← slashed_bare,
      slashed, slashed, List.map_append, List.map_cons, if_neg hback]
    rfl
  rw [pathBelow, pathBelow, hslashed, below_append_of_ne _ hne]
  rfl

/-- **Routes follow the layout of pages**, whatever the separators of a chunk's name and of the
root, and whatever a page is called. -/
theorem routes_follow_pages (name root : String) :
    -- A route begins with one slash, and it has no backslash.
    (∃ rest, (ofChunk name root).toList = '/' :: rest ∧ rest.head? ≠ some '/') ∧
    '\\' ∉ (ofChunk name root).toList ∧
    -- The spelling of separators does not count, nor do separators at the end of the root.
    (∀ spelled directory separators, Respelled name spelled → Respelled root directory →
      (∀ c ∈ separators.toList, IsSeparator c) →
        ofChunk spelled (directory ++ separators) = ofChunk name root) ∧
    -- A page is reached at its own path, and the index of the root at the root.
    (∀ page, IsPage page → ofChunk (root ++ "/" ++ page ++ ".js") root = "/" ++ page ∧
      ofChunk (root ++ "/" ++ page ++ "/index.js") root = "/" ++ page) ∧
    ofChunk (root ++ "/index.js") root = "/" ∧
    -- A root that something else than a separator follows in the name is not left out.
    ∀ c behind, ¬ IsSeparator c → Respelled (bare root ++ String.ofList (c :: behind)) name →
      ofChunk name root = ofChunk name "" := by
  obtain ⟨rest, hroute, hrest⟩ := exists_route name root
  refine ⟨⟨rest, hroute, fun hhead => ?_⟩, ?_, ?_, ?_, ?_, ?_⟩
  · obtain ⟨others, rfl⟩ := List.head?_eq_some_iff.1 hhead
    obtain ⟨last, hlast⟩ := hrest
    exact head?_pathBelow root name (by rw [← hlast, List.cons_append, List.head?_cons])
  · rw [hroute, List.mem_cons, not_or]
    exact ⟨by decide, fun hmem => backslash_not_mem_pathBelow root name (hrest.subset hmem)⟩
  · intro spelled directory separators hname hroot hseparators
    exact ofChunk_congr (pathBelow_respelled hname hroot hseparators)
  · exact fun page hpage => ⟨hpage.ofChunk_file root, hpage.ofChunk_index root⟩
  · rw [← ofChunk_index root, String.append_assoc]
    rfl
  · exact fun c behind hc hname => ofChunk_congr (pathBelow_of_not_separator hc hname)

/-- A page that has the ending of a file in its own name, reached through a name with backslashes,
and a directory whose name only begins like the root. -/
theorem routes_follow_pages_bundles :
    IsPage "blog.js/indexes" ∧
      ofChunk "bundles\\pages\\blog.js/indexes\\index.js" "bundles/pages/\\" =
        "/blog.js/indexes" ∧
      ofChunk "bundles\\pagesextra/a.js" "bundles/pages/" =
        ofChunk "bundles\\pagesextra/a.js" "" := by
  have hpage : IsPage "blog.js/indexes" :=
    ⟨by decide, by decide, by decide, by decide, by decide⟩
  obtain ⟨-, -, hspelled, -⟩ :=
    routes_follow_pages "bundles/pages/blog.js/indexes/index.js" "bundles/pages"
  obtain ⟨-, -, -, hpages, -⟩ := routes_follow_pages "" "bundles/pages"
  obtain ⟨-, -, -, -, -, hbeside⟩ :=
    routes_follow_pages "bundles\\pagesextra/a.js" "bundles/pages/"
  refine ⟨hpage, ?_, hbeside 'e' "xtra/a.js".toList (by decide) (by decide)⟩
  exact (hspelled "bundles\\pages\\blog.js/indexes\\index.js" "bundles/pages" "/\\"
    (by decide) (by decide) (by simp [IsSeparator])).trans (hpages _ hpage).2

end Routes

end LiveBuild.Route
