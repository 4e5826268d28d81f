import LiveBuild.Build.Lookup
import LiveBuild.Files.Tree
import LiveBuild.Proofs.NormalPaths

/-!
# What an import stands for

The paths that a target can stand for are spelled by putting a suffix behind the spelling of the
target or of its index. They are tried one after the other, and an import stands for the first that
is a file. Nothing else about the importer, the specifier or the files plays a part.
-/

namespace LiveBuild

namespace Path

variable {p : Path} {names steps : List Component} {parts : List (List Char)}

/-- The path ends in a name with a dot that is not its first character. -/
def HasExtension (p : Path) : Prop :=
  ∃ before name stem ending, p.components = before ++ [.name name] ∧
    name.toList = stem ++ '.' :: ending ∧ stem ≠ []

/-- The spelling of the name `index` below a path. -/
def indexText (p : Path) : String :=
  if p.text = "" ∨ p.text = "/" then p.text ++ "index" else p.text ++ "/index"

section Extensions

/-- A name falls into what stands behind its last dot and what is left up to there. -/
theorem span_reverse_eq (name : List Char) : ∃ suffix rest,
    name.reverse.span (· ≠ '.') = (suffix, rest) ∧ '.' ∉ suffix ∧ (∀ c ∈ rest.head?, c = '.') ∧
      name = rest.reverse ++ suffix.reverse := by
  refine ⟨_, _, List.span_eq_takeWhile_dropWhile _ _, fun hmem => ?_, fun c hc => ?_, ?_⟩
  · simpa using List.all_eq_true.1 List.all_takeWhile '.' hmem
  · have hhead := List.head?_dropWhile_not (fun c => decide (c ≠ '.')) name.reverse
    rw [Option.mem_def.1 hc] at hhead
    simpa using hhead
  · rw [← List.reverse_append, List.takeWhile_append_dropWhile, List.reverse_reverse]

theorem isSome_splitName_iff {name : List Char} : (splitName name).2.isSome = true ↔
    ∃ stem ending, name = stem ++ '.' :: ending ∧ stem ≠ [] := by
  obtain ⟨suffix, rest, hspan, hsuffix, hdot, hname⟩ := span_reverse_eq name
  rw [splitName, hspan]
  match rest with
  | [] =>
      -- There is no dot.
      refine ⟨nofun, fun ⟨stem, ending, heq, _⟩ => absurd ?_ hsuffix⟩
      have hmem : '.' ∈ name := by simp [heq]
      rw [hname] at hmem
      simpa using hmem
  | [dot] =>
      -- The only dot is the first character.
      refine ⟨nofun, fun ⟨stem, ending, heq, hstem⟩ => absurd ?_ hsuffix⟩
      obtain ⟨c, others, rfl⟩ := List.exists_cons_of_ne_nil hstem
      rw [hname, List.reverse_singleton, List.singleton_append, List.cons_append] at heq
      have hmem : '.' ∈ suffix.reverse := by simp [(List.cons.inj heq).2]
      exact List.mem_reverse.1 hmem
  | dot :: c :: stem =>
      obtain rfl : dot = '.' := hdot dot rfl
      refine ⟨fun _ => ⟨(c :: stem).reverse, suffix.reverse, ?_, by simp⟩, fun _ => rfl⟩
      rw [hname, List.reverse_cons, List.append_assoc, List.singleton_append]

theorem isSome_extension?_iff : p.extension?.isSome = true ↔ p.HasExtension := by
  rw [extension?]
  cases hname : p.fileName? with
  | none =>
      constructor
      · intro hsome
        rw [Option.bind_none] at hsome
        contradiction
      · rintro ⟨before, name, -, -, hp, -⟩
        rw [fileName?, hp, List.getLast?_concat] at hname
        contradiction
  | some name =>
      have hp := components_of_fileName? hname
      rw [Option.bind_some, Option.isSome_map, isSome_splitName_iff]
      constructor
      · rintro ⟨stem, ending, htext, hstem⟩
        exact ⟨_, name, stem, ending, hp, htext, hstem⟩
      · rintro ⟨before, name', stem, ending, hp', htext, hstem⟩
        rw [fileName?, hp', List.getLast?_concat] at hname
        obtain rfl := Option.some.inj hname
        exact ⟨stem, ending, htext, hstem⟩

end Extensions

section Ends

/-- A text whose last piece is not empty does not end in a slash. -/
theorem getLast?_of_pieces {text : List Char} (h : pieces text = parts)
    (hparts : ∀ part ∈ parts.getLast?, part ≠ []) : text.getLast? ≠ some '/' := by
  intro hslash
  obtain ⟨front, rfl⟩ := List.getLast?_eq_some_iff.1 hslash
  rw [pieces_append_slash] at h
  refine hparts [] ?_ rfl
  rw [← h]
  exact List.getLast?_concat

/-- Only the root is spelled with a slash at its end. -/
theorem getLast?_normalize (h : p.normalize.text ≠ "/") :
    p.normalize.text.toList.getLast? ≠ some '/' := by
  have hlast : ∀ {steps : List Component}, AreSteps steps →
      ∀ part ∈ (steps.map fun component => component.text.toList).getLast?, part ≠ [] :=
    fun hsteps part hpart => (text_of_areSteps hsteps part (List.mem_of_mem_getLast? hpart)).2.1
  cases habsolute : p.isAbsolute with
  | true =>
      obtain ⟨names, hnames, hnormal, -⟩ := exists_normalize habsolute
      have hne : names ≠ [] := by
        rintro rfl
        exact h (by rw [hnormal]; rfl)
      rw [hnormal]
      refine getLast?_of_pieces (pieces_ofComponents hne hnames) ?_
      rw [List.getLast?_cons_of_ne_nil (by simpa using hne)]
      exact hlast hnames.areSteps
  | false =>
      obtain ⟨names, n, hnames, hnormal⟩ := exists_normalComponents_relative habsolute
      have hsteps := areSteps_replicate_append hnames n
      rw [normalize, hnormal]
      by_cases hne : List.replicate n .up ++ names = []
      · rw [hne]
        simp [ofComponents]
      · exact getLast?_of_pieces (pieces_ofComponents_steps hne hsteps) (hlast hsteps)

theorem join_index (h : p.text ≠ "/" → p.text.toList.getLast? ≠ some '/') :
    p.join (ofString "index") = ofString p.indexText := by
  have hrelative : (ofString "index").isAbsolute = false := by decide
  rw [join, if_neg (by simp [hrelative]), indexText]
  by_cases hempty : p.text = ""
  · simp [isEmpty, hempty]
  · by_cases hroot : p.text = "/"
    · simp [hroot]
    · have hnonempty : p.isEmpty = false := by
        rw [isEmpty, Bool.eq_false_iff, ne_eq, List.isEmpty_iff]
        exact fun hnil => hempty (String.toList_inj.1 hnil)
      rw [if_neg (by simp [hnonempty, h hroot]), if_neg (by simp [hempty, hroot]), text_ofString]
      exact congrArg ofString String.append_assoc

end Ends

end Path

namespace Lookup

open LiveBuild.Path

variable {σ τ : Type} [FileStore σ] [FileStore τ] {store : σ} {other : τ}
  {importer t p q c : Path} {specifier : String} {extensions : List String} {n : Nat}

/-- The paths that a target can stand for, each with its rank: the target as it is if it has an
extension; else the target with one of the extensions behind it, in their order, and after those
the index below it with one of them. -/
inductive StandsFor (t : Path) (extensions : List String) : Nat → Path → Prop
  | itself : t.HasExtension → StandsFor t extensions 0 t
  | extended {n : Nat} {extension : String} : ¬ t.HasExtension →
      extensions[n]? = some extension →
      StandsFor t extensions n (ofString (t.text ++ extension))
  | index {n : Nat} {extension : String} : ¬ t.HasExtension →
      extensions[n]? = some extension →
      StandsFor t extensions (extensions.length + n) (ofString (t.indexText ++ extension))

/-- Of all that a target can stand for, the file of the lowest rank. -/
structure IsFirst (store : σ) (t : Path) (extensions : List String) (n : Nat) (c : Path) :
    Prop where
  stands : StandsFor t extensions n c
  isFile : FileStore.isFile store c = true
  least : ∀ m q, m < n → StandsFor t extensions m q → FileStore.isFile store q = false

theorem candidates_of_hasExtension (h : t.HasExtension) (extensions : List String) :
    candidates t extensions = [t] := if_pos (isSome_extension?_iff.2 h)

theorem candidates_of_not_hasExtension (h : ¬ t.HasExtension)
    (ht : t.text ≠ "/" → t.text.toList.getLast? ≠ some '/') (extensions : List String) :
    candidates t extensions = (extensions.map fun extension => ofString (t.text ++ extension)) ++
      extensions.map fun extension => ofString (t.indexText ++ extension) := by
  rw [candidates, if_neg (mt isSome_extension?_iff.1 h), join_index ht]
  rfl

theorem standsFor_iff (ht : t.text ≠ "/" → t.text.toList.getLast? ≠ some '/') :
    StandsFor t extensions n q ↔ (candidates t extensions)[n]? = some q := by
  by_cases h : t.HasExtension
  · rw [candidates_of_hasExtension h]
    constructor
    · rintro (_ | ⟨hnot, _⟩ | ⟨hnot, _⟩)
      · rfl
      · exact absurd h hnot
      · exact absurd h hnot
    · intro hget
      cases n with
      | zero =>
          obtain rfl := Option.some.inj hget
          exact .itself h
      | succ n => cases hget
  · rw [candidates_of_not_hasExtension h ht]
    constructor
    · rintro (hhas | ⟨_, hget⟩ | ⟨_, hget⟩)
      · exact absurd hhas h
      · have hlt := (List.getElem?_eq_some_iff.1 hget).1
        rw [List.getElem?_append_left (by simpa using hlt), List.getElem?_map, hget]
        rfl
      · rw [List.getElem?_append_right (by simp), List.length_map, Nat.add_sub_cancel_left,
          List.getElem?_map, hget]
        rfl
    · intro hget
      by_cases hlt : n < extensions.length
      · rw [List.getElem?_append_left (by simpa using hlt), List.getElem?_map] at hget
        obtain ⟨extension, hextension, rfl⟩ := Option.map_eq_some_iff.1 hget
        exact .extended h hextension
      · obtain ⟨m, rfl⟩ := Nat.exists_eq_add_of_le (Nat.not_lt.1 hlt)
        rw [List.getElem?_append_right (by simp), List.length_map, Nat.add_sub_cancel_left,
          List.getElem?_map] at hget
        obtain ⟨extension, hextension, rfl⟩ := Option.map_eq_some_iff.1 hget
        exact .index h hextension

theorem standsFor_target_iff : StandsFor (target importer specifier) extensions n q ↔
    (candidates (target importer specifier) extensions)[n]? = some q :=
  standsFor_iff getLast?_normalize

theorem find_eq_ok_iff : find store importer specifier extensions = .ok c ↔
    ∃ n, IsFirst store (target importer specifier) extensions n c := by
  rw [find]
  constructor
  · intro h
    split at h
    · rename_i hfind
      obtain rfl := Except.ok.inj h
      obtain ⟨hfile, n, hn, hget, hleast⟩ := List.find?_eq_some_iff_getElem.1 hfind
      refine ⟨n, standsFor_target_iff.2 (List.getElem?_eq_some_iff.2 ⟨hn, hget⟩), hfile,
        fun m q hm hq => ?_⟩
      obtain ⟨hlt, rfl⟩ := List.getElem?_eq_some_iff.1 (standsFor_target_iff.1 hq)
      simpa using hleast m hm
    · cases h
  · rintro ⟨n, hstands, hfile, hleast⟩
    obtain ⟨hn, hget⟩ := List.getElem?_eq_some_iff.1 (standsFor_target_iff.1 hstands)
    have hfind : (candidates (target importer specifier) extensions).find?
        (FileStore.isFile store) = some c := by
      refine List.find?_eq_some_iff_getElem.2 ⟨hfile, n, hn, hget, fun m hm => ?_⟩
      have hm' := Nat.lt_trans hm hn
      simpa using hleast m _ hm (standsFor_target_iff.2 (List.getElem?_eq_getElem hm'))
    rw [hfind]

theorem find_eq_error_iff {e : BuildError} : find store importer specifier extensions = .error e ↔
    e = .resolution specifier importer ∧
      ∀ n q, StandsFor (target importer specifier) extensions n q →
        FileStore.isFile store q = false := by
  have hnone : (candidates (target importer specifier) extensions).find?
      (FileStore.isFile store) = none ↔
        ∀ n q, StandsFor (target importer specifier) extensions n q →
          FileStore.isFile store q = false := by
    simp only [List.find?_eq_none, standsFor_target_iff, List.mem_iff_getElem?, Bool.not_eq_true,
      forall_exists_index]
    exact forall_comm
  rw [find, ← hnone]
  split
  · rename_i hfind
    simp [hfind]
  · rename_i hfind
    simp [hfind, eq_comm]

/-- Two targets that name one place are one target. -/
theorem target_eq_of_same {importer' : Path} {specifier' : String}
    (h : (target importer specifier).same (target importer' specifier') = true) :
    target importer specifier = target importer' specifier' := by
  have hcomponents := same_iff.1 h
  rw [target, target, components_normalize, components_normalize] at hcomponents
  exact normalize_eq_of_components hcomponents

/-- An import is found to be the first file among what its target can stand for, and is refused by
its own name if there is none. So it is never a directory, does not depend on how importer and
specifier spell their target, and depends on no file behind the one that is found. -/
theorem find_is_first (store : σ) (other : τ) (importer : Path) (specifier : String)
    (extensions : List String) :
    (∀ c, find store importer specifier extensions = .ok c ↔
      ∃ n, IsFirst store (target importer specifier) extensions n c) ∧
    (∀ e, find store importer specifier extensions = .error e ↔
      e = .resolution specifier importer ∧
        ∀ n q, StandsFor (target importer specifier) extensions n q →
          FileStore.isFile store q = false) ∧
    (∀ c, find store importer specifier extensions = .ok c →
      FileStore.isDirectory store c = false) ∧
    (∀ importer' specifier',
      (target importer specifier).same (target importer' specifier') = true →
        ∀ c, find store importer specifier extensions = .ok c ↔
          find store importer' specifier' extensions = .ok c) ∧
    ∀ n c, IsFirst store (target importer specifier) extensions n c →
      (∀ m q, m ≤ n → StandsFor (target importer specifier) extensions m q →
        FileStore.isFile other q = FileStore.isFile store q) →
      find other importer specifier extensions = .ok c := by
  refine ⟨fun c => find_eq_ok_iff, fun e => find_eq_error_iff, fun c h => ?_,
    fun importer' specifier' h c => ?_, fun n c h hagree => ?_⟩
  · obtain ⟨n, -, hfile, -⟩ := find_eq_ok_iff.1 h
    rw [FileStore.isFile, beq_iff_eq] at hfile
    rw [FileStore.isDirectory, hfile]
    rfl
  · rw [find_eq_ok_iff, find_eq_ok_iff, target_eq_of_same h]
  · refine find_eq_ok_iff.2 ⟨n, h.stands, ?_, fun m q hm hq => ?_⟩
    · rw [hagree n c (Nat.le_refl n) h.stands, h.isFile]
    · rw [hagree m q (Nat.le_of_lt hm) hq, h.least m q hm hq]

def lookupTree : FileTree :=
  ((FileTree.empty.putFile "/p/b.js/x" default).putFile "/p/b.jsx" default).putFile
    "/p/b/index.js" default

/-- A directory has the first spelling, and the index is tried last. -/
theorem find_is_first_directory :
    FileStore.isDirectory lookupTree "/p/b.js" = true ∧
      find lookupTree "/p/d/../a.js" "./b" [".js", ".jsx"] = .ok "/p/b.jsx" ∧
      find lookupTree "/p/a.js" "c/../b/." [".js", ".jsx"] = .ok "/p/b.jsx" ∧
      find (FileTree.empty.putFile "/p/b.jsx" default) "/p/d/../a.js" "./b" [".js", ".jsx"] =
        .ok "/p/b.jsx" := by
  obtain ⟨hok, -, -, hsame, hagree⟩ := find_is_first lookupTree
    (FileTree.empty.putFile "/p/b.jsx" default) "/p/d/../a.js" "./b" [".js", ".jsx"]
  have hstands : StandsFor (target "/p/d/../a.js" "./b") [".js", ".jsx"] 1 "/p/b.jsx" :=
    standsFor_target_iff.2 (by decide)
  have hearlier : ∀ m q, m < 1 → StandsFor (target "/p/d/../a.js" "./b") [".js", ".jsx"] m q →
      q = "/p/b.js" := by
    intro m q hm hq
    obtain rfl : m = 0 := by omega
    exact (Option.some.inj (standsFor_target_iff.1 hq)).symm.trans (by decide)
  have hfirst : IsFirst lookupTree (target "/p/d/../a.js" "./b") [".js", ".jsx"] 1 "/p/b.jsx" :=
    ⟨hstands, by decide, fun m q hm hq => by rw [hearlier m q hm hq]; decide⟩
  refine ⟨by decide, (hok _).2 ⟨1, hfirst⟩,
    (hsame "/p/a.js" "c/../b/." (by decide) _).1 ((hok _).2 ⟨1, hfirst⟩), hagree 1 _ hfirst ?_⟩
  intro m q hm hq
  rcases Nat.lt_or_eq_of_le hm with hlt | rfl
  · rw [hearlier m q hlt hq]
    decide
  · obtain rfl : Path.ofString "/p/b.jsx" = q := by
      exact Option.some.inj ((standsFor_target_iff.1 hstands).symm.trans
        (standsFor_target_iff.1 hq))
    decide

/-- A suffix makes a name of the two dots that a target ends in. -/
example : candidates (target "a.js" "../..") [".js"] = ["../...js", "../../index.js"] := by decide

end Lookup

end LiveBuild
