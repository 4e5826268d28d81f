import LiveBuild.Files.Disk
import LiveBuild.Proofs.Trees

/-!
# What is written is read back

A text that a store has taken in is what it gives out under the same path. On a disk this is so
although the path is followed anew: nothing that led to the file is lost by writing it.
-/

namespace LiveBuild

/-- A text is read as it was written. -/
def FileStore.ReadsBack (σ : Type) [FileStore σ] : Prop :=
  ∀ (store store' : σ) (p : Path) (text : String),
    FileStore.write store p text.toUTF8 = (store', .ok ()) → FileStore.readText store' p = .ok text

theorem Utf8.decode_toUTF8 (text : String) : Utf8.decode text.toUTF8 = .ok text := by
  have hread : String.fromUTF8? text.toUTF8 = some text := by
    have hvalid : text.toUTF8.IsValidUTF8 := text.isValidUTF8
    rw [String.fromUTF8?, dif_pos hvalid]
    rfl
  rw [decode, hread]

theorem FileTree.readsBack : FileStore.ReadsBack FileTree := by
  intro tree tree' p text h
  obtain rfl : tree.putFile p text.toUTF8 = tree' := congrArg Prod.fst h
  exact readText_eq_ok.2 ⟨text.toUTF8, by rw [content?_putFile, if_pos (Path.same_iff.2 rfl)],
    Utf8.decode_toUTF8 text⟩

namespace Disk

variable {disk disk' : Disk} {p : Path} {start next place other : Place} {piece : List Char}
  {pieces : List (List Char)} {entry : Entry} {content : ByteArray}

theorem entry?_put_self (h : place ≠ []) :
    entry? (disk.put place entry) place = some entry := by
  obtain ⟨entries, working⟩ := disk
  have hne : ¬ place.isEmpty = true := by simpa using h
  unfold entry?
  rw [if_neg hne, put]
  split
  · rename_i hany
    dsimp only at hany ⊢
    induction entries with
    | nil => simp at hany
    | cons old rest ih =>
        by_cases hold : old.1 = place
        · simp [hold]
        · have hrest : rest.any (fun old => old.1 == place) = true := by simpa [hold] using hany
          simpa [hold] using ih hrest
  · rename_i hany
    have hnone : entries.find? (fun old => old.1 == place) = none :=
      List.find?_eq_none.2 fun old hold heq => hany (List.any_eq_true.2 ⟨old, hold, heq⟩)
    simp [List.find?_append, hnone]

theorem entry?_put_of_ne (h : other ≠ place) :
    entry? (disk.put place entry) other = disk.entry? other := by
  obtain ⟨entries, working⟩ := disk
  unfold entry?
  rw [put]
  split
  · rfl
  congr 1
  split
  · rename_i hany
    clear hany
    dsimp only
    induction entries with
    | nil => rfl
    | cons old rest ih =>
        rw [List.map_cons, List.find?_cons, List.find?_cons, ih]
        by_cases hold : old.1 = place <;> simp [hold, beq_false_of_ne h.symm]
  · simp [List.find?_append, h.symm]

theorem directoryAt_eq_ok :
    disk.directoryAt place = .ok () ↔ disk.entry? place = some .directory := by
  rw [directoryAt]
  cases disk.entry? place with
  | none => simp
  | some entry => cases entry <;> simp

theorem start_put : (disk.put place entry).start p = disk.start p := by
  have hworking : (disk.put place entry).working = disk.working := by
    rw [put]
    split <;> rfl
  rw [start, start, hworking]

theorem step_eq_ok : disk.step start piece = .ok next ↔ disk.entry? start = some .directory ∧
    ((piece = [] ∨ piece = ['.']) ∧ next = start ∨ piece = ['.', '.'] ∧ next = start.dropLast ∨
      (piece ≠ [] ∧ piece ≠ ['.'] ∧ piece ≠ ['.', '.']) ∧
        (String.ofList piece).utf8ByteSize ≤ 255 ∧ next = start ++ [String.ofList piece] ∧
        (disk.entry? next).isSome = true) := by
  rw [← directoryAt_eq_ok]
  unfold step
  cases disk.directoryAt start with
  | error e => simp [bind, Except.bind]
  | ok _ =>
      simp only [bind, Except.bind]
      split
      · simp [pure, Except.pure, @eq_comm _ start]
      · simp [pure, Except.pure, @eq_comm _ start]
      · simp [pure, Except.pure, @eq_comm _ start.dropLast]
      · rename_i hempty hdot hdots
        replace hempty : piece ≠ [] := hempty
        replace hdot : piece ≠ ['.'] := hdot
        replace hdots : piece ≠ ['.', '.'] := hdots
        by_cases hsize : 255 < (String.ofList piece).utf8ByteSize
        · have hnot : ¬ (String.ofList piece).utf8ByteSize ≤ 255 := Nat.not_le.2 hsize
          simp [hsize, hnot, hempty, hdot, hdots, throw, throwThe, MonadExceptOf.throw]
        · have hle : (String.ofList piece).utf8ByteSize ≤ 255 := Nat.not_lt.1 hsize
          by_cases htaken : (disk.entry? (start ++ [String.ofList piece])).isSome = true
          · have hnext : start ++ [String.ofList piece] = next ↔
                next = start ++ [String.ofList piece] ∧ (disk.entry? next).isSome = true :=
              ⟨fun heq => heq ▸ ⟨rfl, htaken⟩, fun h => h.1.symm⟩
            simpa [hsize, hle, htaken, hempty, hdot, hdots, pure, Except.pure] using hnext
          · have hnext : next = start ++ [String.ofList piece] → disk.entry? next = none := by
              rintro rfl
              simpa using htaken
            simpa [hsize, hle, htaken, hempty, hdot, hdots, throw, throwThe,
              MonadExceptOf.throw] using hnext

/-- Writing a file keeps every directory, and every place that was taken. -/
theorem step_put (hplace : disk.entry? place ≠ some .directory)
    (h : disk.step start piece = .ok next) :
    (disk.put place (.file content)).step start piece = .ok next := by
  obtain ⟨hstart, hpiece⟩ := step_eq_ok.1 h
  have hne : start ≠ place := by
    rintro rfl
    exact hplace hstart
  refine step_eq_ok.2 ⟨by rwa [entry?_put_of_ne hne], hpiece.imp_right (Or.imp_right ?_)⟩
  rintro ⟨hname, hsize, rfl, htaken⟩
  refine ⟨hname, hsize, rfl, ?_⟩
  by_cases heq : start ++ [String.ofList piece] = place
  · rw [heq, entry?_put_self (heq ▸ List.concat_ne_nil _ _)]
    rfl
  · rwa [entry?_put_of_ne heq]

theorem follow_put (hplace : disk.entry? place ≠ some .directory)
    (h : disk.follow start pieces = .ok next) :
    (disk.put place (.file content)).follow start pieces = .ok next := by
  induction pieces generalizing start with
  | nil => exact h
  | cons piece pieces ih =>
      rw [follow, List.foldlM_cons] at h ⊢
      cases hstep : disk.step start piece with
      | error e =>
          rw [hstep] at h
          cases h
      | ok first =>
          rw [hstep] at h
          rw [step_put hplace hstep]
          exact ih h

theorem eq_append_of_trailing {last : List Char} {before : List (List Char)}
    (htrailing : pieces.reverse.takeWhile (·.isEmpty) = [])
    (h : pieces.reverse.dropWhile (·.isEmpty) = last :: before) :
    pieces = before.reverse ++ [last] ∧ last ≠ [] := by
  have hreverse : pieces.reverse = last :: before := by
    have hparts := List.takeWhile_append_dropWhile
      (p := fun piece : List Char => piece.isEmpty) (l := pieces.reverse)
    rw [htrailing, h] at hparts
    exact hparts.symm
  constructor
  · rw [← List.reverse_reverse pieces, hreverse, List.reverse_cons]
  · rintro rfl
    rw [hreverse, List.takeWhile_cons] at htrailing
    cases htrailing

/-- The last piece of a path to a file is its name, and the pieces before it lead to a directory. -/
theorem target_eq_name {parent : Place} {name : String}
    (h : disk.target p = .ok (.name parent name false)) :
    ∃ start before last, disk.start p = .ok (start, before ++ [last]) ∧
      disk.follow start before = .ok parent ∧ disk.entry? parent = some .directory ∧
      (last ≠ [] ∧ last ≠ ['.'] ∧ last ≠ ['.', '.']) ∧
      (String.ofList last).utf8ByteSize ≤ 255 ∧ name = String.ofList last := by
  rw [target] at h
  cases hstart : disk.start p with
  | error e =>
      rw [hstart] at h
      cases h
  | ok found =>
      obtain ⟨start, pieces⟩ := found
      rw [hstart] at h
      simp only [bind, Except.bind] at h
      split at h
      · cases h
      · rename_i last before hpieces
        split at h
        · split at h <;> cases h
        · rename_i hdots
          cases hfollow : disk.follow start before.reverse with
          | error e =>
              rw [hfollow] at h
              cases h
          | ok parent' =>
              simp only [hfollow] at h
              split at h
              · cases h
              rename_i hdirectory
              split at h
              · cases h
              rename_i hsize
              obtain ⟨rfl, rfl, hslash⟩ : parent' = parent ∧ String.ofList last = name ∧
                  (pieces.reverse.takeWhile (·.isEmpty)).isEmpty = true := by
                simpa [pure, Except.pure] using h
              obtain ⟨rfl, hlast⟩ := eq_append_of_trailing (List.isEmpty_iff.1 hslash) hpieces
              exact ⟨start, before.reverse, last, rfl, hfollow, directoryAt_eq_ok.1 hdirectory,
                ⟨hlast, not_or.1 hdots⟩, Nat.not_lt.1 hsize, rfl⟩

theorem fill_eq_ok (h : disk.fill p content = .ok disk') : ∃ parent name,
    disk.target p = .ok (.name parent name false) ∧
      disk.entry? (parent ++ [name]) ≠ some .directory ∧
      disk' = disk.put (parent ++ [name]) (.file content) := by
  rw [fill] at h
  cases htarget : disk.target p with
  | error e =>
      rw [htarget] at h
      cases h
  | ok target =>
      rw [htarget] at h
      cases target with
      | existing place => cases h
      | name parent name slash =>
          cases slash with
          | true => cases h
          | false =>
              refine ⟨parent, name, rfl, ?_⟩
              simp only [bind, Except.bind, if_neg Bool.false_ne_true] at h
              split at h
              · cases h
              · rename_i hplace
                exact ⟨hplace, (Except.ok.inj h).symm⟩

/-- What a file was filled with is found when its path is followed again. -/
theorem content_fill (h : disk.fill p content = .ok disk') : disk'.content p = .ok content := by
  obtain ⟨parent, name, htarget, hplace, rfl⟩ := fill_eq_ok h
  obtain ⟨start, before, last, hstart, hfollow, hparent, hlast, hsize, rfl⟩ :=
    target_eq_name htarget
  have hne : parent ++ [String.ofList last] ≠ [] := List.concat_ne_nil _ _
  have hstep : (disk.put (parent ++ [String.ofList last]) (.file content)).step parent last =
      .ok (parent ++ [String.ofList last]) := by
    refine step_eq_ok.2 ⟨?_, .inr (.inr ⟨hlast, hsize, rfl, ?_⟩)⟩
    · have hne : parent ≠ parent ++ [String.ofList last] := by simp
      rwa [entry?_put_of_ne hne]
    · rw [entry?_put_self hne]
      rfl
  have hlocate : (disk.put (parent ++ [String.ofList last]) (.file content)).locate p =
      .ok (parent ++ [String.ofList last]) := by
    have hput : (disk.put (parent ++ [String.ofList last]) (.file content)).follow start before =
        .ok parent := follow_put hplace hfollow
    rw [follow] at hput
    rw [locate, start_put, hstart]
    simp only [bind, Except.bind, follow, List.foldlM_append]
    rw [hput]
    simpa using hstep
  rw [Disk.content, hlocate]
  simp only [bind, Except.bind, entry?_put_self hne]
  rfl

theorem write_eq_ok (h : FileStore.write disk p content = (disk', .ok ())) :
    ∃ disk, fill disk p content = .ok disk' := by
  change write disk p content = (disk', .ok ()) at h
  rw [write] at h
  dsimp only at h
  split at h
  · cases h
  · split at h
    · rename_i hfill
      cases h
      exact ⟨_, hfill⟩
    · cases h

theorem readsBack : FileStore.ReadsBack Disk := by
  intro disk disk' p text h
  obtain ⟨disk, hfill⟩ := write_eq_ok h
  change readText disk' p = .ok text
  rw [readText, Disk.text, content_fill hfill]
  simp only [bind, Except.bind, Utf8.decode_toUTF8]
  rfl

end Disk

end LiveBuild
