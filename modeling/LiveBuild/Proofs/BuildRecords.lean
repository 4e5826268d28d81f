import LiveBuild.Build.Record
import LiveBuild.Proofs.HashedAssets
import LiveBuild.Proofs.TextTables
import Mathlib.Data.List.Forall2

/-!
# What a build record depends on

A record holds the digest of each output under a label, which is the path of the output with a slash
for every backslash. Two outputs whose paths differ there alone share a label. Of these the record
holds the one that was finished last, so it is independent of the order in which outputs were
finished exactly if outputs with one label have one digest.
-/

namespace LiveBuild

open LiveBuild.Path

theorem Path.slashed_eq_text {p : Path} (h : '\\' ∉ p.text.toList) : p.slashed = p.text := by
  rw [slashed, ← String.toList_inj, String.toList_map]
  refine (List.map_congr_left fun c hc => ?_).trans (List.map_id _)
  have hne : c ≠ '\\' := fun heq => h (heq ▸ hc)
  rw [if_neg hne, id]

namespace BuildRecord

/-- The outputs that a report names. -/
def destinations (report : BuildSummary) : List Path := report.built.filterMap output?

/-- The two reports tell the same in another order. -/
structure Reordered (report other : BuildSummary) : Prop where
  built : report.built.Perm other.built
  total : report.total = other.total
  errors : report.errors = other.errors

theorem Reordered.symm {report other : BuildSummary} (h : Reordered report other) :
    Reordered other report := ⟨h.built.symm, h.total.symm, h.errors.symm⟩

theorem Reordered.destinations {report other : BuildSummary} (h : Reordered report other) :
    (destinations report).Perm (destinations other) := h.built.filterMap _

section Labels

variable {σ : Type} [FileStore σ] {store : σ} {outDir d e p q : Path}

/-- What stands for an output in a record. -/
def label (store : σ) (outDir dest : Path) : String :=
  (Lookup.relativeText? store (directory outDir) dest).getD dest.text

theorem startsWith_directory (h : p.startsWith outDir = true) :
    p.startsWith (directory outDir) = true := by
  rw [directory]
  split
  · rename_i parent hparent
    split
    · exact h
    · rw [startsWith_iff] at h ⊢
      rw [components_parent? hparent]
      exact (List.dropLast_prefix _).trans h
  · exact h

theorem label_eq_slashed (store : σ) (h : p.startsWith outDir = true) :
    ∃ rest, p.relativeTo? (directory outDir) = some rest ∧ label store outDir p = rest.slashed := by
  obtain ⟨rest, hrest⟩ := exists_relativeTo? (startsWith_directory h)
  exact ⟨rest, hrest, by rw [label, Lookup.relativeText?, hrest]; rfl⟩

/-- Outputs without a backslash have different labels, unless they are one place. -/
theorem same_of_label_eq (hd : d.startsWith outDir = true) (he : e.startsWith outDir = true)
    (hdtext : '\\' ∉ d.text.toList) (hetext : '\\' ∉ e.text.toList)
    (h : label store outDir d = label store outDir e) : d.same e = true := by
  obtain ⟨rest, hrest, hdlabel⟩ := label_eq_slashed store hd
  obtain ⟨other, hother, helabel⟩ := label_eq_slashed store he
  rw [hdlabel, helabel,
    slashed_eq_text fun hmem => hdtext (mem_text_of_relativeTo? hrest hmem),
    slashed_eq_text fun hmem => hetext (mem_text_of_relativeTo? hother hmem)] at h
  obtain rfl := Path.ext h
  rw [same_iff, components_of_relativeTo? hrest, components_of_relativeTo? hother]

end Labels

section Collecting

variable {σ : Type} [FileStore σ] {store : σ} {outDir d e : Path} {report other : BuildSummary}
  {record : BuildRecord} {entry : String × String} {name : String}

def Readable (store : σ) (dest : Path) : Prop :=
  ∃ content, FileStore.read store dest = .ok content

/-- The digest of an output, where it can be read. -/
def digestOf (store : σ) (dest : Path) : String :=
  match FileStore.read store dest with
  | .ok content => Digest.ofBytes content
  | .error _ => ""

theorem digestOf_of_read {store : σ} {dest : Path} {content : ByteArray}
    (h : FileStore.read store dest = .ok content) :
    digestOf store dest = Digest.ofBytes content := by
  rw [digestOf, h]

/-- The record of a report whose outputs can be read. -/
def recordOf (store : σ) (outDir : Path) (report : BuildSummary) : BuildRecord :=
  let outputs := TextTable.ofList ((destinations report).map fun dest =>
    (label store outDir dest, digestOf store dest))
  ⟨Digest.ofOutputs outputs, report.total, outputs, report.errors.filterMap errorMessage?⟩

theorem outputEntry_eq_ok_iff : outputEntry store outDir d = .ok entry ↔
    Readable store d ∧ (label store outDir d, digestOf store d) = entry := by
  rw [outputEntry, Digest.ofFile, Readable, digestOf]
  cases FileStore.read store d with
  | error f => simp [Except.map, Except.mapError, bind, Except.bind]
  | ok content =>
      simp [Except.map, Except.mapError, bind, Except.bind, pure, Except.pure, label]

theorem mapM_outputEntry_eq_ok_iff {entries : List (String × String)} :
    (destinations report).mapM (outputEntry store outDir) = .ok entries ↔
      (∀ dest ∈ destinations report, Readable store dest) ∧
        (destinations report).map (fun dest => (label store outDir dest, digestOf store dest)) =
          entries := by
  simp only [mapM_eq_ok_iff, outputEntry_eq_ok_iff]
  rw [List.forall₂_and_left, ← List.forall₂_map_left_iff, List.forall₂_eq_eq_eq]

theorem collect_eq_ok_iff : collect store outDir report = .ok record ↔
    (∀ dest ∈ destinations report, Readable store dest) ∧
      recordOf store outDir report = record := by
  rw [collect]
  change ((destinations report).mapM (outputEntry store outDir) >>= _) = _ ↔ _
  constructor
  · intro h
    cases hmap : (destinations report).mapM (outputEntry store outDir) with
    | error f => rw [hmap] at h; contradiction
    | ok entries =>
        obtain ⟨hreadable, rfl⟩ := mapM_outputEntry_eq_ok_iff.1 hmap
        rw [hmap] at h
        exact ⟨hreadable, Except.ok.inj h⟩
  · rintro ⟨hreadable, rfl⟩
    rw [mapM_outputEntry_eq_ok_iff.2 ⟨hreadable, rfl⟩]
    rfl

theorem get?_recordOf : (recordOf store outDir report).outputs.get? name =
    (((destinations report).filter (label store outDir · == name)).getLast?).map
      (digestOf store) := by
  rw [recordOf, TextTable.get?_ofList, List.filter_map, List.getLast?_map, Option.map_map]
  rfl

/-- Outputs that share a label have one digest. -/
def Agree (store : σ) (outDir : Path) (report : BuildSummary) : Prop :=
  ∀ d ∈ destinations report, ∀ e ∈ destinations report,
    label store outDir d = label store outDir e → digestOf store d = digestOf store e

theorem mem_destinations_of_get? {digest : String}
    (h : (recordOf store outDir report).outputs.get? name = some digest) :
    ∃ dest ∈ destinations report, label store outDir dest = name ∧
      digestOf store dest = digest := by
  rw [get?_recordOf, Option.map_eq_some_iff] at h
  obtain ⟨dest, hlast, hdigest⟩ := h
  obtain ⟨hmem, hlabel⟩ := List.mem_filter.1 (List.mem_of_getLast? hlast)
  exact ⟨dest, hmem, beq_iff_eq.1 hlabel, hdigest⟩

theorem exists_get?_label (store : σ) (outDir : Path) (hd : d ∈ destinations report) :
    ∃ digest, (recordOf store outDir report).outputs.get? (label store outDir d) =
      some digest := by
  have hmem : d ∈ (destinations report).filter
      (label store outDir · == label store outDir d) := List.mem_filter.2 ⟨hd, beq_self_eq_true _⟩
  rw [get?_recordOf, List.getLast?_eq_some_getLast (List.ne_nil_of_mem hmem)]
  exact ⟨_, rfl⟩

/-- Each output has its own digest in the record if and only if outputs with one label agree. -/
theorem get?_label_iff : (∀ dest ∈ destinations report,
      (recordOf store outDir report).outputs.get? (label store outDir dest) =
        some (digestOf store dest)) ↔ Agree store outDir report := by
  constructor
  · intro h d hd e he hlabel
    have hdigest := h d hd
    rw [hlabel, h e he] at hdigest
    exact (Option.some.inj hdigest).symm
  · intro h d hd
    obtain ⟨digest, hget⟩ := exists_get?_label store outDir hd
    obtain ⟨e, he, hlabel, rfl⟩ := mem_destinations_of_get? hget
    rw [hget, h e he d hd hlabel]

theorem Agree.reordered (h : Agree store outDir report) (hother : Reordered report other) :
    Agree store outDir other := fun d hd e he =>
  h d (hother.destinations.mem_iff.2 hd) e (hother.destinations.mem_iff.2 he)

theorem Agree.recordOf_eq (h : Agree store outDir report) (hother : Reordered report other) :
    recordOf store outDir other = recordOf store outDir report := by
  have hget : ∀ {report other : BuildSummary}, Agree store outDir other →
      Reordered report other → ∀ {name digest},
      (recordOf store outDir report).outputs.get? name = some digest →
        (recordOf store outDir other).outputs.get? name = some digest := by
    intro report other h hother name digest hdigest
    obtain ⟨dest, hdest, rfl, rfl⟩ := mem_destinations_of_get? hdigest
    exact get?_label_iff.2 h dest (hother.destinations.mem_iff.1 hdest)
  have houtputs : (recordOf store outDir other).outputs = (recordOf store outDir report).outputs :=
    TextTable.eq_of_get? (TextTable.ordered_ofList _) (TextTable.ordered_ofList _)
      fun name => Option.ext fun digest =>
        ⟨hget h hother.symm, hget (h.reordered hother) hother⟩
  simp only [recordOf] at houtputs ⊢
  rw [houtputs, hother.total, hother.errors]

/-- Any output may be the one that was finished last. -/
theorem exists_reordered_concat (hd : d ∈ destinations report) :
    ∃ other before, Reordered report other ∧ destinations other = before ++ [d] := by
  obtain ⟨event, hevent, houtput⟩ := List.mem_filterMap.1 hd
  obtain ⟨left, right, hbuilt⟩ := List.append_of_mem hevent
  refine ⟨{ report with built := left ++ right ++ [event] }, (left ++ right).filterMap output?,
    ⟨?_, rfl, rfl⟩, ?_⟩
  · rw [hbuilt, List.append_assoc]
    exact (List.perm_append_singleton event right).symm.append_left left
  · rw [destinations, List.filterMap_append, List.filterMap_cons, houtput, List.filterMap_nil]

theorem get?_label_of_concat (store : σ) (outDir : Path) {before : List Path}
    (h : destinations report = before ++ [d]) :
    (recordOf store outDir report).outputs.get? (label store outDir d) =
      some (digestOf store d) := by
  rw [get?_recordOf, h, List.filter_append]
  simp

/-- If every order of the events gives one record, outputs with one label agree. -/
theorem agree_of_reordered (h : ∀ other, Reordered report other →
      recordOf store outDir other = record) : Agree store outDir report := by
  have hlast : ∀ d ∈ destinations report,
      record.outputs.get? (label store outDir d) = some (digestOf store d) := by
    intro d hd
    obtain ⟨other, before, hother, hbefore⟩ := exists_reordered_concat hd
    rw [← h other hother]
    exact get?_label_of_concat store outDir hbefore
  intro d hd e he hlabel
  have hdigest := hlast d hd
  rw [hlabel, hlast e he] at hdigest
  exact (Option.some.inj hdigest).symm

/-- **What a record takes from the order of the events.** A record is made if and only if all
outputs that the report names can be read, so in every order of its events or in none. Under each
label it holds the digest of the last output with that label. Hence each output has its own digest
in the record, and every order gives the same record, if and only if outputs with one label have one
digest. Outputs of the output directory without a backslash in their paths have different labels,
unless they are one place. -/
theorem order_independent_iff {σ : Type} [FileStore σ] (store : σ) (outDir : Path)
    (report : BuildSummary) :
    (∀ other, Reordered report other → ((∃ record, collect store outDir other = .ok record) ↔
      ∀ dest ∈ destinations report, Readable store dest)) ∧
    ∀ record, collect store outDir report = .ok record →
      record.buildId = Digest.ofOutputs record.outputs ∧
      (∀ name digest, record.outputs.get? name = some digest ↔ ∃ dest content,
        ((destinations report).filter (label store outDir · == name)).getLast? = some dest ∧
          FileStore.read store dest = .ok content ∧ Digest.ofBytes content = digest) ∧
      ((∀ dest ∈ destinations report, ∃ content, FileStore.read store dest = .ok content ∧
        record.outputs.get? (label store outDir dest) = some (Digest.ofBytes content)) ↔
          Agree store outDir report) ∧
      ((∀ other, Reordered report other → collect store outDir other = .ok record) ↔
        Agree store outDir report) ∧
      ((∀ dest ∈ destinations report,
          dest.startsWith outDir = true ∧ '\\' ∉ dest.text.toList) →
        (∀ d ∈ destinations report, ∀ e ∈ destinations report,
          label store outDir d = label store outDir e → d.same e = true) ∧
        ((∀ d ∈ destinations report, ∀ e ∈ destinations report, d.same e = true →
          FileStore.read store d = FileStore.read store e) → Agree store outDir report)) := by
  refine ⟨fun other hother => ?_, fun record hcollect => ?_⟩
  · simp only [collect_eq_ok_iff, exists_and_left, exists_eq', and_true,
      hother.destinations.mem_iff]
  obtain ⟨hreadable, rfl⟩ := collect_eq_ok_iff.1 hcollect
  refine ⟨rfl, fun name digest => ?_, ?_, ⟨fun h => ?_, fun h other hother => ?_⟩,
    fun hplain => ?_⟩
  · rw [get?_recordOf, Option.map_eq_some_iff]
    refine exists_congr fun dest => ?_
    rw [exists_and_left]
    refine and_congr_right fun hlast => ?_
    obtain ⟨content, hread⟩ :=
      hreadable dest (List.mem_filter.1 (List.mem_of_getLast? hlast)).1
    simp [digestOf_of_read hread, hread]
  · rw [← get?_label_iff]
    refine forall₂_congr fun dest hdest => ?_
    obtain ⟨content, hread⟩ := hreadable dest hdest
    simp [digestOf_of_read hread, hread]
  · exact agree_of_reordered fun other hother => (collect_eq_ok_iff.1 (h other hother)).2
  · exact collect_eq_ok_iff.2 ⟨fun dest hdest =>
      hreadable dest (hother.destinations.mem_iff.2 hdest), h.recordOf_eq hother⟩
  · have hsame : ∀ d ∈ destinations report, ∀ e ∈ destinations report,
        label store outDir d = label store outDir e → d.same e = true := fun d hd e he =>
      same_of_label_eq (hplain d hd).1 (hplain e he).1 (hplain d hd).2 (hplain e he).2
    refine ⟨hsame, fun hread d hd e he hlabel => ?_⟩
    rw [digestOf, digestOf, hread d hd e he (hsame d hd e he hlabel)]

end Collecting

section Pairs

variable {first second : Path}

/-- A tree with two outputs. -/
def pair (first second : Path) : FileTree :=
  (FileTree.empty.putFile first "1".toUTF8).putFile second "2".toUTF8

def pairReport (first second : Path) : BuildSummary where
  total := 2
  built := [.fileBuilt "/p/a.js" first 0 [], .fileBuilt "/p/b.js" second 0 []]

theorem destinations_pairReport (first second : Path) :
    destinations (pairReport first second) = [first] ++ [second] := rfl

theorem mem_destinations_pairReport {dest : Path} :
    dest ∈ destinations (pairReport first second) ↔ dest = first ∨ dest = second := by
  simp [destinations_pairReport]

theorem read_pair (h : second.same first = false) :
    FileStore.read (pair first second) first = .ok "1".toUTF8 ∧
      FileStore.read (pair first second) second = .ok "2".toUTF8 := by
  refine ⟨FileTree.read_of_content? ?_, FileTree.read_of_content? ?_⟩
  · rw [pair, FileTree.content?_putFile, h, FileTree.content?_putFile, same_self]
    rfl
  · rw [pair, FileTree.content?_putFile, same_self]
    rfl

theorem readable_pair (h : second.same first = false) {dest : Path}
    (hdest : dest = first ∨ dest = second) : Readable (pair first second) dest := by
  rcases hdest with rfl | rfl
  · exact ⟨_, (read_pair h).1⟩
  · exact ⟨_, (read_pair h).2⟩

theorem order_independent_iff_pair :
    ∃ record,
      collect (pair "/p/o/a" "/p/o/b") "/p/o" (pairReport "/p/o/a" "/p/o/b") = .ok record ∧
      (∀ other, Reordered (pairReport "/p/o/a" "/p/o/b") other →
        collect (pair "/p/o/a" "/p/o/b") "/p/o" other = .ok record) ∧
      record.outputs.get? "o/a" = some (Digest.ofText "1") ∧
      record.outputs.get? "o/b" = some (Digest.ofText "2") := by
  have hne : Path.same "/p/o/b" "/p/o/a" = false := by decide
  obtain ⟨hfirst, hsecond⟩ := read_pair hne
  obtain ⟨hsucceeds, hrecord⟩ :=
    order_independent_iff (pair "/p/o/a" "/p/o/b") "/p/o" (pairReport "/p/o/a" "/p/o/b")
  obtain ⟨record, hcollect⟩ := (hsucceeds _ ⟨.rfl, rfl, rfl⟩).2 fun dest hdest =>
    readable_pair hne (mem_destinations_pairReport.1 hdest)
  obtain ⟨-, -, hown, hany, hplain⟩ := hrecord record hcollect
  simp only [mem_destinations_pairReport, forall_eq_or_imp, forall_eq] at hown hplain
  have hagree := (hplain ⟨by decide, by decide⟩).2
    ⟨⟨fun _ => trivial, fun h => absurd h (by decide)⟩, fun h => absurd h (by decide),
      fun _ => trivial⟩
  obtain ⟨⟨content, hread, hget⟩, content', hread', hget'⟩ := hown.2 hagree
  rw [hfirst, Except.ok.injEq] at hread
  rw [hsecond, Except.ok.injEq] at hread'
  have hlabel : label (pair "/p/o/a" "/p/o/b") "/p/o" "/p/o/a" = "o/a" := by decide +kernel
  have hlabel' : label (pair "/p/o/a" "/p/o/b") "/p/o" "/p/o/b" = "o/b" := by decide +kernel
  rw [← hread, hlabel] at hget
  rw [← hread', hlabel'] at hget'
  exact ⟨record, hcollect, hany.2 hagree, hget, hget'⟩

theorem ofBytes_ne : Digest.ofBytes "1".toUTF8 ≠ Digest.ofBytes "2".toUTF8 := by
  rw [Digest.ofBytes, Digest.ofBytes, Utf8.toList_toUTF8, Utf8.toList_toUTF8,
    Blake3.hex_of_length_le (by decide), Blake3.hex_of_length_le (by decide)]
  decide +kernel

/-- Two outputs that share a label. -/
def clash : FileTree := pair "/p/o/a/b" "/p/o/a\\b"

def clashReport : BuildSummary := pairReport "/p/o/a/b" "/p/o/a\\b"

def clashReversed : BuildSummary := { clashReport with built := clashReport.built.reverse }

theorem reordered_clash : Reordered clashReport clashReversed :=
  ⟨(List.reverse_perm _).symm, rfl, rfl⟩

theorem label_clash : label clash "/p/o" "/p/o/a/b" = "o/a/b" ∧
    label clash "/p/o" "/p/o/a\\b" = "o/a/b" := by decide +kernel

/-- Both outputs have one entry in the record. It is that of the output that was finished last. -/
theorem not_order_independent_backslash : ∃ record record',
    Reordered clashReport clashReversed ∧
      (∀ dest ∈ destinations clashReport, dest.startsWith "/p/o" = true) ∧
      destinations clashReport = ["/p/o/a/b", "/p/o/a\\b"] ∧
      Path.same "/p/o/a/b" "/p/o/a\\b" = false ∧
      collect clash "/p/o" clashReport = .ok record ∧
      collect clash "/p/o" clashReversed = .ok record' ∧
      record.outputs.keys = ["o/a/b"] ∧ record.outputs ≠ record'.outputs := by
  have hne : Path.same "/p/o/a\\b" "/p/o/a/b" = false := by decide
  have hreadable : ∀ dest ∈ destinations clashReport, Readable clash dest := fun dest hdest =>
    readable_pair hne (mem_destinations_pairReport.1 hdest)
  have hreadable' : ∀ dest ∈ destinations clashReversed, Readable clash dest := fun dest hdest =>
    hreadable dest (reordered_clash.destinations.mem_iff.2 hdest)
  refine ⟨_, _, reordered_clash, by decide, rfl, by decide, collect_eq_ok_iff.2 ⟨hreadable, rfl⟩,
    collect_eq_ok_iff.2 ⟨hreadable', rfl⟩, ?_, fun heq => ?_⟩
  · have hdestinations : destinations clashReport = ["/p/o/a/b", "/p/o/a\\b"] := rfl
    rw [recordOf, hdestinations]
    simp [label_clash, TextTable.ofList, TextTable.insert, TextTable.insertOrdered,
      TextTable.empty, TextTable.keys]
  · have hlast : destinations clashReport = ["/p/o/a/b"] ++ ["/p/o/a\\b"] := rfl
    have hlast' : destinations clashReversed = ["/p/o/a\\b"] ++ ["/p/o/a/b"] := rfl
    have hget := get?_label_of_concat clash "/p/o" hlast
    have hget' := get?_label_of_concat clash "/p/o" hlast'
    rw [label_clash.2, heq, ← label_clash.1, hget', Option.some.injEq] at hget
    have hdigest : digestOf clash "/p/o/a/b" = Digest.ofBytes "1".toUTF8 :=
      digestOf_of_read (read_pair hne).1
    have hdigest' : digestOf clash "/p/o/a\\b" = Digest.ofBytes "2".toUTF8 :=
      digestOf_of_read (read_pair hne).2
    rw [hdigest, hdigest'] at hget
    exact ofBytes_ne hget

end Pairs

end BuildRecord

end LiveBuild
