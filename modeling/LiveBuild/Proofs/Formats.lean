import LiveBuild.Build.Record
import LiveBuild.Pages.Update
import LiveBuild.Proofs.JsonText
import LiveBuild.Proofs.ReadBack
import LiveBuild.Proofs.TextTables
import LiveBuild.Worker.Message

/-!
# Messages and records are read as they were written

Every message and every record is written as one value, whose text is read back. What a count or a
table has to be for that is what every count and table of the program is: counts fit into 64 bits,
and tables and sets hold their names in order.
-/

namespace LiveBuild

namespace Json

variable {α : Type}

/-- The text of a value, in one line, is read as that value. -/
def RoundTrips (toJson : α → Json) (ofJson? : Json → Option α) (value : α) : Prop :=
  (parse? (toJson value).compact >>= ofJson?) = some value

theorem roundTrips {toJson : α → Json} {ofJson? : Json → Option α} {value : α}
    (hsound : (toJson value).isSound = true) (hread : ofJson? (toJson value) = some value) :
    RoundTrips toJson ofJson? value := by
  rw [RoundTrips, parse?_compact hsound]
  exact hread

theorem size_le_doubleBound : UInt64.size ≤ doubleBound := by
  decide +kernel

theorem isSound_nat {n : Nat} (h : n < UInt64.size) : (nat n).isSound = true := by
  have hbound : n < doubleBound := Nat.lt_of_lt_of_le h size_le_doubleBound
  rw [nat, isSound, Number.inRange, decide_eq_true hbound]

theorem nat64?_nat {n : Nat} (h : n < UInt64.size) : (nat n).nat64? = some n := if_pos h

theorem isSound_array_map {f : α → Json} (h : ∀ x, (f x).isSound = true) (xs : List α) :
    (array (xs.map f)).isSound = true := by
  change soundItems _ = true
  induction xs with
  | nil => rfl
  | cons x xs ih => exact Bool.and_eq_true_iff.2 ⟨h x, ih⟩

theorem depth_array_map {f : α → Json} (h : ∀ x, (f x).depth = 0) (xs : List α) :
    (array (xs.map f)).depth = 1 := by
  change 1 + depthItems _ = 1
  induction xs with
  | nil => rfl
  | cons x xs ih =>
      simp only [List.map_cons, depthItems, h]
      omega

theorem arrayOf?_map {f : α → Json} {read : Json → Option α} (h : ∀ x, read (f x) = some x)
    (xs : List α) : (array (xs.map f)).arrayOf? read = some xs := by
  change (xs.map f).mapM read = some xs
  induction xs with
  | nil => rfl
  | cons x xs ih =>
      rw [List.map_cons, List.mapM_cons, h, ih]
      rfl

theorem isSound_strings (xs : List String) : (strings xs).isSound = true :=
  isSound_array_map (fun _ => rfl) xs

theorem texts?_strings (xs : List String) : (strings xs).texts? = some xs :=
  arrayOf?_map (f := Json.text) (fun _ => rfl) xs

end Json

theorem TextTable.isSound_toJson (t : TextTable String) : t.toJson.isSound = true := by
  change Json.soundFields (t.entries.map _) = true
  induction t.entries with
  | nil => rfl
  | cons entry entries ih => exact ih

theorem TextTable.ofJson?_toJson {t : TextTable String} (h : t.Ordered) :
    TextTable.ofJson? t.toJson = some t := by
  have hread : t.toJson.textTable? = some t.entries := by
    change (t.entries.map _).mapM _ = some t.entries
    induction t.entries with
    | nil => rfl
    | cons entry entries ih =>
        rw [List.map_cons, List.mapM_cons, ih]
        rfl
  rw [ofJson?, hread]
  exact congrArg some (ofList_entries h)

theorem TextSet.ofJson?_toJson {s : TextSet} (h : s.Ordered) :
    TextSet.ofJson? s.toJson = some s := by
  rw [ofJson?, toJson, Json.texts?_strings]
  exact congrArg some (ofList_items h)

theorem RequestKind.ofJson?_name (command : RequestKind) :
    RequestKind.ofJson? (.text command.name) = some command := by
  cases command <;> decide

namespace BuildEvent

variable {event : BuildEvent}

theorem isSound_paths (ps : List Path) : (paths ps).isSound = true :=
  Json.isSound_array_map (fun _ => rfl) ps

theorem paths?_paths (ps : List Path) : paths? (paths ps) = some ps :=
  Json.arrayOf?_map (f := path) (fun p => congrArg some (Path.ofString_text p)) ps

theorem path?_path (p : Path) : path? (path p) = some p := congrArg some (Path.ofString_text p)

/-- The counts of an event fit into 64 bits. -/
def InRange : BuildEvent → Prop
  | fileBuilt _ _ localDeps _ => localDeps < UInt64.size
  | error _ _ _ => True
  | built total => total < UInt64.size

/-- The kind of an event as it is told. -/
def kind : BuildEvent → String
  | fileBuilt _ _ _ _ => "file-built"
  | error _ _ _ => "error"
  | built _ => "built"

/-- The fields of an event behind its kind. -/
def body (event : BuildEvent) : List (String × Json) := event.fields.tail

theorem ofKind?_body (h : event.InRange) :
    ofKind? event.kind (.object event.body) = some event := by
  cases event with
  | fileBuilt source dest localDeps parents =>
      simp [kind, body, fields, ofKind?, Json.record?, Json.namedFields?, path?_path, paths?_paths,
        Json.nat64?_nat h]
  | error source? message stack =>
      cases source? with
      | none => simp [kind, body, fields, ofKind?, Json.record?, Json.namedFields?, Json.text?]
      | some source =>
          simp [kind, body, fields, ofKind?, Json.record?, Json.namedFields?, Json.text?, path?,
            path]
  | built total =>
      simp [kind, body, fields, ofKind?, Json.record?, Json.namedFields?, Json.nat64?_nat h]

theorem isSound_toJson (h : event.InRange) : event.toJson.isSound = true := by
  cases event with
  | fileBuilt source dest localDeps parents =>
      simp [toJson, fields, path, Json.isSound, Json.soundFields, Json.isSound_nat h, isSound_paths]
  | error source? message stack =>
      cases source? <;> simp [toJson, fields, path, Json.isSound, Json.soundFields]
  | built total => simp [toJson, fields, Json.isSound, Json.soundFields, Json.isSound_nat h]

theorem depth_toJson_le (event : BuildEvent) : event.toJson.depth ≤ 2 := by
  cases event with
  | fileBuilt source dest localDeps parents =>
      have hpaths : (paths parents).depth = 1 := Json.depth_array_map (fun _ => rfl) parents
      simp [toJson, fields, path, Json.nat, Json.depth, Json.depthFields, hpaths]
  | error source? message stack =>
      cases source? <;> simp [toJson, fields, path, Json.depth, Json.depthFields]
  | built total => simp [toJson, fields, Json.nat, Json.depth, Json.depthFields]

theorem isReadable_toJson (h : event.InRange) : isReadable event.toJson = true := by
  have hdepth : event.toJson.depth ≤ maxDepth := Nat.le_trans (depth_toJson_le event) (by decide)
  rw [isReadable, isSound_toJson h, decide_eq_true hdepth, Bool.and_self]

theorem splitKind?_fields (event : BuildEvent) :
    splitKind? event.fields = some (.text event.kind, event.body) := by
  cases event with
  | fileBuilt source dest localDeps parents => simp [splitKind?, fields, kind, body]
  | error source? message stack => cases source? <;> simp [splitKind?, fields, kind, body]
  | built total => simp [splitKind?, fields, kind, body]

theorem ofJson?_toJson (h : event.InRange) : ofJson? event.toJson = some event := by
  unfold ofJson?
  rw [if_pos (isReadable_toJson h)]
  simp only [toJson, splitKind?_fields]
  exact ofKind?_body h

end BuildEvent

namespace WorkRequest

variable {r : WorkRequest}

theorem isSound_toJson (h : r.id < UInt64.size) : r.toJson.isSound = true := by
  simp [toJson, Json.isSound, Json.soundFields, Json.isSound_nat h, BuildEvent.isSound_paths]

theorem ofJson?_toJson (h : r.id < UInt64.size) : ofJson? r.toJson = some r := by
  simp [toJson, ofJson?, Json.record?, Json.namedFields?, Json.nat64?_nat h,
    RequestKind.ofJson?_name, BuildEvent.paths?_paths]

end WorkRequest

namespace WorkResponse

variable {r : WorkResponse}

/-- The number of the request is apart from the fields of the event, and so is the kind of the event
from the others. -/
structure KeepsApart (r : WorkResponse) (fields : List (String × Json)) : Prop where
  distinct : (fields.map (·.1)).Nodup
  id : fields.filter (fun field => field.1 == "callbackId") = [("callbackId", .nat r.id)]
  kind : fields.filter (fun field => field.1 == "event") = [("event", .text r.event.kind)]
  body : fields.filter (fun field => field.1 != "callbackId" && field.1 != "event") = r.event.body
  /-- Without a source there is no field for one. -/
  source : ∀ message stack, r.event = .error none message stack →
    fields.map (·.1) = ["callbackId", "event", "message", "stack"]

theorem keepsApart (r : WorkResponse) :
    r.KeepsApart (("callbackId", .nat r.id) :: r.event.fields) := by
  obtain ⟨id, event⟩ := r
  cases event with
  | fileBuilt source dest localDeps parents =>
      constructor <;> simp [BuildEvent.fields, BuildEvent.kind, BuildEvent.body]
  | error source? message stack =>
      cases source? <;>
        constructor <;> simp [BuildEvent.fields, BuildEvent.kind, BuildEvent.body]
  | built total => constructor <;> simp [BuildEvent.fields, BuildEvent.kind, BuildEvent.body]

theorem isSound_toJson (hid : r.id < UInt64.size) (hevent : r.event.InRange) :
    r.toJson.isSound = true := by
  rw [toJson, Json.isSound, Json.soundFields, Json.isSound_nat hid, Bool.true_and]
  exact BuildEvent.isSound_toJson hevent

theorem partition_fields (event : BuildEvent) :
    event.fields.partition (fun field => field.1 == "callbackId") = ([], event.fields) := by
  cases event with
  | fileBuilt | built => simp [BuildEvent.fields]
  | error source? => cases source? <;> simp [BuildEvent.fields]

theorem ofJson?_toJson (hid : r.id < UInt64.size) (hevent : r.event.InRange) :
    ofJson? r.toJson = some r := by
  have hread : BuildEvent.ofFields? r.event.fields = some r.event := by
    simp only [BuildEvent.ofFields?, BuildEvent.splitKind?_fields]
    exact BuildEvent.ofKind?_body hevent
  have hreadable : BuildEvent.isReadable (.object r.event.fields) = true :=
    BuildEvent.isReadable_toJson hevent
  have hfields := partition_fields r.event
  simp only [List.partition_eq_filter_filter, Prod.mk.injEq] at hfields
  simp [toJson, ofJson?, hfields, hreadable, hread, Json.nat64?_nat hid]

end WorkResponse

namespace LiveUpdate

theorem isSound_toJson (update : LiveUpdate) : update.toJson.isSound = true := by
  simp [toJson, Json.isSound, Json.soundFields, Json.isSound_strings]

theorem ofJson?_toJson (update : LiveUpdate) : ofJson? update.toJson = some update := by
  have haction : ∀ action : LiveUpdate.Action,
      LiveUpdate.Action.ofJson? (.text action.name) = some action := by
    intro action
    cases action <;> decide
  simp [toJson, ofJson?, Json.record?, Json.namedFields?, haction, Json.texts?_strings]

end LiveUpdate

namespace PageState

variable {s : PageState}

theorem isSound_toJson (s : PageState) : s.toJson.isSound = true := by
  simp [toJson, Json.isSound, Json.soundFields, TextTable.isSound_toJson, TextSet.toJson,
    Json.isSound_strings]

theorem ofJson?_toJson (hhashes : s.hashes.Ordered) (hfailed : s.failed.Ordered) :
    ofJson? s.toJson = some s := by
  simp [toJson, ofJson?, Json.record?, Json.namedFields?, TextTable.ofJson?_toJson hhashes,
    TextSet.ofJson?_toJson hfailed]

end PageState

namespace PassReport

variable {pass : PassReport}

theorem isSound_toJson (pass : PassReport) : pass.toJson.isSound = true := by
  simp [toJson, Json.isSound, Json.soundFields, TextTable.isSound_toJson, Json.isSound_strings]

theorem ofJson?_toJson (h : pass.chunks.Ordered) : ofJson? pass.toJson = some pass := by
  simp [toJson, ofJson?, Json.record?, Json.namedFields?, TextTable.ofJson?_toJson h,
    Json.texts?_strings]

end PassReport

namespace BuildRecord

variable {record : BuildRecord}

theorem isSound_toJson (h : record.total < UInt64.size) : record.toJson.isSound = true := by
  simp [toJson, Json.isSound, Json.soundFields, Json.isSound_nat h, TextTable.isSound_toJson,
    Json.isSound_strings]

theorem ofJson?_toJson (htotal : record.total < UInt64.size) (houtputs : record.outputs.Ordered) :
    ofJson? record.toJson = some record := by
  simp [toJson, ofJson?, Json.record?, Json.namedFields?, Json.text?, Json.nat64?_nat htotal,
    TextTable.ofJson?_toJson houtputs, Json.texts?_strings]

/-- When a store has taken in a record, the text that stands there is read as the record. -/
def ReadsBack (record : BuildRecord) (σ : Type) [FileStore σ] : Prop :=
  ∀ (store store' : σ) (outDir directory : Path),
    write store outDir record = (store', .ok directory) →
      ∃ text, FileStore.readText store' (directory.join recordFile) = .ok text ∧
        (Json.parse? text >>= ofJson?) = some record

theorem readsBack {σ : Type} [FileStore σ] (hstore : FileStore.ReadsBack σ)
    (htotal : record.total < UInt64.size) (houtputs : record.outputs.Ordered) :
    record.ReadsBack σ := by
  intro store store' outDir directory h
  rw [write] at h
  dsimp only at h
  split at h
  · cases h
  rename_i store _
  obtain ⟨hfirst, hsecond⟩ := Prod.mk.inj h
  refine ⟨record.toJson.pretty, hstore store store' _ _ ?_, ?_⟩
  · cases hresult : (FileStore.write store ((BuildRecord.directory outDir).join recordFile)
        record.toJson.pretty.toUTF8).2 with
    | error f =>
        rw [hresult] at hsecond
        cases hsecond
    | ok _ =>
        rw [hresult] at hsecond
        obtain rfl : BuildRecord.directory outDir = directory := Except.ok.inj hsecond
        exact Prod.ext hfirst hresult
  · rw [Json.parse?_pretty (isSound_toJson htotal)]
    exact ofJson?_toJson htotal houtputs

end BuildRecord

/-- Every message and record is read from its text as it was: a request, a response, an event, an
update for live clients, the state of the pages, the report of a pass, and the record of a build. In
a response the number of the request stays apart from the event. The record of a build is also read
back from the file that it was written to, in a tree, which takes in every record, and on a disk. -/
theorem formats_round_trip :
    (∀ r : WorkRequest, r.id < UInt64.size →
      Json.RoundTrips WorkRequest.toJson WorkRequest.ofJson? r) ∧
    (∀ r : WorkResponse, r.id < UInt64.size → r.event.InRange →
      Json.RoundTrips WorkResponse.toJson WorkResponse.ofJson? r ∧
        ∃ fields, Json.parse? r.toJson.compact = some (.object fields) ∧ r.KeepsApart fields) ∧
    (∀ event : BuildEvent, event.InRange →
      Json.RoundTrips BuildEvent.toJson BuildEvent.ofJson? event) ∧
    (∀ update : LiveUpdate, Json.RoundTrips LiveUpdate.toJson LiveUpdate.ofJson? update) ∧
    (∀ s : PageState, s.hashes.Ordered → s.failed.Ordered →
      Json.RoundTrips PageState.toJson PageState.ofJson? s) ∧
    (∀ pass : PassReport, pass.chunks.Ordered →
      Json.RoundTrips PassReport.toJson PassReport.ofJson? pass) ∧
    (∀ record : BuildRecord, record.total < UInt64.size → record.outputs.Ordered →
      Json.RoundTrips BuildRecord.toJson BuildRecord.ofJson? record ∧
        record.ReadsBack FileTree ∧ record.ReadsBack Disk ∧
        ∀ (tree : FileTree) (outDir : Path), (BuildRecord.write tree outDir record).2 =
          .ok (BuildRecord.directory outDir)) := by
  refine ⟨fun r hid => ?_, fun r hid hevent => ⟨?_, ?_⟩, fun event hevent => ?_, fun update => ?_,
    fun s hhashes hfailed => ?_, fun pass hchunks => ?_,
    fun record htotal houtputs => ⟨?_, ?_, ?_, fun tree outDir => rfl⟩⟩
  · exact Json.roundTrips (WorkRequest.isSound_toJson hid) (WorkRequest.ofJson?_toJson hid)
  · exact Json.roundTrips (WorkResponse.isSound_toJson hid hevent)
      (WorkResponse.ofJson?_toJson hid hevent)
  · exact ⟨_, Json.parse?_compact (WorkResponse.isSound_toJson hid hevent),
      WorkResponse.keepsApart r⟩
  · exact Json.roundTrips (BuildEvent.isSound_toJson hevent) (BuildEvent.ofJson?_toJson hevent)
  · exact Json.roundTrips (LiveUpdate.isSound_toJson update) (LiveUpdate.ofJson?_toJson update)
  · exact Json.roundTrips (PageState.isSound_toJson s) (PageState.ofJson?_toJson hhashes hfailed)
  · exact Json.roundTrips (PassReport.isSound_toJson pass) (PassReport.ofJson?_toJson hchunks)
  · exact Json.roundTrips (BuildRecord.isSound_toJson htotal)
      (BuildRecord.ofJson?_toJson htotal houtputs)
  · exact BuildRecord.readsBack FileTree.readsBack htotal houtputs
  · exact BuildRecord.readsBack Disk.readsBack htotal houtputs

/-- The largest count there is, and texts with characters of every kind. -/
def utmostRequest : WorkRequest := ⟨18446744073709551615, .watch, ["pages/\"a\".js", "é"]⟩

def utmostResponse : WorkResponse := ⟨18446744073709551615, .error none "a\\b\x01" "☃\n"⟩

def utmostEvent : BuildEvent := .fileBuilt "a.js" "out/a.js" 18446744073709551615 ["out/b.js"]

def twoPages : PageState := ⟨TextTable.ofList [("b", "1"), ("a", "\t")], TextSet.ofList ["d", "c"]⟩

def utmostRecord : BuildRecord :=
  ⟨"0f", 18446744073709551615, TextTable.ofList [("b.js", "1"), ("a.js", "2")], ["\"\x7f"]⟩

theorem formats_round_trip_utmost :
    (utmostRequest.id < UInt64.size ∧
      Json.RoundTrips WorkRequest.toJson WorkRequest.ofJson? utmostRequest) ∧
    (utmostResponse.id < UInt64.size ∧ utmostResponse.event.InRange ∧
      Json.RoundTrips WorkResponse.toJson WorkResponse.ofJson? utmostResponse) ∧
    (utmostEvent.InRange ∧ Json.RoundTrips BuildEvent.toJson BuildEvent.ofJson? utmostEvent) ∧
    (twoPages.hashes.Ordered ∧ twoPages.failed.Ordered ∧
      Json.RoundTrips PageState.toJson PageState.ofJson? twoPages) ∧
    (utmostRecord.total < UInt64.size ∧ utmostRecord.outputs.Ordered ∧
      Json.RoundTrips BuildRecord.toJson BuildRecord.ofJson? utmostRecord) := by
  obtain ⟨hrequest, hresponse, hevent, -, hpages, -, hrecord⟩ := formats_round_trip
  have hcount : 18446744073709551615 < UInt64.size := by decide
  have hhashes : twoPages.hashes.Ordered := TextTable.ordered_ofList _
  have hfailed : twoPages.failed.Ordered := TextSet.ordered_ofList _
  have houtputs : utmostRecord.outputs.Ordered := TextTable.ordered_ofList _
  exact ⟨⟨hcount, hrequest utmostRequest hcount⟩,
    ⟨hcount, trivial, (hresponse utmostResponse hcount trivial).1⟩,
    ⟨hcount, hevent utmostEvent hcount⟩,
    ⟨hhashes, hfailed, hpages twoPages hhashes hfailed⟩,
    ⟨hcount, houtputs, (hrecord utmostRecord hcount houtputs).1⟩⟩

end LiveBuild
