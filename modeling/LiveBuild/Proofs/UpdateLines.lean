import LiveBuild.Proofs.Formats

/-!
# Updates as a stream of lines

A sink that writes updates puts each of them on a line of its own. A newline in a route is escaped
like every control character, so the newlines of the stream are the ends of its lines, and whoever
cuts the stream at them can read each line by itself.
-/

namespace LiveBuild

namespace LiveUpdate

variable {updates : List LiveUpdate}

/-- Read an update from a text that holds nothing else. -/
def ofText? (text : String) : Option LiveUpdate := Json.parse? text >>= ofJson?

/-- The lines of a text, each of which ends with a newline. What stands behind the last newline is
no line. -/
def linesOf (text : String) : List String :=
  (text.toList.splitOn '\n').dropLast.map String.ofList

/-- A text is a stream of some updates, as whoever reads it finds them. -/
structure IsStream (text : String) (updates : List LiveUpdate) : Prop where
  blank : updates = [] → text = ""
  ends : updates ≠ [] → text.toList.getLast? = some '\n'
  newlines : text.toList.count '\n' = updates.length
  /-- Every line is read on its own. -/
  reads : (linesOf text).map ofText? = updates.map some

/-- The lines of some updates, one after the other. -/
def stream (updates : List LiveUpdate) : String := String.join (updates.map line)

theorem newline_not_mem_render (update : LiveUpdate) : '\n' ∉ update.toJson.render :=
  (Json.printable_render update.toJson).not_mem (by decide)

theorem toList_line (update : LiveUpdate) :
    update.line.toList = update.toJson.render ++ ['\n'] := by
  rw [line, String.toList_append, Json.compact, String.toList_ofList]
  rfl

theorem toList_stream (updates : List LiveUpdate) :
    (stream updates).toList = updates.flatMap fun update => update.toJson.render ++ ['\n'] := by
  rw [stream, String.toList_join, List.flatMap_map]
  simp only [toList_line]

theorem getLast?_stream (h : updates ≠ []) : (stream updates).toList.getLast? = some '\n' := by
  obtain ⟨before, last, rfl⟩ := (List.eq_nil_or_concat updates).resolve_left h
  rw [toList_stream, List.concat_eq_append, List.flatMap_append, List.flatMap_singleton,
    ← List.append_assoc, List.getLast?_concat]

theorem count_stream (updates : List LiveUpdate) :
    (stream updates).toList.count '\n' = updates.length := by
  rw [toList_stream]
  induction updates with
  | nil => rfl
  | cons update rest ih =>
      rw [List.flatMap_cons, List.count_append, List.count_append, ih,
        List.count_eq_zero.2 (newline_not_mem_render update), List.count_singleton_self,
        List.length_cons]
      omega

/-- Cut at its newlines, a stream falls into what its lines hold. -/
theorem splitOn_stream (updates : List LiveUpdate) :
    (stream updates).toList.splitOn '\n' =
      updates.map (fun update => update.toJson.render) ++ [[]] := by
  rw [toList_stream]
  induction updates with
  | nil => rfl
  | cons update rest ih =>
      have hline : ∀ c ∈ update.toJson.render, (c == '\n') = false := by
        intro c hc
        rw [beq_eq_false_iff_ne]
        rintro rfl
        exact newline_not_mem_render update hc
      rw [List.flatMap_cons, List.append_assoc, List.singleton_append, List.splitOn,
        List.splitOnP_append_cons_of_forall_mem hline '\n' (beq_self_eq_true _)]
      exact congrArg _ ih

theorem linesOf_stream (updates : List LiveUpdate) :
    linesOf (stream updates) = updates.map fun update => update.toJson.compact := by
  rw [linesOf, splitOn_stream, List.dropLast_concat, List.map_map]
  rfl

example : linesOf (stream [⟨.change, ["/\n"]⟩, ⟨.change, []⟩]) =
    ["\x7b\"action\":\"change\",\"data\":[\"/\\n\"]\x7d",
      "\x7b\"action\":\"change\",\"data\":[]\x7d"] := by
  decide

theorem ofText?_compact (update : LiveUpdate) : ofText? update.toJson.compact = some update :=
  Json.roundTrips (isSound_toJson update) (ofJson?_toJson update)

theorem isStream_stream (updates : List LiveUpdate) : IsStream (stream updates) updates where
  blank h := by rw [h, stream, List.map_nil, String.join_nil]
  ends := getLast?_stream
  newlines := count_stream updates
  reads := by
    rw [linesOf_stream, List.map_map]
    apply List.map_congr_left
    intro update _
    exact ofText?_compact update

end LiveUpdate

namespace UpdateSink

open LiveUpdate

theorem putAll_lines (written : String) (updates : List LiveUpdate) :
    (lines written).putAll updates = (lines (written ++ stream updates), .ok ()) := by
  induction updates generalizing written with
  | nil => rw [putAll, stream, List.map_nil, String.join_nil, String.append_empty]
  | cons update rest ih =>
      calc
        (lines written).putAll (update :: rest) = (lines (written ++ update.line)).putAll rest :=
          rfl
        _ = (lines (written ++ update.line ++ stream rest), .ok ()) := ih _
        _ = (lines (written ++ stream (update :: rest)), .ok ()) := by
          rw [stream, stream, List.map_cons, String.join_cons, String.append_assoc]

/-- **What is written for live clients is read back line by line.** A writer that takes in text takes
in every update, whatever its routes hold. Behind what it held before there is then a stream of just
these updates: it ends with a newline unless there are none, it has one newline for each of them, and
its lines, each read on its own, are the updates in order. -/
theorem lines_read_back (written : String) (updates : List LiveUpdate) :
    ∃ text, (lines written).putAll updates = (lines (written ++ text), .ok ()) ∧
      IsStream text updates :=
  ⟨stream updates, putAll_lines written updates, isStream_stream updates⟩

end UpdateSink

/-- What is announced about changes of the pages is a stream of the updates for them. -/
theorem UpdateRules.announce_lines (rules : UpdateRules) (written : String)
    (changes : PageChanges) :
    ∃ text, rules.announce (.lines written) changes =
        (.lines (written ++ text), .ok (rules.updates changes)) ∧
      LiveUpdate.IsStream text (rules.updates changes) := by
  refine ⟨LiveUpdate.stream (rules.updates changes), ?_, LiveUpdate.isStream_stream _⟩
  rw [announce, UpdateSink.putAll_lines]
  rfl

end LiveBuild
