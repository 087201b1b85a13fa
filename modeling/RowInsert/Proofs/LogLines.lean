import RowInsert.Proofs.JsonValues
import RowInsert.Proofs.Observation

/-!
# Events as lines of a log

* `Leaf.lines_of_deliver` : a log that takes an event has one more line, of printable ASCII, or
  none if it does not take the level.
* `Event.IsLoggable` are the events whose fields are data; the dictionary of their fields is data
  too (`Event.IsLoggable.isData`).
* `Leaf.deliver_logged` : each of these is logged, and the line is read back as the event.
-/

namespace RowInsert

namespace Event

/-- Why an ordered mapping does not give its entries, by what was assigned to it. -/
def refusalIn (s : State) (i : Identity) : Option Failure :=
  ((s.assigned i).lookup "items").map Value.callEmpty

/-- The fields of the event are data, and its metadata is a dictionary. -/
structure IsLoggable (e : Event) (i : Identity) (entries : List (Value × Value)) : Prop where
  metadata : e.metadata = .mapping .plain i entries
  fields : ∀ field ∈ e.fields, field.2.IsData []

/-- The event with its metadata as a dictionary of its own. -/
def copied (e : Event) (entries : List (Value × Value)) : Event :=
  { e with metadata := .mapping .plain 0 entries }

variable {e : Event} {i : Identity} {entries : List (Value × Value)}

theorem IsLoggable.exec_snapshot (h : e.IsLoggable i entries) (s : State) :
    e.snapshot.exec s = (.ok (e.copied entries), s) := by
  unfold snapshot
  rw [h.metadata]
  rfl

theorem fields_copied (e : Event) (entries : List (Value × Value)) :
    (e.copied entries).fields = e.fields.map fun field =>
      if field.1 = "metadata" then (field.1, .mapping .plain 0 entries) else field := by
  simp [fields, copied]

theorem nodup_names (e : Event) : (e.fields.map Prod.fst).Nodup := by
  simp [fields]

/-- The dictionary of the fields of such an event is data too. -/
theorem IsLoggable.isData (h : e.IsLoggable i entries) : (e.copied entries).toValue.IsData [] := by
  -- the copy is a new dictionary, so that it cannot be inside itself
  have hmetadata : (Value.mapping .plain 0 entries).IsData [0] := by
    have hdata := h.fields ("metadata", e.metadata) (by simp [Event.fields])
    rw [h.metadata] at hdata
    cases hdata with
    | text h => cases h
    | dictionary hi hkeys hnames h =>
      exact .dictionary (.inl rfl) hkeys hnames fun e he => (h e he).mono (by simp)
  have hfields : ∀ field ∈ (e.copied entries).fields, field.2.IsData [0] := by
    intro field hfield
    rw [fields_copied] at hfield
    obtain ⟨field', hfield', rfl⟩ := List.mem_map.1 hfield
    split_ifs
    · exact hmetadata
    · exact (h.fields field' hfield').mono (by simp)
  refine .dictionary (.inl rfl) ?_ (nodup_names (e.copied entries)) ?_
  · rw [List.map_map, List.map_map]
    rfl
  · intro entry hentry
    obtain ⟨field, hfield, rfl⟩ := List.mem_map.1 hentry
    exact hfields field hfield

end Event

namespace Leaf

variable {level : Value} {threshold : Int} {e : Event} {s t : State}

/-- What the log does once it has a copy of the event. -/
theorem exec_deliver_log {u : State} {copy : Event} (hcopy : e.snapshot.exec s = (.ok copy, u)) :
    ((log level threshold).deliver e).exec s =
      (do
        let message ← Run.lift (Json.lineUnless (Event.refusalIn u) copy.toValue)
        let n ← Run.require level.whole? .levelNotWhole
        if takesLevel threshold n then
          Run.modifyJournal fun j => { j with lines := j.lines ++ [⟨level, message⟩] }
        : Run Unit).exec u := by
  unfold deliver writeLine
  rw [Run.exec_bind_ok hcopy, Run.exec_bind_ok (Run.exec_get _)]
  rfl

/-- The lines that are added for a message. -/
def linesFor (level : Value) (threshold n : Int) (message : String) : List LogLine :=
  if takesLevel threshold n then [⟨level, message⟩] else []

theorem exec_deliver_log_ok {u : State} {copy : Event} {message : String} {n : Int}
    (hcopy : e.snapshot.exec s = (.ok copy, u))
    (hline : Json.lineUnless (Event.refusalIn u) copy.toValue = .ok message)
    (hlevel : level.whole? = some n) :
    ((log level threshold).deliver e).exec s =
      (.ok (), { u with journal := { u.journal with
        lines := u.journal.lines ++ linesFor level threshold n message } }) := by
  rw [exec_deliver_log hcopy, hline, Run.exec_lift_bind_ok, hlevel]
  change (if takesLevel threshold n then
    (Run.modifyJournal fun j => { j with lines := j.lines ++ [⟨level, message⟩] })
    else pure ()).exec u = _
  unfold linesFor
  split_ifs
  · rfl
  · rw [List.append_nil]
    rfl

/-- **A log that takes an event has one more line,** of printable ASCII alone, or none if it does
not take the level, whatever the fields of the event are. -/
theorem lines_of_deliver (h : ((log level threshold).deliver e).exec s = (.ok (), t)) :
    ∃ n message, level.whole? = some n ∧
      (∀ c ∈ message.toList, Json.isPrintable c = true) ∧
      t.journal.lines = s.journal.lines ++ linesFor level threshold n message := by
  -- the copy may consume streams, but leaves what was logged alone
  have hreads : (e.snapshot).Moves State.Reads := by
    unfold Event.snapshot
    exact Run.Moves.bind (Run.onlyReads_dictionary e.metadata).moves fun _ => Run.moves_pure _
  obtain ⟨streams, hstreams⟩ := hreads s
  rcases hcopy : e.snapshot.exec s with ⟨f | copy, u⟩
  · unfold deliver writeLine at h
    rw [Run.exec_bind_error hcopy] at h
    cases h
  · rw [hcopy] at hstreams
    cases hline : Json.lineUnless (Event.refusalIn u) copy.toValue with
    | error f =>
      rw [exec_deliver_log hcopy, hline, Run.exec_lift_bind_error] at h
      cases h
    | ok message =>
      cases hlevel : level.whole? with
      | none =>
        rw [exec_deliver_log hcopy, hline, Run.exec_lift_bind_ok, hlevel] at h
        cases h
      | some n =>
        rw [exec_deliver_log_ok hcopy hline hlevel] at h
        cases h
        subst hstreams
        exact ⟨n, message, rfl, Json.isPrintable_lineUnless hline, rfl⟩

/-- An event whose fields are data is logged, and the line is read back as a document that stands
for the dictionary of its fields. -/
theorem exists_line {i : Identity} {entries : List (Value × Value)} (he : e.IsLoggable i entries)
    {n : Int} (hlevel : level.whole? = some n) (htakes : takesLevel threshold n = true)
    (s : State) :
    ∃ t message document, ((log level threshold).deliver e).exec s = (.ok (), t) ∧
      t.journal.lines = s.journal.lines ++ [⟨level, message⟩] ∧
      Json.read message.toList = some document ∧ document.Denotes (e.copied entries).toValue := by
  obtain ⟨document, hdocument, hnumeric, hdenotes⟩ :=
    he.isData.exists_document (Event.refusalIn s)
  have hline : Json.lineUnless (Event.refusalIn s) (e.copied entries).toValue =
      .ok (String.ofList document.render) := by
    unfold Json.lineUnless
    rw [hdocument]
    rfl
  refine ⟨_, String.ofList document.render, document,
    exec_deliver_log_ok (he.exec_snapshot s) hline hlevel, ?_, ?_, hdenotes⟩
  · unfold linesFor
    rw [if_pos htakes]
  · rw [String.toList_ofList]
    exact Json.read_render hnumeric

/-- **An event is one line of a log, and the line tells the event.**  Whatever the fields of an
event are, a log that takes it has one more line, of printable ASCII alone, or none if it does not
take the level.  If the fields are data, a log takes the event, and what is read from the line is a
document that stands for the dictionary of the fields. -/
theorem deliver_logged (level : Value) (threshold : Int) (e : Event) (s : State) :
    (∀ t, ((log level threshold).deliver e).exec s = (.ok (), t) →
      ∃ n message, level.whole? = some n ∧
        (∀ c ∈ message.toList, ' ' ≤ c ∧ c ≤ '~') ∧
        t.journal.lines =
          s.journal.lines ++ if takesLevel threshold n then [⟨level, message⟩] else []) ∧
    (∀ i entries n, e.IsLoggable i entries → level.whole? = some n →
      takesLevel threshold n = true →
      ∃ t message document, ((log level threshold).deliver e).exec s = (.ok (), t) ∧
        t.journal.lines = s.journal.lines ++ [⟨level, message⟩] ∧
        Json.read message.toList = some document ∧
        e.snapshot.exec s = (.ok (e.copied entries), s) ∧
        document.Denotes (e.copied entries).toValue) := by
  constructor
  · intro t h
    obtain ⟨n, message, hlevel, hprintable, hlines⟩ := lines_of_deliver h
    refine ⟨n, message, hlevel, fun c hc => ?_, hlines⟩
    obtain ⟨hspace, htilde⟩ := Bool.and_eq_true_iff.1 (hprintable c hc)
    exact ⟨of_decide_eq_true hspace, of_decide_eq_true htilde⟩
  · intro i entries n he hlevel htakes
    obtain ⟨t, message, document, hdeliver, hlines, hread, hdenotes⟩ :=
      exists_line he hlevel htakes s
    exact ⟨t, message, document, hdeliver, hlines, hread, he.exec_snapshot s, hdenotes⟩

/-- An event with nested metadata, out of order and with characters that need escapes, is logged as
one line of ASCII that is read back. -/
theorem deliver_logged_nested :
    let metadata := Value.mapping .plain 1
      [(.text "b", .sequence .list 2 [.text "\x7f\"\n😀", .null, .int (-7)]),
        (.text "a", .float ⟨0x3ff8000000000000⟩ 3)]
    let e := Event.ofFields [("event", .text "compile.end"), ("success", .bool true),
      ("metadata", metadata), ("row_count", .int 2)]
    let s := State.initial ⟨[], none, ⟨⟨2026, 1, 1⟩, 0, 0, 0, 0⟩⟩
    ∃ t message document, ((log (.int 20) 0).deliver e).exec s = (.ok (), t) ∧
      t.journal.lines = [⟨.int 20, message⟩] ∧ (∀ c ∈ message.toList, ' ' ≤ c ∧ c ≤ '~') ∧
      Json.read message.toList = some document := by
  intro metadata e s
  have hmetadata : metadata.IsData [] := by
    have hlist : Value.IsData [1] (.sequence .list 2 [.text "\x7f\"\n😀", .null, .int (-7)]) :=
      .list (.inr (by decide)) (List.forall_mem_cons.2 ⟨.text rfl,
        List.forall_mem_cons.2 ⟨.null, List.forall_mem_singleton.2 (.int (-7))⟩⟩)
    have hnames : ["b", "a"].Nodup := by decide
    exact .dictionary (.inr (by decide)) rfl hnames (List.forall_mem_cons.2 ⟨hlist,
      List.forall_mem_singleton.2 (.float 3 (by decide))⟩)
  have hfields : ∀ field ∈ e.fields, field.2.IsData [] := by
    refine List.forall_mem_cons.2 ⟨.null, List.forall_mem_cons.2 ⟨.text rfl, ?_⟩⟩
    refine List.forall_mem_cons.2 ⟨.null, List.forall_mem_cons.2 ⟨.null, ?_⟩⟩
    refine List.forall_mem_cons.2 ⟨.bool true, List.forall_mem_cons.2 ⟨hmetadata, ?_⟩⟩
    refine List.forall_mem_cons.2 ⟨.null, List.forall_mem_cons.2 ⟨.int 2, ?_⟩⟩
    intro field hfield
    simp only [List.mem_cons, List.not_mem_nil, or_false] at hfield
    rcases hfield with rfl | rfl | rfl | rfl | rfl <;> exact .null
  obtain ⟨hline, hlogged⟩ := deliver_logged (.int 20) 0 e s
  obtain ⟨t, message, document, hdeliver, hlines, hread, -⟩ :=
    hlogged 1 _ 20 ⟨rfl, hfields⟩ rfl (by decide)
  obtain ⟨n, message', hlevel, hprintable, hlines'⟩ := hline t hdeliver
  obtain rfl : 20 = n := Option.some.inj hlevel
  have hsame : [(⟨.int 20, message⟩ : LogLine)] = [⟨.int 20, message'⟩] :=
    hlines.symm.trans hlines'
  cases hsame
  exact ⟨t, message, document, hdeliver, hlines, hprintable, hread⟩

end Leaf

end RowInsert
