import RowInsert.Proofs.Events
import RowInsert.Proofs.Metrics

/-!
# Kinds of clauses, by class and by name

A clause is classified twice: it is compiled by the handler that bears the name of its class, and an
event names the kind of clauses that its class is derived from.

* `Compiler.DispatchesByName` and `Event.NamesClass` say what each of the two does with any value in
  the place of a clause.
* `Event.AgreesWithDispatch` : the event names the kind that the clause was compiled as, and calls
  it unknown just if there was no handler for it.
* `Compiler.compile_classified` : they agree just for clauses whose class bears the name of the
  class of clauses that it is or is derived from (`Value.IsNamedForClass`).

What this does not say: a clause of any other class is still compiled, or refused, as its name has
it.  Only its event tells of something else (`Compiler.compile_classified_derived`).
-/

namespace RowInsert

/-- The class of a value bears the name of a class of clauses just if it is that class or is derived
from it. -/
structure Value.IsNamedForClass (v : Value) : Prop where
  raw : v.typeName = NodeClass.raw.name ↔ v.nodeClass? = some .raw
  rule : v.typeName = NodeClass.rule.name ↔ v.nodeClass? = some .rule

/-- Clauses are compiled in the two ways of compilers of insert clauses, and in no others. -/
def Compiler.HasOwnHandlers (c : Compiler) : Prop :=
  ∀ name, c.handlers name = (Handler.methods []).lookup name

/-- The clause is handed to what bears the name of its class, if there is such a thing. -/
structure Compiler.DispatchesByName (c : Compiler) (node : Value) : Prop where
  raw : dispatch c.name c.handlers node = .ok .raw ↔ node.typeName = NodeClass.raw.name
  rule : dispatch c.name c.handlers node = .ok .rule ↔ node.typeName = NodeClass.rule.name
  unhandled : dispatch c.name c.handlers node = .error (.noHandler node.typeName c.name) ↔
    node.typeName ≠ NodeClass.raw.name ∧ node.typeName ≠ NodeClass.rule.name

namespace Event

/-- The event names the class of clauses that the class of a clause is or is derived from. -/
structure NamesClass (e : Event) (node : Value) : Prop where
  raw : e.clauseKind = .text "raw" ↔ node.nodeClass? = some .raw
  rule : e.clauseKind = .text "rule" ↔ node.nodeClass? = some .rule
  unknown : e.clauseKind = .text "unknown" ↔
    node.nodeClass? ≠ some .raw ∧ node.nodeClass? ≠ some .rule

/-- The event names the kind of clauses that a clause was handed on as.  It calls the kind unknown
just if there was no handler, and the compilation failed because that is not implemented. -/
structure AgreesWithDispatch (e : Event) (c : Compiler) (node : Value)
    (result : Except Raised Query) : Prop where
  raw : e.clauseKind = .text "raw" ↔ dispatch c.name c.handlers node = .ok .raw
  rule : e.clauseKind = .text "rule" ↔ dispatch c.name c.handlers node = .ok .rule
  unknown : e.clauseKind = .text "unknown" ↔
    (∀ handler, dispatch c.name c.handlers node ≠ .ok handler) ∧
      ∃ raised, result = .error raised ∧ raised.failure.kind = .notImplemented

end Event

/-- Clauses made by a constructor are named for their class, and so are objects of classes that have
nothing to do with those of clauses. -/
theorem Value.IsClause.isNamedForClass {v : Value} (h : v.IsClause) : v.IsNamedForClass := by
  have hne : NodeClass.raw.name ≠ NodeClass.rule.name := by decide
  cases h with
  | raw i sql bindings => exact ⟨iff_of_true rfl rfl, iff_of_false hne nofun⟩
  | rule i table values => exact ⟨iff_of_false hne.symm nofun, iff_of_true rfl rfl⟩
  | other notRaw notRule notNamedRaw notNamedRule =>
    exact ⟨iff_of_false notNamedRaw notRaw, iff_of_false notNamedRule notRule⟩

/-! ### Dispatch -/

theorem Handler.lookup_methods (name : String) :
    (methods []).lookup name =
      if name = NodeClass.raw.name then some .raw
      else if name = NodeClass.rule.name then some .rule else none := by
  simp only [methods, List.map_nil, List.nil_append, lookup_cons_ite, List.lookup_nil]

namespace Compiler

variable {c : Compiler} {node : Value}

theorem HasOwnHandlers.dispatchesByName (h : c.HasOwnHandlers) (node : Value) :
    c.DispatchesByName node := by
  have hne : NodeClass.raw.name ≠ NodeClass.rule.name := by decide
  have hhandler := (h node.typeName).trans (Handler.lookup_methods node.typeName)
  by_cases hraw : node.typeName = NodeClass.raw.name
  · rw [if_pos hraw] at hhandler
    constructor <;> simp [dispatch_ok hhandler, hraw, hne]
  · rw [if_neg hraw] at hhandler
    by_cases hrule : node.typeName = NodeClass.rule.name
    · rw [if_pos hrule] at hhandler
      constructor <;> simp [dispatch_ok hhandler, hrule, hne.symm]
    · rw [if_neg hrule] at hhandler
      constructor <;> simp [dispatch, hhandler, hraw, hrule]

end Compiler

/-! ### Events -/

theorem Event.namesClass_of_eq {e : Event} {node : Value}
    (h : e.clauseKind = .text (ClauseKind.ofNode node).name) : e.NamesClass node := by
  unfold ClauseKind.ofNode at h
  cases hc : node.nodeClass? with
  | none =>
    rw [hc] at h
    constructor <;> simp [h, hc, ClauseKind.name]
  | some cls =>
    rw [hc] at h
    cases cls <;> constructor <;> simp [h, hc, ClauseKind.name]

theorem ClauseKind.of_single {kind : SequenceKind} (hkind : kind = .list ∨ kind = .tuple)
    (i : Identity) (node : Value) :
    of (.sequence kind i [node]) = .ok (ofNode node, some node) := by
  rcases hkind with rfl | rfl <;> rfl

namespace Compiler

variable {c : Compiler} {kind : SequenceKind} {node : Value} {s t : State}

/-- An event tells the kind that was found for the clauses, whatever else there is to tell. -/
theorem clauseKind_of_event {clauses : Value} {found : ClauseKind} {single : Option Value}
    (hfound : ClauseKind.of clauses = .ok (found, single)) {started : Binary64}
    {outcome : Except Failure Compiled} {e : Event}
    (h : (c.event clauses started outcome).exec s = (.ok e, t)) :
    e.clauseKind = .text found.name := by
  unfold event circumstances at h
  rw [hfound] at h
  obtain ⟨⟨_, _, _⟩, _, hcirc, h⟩ := Run.exec_bind_eq_ok h
  rw [Run.exec_lift_bind_ok] at hcirc
  obtain ⟨table, _, _, hcirc⟩ := Run.exec_bind_eq_ok hcirc
  obtain ⟨m, _, _, hcirc⟩ := Run.exec_bind_eq_ok hcirc
  obtain ⟨entries, _, _, hcirc⟩ := Run.exec_bind_eq_ok hcirc
  cases hcirc
  cases h
  cases outcome <;> rfl

theorem agreesWithDispatch_iff {e : Event} {result : Except Raised Query}
    (hdispatch : c.DispatchesByName node) (hclass : e.NamesClass node)
    (hraised : dispatch c.name c.handlers node = .error (.noHandler node.typeName c.name) →
      ∃ raised, result = .error raised ∧ raised.failure.kind = .notImplemented) :
    e.AgreesWithDispatch c node result ↔ node.IsNamedForClass := by
  constructor
  · intro h
    exact ⟨hdispatch.raw.symm.trans (h.raw.symm.trans hclass.raw),
      hdispatch.rule.symm.trans (h.rule.symm.trans hclass.rule)⟩
  · intro h
    refine ⟨hclass.raw.trans (h.raw.symm.trans hdispatch.raw.symm),
      hclass.rule.trans (h.rule.symm.trans hdispatch.rule.symm), hclass.unknown.trans ?_⟩
    constructor
    · rintro ⟨hnotRaw, hnotRule⟩
      have hunhandled := hdispatch.unhandled.2 ⟨mt h.raw.1 hnotRaw, mt h.rule.1 hnotRule⟩
      refine ⟨fun handler => ?_, hraised hunhandled⟩
      rw [hunhandled]
      nofun
    · rintro ⟨hnone, -⟩
      exact ⟨fun hraw => hnone .raw (hdispatch.raw.2 (h.raw.2 hraw)),
        fun hrule => hnone .rule (hdispatch.rule.2 (h.rule.2 hrule))⟩

section Compile

variable {o : Observer} (hkind : kind = .list ∨ kind = .tuple) (i : Identity)
include hkind

theorem compile_unhandled
    (h : dispatch c.name c.handlers node = .error (.noHandler node.typeName c.name)) :
    ∃ second, (c.compile (.sequence kind i [node]) s).1 =
      .error ⟨.noHandler node.typeName c.name, second⟩ := by
  refine compile_of_attempt_error ?_
  rw [attempt_single hkind]
  unfold compileClause
  rw [h]
  rfl

/-- The event of a single clause can be built if the metadata can be copied, and a rule clause has a
table to tell of. -/
theorem exists_event_of_single {m : Value} {entries : List (Value × Value)}
    (hm : c.metadata = .ok m) (hcopies : s.Copies m entries)
    (htable : node.nodeClass? = some .rule → ∃ table, node.attribute "table" = .ok table)
    (started : Binary64) (outcome : Except Failure Compiled) :
    ∃ e, (c.event (.sequence kind i [node]) started outcome).exec s = (.ok e, s.tick) := by
  have hfound := ClauseKind.of_single hkind i node
  obtain ⟨table, htold⟩ : ∃ table, tableOf (ClauseKind.ofNode node) (some node) = .ok table := by
    unfold ClauseKind.ofNode
    split
    · exact ⟨.null, rfl⟩
    · exact htable ‹_›
    · exact ⟨.null, rfl⟩
  exact ⟨_, exec_event hfound htold hm hcopies started outcome⟩

/-- **An event tells what a clause is, and its class's name how it was compiled.**  For any value in
the place of a single clause the event names the class of clauses that it is an instance of, while
it is compiled by the handler that bears the name of its class, or refused.  The two agree just if
its class bears the name of a class of clauses exactly when it is derived from it. -/
theorem compile_classified (hobserver : c.observer = .ok (some o)) (hhandlers : c.HasOwnHandlers)
    (node : Value) (s : State) :
    let clauses := Value.sequence kind i [node]
    let attempted := (c.attempt clauses).exec s.tick
    let result := (c.compile clauses s).1
    c.DispatchesByName node ∧
    (node.typeName ≠ NodeClass.raw.name → node.typeName ≠ NodeClass.rule.name →
      ∃ second, result = .error ⟨.noHandler node.typeName c.name, second⟩) ∧
    (node.IsClause → node.IsNamedForClass) ∧
    (∀ m entries, c.metadata = .ok m → s.Copies m entries →
      (node.nodeClass? = some .rule → ∃ table, node.attribute "table" = .ok table) →
      ∃ e, (c.event clauses s.clock.read.1 attempted.1).exec attempted.2 =
        (.ok e, attempted.2.tick)) ∧
    ∀ e t, (c.event clauses s.clock.read.1 attempted.1).exec attempted.2 = (.ok e, t) →
      c.compile clauses s =
        (settle attempted.1 ((o.deliver e).exec t).1, ((o.deliver e).exec t).2) ∧
      e.NamesClass node ∧ (e.AgreesWithDispatch c node result ↔ node.IsNamedForClass) := by
  intro clauses attempted result
  have hdispatch := hhandlers.dispatchesByName node
  refine ⟨hdispatch, fun hraw hrule => ?_, Value.IsClause.isNamedForClass,
    fun m entries hm hcopies htable => ?_, fun e t hbuilt => ?_⟩
  · exact compile_unhandled hkind i (hdispatch.unhandled.2 ⟨hraw, hrule⟩)
  · have hworks : State.Works s.tick attempted.2 := c.moves_attempt clauses s.tick
    have hcopies' : attempted.2.Copies m entries := hcopies.of_attributes hworks.attributes_eq
    exact exists_event_of_single hkind i hm hcopies' htable _ _
  · have hclass := Event.namesClass_of_eq
      (clauseKind_of_event (ClauseKind.of_single hkind i node) hbuilt)
    refine ⟨?_, hclass, agreesWithDispatch_iff hdispatch hclass fun hunhandled => ?_⟩
    · have hreport := report_sequence hobserver kind i [node] s.clock.read.1 attempted.1
      rw [compile_eq]
      dsimp only
      rw [hreport, Run.exec_bind_ok hbuilt]
    · obtain ⟨second, hfailed⟩ := compile_unhandled (s := s) hkind i hunhandled
      exact ⟨_, hfailed, rfl⟩

end Compile

/-- An object that is no clause, whose class bears the name of that of rule clauses, is compiled as
one although its event does not know what it is. -/
theorem compile_classified_namesake :
    let row : Value := .mapping .plain 3 [(.text "a", .int 1)]
    let node : Value := .record (.derived "RuleInsertClauseNode" .clause 1) 2
      [("table", .text "t"), ("values", row)]
    let c := { Options.standard with observer := some (.leaf .record) }.compiler
    let s := State.initial ⟨[], none, ⟨⟨2026, 1, 1⟩, 0, 0, 0, 0⟩⟩
    let clauses := Value.sequence .list 0 [node]
    let attempted := (c.attempt clauses).exec s.tick
    ∃ e, (c.event clauses s.clock.read.1 attempted.1).exec attempted.2 =
        (.ok e, attempted.2.tick) ∧
      e.clauseKind = .text "unknown" ∧ dispatch c.name c.handlers node = .ok .rule ∧
      ¬ e.AgreesWithDispatch c node (c.compile clauses s).1 := by
  intro row node c s clauses attempted
  obtain ⟨hdispatch, -, -, hbuilds, hevents⟩ :=
    compile_classified (c := c) (.inl rfl) 0 rfl (fun _ => rfl) node s
  obtain ⟨entries, hcopies⟩ : ∃ entries, s.Copies (.mapping .plain 0 []) entries :=
    State.exists_copies rfl rfl
  obtain ⟨e, he⟩ := hbuilds _ entries rfl hcopies nofun
  obtain ⟨-, hclass, hagrees⟩ := hevents e _ he
  refine ⟨e, he, hclass.unknown.2 ⟨nofun, nofun⟩, hdispatch.rule.2 rfl, fun h => ?_⟩
  cases (hagrees.1 h).rule.1 rfl

/-- A clause of a class derived from that of raw clauses, with a name of its own, is refused for
want of a handler, and the only event calls it a raw clause. -/
theorem compile_classified_derived :
    let node : Value := .record (.derived "MyRaw" .raw 1) 2
      [("sql", .text "x"), ("bindings", .list [.int 1])]
    let c := { Options.standard with observer := some (.leaf .record) }.compiler
    let s := State.initial ⟨[], none, ⟨⟨2026, 1, 1⟩, 0, 0, 0, 0⟩⟩
    let after := c.compile (.list [node]) s
    after.1 = .error ⟨.noHandler "MyRaw" "InsertCompiler", none⟩ ∧
      ∃ e, after.2.journal.events = [e] ∧ e.clauseKind = .text "raw" ∧
        (∀ handler, dispatch c.name c.handlers node ≠ .ok handler) ∧
        ¬ e.AgreesWithDispatch c node after.1 := by
  intro node c s after
  have hunhandled : dispatch c.name c.handlers node =
      .error (.noHandler "MyRaw" "InsertCompiler") := rfl
  refine ⟨rfl, _, rfl, rfl, fun handler => ?_, fun h => ?_⟩
  · rw [hunhandled]
    nofun
  · have hraw := h.raw.1 rfl
    rw [hunhandled] at hraw
    cases hraw

end Compiler

end RowInsert
