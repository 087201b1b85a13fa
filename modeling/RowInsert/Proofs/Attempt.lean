import RowInsert.Proofs.Observation
import RowInsert.Proofs.Rule

/-!
# What an attempt does

* `Compiler.moves_attempt` : an attempt reads streams and calls collaborators, and changes nothing
  else, whatever clauses it is made on and however it ends.
* `Compiler.attempt_none`, `Compiler.attempt_several` and `Compiler.attempt_single` take an attempt
  apart by the number of clauses.
* `Compiler.compiled_of_raw` and `Compiler.compiled_of_rule` say what a successful attempt on a
  clause of either kind has compiled.
-/

namespace RowInsert

namespace State

/-- The state after these calls of collaborators. -/
def called (s : State) (calls : List Call) : State :=
  { s with journal := { s.journal with calls := s.journal.calls ++ calls } }

theorem called_nil (s : State) : s.called [] = s := by
  simp only [called, List.append_nil]

theorem called_called (s : State) (calls more : List Call) :
    (s.called calls).called more = s.called (calls ++ more) := by
  simp only [called, List.append_assoc]

/-- Streams may have been read and collaborators called, and nothing else has happened. -/
def Works (s t : State) : Prop := ∃ streams calls, t = { s with streams := streams }.called calls

instance : Std.Refl Works := ⟨fun s => ⟨s.streams, [], (called_nil s).symm⟩⟩

instance : IsTrans State Works := ⟨by
  rintro s t u ⟨_, calls, rfl⟩ ⟨streams, more, rfl⟩
  refine ⟨streams, calls ++ more, ?_⟩
  rw [← called_called]
  rfl⟩

theorem Reads.works {s t : State} (h : Reads s t) : Works s t := by
  obtain ⟨streams, rfl⟩ := h
  exact ⟨streams, [], (called_nil _).symm⟩

theorem works_called (s : State) (call : Call) : s.Works (s.called [call]) :=
  ⟨s.streams, [call], rfl⟩

section Works

variable {s t : State}

theorem Works.events_eq (h : Works s t) : t.journal.events = s.journal.events := by
  obtain ⟨_, _, rfl⟩ := h
  rfl

theorem Works.metrics_eq (h : Works s t) : t.journal.metrics = s.journal.metrics := by
  obtain ⟨_, _, rfl⟩ := h
  rfl

theorem Works.clock_eq (h : Works s t) : t.clock = s.clock := by
  obtain ⟨_, _, rfl⟩ := h
  rfl

theorem Works.attributes_eq (h : Works s t) : t.attributes = s.attributes := by
  obtain ⟨_, _, rfl⟩ := h
  rfl

end Works

end State

/-! ### Clauses -/

namespace Value

/-- A raw clause with the fields that its constructor gives it. -/
def rawClause (i : Identity) (sql bindings : Value) : Value :=
  .record .raw i [("sql", sql), ("bindings", bindings)]

/-- A rule clause with the fields that its constructor gives it. -/
def ruleClause (i : Identity) (table values : Value) : Value :=
  .record .rule i [("table", table), ("values", values)]

end Value

namespace Clauses

variable {kind : SequenceKind} (hkind : kind = .list ∨ kind = .tuple) (i : Identity)
include hkind

theorem size_sequence (items : List Value) : size (.sequence kind i items) = .ok items.length := by
  rcases hkind with rfl | rfl <;> rfl

theorem first_sequence (v : Value) (rest : List Value) :
    first (.sequence kind i (v :: rest)) = .ok v := by
  rcases hkind with rfl | rfl <;> rfl

end Clauses

/-! ### Steps of an attempt -/

namespace Run

theorem moves_readAll (v : Value) : (readAll v).Moves State.Reads := by
  unfold readAll
  split
  · exact (onlyReads_readStream none _ _ _).moves
  · exact moves_require _ _

theorem moves_readUpTo (limit : Nat) (v : Value) : (readUpTo limit v).Moves State.Reads := by
  unfold readUpTo
  split
  · exact (onlyReads_readStream (some limit) _ _ _).moves
  · exact moves_require _ _

end Run

namespace Rows

theorem moves_read (settings : Except Failure Settings) (values : Value) :
    (read settings values).Moves State.Reads := by
  unfold read
  split
  · exact Run.moves_pure _
  · split
    · exact Run.moves_throw _
    · refine Run.Moves.bind (Run.moves_lift _) fun n => ?_
      exact Run.moves_readUpTo n values

theorem moves_readBounded (settings : Except Failure Settings) (values : Value) :
    (readBounded settings values).Moves State.Reads := by
  unfold readBounded
  refine Run.Moves.bind (moves_read settings values) fun rows => ?_
  exact Run.moves_lift _

end Rows

namespace Compiler

variable {c : Compiler} {clauses : Value} {s : State}

theorem moves_rawParams (bindings : Value) : (rawParams bindings).Moves State.Reads := by
  unfold rawParams
  split
  · exact Run.moves_pure _
  · split
    · exact Run.moves_throw _
    · refine Run.Moves.bind (Run.moves_lift _) fun _ => ?_
      exact Run.moves_readAll bindings

theorem moves_compileRaw (node : Value) : (compileRaw node).Moves State.Reads := by
  unfold compileRaw
  refine Run.Moves.bind (Run.moves_lift _) fun bindings => ?_
  refine Run.Moves.bind (moves_rawParams bindings) fun params => ?_
  refine Run.Moves.bind (Run.moves_lift _) fun sql => ?_
  exact Run.moves_pure _

/-- What is left to do for a rule clause once its rows have been read. -/
def insertRows (c : Compiler) (node : Value) (rows : List Value) : Run Compiled := do
  let columns ← Run.lift (Columns.ofRows rows)
  if columns.isEmpty then throw .noColumns
  let (quotedTable, quotedColumns) ← c.quoteNames node columns
  let sql ← Run.lift (Statement.ofValues quotedTable quotedColumns rows.length)
  return ⟨⟨.text sql, cells rows columns⟩, some rows.length, some columns.length⟩

theorem compileRule_eq (c : Compiler) (node : Value) :
    c.compileRule node =
      Run.lift (node.attribute "values") >>= fun values =>
        Rows.readBounded c.settings values >>= c.insertRows node := rfl

section Rule

variable {R : State → State → Prop} [Std.Refl R] [IsTrans State R]
variable (hcalls : ∀ s call, R s (s.called [call]))
include hcalls

theorem moves_quote (c : Compiler) (v : Value) : (c.quote v).Moves R := by
  unfold quote
  refine Run.Moves.bind (fun s => hcalls s (.quote v)) fun _ => ?_
  exact Run.moves_lift _

theorem moves_quoteNames (c : Compiler) (node : Value) (columns : List Column) :
    (c.quoteNames node columns).Moves R := by
  unfold quoteNames
  refine Run.Moves.bind (Run.moves_lift _) fun table => ?_
  refine Run.Moves.bind (moves_quote hcalls c table) fun quotedTable => ?_
  refine Run.Moves.bind ?_ fun quotedColumns => ?_
  · exact Run.Moves.mapM (fun column : Column => moves_quote hcalls c column.toValue) columns
  · exact Run.moves_pure _

/-- Once the rows of a rule clause have been read, collaborators are called and nothing else
happens. -/
theorem moves_insertRows (c : Compiler) (node : Value) (rows : List Value) :
    (c.insertRows node rows).Moves R := by
  unfold insertRows
  refine Run.Moves.bind (Run.moves_lift _) fun columns => ?_
  cases columns.isEmpty with
  | true => exact Run.moves_throw _
  | false =>
    refine Run.Moves.bind (moves_quoteNames hcalls c node columns) fun names => ?_
    refine Run.Moves.bind (Run.moves_lift _) fun sql => ?_
    exact Run.moves_pure _

/-- Whatever compiling a rule clause does to the state is made of reading its rows and calling
collaborators. -/
theorem moves_compileRule (c : Compiler) {node : Value}
    (hreads : ∀ values, node.attribute "values" = .ok values →
      (Rows.readBounded c.settings values).Moves R) :
    (c.compileRule node).Moves R := by
  rw [compileRule_eq]
  refine Run.Moves.lift_bind fun values hvalues => ?_
  refine Run.Moves.bind (hreads values hvalues) fun rows => ?_
  exact moves_insertRows hcalls c node rows

theorem moves_checked (c : Compiler) (compiled : Compiled) : (c.checked compiled).Moves R := by
  unfold checked validate
  split
  · exact Run.moves_pure _
  · refine Run.Moves.bind ?_ fun query => ?_
    · refine Run.Moves.bind (fun s => hcalls s (.validate compiled.query)) fun _ => ?_
      exact Run.moves_lift _
    · exact Run.moves_pure _

end Rule

theorem moves_compileClause (c : Compiler) (node : Value) :
    (c.compileClause node).Moves State.Works := by
  unfold compileClause
  refine Run.Moves.bind (Run.moves_lift _) fun handler => ?_
  cases handler with
  | raw => exact (moves_compileRaw node).mono fun _ _ h => h.works
  | rule =>
    refine moves_compileRule State.works_called c fun values _ => ?_
    exact (Rows.moves_readBounded c.settings values).mono fun _ _ h => h.works
  | value v => exact Run.moves_lift _

/-- An attempt reads streams and calls collaborators, and changes nothing else. -/
theorem moves_attempt (c : Compiler) (clauses : Value) : (c.attempt clauses).Moves State.Works := by
  unfold attempt attemptBy
  refine Run.Moves.bind (Run.moves_lift _) fun n => ?_
  split
  · exact Run.moves_pure _
  · split
    · exact Run.moves_throw _
    · refine Run.Moves.bind (Run.moves_lift _) fun node => ?_
      refine Run.Moves.bind (c.moves_compileClause node) fun compiled => ?_
      exact moves_checked State.works_called c compiled

/-! ### Attempts on lists of clauses -/

section Sequence

variable {kind : SequenceKind} (hkind : kind = .list ∨ kind = .tuple) (i : Identity)
include hkind

theorem attempt_none : c.attempt (.sequence kind i []) = pure ⟨.empty, none, none⟩ := by
  rcases hkind with rfl | rfl <;> rfl

theorem attempt_several {items : List Value} (h : 1 < items.length) :
    c.attempt (.sequence kind i items) = throw .severalClauses := by
  have hne : items.length ≠ 0 := by omega
  unfold attempt attemptBy
  rw [Clauses.size_sequence hkind]
  change (if items.length = 0 then _ else _) = _
  rw [if_neg hne, if_pos h]
  rfl

theorem attempt_single (v : Value) :
    c.attempt (.sequence kind i [v]) = c.compileClause v >>= c.checked :=
  attempt_one (Clauses.size_sequence hkind i [v]) (Clauses.first_sequence hkind i v [])

end Sequence

theorem compileClause_unknown {v : Value} (h : c.handlers v.typeName = none) :
    c.compileClause v = throw (.noHandler v.typeName c.name) := by
  unfold compileClause dispatch
  rw [h]
  rfl

theorem compileClause_raw (h : c.handlers NodeClass.raw.name = some .raw) (j : Identity)
    (sql bindings : Value) :
    c.compileClause (.rawClause j sql bindings) =
      rawParams bindings >>= fun params => pure ⟨⟨sql, params⟩, none, none⟩ := by
  have hd : dispatch c.name c.handlers (.rawClause j sql bindings) = .ok .raw := dispatch_ok h
  unfold compileClause
  rw [hd]
  rfl

theorem compileClause_rule (h : c.handlers NodeClass.rule.name = some .rule) (j : Identity)
    (table values : Value) :
    c.compileClause (.ruleClause j table values) =
      c.compileRule (.ruleClause j table values) := by
  have hd : dispatch c.name c.handlers (.ruleClause j table values) = .ok .rule := dispatch_ok h
  unfold compileClause
  rw [hd]
  rfl

/-! ### Successful attempts -/

section Compiled

variable {kind : SequenceKind} (hkind : kind = .list ∨ kind = .tuple) {i j : Identity}
variable (hvalidator : ∀ q q', c.validator q = .ok q' → q' = q) {compiled : Compiled}
include hkind hvalidator

theorem compiled_of_raw (hraw : c.handlers NodeClass.raw.name = some .raw) {sql bindings : Value}
    (h : ((c.attempt (.sequence kind i [.rawClause j sql bindings])).exec s).1 = .ok compiled) :
    ∃ params, compiled = ⟨⟨sql, params⟩, none, none⟩ := by
  rw [attempt_single hkind, compileClause_raw hraw, Run.fst_exec_bind c.yields_checked,
    Run.fst_exec_bind fun params => Run.yields_pure _] at h
  obtain ⟨first, hfirst, hvalidated⟩ := bind_ok h
  obtain ⟨params, -, hparams⟩ := bind_ok hfirst
  cases hparams
  exact ⟨params, eq_of_validated_ok hvalidator hvalidated⟩

theorem compiled_of_rule (hrule : c.handlers NodeClass.rule.name = some .rule)
    {table values : Value}
    (h : ((c.attempt (.sequence kind i [.ruleClause j table values])).exec s).1 = .ok compiled) :
    ∃ (rows : List Value) (columns : List Column) (tableText : String) (names : List String),
      rows ≠ [] ∧ columns ≠ [] ∧
      compiled = ⟨⟨.text (Statement.render tableText names rows.length), cells rows columns⟩,
        some rows.length, some columns.length⟩ := by
  have hclauses := Clauses.holdRule_sequence hkind i j table values
  obtain ⟨hne, hinserted⟩ := insertInto_of_attempt_ok hrule hvalidator hclauses h
  obtain ⟨-, hcolumns, tableText, names, -, -, hcompiled⟩ := insertInto_eq_ok hinserted
  exact ⟨_, _, tableText, names, hne, hcolumns, hcompiled⟩

end Compiled

end Compiler

end RowInsert
