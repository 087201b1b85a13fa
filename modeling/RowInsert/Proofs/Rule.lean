import RowInsert.Collaborators
import RowInsert.Proofs.Columns
import RowInsert.Proofs.Rows

/-!
# Compiling a rule clause

* `Compiler.insertInto` is what becomes of rows once they have been read, as a function of the
  compiler and the rows alone, and `Compiler.attempt_rule` says that an attempt on a rule clause is
  the reading of its rows and then this.
* `Compiler.insertInto_ok` says what it is when it succeeds.
* `Compiler.compile_rule_binds` : whatever is bound to a placeholder is the value of its row in its
  column.
-/

namespace RowInsert

/-! ### Clauses -/

/-- The list has just one clause, which is a rule clause for these rows of this table. -/
structure Clauses.HoldRule (clauses table values : Value) : Prop where
  size : Clauses.size clauses = .ok 1
  rule : ∃ node, Clauses.first clauses = .ok node ∧ node.typeName = NodeClass.rule.name ∧
    node.attribute? "table" = some table ∧ node.attribute? "values" = some values

theorem Clauses.holdRule_sequence {kind : SequenceKind} (h : kind = .list ∨ kind = .tuple)
    (i j : Identity) (table values : Value) :
    HoldRule (.sequence kind i [.record .rule j [("table", table), ("values", values)]])
      table values := by
  rcases h with rfl | rfl
  · exact ⟨rfl, _, rfl, rfl, rfl, rfl⟩
  · exact ⟨rfl, _, rfl, rfl, rfl, rfl⟩

theorem dispatch_ok {α : Type} {visitor : String} {methods : String → Option α} {node : Value}
    {method : α} (h : methods node.typeName = some method) :
    dispatch visitor methods node = .ok method := by
  simp only [dispatch, h]

theorem Value.attribute_ok {v x : Value} {name : String} (h : v.attribute? name = some x) :
    v.attribute name = .ok x := by
  simp only [Value.attribute, h]

/-! ### Collaborators -/

/-- Between marks that are texts, every text that is an identifier can be quoted. -/
theorem Delimiters.quote_eq {d : Delimiters} {opening closing : String}
    (hopening : d.opening.text? = some opening) (hclosing : d.closing.text? = some closing)
    {v : Value} {name : String} (hv : v.text? = some name) :
    d.quote v = (Identifier.check name).map fun _ => .text (String.ofList
      (Identifier.enquote opening.toList closing.toList name.toList)) := by
  unfold Delimiters.quote
  simp only [hv, Delimiters.closingText, hclosing, Value.plain_of_text? hopening]
  cases Identifier.check name <;> rfl

theorem Delimiters.quote_of_notText {d : Delimiters} {v : Value} (hv : v.isText = false) :
    d.quote v = .error (.identifierNotText v.typeName) := by
  have hnone : v.text? = none := by simpa [Value.isText] using hv
  simp only [Delimiters.quote, hnone]

/-- The marks are these texts. -/
structure Delimiters.AreTexts (d : Delimiters) (opening closing : String) : Prop where
  opening_eq : d.opening.text? = some opening
  closing_eq : d.closing.text? = some closing

/-- Whatever is quoted between marks that are texts is an identifier, and stands between them. -/
theorem Delimiters.AreTexts.quote_ok {d : Delimiters} {opening closing : String}
    (hd : d.AreTexts opening closing) {v r : Value} (h : d.quote v = .ok r) :
    ∃ name, v.text? = some name ∧ Identifier.check name = .ok () ∧
      r = .text (String.ofList (Identifier.enquote opening.toList closing.toList name.toList)) := by
  cases hname : v.text? with
  | none =>
    rw [Delimiters.quote_of_notText (by rw [Value.isText, hname]; rfl)] at h
    cases h
  | some name =>
    rw [Delimiters.quote_eq hd.opening_eq hd.closing_eq hname] at h
    cases hcheck : Identifier.check name with
    | error f =>
      rw [hcheck] at h
      cases h
    | ok _ =>
      rw [hcheck] at h
      cases h
      exact ⟨name, rfl, hcheck, rfl⟩

theorem AllowedTypes.eq_of_validate {a : AllowedTypes} {q r : Query} (h : a.validate q = .ok r) :
    r = q := by
  obtain ⟨_, -, h⟩ := bind_ok h
  exact (Except.ok.inj h).symm

/-! ### Lists of outcomes -/

theorem forall₂_trans {α β γ : Type} {R : α → β → Prop} {S : β → γ → Prop} {l : List α}
    {m : List β} {r : List γ} (hR : List.Forall₂ R l m) (hS : List.Forall₂ S m r) :
    List.Forall₂ (fun a c => ∃ b, R a b ∧ S b c) l r := by
  induction hR generalizing r with
  | nil =>
    cases hS
    exact .nil
  | cons hab _ ih =>
    obtain ⟨c, r, hbc, hrest, rfl⟩ := List.forall₂_cons_left_iff.1 hS
    exact .cons ⟨_, hab, hbc⟩ (ih hrest)

theorem Statement.textsFrom_ok {position : Nat} {l : List Value} {names : List String}
    (h : textsFrom position l = .ok names) :
    List.Forall₂ (fun v t => v.text? = some t) l names := by
  induction l generalizing position names with
  | nil =>
    cases h
    exact .nil
  | cons v l ih =>
    unfold textsFrom at h
    cases hv : v.text? with
    | none => simp only [hv, reduceCtorEq] at h
    | some t =>
      simp only [hv] at h
      cases hrest : textsFrom (position + 1) l with
      | error e => rw [hrest] at h; cases h
      | ok rest =>
        rw [hrest] at h
        cases h
        exact .cons hv (ih hrest)

theorem Statement.textsFrom_map {α : Type} {l : List α} {g : α → Value} {t : α → String}
    (h : ∀ x ∈ l, (g x).text? = some (t x)) (position : Nat) :
    textsFrom position (l.map g) = .ok (l.map t) := by
  induction l generalizing position with
  | nil => rfl
  | cons x l ih =>
    obtain ⟨hx, hl⟩ := List.forall_mem_cons.1 h
    simp only [List.map_cons, textsFrom, hx, ih hl]
    rfl

namespace Compiler

variable {c : Compiler} {clauses table values : Value} {rows : List Value}

/-! ### From rows to a query -/

/-- The quoted table and columns. -/
def quotedNames (c : Compiler) (table : Value) (columns : List Column) :
    Except Failure (Value × List Value) := do
  let quotedTable ← c.quoter table
  let quotedColumns ← columns.mapM fun column => c.quoter column.toValue
  .ok (quotedTable, quotedColumns)

/-- The query that inserts rows into these columns of a table. -/
def insertColumns (c : Compiler) (table : Value) (rows : List Value) (columns : List Column) :
    Except Failure Compiled :=
  if columns.isEmpty then .error .noColumns
  else do
    let names ← c.quotedNames table columns
    let sql ← Statement.ofValues names.1 names.2 rows.length
    .ok ⟨⟨.text sql, cells rows columns⟩, some rows.length, some columns.length⟩

/-- The query that inserts rows into a table. -/
def insertInto (c : Compiler) (table : Value) (rows : List Value) : Except Failure Compiled :=
  Columns.ofRows rows >>= c.insertColumns table rows

/-- A compiled clause, with its query as the validator leaves it if there is something to bind. -/
def validated (c : Compiler) (compiled : Compiled) : Except Failure Compiled :=
  if compiled.query.params.isEmpty then .ok compiled
  else do
    let query ← c.validator compiled.query
    .ok { compiled with query := query }

/-- What an attempt on a rule clause comes to. -/
def ruleOutcome (c : Compiler) (table values : Value) (s : State) : Except Failure Compiled :=
  (((Rows.readBounded c.settings values).exec s).1 >>= c.insertInto table) >>= c.validated

/-- The names are quoted with notes only. -/
theorem yields_quoteNames {node : Value} (h : node.attribute? "table" = some table)
    (columns : List Column) :
    (c.quoteNames node columns).Yields (c.quotedNames table columns) := by
  unfold quoteNames
  rw [Value.attribute_ok h]
  apply Run.Yields.lift_bind
  apply Run.Yields.bind (c.yields_quote table)
  intro quotedTable
  apply Run.Yields.bind
  · apply Run.Yields.mapM
    intro column
    exact c.yields_quote column.toValue
  · intro quotedColumns
    exact Run.yields_pure _

/-- A rule clause is compiled by reading its rows, which decides what else happens. -/
theorem compileRule_rule {node : Value} (ht : node.attribute? "table" = some table)
    (hv : node.attribute? "values" = some values) (s : State) :
    ((c.compileRule node).exec s).1 =
      ((Rows.readBounded c.settings values).exec s).1 >>= c.insertInto table := by
  unfold compileRule
  rw [Value.attribute_ok hv, Run.exec_lift_bind_ok]
  -- Once the rows are read, nothing looks at the state again.
  apply Run.fst_exec_bind
  intro rows
  apply Run.Yields.bind (Run.yields_lift _)
  intro columns
  unfold insertColumns
  cases hempty : columns.isEmpty with
  | true => exact Run.yields_throw _
  | false =>
    change (c.quoteNames node columns >>= _).Yields (c.quotedNames table columns >>= _)
    apply Run.Yields.bind (yields_quoteNames ht columns)
    rintro ⟨quotedTable, quotedColumns⟩
    apply Run.Yields.bind (Run.yields_lift _)
    intro sql
    exact Run.yields_pure _

/-- The last step of an attempt: a query that binds values is validated. -/
def checked (c : Compiler) (compiled : Compiled) : Run Compiled := do
  if compiled.query.params.isEmpty then return compiled
  let query ← c.validate compiled.query
  return { compiled with query := query }

theorem yields_checked (compiled : Compiled) :
    (c.checked compiled).Yields (c.validated compiled) := by
  unfold checked validated
  cases hempty : compiled.query.params.isEmpty with
  | true => exact Run.yields_pure _
  | false =>
    change (c.validate compiled.query >>= _).Yields (c.validator compiled.query >>= _)
    apply Run.Yields.bind (c.yields_validate compiled.query)
    intro query
    exact Run.yields_pure _

/-- With one clause, both checks of their number pass by computation. -/
theorem attempt_one {node : Value} (hsize : Clauses.size clauses = .ok 1)
    (hfirst : Clauses.first clauses = .ok node) :
    c.attempt clauses = c.compileClause node >>= c.checked := by
  unfold attempt attemptBy
  rw [hsize, hfirst]
  rfl

/-- **An attempt on a rule clause is the reading of its rows, and then a function of these.** -/
theorem attempt_rule (hc : c.handlers NodeClass.rule.name = some .rule)
    (h : Clauses.HoldRule clauses table values) (s : State) :
    ((c.attempt clauses).exec s).1 = c.ruleOutcome table values s := by
  obtain ⟨hsize, node, hfirst, htype, ht, hv⟩ := h
  have hd : dispatch c.name c.handlers node = .ok .rule := dispatch_ok (htype ▸ hc)
  rw [attempt_one hsize hfirst, Run.fst_exec_bind yields_checked]
  unfold compileClause
  rw [hd, Run.exec_lift_bind_ok, compileRule_rule ht hv]
  rfl

/-! ### Successful compilations -/

/-- The quoter answers a value with this text, or with something that is written as this text. -/
def QuotesAs (c : Compiler) (v : Value) (t : String) : Prop :=
  ∃ r, c.quoter v = .ok r ∧ r.plain = .ok t

/-- Rows become a query only if they are mappings with texts as keys, of which there is one. -/
theorem insertInto_eq_ok {compiled : Compiled} (h : c.insertInto table rows = .ok compiled) :
    (∀ row ∈ rows, row.isRow = true) ∧ Columns.union rows ≠ [] ∧
      ∃ tableText names, c.QuotesAs table tableText ∧
        List.Forall₂ (fun column => c.QuotesAs column.toValue) (Columns.union rows) names ∧
        compiled = ⟨⟨.text (Statement.render tableText names rows.length),
          cells rows (Columns.union rows)⟩, some rows.length,
          some (Columns.union rows).length⟩ := by
  obtain ⟨columns, hcolumns, h⟩ := bind_ok h
  obtain ⟨hrows, rfl⟩ := Columns.ofRows_eq_ok_iff.1 hcolumns
  obtain ⟨hempty, h⟩ := guard_ok h
  obtain ⟨⟨tableValue, nameValues⟩, hnames, h⟩ := bind_ok h
  obtain ⟨sql, hsql, h⟩ := bind_ok h
  cases h
  -- What was quoted, and what its texts are.
  obtain ⟨_, htable, hnames⟩ := bind_ok hnames
  obtain ⟨_, hcolumns, hnames⟩ := bind_ok hnames
  cases hnames
  obtain ⟨tableText, hplain, hsql⟩ := bind_ok hsql
  obtain ⟨names, htexts, hsql⟩ := bind_ok hsql
  cases hsql
  have htexts := (Statement.textsFrom_ok htexts).imp fun _ _ => Value.plain_of_text?
  exact ⟨hrows, by simpa using hempty, tableText, names, ⟨tableValue, htable, hplain⟩,
    forall₂_trans (mapM_ok_iff.1 hcolumns) htexts, rfl⟩

theorem insertInto_ok {compiled : Compiled} (h : c.insertInto table rows = .ok compiled) :
    (∀ row ∈ rows, row.isRow = true) ∧ Columns.union rows ≠ [] ∧
      ∃ tableText names, c.QuotesAs table tableText ∧
        List.Forall₂ (fun column => c.QuotesAs column.toValue) (Columns.union rows) names ∧
        compiled.query = ⟨.text (Statement.render tableText names rows.length),
          cells rows (Columns.union rows)⟩ := by
  obtain ⟨hrows, hcolumns, tableText, names, htable, hnames, rfl⟩ := insertInto_eq_ok h
  exact ⟨hrows, hcolumns, tableText, names, htable, hnames, rfl⟩

/-- A query that binds values is what the validator made of it. -/
theorem validator_of_validated_ok {compiled result : Compiled}
    (hparams : compiled.query.params ≠ []) (h : c.validated compiled = .ok result) :
    c.validator compiled.query = .ok result.query := by
  unfold validated at h
  rw [if_neg (by simpa using hparams)] at h
  obtain ⟨q, hq, h⟩ := bind_ok h
  cases h
  exact hq

/-- A validator that leaves queries as they are leaves what was compiled as it is. -/
theorem eq_of_validated_ok (hvalidator : ∀ q q', c.validator q = .ok q' → q' = q)
    {compiled result : Compiled} (h : c.validated compiled = .ok result) : result = compiled := by
  unfold validated at h
  split at h
  · cases h
    rfl
  · obtain ⟨q', hq', h⟩ := bind_ok h
    cases h
    rw [hvalidator _ _ hq']

/-- An attempt on a rule clause succeeds only with all rows of its values, of which there are some,
and with what the validator makes of them. -/
theorem validated_of_attempt_ok (hc : c.handlers NodeClass.rule.name = some .rule)
    (h : Clauses.HoldRule clauses table values) {s : State} {compiled : Compiled}
    (hok : ((c.attempt clauses).exec s).1 = .ok compiled) :
    Rows.all s.streams values ≠ [] ∧
      ∃ inserted, c.insertInto table (Rows.all s.streams values) = .ok inserted ∧
        c.validated inserted = .ok compiled := by
  rw [attempt_rule hc h, ruleOutcome] at hok
  obtain ⟨inserted, hok, hvalidated⟩ := bind_ok hok
  obtain ⟨rows, hrows, hinserted⟩ := bind_ok hok
  obtain ⟨rfl, hne⟩ := Rows.readBounded_ok hrows
  exact ⟨hne, inserted, hinserted, hvalidated⟩

theorem insertInto_of_attempt_ok (hc : c.handlers NodeClass.rule.name = some .rule)
    (hvalidator : ∀ q q', c.validator q = .ok q' → q' = q)
    (h : Clauses.HoldRule clauses table values) {s : State} {compiled : Compiled}
    (hok : ((c.attempt clauses).exec s).1 = .ok compiled) :
    Rows.all s.streams values ≠ [] ∧
      c.insertInto table (Rows.all s.streams values) = .ok compiled := by
  obtain ⟨hne, inserted, hinserted, hvalidated⟩ := validated_of_attempt_ok hc h hok
  obtain rfl := eq_of_validated_ok hvalidator hvalidated
  exact ⟨hne, hinserted⟩

/-- A rule clause is compiled only from all rows of its values, of which there are some. -/
theorem insertInto_of_compile_ok (hc : c.handlers NodeClass.rule.name = some .rule)
    (hvalidator : ∀ q q', c.validator q = .ok q' → q' = q)
    (h : Clauses.HoldRule clauses table values) {s : State} {q : Query}
    (hok : (c.compile clauses s).1 = .ok q) :
    Rows.all s.streams values ≠ [] ∧
      ∃ compiled, c.insertInto table (Rows.all s.streams values) = .ok compiled ∧
        compiled.query = q := by
  obtain ⟨compiled, hattempt, rfl⟩ := attempt_of_compile_ok hok
  -- Reading the clock leaves the streams alone.
  have hstreams : s.tick.streams = s.streams := rfl
  obtain ⟨hne, hinserted⟩ := insertInto_of_attempt_ok hc hvalidator h hattempt
  rw [hstreams] at hne hinserted
  exact ⟨hne, compiled, hinserted, rfl⟩

/-- **What is bound to a placeholder is the value of its row in its column.**  A query that is the
outcome for a rule clause names the columns of the rows in their only order, has a group of
placeholders for each row, and binds to the placeholder of row `i` and column `j` what reading that
column of that row gives. -/
theorem compile_rule_binds (hc : c.handlers NodeClass.rule.name = some .rule)
    (hvalidator : ∀ q q', c.validator q = .ok q' → q' = q)
    (h : Clauses.HoldRule clauses table values) {s : State} {q : Query}
    (hok : (c.compile clauses s).1 = .ok q) :
    let rows := Rows.all s.streams values
    1 ≤ rows.length ∧ ∃ columns : List Column,
      IsColumns rows columns ∧
      (∀ names : List String, names.Pairwise (· < ·) → (∀ t, t ∈ names ↔ Rows.HasKey rows t) →
        names = columns.map Column.name) ∧
      1 ≤ columns.length ∧
      (∃ tableText names, c.QuotesAs table tableText ∧
        List.Forall₂ (fun column => c.QuotesAs column.toValue) columns names ∧
        q.sql = .text ("INSERT INTO " ++ tableText ++ " (" ++ ", ".intercalate names ++ ") VALUES "
          ++ ", ".intercalate (List.replicate rows.length
            ("(" ++ ", ".intercalate (List.replicate columns.length "?") ++ ")")))) ∧
      q.params.length = rows.length * columns.length ∧
      ∀ i (hi : i < rows.length) j (hj : j < columns.length), ∃ v,
        q.params[i * columns.length + j]? = some v ∧ rows[i].Reads columns[j].toValue v := by
  intro rows
  obtain ⟨hne, compiled, hinserted, rfl⟩ := insertInto_of_compile_ok hc hvalidator h hok
  obtain ⟨hrows, hcolumns, tableText, names, htable, hnames, hquery⟩ :=
    insertInto_ok hinserted
  have his := Columns.isColumns_union rows
  refine ⟨List.length_pos_iff.2 hne, Columns.union rows, his, fun _ => his.names_unique,
    List.length_pos_iff.2 hcolumns, ⟨tableText, names, htable, hnames, ?_⟩, ?_, ?_⟩
  · rw [hquery, hnames.length_eq]
    rfl
  · rw [hquery]
    exact length_cells rows (Columns.union rows)
  · intro i hi j hj
    refine ⟨cell rows[i] (Columns.union rows)[j], ?_, ?_⟩
    · rw [hquery]
      exact getElem?_cells hi hj
    · exact reads_cell (Value.isRow_iff.1 (hrows _ (List.getElem_mem hi))).1 _

set_option maxRecDepth 4000 in
/-- Of two rows that share no column, each has a value for every column of the other. -/
theorem compile_rule_binds_ragged :
    ∃ columns : List Column,
      IsColumns [.mapping .plain 0 [(.text "b", .int 2)],
        .mapping .plain 0 [(.text "c", .int 4), (.text "a", .int 3)]] columns ∧
      1 ≤ columns.length ∧ 6 = 2 * columns.length := by
  obtain ⟨-, columns, his, -, hpos, -, hlength, -⟩ :=
    compile_rule_binds (c := Options.standard.compiler)
      (s := State.initial ⟨[], none, ⟨⟨2026, 1, 1⟩, 0, 0, 0, 0⟩⟩)
      (q := ⟨.text "INSERT INTO \"t\" (\"a\", \"b\", \"c\") VALUES (?, ?, ?), (?, ?, ?)",
        [.null, .int 2, .null, .int 3, .null, .int 4]⟩)
      rfl (fun _ _ => AllowedTypes.eq_of_validate)
      (Clauses.holdRule_sequence (.inl rfl) 0 0 (.text "t")
        (.list [.mapping .plain 0 [(.text "b", .int 2)],
          .mapping .plain 0 [(.text "c", .int 4), (.text "a", .int 3)]])) rfl
  exact ⟨columns, his, hpos, hlength⟩

end Compiler

end RowInsert
