import Mathlib.Data.List.Find
import Mathlib.Data.List.FinRange
import RowInsert.Proofs.Precedence
import RowInsert.Proofs.Reporting

/-!
# What a statement does not depend on

* `Compiler.statement` is the statement for a table, the names of columns and a number of rows, and
  `Compiler.insertInto_eq` says that rows decide nothing else of it: their values go to the
  parameters.
* `cells_congr` : rows are read alike in columns of the same names, whichever of their keys these
  are.
* `Compiler.ruleOutcome_perm` and `Compiler.compile_perm` : rows in another order are compiled just
  if they are compiled as they stand.
* `Compiler.compile_rule_independent` puts the two together.
-/

namespace RowInsert

/-! ### Quoters that look at characters alone -/

/-- A text is quoted by its characters, whichever object it is. -/
def Quoter.ReadsTexts (quoter : Quoter) : Prop :=
  ∀ v w t, v.text? = some t → w.text? = some t → quoter v = quoter w

theorem Delimiters.readsTexts (d : Delimiters) : Quoter.ReadsTexts d.quote := by
  intro v w t hv hw
  simp only [quote, hv, hw]

/-! ### Rows decide names -/

namespace Compiler

/-- The statement for a table and the names of its columns, with so many rows. -/
def statement (c : Compiler) (table : Value) (names : List String) (rows : Nat) :
    Except Failure String :=
  if names.isEmpty then .error .noColumns
  else do
    let quotedTable ← c.quoter table
    let quotedColumns ← names.mapM fun name => c.quoter (.text name)
    Statement.ofValues quotedTable quotedColumns rows

/-- What rows with these columns are compiled to, with the statement for them. -/
def inserted (rows : List Value) (columns : List Column) (sql : String) : Compiled :=
  ⟨⟨.text sql, cells rows columns⟩, some rows.length, some columns.length⟩

variable {c c' : Compiler} {table table' : Value} {rows : List Value} {columns : List Column}

theorem insertColumns_eq (hq : c.quoter.ReadsTexts) :
    c.insertColumns table rows columns =
      (c.statement table (columns.map Column.name) rows.length).map (inserted rows columns) := by
  have hquoted : (columns.mapM fun column => c.quoter column.toValue) =
      (columns.map Column.name).mapM fun name => c.quoter (.text name) := by
    rw [List.mapM_map]
    congr 1
    funext column
    exact hq _ _ column.name column.text?_toValue rfl
  unfold insertColumns statement quotedNames
  rw [hquoted, List.isEmpty_map]
  cases columns.isEmpty with
  | true => rfl
  | false =>
    cases c.quoter table with
    | error f => rfl
    | ok quotedTable =>
      cases (columns.map Column.name).mapM fun name => c.quoter (.text name) with
      | error f => rfl
      | ok quotedColumns =>
        change (Statement.ofValues quotedTable quotedColumns rows.length >>= _) =
          (Statement.ofValues quotedTable quotedColumns rows.length).map _
        cases Statement.ofValues quotedTable quotedColumns rows.length <;> rfl

/-- **Of rows, a statement shows the names of their columns and their number.** -/
theorem insertInto_eq (hq : c.quoter.ReadsTexts) (hrows : ∀ row ∈ rows, row.isRow = true) :
    c.insertInto table rows =
      (c.statement table ((Columns.union rows).map Column.name) rows.length).map
        (inserted rows (Columns.union rows)) := by
  rw [insertInto_of_rows hrows, insertColumns_eq hq]

theorem insertInto_eq_ok_iff (hq : c.quoter.ReadsTexts) (hrows : ∀ row ∈ rows, row.isRow = true)
    {compiled : Compiled} :
    c.insertInto table rows = .ok compiled ↔
      ∃ sql, c.statement table ((Columns.union rows).map Column.name) rows.length = .ok sql ∧
        inserted rows (Columns.union rows) sql = compiled := by
  rw [insertInto_eq hq hrows]
  cases c.statement table ((Columns.union rows).map Column.name) rows.length with
  | error f => simp [Except.map]
  | ok sql => simp [Except.map]

theorem statement_congr (hquoter : c'.quoter = c.quoter)
    (htable : c.quoter table' = c.quoter table) (names : List String) (rows : Nat) :
    c'.statement table' names rows = c.statement table names rows := by
  unfold statement
  rw [hquoter, htable]

end Compiler

theorem Columns.names_union_congr {rows rows' : List Value}
    (h : ∀ t, Rows.HasKey rows' t ↔ Rows.HasKey rows t) :
    (union rows').map Column.name = (union rows).map Column.name := by
  have his := isColumns_union rows
  have his' := isColumns_union rows'
  exact his.names_unique his'.increasing fun t => (his'.mem_iff t).trans (h t)

/-! ### Two compilations -/

/-- The list of clauses is a rule clause for these rows of this table, and compiles to this query
under a validator that leaves queries as they are. -/
structure Compiler.CompilesRule (c : Compiler) (clauses table values : Value) (s : State)
    (q : Query) : Prop where
  handled : c.handlers NodeClass.rule.name = some .rule
  unchanged : ∀ q q', c.validator q = .ok q' → q' = q
  clause : Clauses.HoldRule clauses table values
  compiled : (c.compile clauses s).1 = .ok q

namespace Compiler

variable {c c' : Compiler} {clauses clauses' table table' values values' : Value}
variable {s s' : State} {q q' : Query}

theorem CompilesRule.exists_statement (h : c.CompilesRule clauses table values s q)
    (hq : c.quoter.ReadsTexts) :
    ∃ sql, q.sql = .text sql ∧
      c.statement table ((Columns.union (Rows.all s.streams values)).map Column.name)
        (Rows.all s.streams values).length = .ok sql := by
  obtain ⟨-, compiled, hinserted, rfl⟩ :=
    insertInto_of_compile_ok h.handled h.unchanged h.clause h.compiled
  have hrows := (insertInto_ok hinserted).1
  obtain ⟨sql, hsql, rfl⟩ := (insertInto_eq_ok_iff hq hrows).1 hinserted
  exact ⟨sql, rfl, hsql⟩

/-- Two queries for equally many rows with the same keys have one statement, whatever is bound. -/
theorem CompilesRule.sql_eq (h : c.CompilesRule clauses table values s q)
    (h' : c'.CompilesRule clauses' table' values' s' q') (hquoter : c'.quoter = c.quoter)
    (hq : c.quoter.ReadsTexts) (htable : c.quoter table' = c.quoter table)
    (hlength : (Rows.all s'.streams values').length = (Rows.all s.streams values).length)
    (hkeys : ∀ t, Rows.HasKey (Rows.all s'.streams values') t ↔
      Rows.HasKey (Rows.all s.streams values) t) : q'.sql = q.sql := by
  obtain ⟨sql, hsql, hstatement⟩ := h.exists_statement hq
  have hq' : c'.quoter.ReadsTexts := by
    rw [hquoter]
    exact hq
  obtain ⟨sql', hsql', hstatement'⟩ := h'.exists_statement hq'
  rw [statement_congr hquoter htable, Columns.names_union_congr hkeys, hlength, hstatement]
    at hstatement'
  cases hstatement'
  rw [hsql, hsql']

end Compiler

/-! ### Rows in another order -/

namespace Rows

/-- The rows in the order that a permutation of their positions puts them in. -/
def permuted (rows : List Value) (σ : Equiv.Perm (Fin rows.length)) : List Value :=
  List.ofFn fun i => rows[σ i]

/-- Keys of these rows that are one object are one text: identities say which values are one object,
and no object is two texts. -/
def Coherent (rows : List Value) : Prop :=
  ∀ row ∈ rows, ∀ row' ∈ rows, ∀ key ∈ row.keys, ∀ key' ∈ row'.keys,
    key.identical key' = true → key.text? = key'.text?

variable {rows rows' : List Value}

theorem permuted_perm (rows : List Value) (σ : Equiv.Perm (Fin rows.length)) :
    (permuted rows σ).Perm rows := by
  have h := σ.ofFn_comp_perm fun i : Fin rows.length => rows[i]
  exact h.trans (List.Perm.of_eq List.ofFn_getElem)

theorem Coherent.perm (h : Coherent rows) (hperm : rows'.Perm rows) : Coherent rows' :=
  fun row hrow row' hrow' => h row (hperm.mem_iff.1 hrow) row' (hperm.mem_iff.1 hrow')

theorem hasKey_perm (hperm : rows'.Perm rows) (t : String) : HasKey rows' t ↔ HasKey rows t := by
  unfold HasKey
  simp only [hperm.mem_iff]

end Rows

theorem IsColumns.perm {rows rows' : List Value} {columns : List Column}
    (h : IsColumns rows columns) (hperm : rows'.Perm rows) : IsColumns rows' columns where
  increasing := h.increasing
  mem_iff t := (h.mem_iff t).trans (Rows.hasKey_perm hperm t).symm
  fromRows c hc := by
    obtain ⟨row, hrow, hkey⟩ := h.fromRows c hc
    exact ⟨row, hperm.mem_iff.2 hrow, hkey⟩

/-! ### Reading rows by the names of columns -/

namespace Value

variable {key sought sought' : Value} {t name : String}

/-- Two texts that are one text if they are one object are the same key just if they have the same
characters. -/
theorem held_of_text? (hkey : key.text? = some t) (hsought : sought.text? = some name)
    (hsame : key.identical sought = true → t = name) : key.held sought = decide (name = t) := by
  unfold held
  rw [same_of_text? hkey, hsought]
  cases hidentical : key.identical sought with
  | true =>
    obtain rfl := hsame hidentical
    simp
  | false => simp [beq_eq_decide]

end Value

theorem Entries.matchesKey_congr (kind : MappingKind) {key sought sought' : Value} {t name : String}
    (hkey : key.text? = some t) (hsought : sought.text? = some name)
    (hsought' : sought'.text? = some name) (hsame : key.identical sought = true → t = name)
    (hsame' : key.identical sought' = true → t = name) :
    matchesKey kind sought key = matchesKey kind sought' key := by
  have hheld : key.held sought = key.held sought' := by
    rw [Value.held_of_text? hkey hsought hsame, Value.held_of_text? hkey hsought' hsame']
  cases kind with
  | caseless => simp only [matchesKey, hkey, hsought, hsought']
  | _ => exact hheld

section Cells

variable {rows : List Value} {row : Value}

/-- A row has one value in columns of one name. -/
theorem cell_congr (hone : Rows.Coherent rows) (hrow : row ∈ rows) (hisRow : row.isRow = true)
    {c d : Column} (hc : ∃ r ∈ rows, c.toValue ∈ r.keys) (hd : ∃ r ∈ rows, d.toValue ∈ r.keys)
    (hname : c.name = d.name) : cell row c = cell row d := by
  obtain ⟨hmapping, htexts⟩ := Value.isRow_iff.1 hisRow
  obtain ⟨kind, entries, hv⟩ := Value.isMapping_iff.1 hmapping
  have hsame {e : Column} (he : ∃ r ∈ rows, e.toValue ∈ r.keys) {key : Value} {t : String}
      (hkey : key ∈ row.keys) (ht : key.text? = some t)
      (hidentical : key.identical e.toValue = true) : t = e.name := by
    obtain ⟨r, hr, hmem⟩ := he
    have htext := hone row hrow r hr key hkey _ hmem hidentical
    rw [ht, Column.text?_toValue] at htext
    exact Option.some.inj htext
  have hfind : Entries.find? kind entries c.toValue = Entries.find? kind entries d.toValue := by
    unfold Entries.find?
    congr 1
    refine List.find?_congr fun entry hentry => ?_
    have hkey : entry.1 ∈ row.keys := by
      rw [Value.keys_of_mapping hv]
      exact List.mem_map_of_mem hentry
    obtain ⟨t, ht⟩ := Option.isSome_iff_exists.1 (htexts _ hkey)
    refine Entries.matchesKey_congr kind ht c.text?_toValue ?_ (hsame hc hkey ht) fun h => ?_
    · rw [hname]
      exact d.text?_toValue
    · rw [hname]
      exact hsame hd hkey ht h
  simp only [cell, hv, hfind]

/-- **Rows are read alike in columns of the same names.** -/
theorem cells_congr (hone : Rows.Coherent rows) (hrows : ∀ row ∈ rows, row.isRow = true)
    {columns columns' : List Column} (h : IsColumns rows columns)
    (h' : IsColumns rows columns') : cells rows columns = cells rows columns' := by
  have hnames : columns.map Column.name = columns'.map Column.name :=
    h'.names_unique h.increasing h.mem_iff
  have hlength : columns.length = columns'.length := by
    simpa using congrArg List.length hnames
  unfold cells
  refine List.flatMap_congr fun row hrow => ?_
  refine List.ext_getElem (by simpa using hlength) fun j hj hj' => ?_
  rw [List.getElem_map, List.getElem_map]
  rw [List.length_map] at hj hj'
  refine cell_congr hone hrow (hrows row hrow) (h.fromRows _ (List.getElem_mem hj))
    (h'.fromRows _ (List.getElem_mem hj')) ?_
  have hname := List.getElem_of_eq hnames (i := j) (by simpa using hj)
  rwa [List.getElem_map, List.getElem_map] at hname

end Cells

/-! ### Validation in another order -/

theorem Compiler.validated_eq_ok_iff {c : Compiler} {a : AllowedTypes}
    (hvalidator : c.validator = a.validate) {compiled validated : Compiled} :
    c.validated compiled = .ok validated ↔
      validated = compiled ∧ ∀ v ∈ compiled.query.params, a.admits v = true := by
  rw [← AllowedTypes.check_eq_ok_iff]
  unfold Compiler.validated
  rw [hvalidator, AllowedTypes.validate]
  cases hparams : compiled.query.params with
  | nil =>
    simp only [List.isEmpty_nil, ↓reduceIte, Except.ok.injEq, AllowedTypes.check_nil, and_true]
    exact eq_comm
  | cons v rest =>
    simp only [List.isEmpty_cons, Bool.false_eq_true, ↓reduceIte]
    cases a.check (v :: rest) with
    | error f =>
      constructor
      · intro h
        cases h
      · rintro ⟨-, h⟩
        cases h
    | ok _ => exact ⟨fun h => ⟨(Except.ok.inj h).symm, rfl⟩, fun h => congrArg Except.ok h.1.symm⟩

/-! ### Lists of rows -/

namespace Rows

variable {settings : Except Failure Settings} {rows rows' : List Value} {s s' : State}

theorem exec_readBounded_list (i : Identity) (s : State) :
    (readBounded settings (.sequence .list i rows)).exec s =
      (settings.bind Settings.itemsToRead >>= fun n =>
        bounded settings (.sequence .list i rows) (rows.take n), s) := by
  have hwalked : isWalked (.sequence .list i rows) = true := rfl
  unfold readBounded
  rw [read_of_walked hwalked]
  cases settings.bind Settings.itemsToRead <;> rfl

theorem bounded_within {values : Value} {st : Settings} (hne : rows ≠ [])
    (h : st.exceededBy rows.length = .ok false) : bounded (.ok st) values rows = .ok rows := by
  have hempty : rows.isEmpty = false := by simpa using hne
  unfold bounded
  rw [hempty]
  change (st.exceededBy rows.length >>= _) = _
  rw [h]
  rfl

/-- Whether the limit lets a list of rows pass is a matter of its length. -/
theorem readBounded_list_congr (hlength : rows'.length = rows.length) {i : Identity}
    {got : List Value} (h : ((readBounded settings (.sequence .list i rows)).exec s).1 = .ok got)
    (i' : Identity) (s' : State) :
    ((readBounded settings (.sequence .list i' rows')).exec s').1 = .ok rows' := by
  rw [exec_readBounded_list] at h
  obtain ⟨n, hn, hbounded⟩ := bind_ok h
  obtain ⟨-, hne, st, rfl, hexceeded⟩ := bounded_ok hbounded
  have htaken : (rows'.take n).length = (rows.take n).length := by
    rw [List.length_take, List.length_take, hlength]
  have hne' : rows'.take n ≠ [] := by
    rw [← List.length_pos_iff, htaken]
    exact List.length_pos_iff.2 hne
  rw [← htaken] at hexceeded
  have hread : ((readBounded (.ok st) (.sequence .list i' rows')).exec s').1 =
      .ok (rows'.take n) := by
    rw [exec_readBounded_list, hn]
    exact bounded_within hne' hexceeded
  have hall : rows'.take n = rows' := (readBounded_ok hread).1
  rwa [hall] at hread

end Rows

namespace Compiler

variable {c : Compiler} {a : AllowedTypes} {rows rows' : List Value} {table : Value}

/-- **Rows in another order come to the same statement, and to the same values row by row,** just if
they come to one as they stand. -/
theorem ruleOutcome_perm (hq : c.quoter.ReadsTexts) (hvalidator : c.validator = a.validate)
    (hrows : ∀ row ∈ rows, row.isRow = true) (hone : Rows.Coherent rows)
    (hperm : rows'.Perm rows) {i : Identity} {s : State} {compiled : Compiled}
    (h : c.ruleOutcome table (.sequence .list i rows) s = .ok compiled) (i' : Identity)
    (s' : State) :
    ∃ sql, compiled = inserted rows (Columns.union rows) sql ∧
      c.ruleOutcome table (.sequence .list i' rows') s' =
        .ok (inserted rows' (Columns.union rows) sql) := by
  have hrows' : ∀ row ∈ rows', row.isRow = true := fun row hrow => hrows row (hperm.mem_iff.1 hrow)
  have hnames := Columns.names_union_congr (Rows.hasKey_perm hperm)
  have hcolumns : (Columns.union rows').length = (Columns.union rows).length := by
    simpa using congrArg List.length hnames
  have his := (Columns.isColumns_union rows).perm hperm
  obtain ⟨compiled, hcompiled, hvalidated⟩ := bind_ok h
  obtain ⟨got, hread, hinserted⟩ := bind_ok hcompiled
  obtain rfl : rows = got := (Rows.readBounded_ok hread).1.symm
  obtain ⟨sql, hsql, rfl⟩ := (insertInto_eq_ok_iff hq hrows).1 hinserted
  obtain ⟨rfl, hadmitted⟩ := (validated_eq_ok_iff hvalidator).1 hvalidated
  have hinserted' : c.insertInto table rows' = .ok (inserted rows' (Columns.union rows) sql) := by
    refine (insertInto_eq_ok_iff hq hrows').2 ⟨sql, ?_, ?_⟩
    · rw [hnames, hperm.length_eq, hsql]
    · unfold inserted
      rw [cells_congr (hone.perm hperm) hrows' (Columns.isColumns_union rows') his, hcolumns]
  refine ⟨sql, rfl, ?_⟩
  unfold ruleOutcome
  rw [Rows.readBounded_list_congr hperm.length_eq hread]
  change c.insertInto table rows' >>= c.validated = _
  rw [hinserted']
  refine (validated_eq_ok_iff hvalidator).2 ⟨rfl, fun v hv => hadmitted v ?_⟩
  exact (hperm.flatMap_right _).mem_iff.1 hv

end Compiler

/-! ### Compilations of rows in another order -/

/-- A list or tuple of one rule clause for a list of rows; the three objects have these
identities. -/
def Clauses.forRows (kind : SequenceKind) (i j l : Identity) (table : Value) (rows : List Value) :
    Value :=
  .sequence kind i [.ruleClause j table (.sequence .list l rows)]

theorem Clauses.holdRule_forRows {kind : SequenceKind} (hkind : kind = .list ∨ kind = .tuple)
    (i j l : Identity) (table : Value) (rows : List Value) :
    HoldRule (forRows kind i j l table rows) table (.sequence .list l rows) :=
  holdRule_sequence hkind i j table (.sequence .list l rows)

/-- The values of a row move with it. -/
theorem getElem?_cells_permuted {rows : List Value} {columns : List Column}
    (σ : Equiv.Perm (Fin rows.length)) (n : Fin rows.length) {m : Nat} (hm : m < columns.length) :
    (cells (Rows.permuted rows σ) columns)[n * columns.length + m]? =
      (cells rows columns)[σ n * columns.length + m]? := by
  have hn : (n : Nat) < (Rows.permuted rows σ).length := by
    rw [(Rows.permuted_perm rows σ).length_eq]
    exact n.isLt
  have hrow : (Rows.permuted rows σ)[(n : Nat)] = rows[σ n] := List.getElem_ofFn _
  rw [getElem?_cells hn hm, getElem?_cells (σ n).isLt hm, hrow]
  rfl

namespace Compiler

variable {c : Compiler} {a : AllowedTypes} {rows rows' : List Value} {table : Value}
variable {kind kind' : SequenceKind} {s s' : State}

/-- An attempt on a list of rows changes the journal alone. -/
theorem moves_attempt_forRows (hrule : c.handlers NodeClass.rule.name = some .rule)
    (hkind : kind = .list ∨ kind = .tuple) (i j l : Identity) (table : Value)
    (rows : List Value) :
    (c.attempt (Clauses.forRows kind i j l table rows)).Moves State.Alike := by
  unfold Clauses.forRows
  rw [attempt_single hkind, compileClause_rule hrule]
  refine Run.Moves.bind ?_ fun compiled => moves_checked State.alike_called c compiled
  refine moves_compileRule State.alike_called c fun values hvalues s => ?_
  obtain rfl : Value.sequence .list l rows = values := Except.ok.inj hvalues
  rw [Rows.exec_readBounded_list]
  exact refl_of State.Alike s

/-- Reports of two attempts that came to the same of rows in two orders end alike. -/
theorem reported_perm (hrule : c.handlers NodeClass.rule.name = some .rule)
    (hkind : kind = .list ∨ kind = .tuple) (hkind' : kind' = .list ∨ kind' = .tuple)
    (hperm : rows'.Perm rows) (hstates : c.observer = .ok none ∨ s.Alike s')
    (i i' j j' l l' : Identity) (columns : List Column) (sql : String)
    (h : ((c.report (Clauses.forRows kind i j l table rows) s.clock.read.1
        (.ok (inserted rows columns sql))).exec
      ((c.attempt (Clauses.forRows kind i j l table rows)).exec s.tick).2).1 = .ok ()) :
    ((c.report (Clauses.forRows kind' i' j' l' table rows') s'.clock.read.1
        (.ok (inserted rows' columns sql))).exec
      ((c.attempt (Clauses.forRows kind' i' j' l' table rows')).exec s'.tick).2).1 = .ok () := by
  rcases hstates with hnone | halike
  · rw [report_of_unobserved hnone]
    rfl
  · -- Both reports are one computation, from states that differ in their journals alone.
    have hrows : some rows'.length = some rows.length := congrArg some hperm.length_eq
    have hparams : (cells rows' columns).length = (cells rows columns).length :=
      (hperm.flatMap_right _).length_eq
    have hreport : c.report (Clauses.forRows kind' i' j' l' table rows') s.clock.read.1
          (.ok (inserted rows' columns sql)) =
        c.report (Clauses.forRows kind i j l table rows) s.clock.read.1
          (.ok (inserted rows columns sql)) :=
      report_rule hkind hkind' i i' j j' table (.sequence .list l rows) (.sequence .list l' rows')
        s.clock.read.1 hrows rfl hparams
    have hafter := moves_attempt_forRows hrule hkind i j l table rows s.tick
    have hafter' := moves_attempt_forRows hrule hkind' i' j' l' table rows' s'.tick
    have hboth := trans_of State.Alike hafter.symm (trans_of State.Alike halike.tick hafter')
    have hsame := (c.overlooks_report (Clauses.forRows kind i j l table rows) s.clock.read.1
      (.ok (inserted rows columns sql)) _ _ hboth).1
    rw [halike.clock_eq, hreport, ← hsame]
    exact h

theorem compile_perm (hq : c.quoter.ReadsTexts) (hvalidator : c.validator = a.validate)
    (hrule : c.handlers NodeClass.rule.name = some .rule) (hkind : kind = .list ∨ kind = .tuple)
    (hkind' : kind' = .list ∨ kind' = .tuple) (hrows : ∀ row ∈ rows, row.isRow = true)
    (hone : Rows.Coherent rows) (hperm : rows'.Perm rows)
    (hstates : c.observer = .ok none ∨ s.Alike s') {i j l : Identity} {q : Query}
    (h : (c.compile (Clauses.forRows kind i j l table rows) s).1 = .ok q) (i' j' l' : Identity) :
    ∃ sql, q = ⟨.text sql, cells rows (Columns.union rows)⟩ ∧
      (c.compile (Clauses.forRows kind' i' j' l' table rows') s').1 =
        .ok ⟨.text sql, cells rows' (Columns.union rows)⟩ := by
  obtain ⟨compiled, hattempt, hreported, rfl⟩ := compile_eq_ok_iff.1 h
  have houtcome := hattempt
  rw [attempt_rule hrule (Clauses.holdRule_forRows hkind i j l table rows)] at houtcome
  obtain ⟨sql, rfl, houtcome'⟩ :=
    ruleOutcome_perm hq hvalidator hrows hone hperm houtcome l' s'.tick
  have hattempt' : ((c.attempt (Clauses.forRows kind' i' j' l' table rows')).exec s'.tick).1 =
      .ok (inserted rows' (Columns.union rows) sql) := by
    rw [attempt_rule hrule (Clauses.holdRule_forRows hkind' i' j' l' table rows'), houtcome']
  have hreported' := reported_perm hrule hkind hkind' hperm hstates i i' j j' l l'
    (Columns.union rows) sql hreported
  exact ⟨sql, rfl, compile_eq_ok_iff.2 ⟨_, hattempt', hreported', rfl⟩⟩

/-- **A statement depends neither on what is bound nor on the order of rows.**  Under quoters that
look at the characters of texts, compilations for one table and equally many rows with the same keys
come to one statement, however the keys are spread over the rows.  Rows in another order are
compiled just if they are compiled as they stand, and the values of each row move with it. -/
theorem compile_rule_independent {quoter : Quoter} (hq : quoter.ReadsTexts) :
    (∀ {c c' : Compiler} {clauses clauses' table table' values values' : Value} {s s' : State}
      {q q' : Query} {t : String}, c.quoter = quoter → c'.quoter = quoter →
      c.CompilesRule clauses table values s q → c'.CompilesRule clauses' table' values' s' q' →
      table.text? = some t → table'.text? = some t →
      (Rows.all s'.streams values').length = (Rows.all s.streams values).length →
      (∀ key, Rows.HasKey (Rows.all s'.streams values') key ↔
        Rows.HasKey (Rows.all s.streams values) key) → q'.sql = q.sql) ∧
    ∀ {c : Compiler} {a : AllowedTypes} {kind kind' : SequenceKind} (i i' j j' l l' : Identity)
      (table : Value) (rows : List Value) (σ : Equiv.Perm (Fin rows.length)) {s s' : State},
      c.quoter = quoter → c.validator = a.validate →
      c.handlers NodeClass.rule.name = some .rule →
      (kind = .list ∨ kind = .tuple) → (kind' = .list ∨ kind' = .tuple) →
      (∀ row ∈ rows, row.isRow = true) → Rows.Coherent rows →
      (c.observer = .ok none ∨ s.Alike s') →
      let first := (c.compile (Clauses.forRows kind i j l table rows) s).1
      let second := (c.compile (Clauses.forRows kind' i' j' l' table (Rows.permuted rows σ)) s').1
      ((∃ q, first = .ok q) ↔ ∃ q', second = .ok q') ∧
      ∀ q q', first = .ok q → second = .ok q' → q'.sql = q.sql ∧
        ∃ columns, IsColumns rows columns ∧
          q.params.length = rows.length * columns.length ∧
          q'.params.length = rows.length * columns.length ∧
          ∀ (n : Fin rows.length) (m : Nat), m < columns.length →
            q'.params[n * columns.length + m]? = q.params[σ n * columns.length + m]? := by
  constructor
  · rintro c c' clauses clauses' table table' values values' s s' q q' t rfl hquoter h h' htable
      htable' hlength hkeys
    exact h.sql_eq h' hquoter hq (hq _ _ t htable' htable) hlength hkeys
  · rintro c a kind kind' i i' j j' l l' table rows σ s s' rfl hvalidator hrule hkind hkind' hrows
      hone hstates first second
    have hperm := Rows.permuted_perm rows σ
    have hrows' : ∀ row ∈ Rows.permuted rows σ, row.isRow = true :=
      fun row hrow => hrows row (hperm.mem_iff.1 hrow)
    have hstates' : c.observer = .ok none ∨ s'.Alike s := hstates.imp_right State.Alike.symm
    refine ⟨⟨?_, ?_⟩, ?_⟩
    · rintro ⟨q, hfirst⟩
      obtain ⟨sql, -, hsecond⟩ := compile_perm hq hvalidator hrule hkind hkind' hrows hone hperm
        hstates hfirst i' j' l'
      exact ⟨_, hsecond⟩
    · rintro ⟨q', hsecond⟩
      obtain ⟨sql, -, hfirst⟩ := compile_perm hq hvalidator hrule hkind' hkind hrows'
        (hone.perm hperm) hperm.symm hstates' hsecond i j l
      exact ⟨_, hfirst⟩
    · intro q q' hfirst hsecond
      obtain ⟨sql, rfl, hcompiled⟩ := compile_perm hq hvalidator hrule hkind hkind' hrows hone
        hperm hstates hfirst i' j' l'
      obtain rfl := Except.ok.inj (hsecond.symm.trans hcompiled)
      refine ⟨rfl, Columns.union rows, Columns.isColumns_union rows, length_cells _ _, ?_, ?_⟩
      · rw [length_cells, hperm.length_eq]
      · exact fun n m hm => getElem?_cells_permuted σ n hm

set_option maxRecDepth 4000 in
/-- Two rows have the statement that two others with the same keys have, and changing places they
keep their values. -/
theorem compile_rule_independent_swapped :
    let rows : List Value := [.mapping .plain 1 [(.text "b", .int 2)],
      .mapping .plain 2 [(.text "c", .int 4), (.text "a", .int 3)]]
    let others : List Value := [.mapping .plain 1 [(.text "a", .int 7), (.text "b", .int 8)],
      .mapping .plain 2 [(.text "c", .int 9)]]
    let c := Options.standard.compiler
    let s := State.initial ⟨[], none, ⟨⟨2026, 1, 1⟩, 0, 0, 0, 0⟩⟩
    ∃ q q' q'', (c.compile (Clauses.forRows .list 3 4 5 (.text "t") rows) s).1 = .ok q ∧
      (c.compile (Clauses.forRows .list 3 4 5 (.text "t") others) s).1 = .ok q' ∧
      (c.compile (Clauses.forRows .tuple 6 7 8 (.text "t")
        (Rows.permuted rows (Equiv.swap (0 : Fin 2) 1))) s).1 = .ok q'' ∧
      q'.sql = q.sql ∧ q''.sql = q.sql ∧
      q.params = [.null, .int 2, .null, .int 3, .null, .int 4] ∧
      q''.params[0]? = q.params[3]? ∧ q''.params[4]? = q.params[1]? := by
  intro rows others c s
  obtain ⟨hstatement, hpermuted⟩ := compile_rule_independent (Delimiters.readsTexts .ansi)
  have hfirst : (c.compile (Clauses.forRows .list 3 4 5 (.text "t") rows) s).1 =
      .ok ⟨.text "INSERT INTO \"t\" (\"a\", \"b\", \"c\") VALUES (?, ?, ?), (?, ?, ?)",
        [.null, .int 2, .null, .int 3, .null, .int 4]⟩ := rfl
  have hother : (c.compile (Clauses.forRows .list 3 4 5 (.text "t") others) s).1 =
      .ok ⟨.text "INSERT INTO \"t\" (\"a\", \"b\", \"c\") VALUES (?, ?, ?), (?, ?, ?)",
        [.int 7, .int 8, .null, .null, .null, .int 9]⟩ := rfl
  have hunchanged (q q' : Query) : c.validator q = .ok q' → q' = q := AllowedTypes.eq_of_validate
  have hclause (rows : List Value) := Clauses.holdRule_forRows (.inl rfl) 3 4 5 (.text "t") rows
  have hrule : c.CompilesRule _ _ _ s _ := ⟨rfl, hunchanged, hclause rows, hfirst⟩
  have hrule' : c.CompilesRule _ _ _ s _ := ⟨rfl, hunchanged, hclause others, hother⟩
  have hkeys (key : String) : Rows.HasKey others key ↔ Rows.HasKey rows key := by
    simp [Rows.HasKey, rows, others, Value.keys, Value.mapping?, Value.text?]
    tauto
  have hone : Rows.Coherent rows := by
    simp [Rows.Coherent, rows, Value.keys, Value.mapping?, Value.identical, Value.identity]
  have hunobserved : c.observer = .ok none ∨ s.Alike s := .inl rfl
  obtain ⟨⟨hcompiled, -⟩, hsame⟩ := hpermuted 3 6 4 7 5 8 (.text "t") rows
    (Equiv.swap (0 : Fin 2) 1) rfl (a := .standard) rfl rfl (.inl rfl) (.inr rfl) (by decide) hone
    hunobserved
  obtain ⟨q'', hsecond⟩ := hcompiled ⟨_, hfirst⟩
  obtain ⟨hsql, columns, -, hlength, -, hmoved⟩ := hsame _ q'' hfirst hsecond
  have hthree : columns.length = 3 := by
    change 6 = 2 * columns.length at hlength
    omega
  rw [hthree] at hmoved
  refine ⟨_, _, q'', hfirst, hother, hsecond, ?_, hsql, rfl, ?_, ?_⟩
  · exact hstatement rfl rfl hrule hrule' rfl rfl rfl hkeys
  · exact hmoved 0 0 (by decide)
  · exact hmoved 1 1 (by decide)

end Compiler

end RowInsert
