import RowInsert.Proofs.Identifiers

/-!
# Placeholders in statements

A placeholder inside a quoted identifier counts as one, so that a statement for a rule clause can
have more of them than values are bound.

* `Statement.countPlaceholders_render` counts the placeholders of a rendered statement: one for each
  row and column, and those in the names.
* `Identifier.mem_enquote` : quoting brings no characters into a name but those of its marks, and
  keeps all that are there.
* `Compiler.compile_rule_placeholders` : there are as many placeholders as values are bound just if
  no quoted name has one, which for the standard quoters is a matter of the names themselves.
-/

namespace RowInsert

/-! ### Characters of quoted names -/

namespace Identifier

theorem mem_double {mark s : List Char} {c : Char} : c ∈ double mark s ↔ c ∈ s := by
  by_cases hmark : mark = []
  · subst hmark
    rfl
  induction s using mark_induction hmark with
  | nil => rw [double_nil]
  | occurrence s ih => simp only [double_append hmark, List.mem_append, ih, or_self]
  | cons d s hd ih => rw [double_cons hd, List.mem_cons, List.mem_cons, ih]

theorem mem_enquote {opening closing s : List Char} {c : Char} :
    c ∈ enquote opening closing s ↔ (c ∈ opening ∨ c ∈ s) ∨ c ∈ closing := by
  rw [enquote, List.mem_append, List.mem_append, mem_double]

end Identifier

/-! ### Placeholders of statements -/

theorem countPlaceholders_eq_zero_iff {s : String} :
    countPlaceholders s = 0 ↔ placeholder ∉ s.toList := List.count_eq_zero

namespace Statement

theorem countPlaceholders_group (m : Nat) : countPlaceholders (group m) = m := by
  have hlist := toList_group m []
  rw [List.append_nil] at hlist
  have hcomma : ", ".toList.count placeholder = 0 := by decide
  have hmarks := count_intercalate_replicate hcomma [placeholder] m
  rw [countPlaceholders, hlist, List.count_cons, List.count_append, hmarks]
  simp [placeholder]

/-- **The placeholders of a statement** are those of its groups and those in its names. -/
theorem countPlaceholders_render (table : String) (columns : List String) (rows : Nat) :
    countPlaceholders (render table columns rows) =
      rows * columns.length + countPlaceholders table + (columns.map countPlaceholders).sum := by
  have hcomma : ", ".toList.count placeholder = 0 := by decide
  have hcolumns := count_intercalate hcomma (columns.map String.toList)
  have hgroups := count_intercalate_replicate hcomma (group columns.length).toList rows
  have hgroup : (group columns.length).toList.count placeholder = columns.length :=
    countPlaceholders_group columns.length
  rw [List.map_map] at hcolumns
  rw [hgroup] at hgroups
  rw [countPlaceholders, toList_render]
  simp only [List.count_append, hcolumns, hgroups]
  have hwords : "INSERT INTO ".toList.count placeholder = 0 ∧ " (".toList.count placeholder = 0 ∧
      ") VALUES ".toList.count placeholder = 0 := by decide
  rw [hwords.1, hwords.2.1, hwords.2.2]
  unfold countPlaceholders Function.comp
  omega

/-- There are no more placeholders than those of the groups just if no name has one. -/
theorem countPlaceholders_render_eq_iff {table : String} {columns : List String} {rows : Nat} :
    countPlaceholders (render table columns rows) = rows * columns.length ↔
      ∀ name ∈ table :: columns, placeholder ∉ name.toList := by
  have hsum : (columns.map countPlaceholders).sum = 0 ↔
      ∀ name ∈ columns, placeholder ∉ name.toList := by
    rw [List.sum_eq_zero_iff_forall_eq_nat]
    simp only [List.mem_map, forall_exists_index, and_imp, forall_apply_eq_imp_iff₂,
      countPlaceholders_eq_zero_iff]
  rw [countPlaceholders_render, List.forall_mem_cons, ← countPlaceholders_eq_zero_iff, ← hsum]
  omega

end Statement

/-! ### Placeholders of compiled clauses -/

/-- The marks of the standard quoters are texts without placeholders. -/
theorem Delimiters.exists_marks {d : Delimiters} (hd : d ∈ [Delimiters.ansi, .mysql, .mssql]) :
    ∃ opening closing, d.AreTexts opening closing ∧
      placeholder ∉ opening.toList ∧ placeholder ∉ closing.toList := by
  simp only [List.mem_cons, List.not_mem_nil, or_false] at hd
  rcases hd with rfl | rfl | rfl
  · exact ⟨"\"", "\"", ⟨rfl, rfl⟩, by decide, by decide⟩
  · exact ⟨"\x60", "\x60", ⟨rfl, rfl⟩, by decide, by decide⟩
  · exact ⟨"[", "]", ⟨rfl, rfl⟩, by decide, by decide⟩

/-- Between marks without placeholders, a quoted name has one just if the name has. -/
theorem Identifier.placeholder_mem_quoted {opening closing name : String}
    (hopening : placeholder ∉ opening.toList) (hclosing : placeholder ∉ closing.toList) :
    placeholder ∈
        (String.ofList (enquote opening.toList closing.toList name.toList)).toList ↔
      placeholder ∈ name.toList := by
  rw [String.toList_ofList, mem_enquote]
  simp only [hopening, hclosing, false_or, or_false]

namespace Compiler

/-- **A statement for a rule clause has a placeholder for each value that is bound,** and those that
its quoted names have besides.  So the two numbers are equal just if no quoted name has one; with a
standard quoter, just if neither the table nor a column has one in its name. -/
theorem compile_rule_placeholders {c : Compiler} {clauses table values : Value} {s : State}
    {q : Query} (hc : c.handlers NodeClass.rule.name = some .rule)
    (hvalidator : ∀ q q', c.validator q = .ok q' → q' = q)
    (h : Clauses.HoldRule clauses table values) (hok : (c.compile clauses s).1 = .ok q) :
    ∃ columns tableText names, IsColumns (Rows.all s.streams values) columns ∧
      c.QuotesAs table tableText ∧
      List.Forall₂ (fun column => c.QuotesAs column.toValue) columns names ∧
      q.placeholderCount? = some (q.params.length + countPlaceholders tableText
        + (names.map countPlaceholders).sum) ∧
      (q.placeholderCount? = some q.params.length ↔
        ∀ name ∈ tableText :: names, placeholder ∉ name.toList) ∧
      ∀ d ∈ [Delimiters.ansi, .mysql, .mssql], c.quoter = d.quote →
        ∃ tableName, table.text? = some tableName ∧
          (q.placeholderCount? = some q.params.length ↔
            ∀ name ∈ tableName :: columns.map Column.name, placeholder ∉ name.toList) := by
  obtain ⟨-, compiled, hinserted, rfl⟩ := insertInto_of_compile_ok hc hvalidator h hok
  obtain ⟨-, -, tableText, names, htable, hnames, hquery⟩ := insertInto_ok hinserted
  have hcount : compiled.query.placeholderCount? =
      some (countPlaceholders
        (Statement.render tableText names (Rows.all s.streams values).length)) := by
    rw [hquery]
    rfl
  have hparams : compiled.query.params.length =
      (Rows.all s.streams values).length * names.length := by
    rw [hquery, length_cells, hnames.length_eq]
  have hfree : compiled.query.placeholderCount? = some compiled.query.params.length ↔
      ∀ name ∈ tableText :: names, placeholder ∉ name.toList := by
    rw [hcount, hparams, Option.some_inj, Statement.countPlaceholders_render_eq_iff]
  refine ⟨_, tableText, names, Columns.isColumns_union _, htable, hnames, ?_, hfree, ?_⟩
  · rw [hcount, hparams, Statement.countPlaceholders_render]
  · intro d hd hquoter
    obtain ⟨opening, closing, htexts, hopening, hclosing⟩ := Delimiters.exists_marks hd
    obtain ⟨tableName, hname, rfl⟩ := htexts.name_of_quotesAs hquoter htable
    obtain rfl := htexts.names_of_quotesAs hquoter hnames
    refine ⟨tableName, hname, hfree.trans ?_⟩
    simp only [List.forall_mem_cons, List.forall_mem_map,
      Identifier.placeholder_mem_quoted hopening hclosing]

/-- A placeholder in the name of a column counts, though only one value is bound. -/
theorem compile_rule_placeholders_hostile :
    let row : Value := .mapping .plain 0 [(.text "a?", .int 1)]
    let clauses : Value := .list [.record .rule 0 [("table", .text "t"), ("values", row)]]
    let s := State.initial ⟨[], none, ⟨⟨2026, 1, 1⟩, 0, 0, 0, 0⟩⟩
    let q : Query := ⟨.text "INSERT INTO \"t\" (\"a?\") VALUES (?)", [.int 1]⟩
    (Options.standard.compiler.compile clauses s).1 = .ok q ∧
      q.placeholderCount? ≠ some q.params.length := by
  intro row clauses s q
  have hok : (Options.standard.compiler.compile clauses s).1 = .ok q := rfl
  refine ⟨hok, fun hequal => ?_⟩
  obtain ⟨columns, -, -, his, -, -, -, -, hstandard⟩ :=
    compile_rule_placeholders rfl (fun _ _ => AllowedTypes.eq_of_validate)
      (Clauses.holdRule_sequence (.inl rfl) 0 0 (.text "t") row) hok
  obtain ⟨tableName, -, hfree⟩ := hstandard .ansi List.mem_cons_self rfl
  have hcolumn : "a?" ∈ columns.map Column.name :=
    (his.mem_iff "a?").2 ⟨row, List.mem_cons_self, .text "a?", List.mem_cons_self, rfl⟩
  exact hfree.1 hequal "a?" (List.mem_cons_of_mem tableName hcolumn) (by decide)

end Compiler

end RowInsert
