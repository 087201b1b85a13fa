import Mathlib.Algebra.GroupWithZero.Nat
import RowInsert.Proofs.Quoting
import RowInsert.Proofs.Rule

/-!
# Reading statements back

* `Statement.read` reads a statement with nothing to go by but the marks of its identifiers.
* `Statement.count_outside_of_read` says that whatever it reads, the placeholders outside of
  identifiers are those of the groups.
* `Statement.read_render` : a rendered statement is read as the table, columns and groups that it
  was rendered from.
* `Compiler.compile_rule_readable` is this for whatever a rule clause is compiled to.
-/

namespace RowInsert

namespace Statement

/-- What a reader finds in a statement. -/
structure Reading where
  table : String
  columns : List String
  /-- The number of placeholders of each group. -/
  groups : List Nat
  /-- All that does not belong to a quoted identifier. -/
  outside : List Char
  deriving DecidableEq, Repr

/-! ### The reader -/

section Reader

variable (opening closing : List Char)

/-- An identifier between its marks, and what follows it. -/
def readName (s : List Char) : Option (List Char × List Char) :=
  (s.dropPrefix? opening).bind (Identifier.readQuoted closing)

theorem length_of_dropPrefix? {l front rest : List Char} (h : l.dropPrefix? front = some rest) :
    rest.length ≤ l.length := by
  obtain ⟨p, rfl, -⟩ := List.dropPrefix?_eq_some_iff.1 h
  rw [List.length_append]
  omega

theorem length_of_readName {s name rest : List Char}
    (h : readName opening closing s = some (name, rest)) : rest.length < s.length := by
  obtain ⟨t, ht, hq⟩ := Option.bind_eq_some_iff.1 h
  exact (Identifier.length_of_readFrom hq).trans_le (length_of_dropPrefix? ht)

/-- Names that are separated by commas: the names, what stands between them and up to the groups,
and the groups. -/
def readNames (s : List Char) : Option (List (List Char) × List Char × List Char) :=
  match _ : readName opening closing s with
  | none => none
  | some (name, rest) =>
    match _ : rest.dropPrefix? ", ".toList with
    | some next =>
      (readNames next).map fun (names, between, t) =>
        (name :: names, ", ".toList ++ between, t)
    | none =>
      (rest.dropPrefix? ") VALUES ".toList).map fun t => ([name], ") VALUES ".toList, t)
termination_by s.length
decreasing_by
  exact (length_of_dropPrefix? ‹_›).trans_lt (length_of_readName opening closing ‹_›)

end Reader

/-- The placeholders up to the end of their group, and what follows it. -/
def readMarks : List Char → Option (Nat × List Char)
  | '?' :: ',' :: ' ' :: rest => (readMarks rest).map fun (n, t) => (n + 1, t)
  | '?' :: ')' :: rest => some (1, rest)
  | _ => none

theorem readMarks_eq_none {s : List Char}
    (hmore : ∀ rest, s = '?' :: ',' :: ' ' :: rest → False)
    (hlast : ∀ rest, s = '?' :: ')' :: rest → False) : readMarks s = none := by
  unfold readMarks
  split
  · exact absurd rfl (hmore _)
  · exact absurd rfl (hlast _)
  · rfl

theorem count_of_readMarks {s t : List Char} {n : Nat} (h : readMarks s = some (n, t)) :
    s.count placeholder = n + t.count placeholder := by
  induction s using readMarks.induct generalizing n with
  | case1 rest ih =>
    obtain ⟨⟨k, r⟩, hr, hp⟩ := Option.map_eq_some_iff.1 h
    cases hp
    have hcount : ('?' :: ',' :: ' ' :: rest).count placeholder = rest.count placeholder + 1 := by
      simp [placeholder]
    rw [hcount, ih hr]
    omega
  | case2 rest =>
    cases h
    have hcount : ('?' :: ')' :: t).count placeholder = t.count placeholder + 1 := by
      simp [placeholder]
    rw [hcount, Nat.add_comm]
  | case3 s hmore hlast =>
    rw [readMarks_eq_none hmore hlast] at h
    cases h

theorem length_of_readMarks {s t : List Char} {n : Nat} (h : readMarks s = some (n, t)) :
    t.length < s.length := by
  induction s using readMarks.induct generalizing n with
  | case1 rest ih =>
    obtain ⟨⟨k, r⟩, hr, hp⟩ := Option.map_eq_some_iff.1 h
    cases hp
    have := ih hr
    simp only [List.length_cons]
    omega
  | case2 rest =>
    cases h
    simp only [List.length_cons]
    omega
  | case3 s hmore hlast =>
    rw [readMarks_eq_none hmore hlast] at h
    cases h

/-- The groups of placeholders up to the end of the statement. -/
def readGroups (s : List Char) : Option (List Nat) :=
  match s with
  | '(' :: s =>
    match _ : readMarks s with
    | some (n, []) => some [n]
    | some (n, ',' :: ' ' :: rest) => (readGroups rest).map (n :: ·)
    | _ => none
  | _ => none
termination_by s.length
decreasing_by
  have := length_of_readMarks ‹_›
  simp only [List.length_cons] at this ⊢
  omega

/-- The parts of a statement. -/
def read (opening closing : List Char) (sql : String) : Option Reading := do
  let s ← sql.toList.dropPrefix? "INSERT INTO ".toList
  let (table, s) ← readName opening closing s
  let s ← s.dropPrefix? " (".toList
  let (names, between, s) ← readNames opening closing s
  let groups ← readGroups s
  return ⟨String.ofList table, names.map String.ofList, groups,
    "INSERT INTO ".toList ++ " (".toList ++ between ++ s⟩

/-! ### Steps of the reader -/

theorem readGroups_last {s : List Char} {n : Nat} (h : readMarks s = some (n, [])) :
    readGroups ('(' :: s) = some [n] := by
  rw [readGroups]
  split
  · rename_i hn
    rw [h] at hn
    cases hn
    rfl
  · rename_i hn
    rw [h] at hn
    cases hn
  · rename_i hlast _
    exact absurd h (hlast n)

theorem readGroups_more {s rest : List Char} {n : Nat}
    (h : readMarks s = some (n, ',' :: ' ' :: rest)) :
    readGroups ('(' :: s) = (readGroups rest).map (n :: ·) := by
  rw [readGroups]
  split
  · rename_i hn
    rw [h] at hn
    cases hn
  · rename_i hn
    rw [h] at hn
    cases hn
    rfl
  · rename_i hmore
    exact absurd h (hmore n rest)

section

variable {opening closing s name rest next : List Char}

theorem readNames_none (h : readName opening closing s = none) :
    readNames opening closing s = none := by
  rw [readNames]
  split
  · rfl
  · rename_i hs
    rw [h] at hs
    cases hs

theorem readNames_last (h : readName opening closing s = some (name, rest))
    (hnext : rest.dropPrefix? ", ".toList = none) :
    readNames opening closing s =
      (rest.dropPrefix? ") VALUES ".toList).map fun t => ([name], ") VALUES ".toList, t) := by
  rw [readNames]
  split
  · rename_i hs
    rw [h] at hs
    cases hs
  · rename_i hs
    rw [h] at hs
    cases hs
    split
    · rename_i hn
      rw [hnext] at hn
      cases hn
    · rfl

theorem readNames_more (h : readName opening closing s = some (name, rest))
    (hnext : rest.dropPrefix? ", ".toList = some next) :
    readNames opening closing s =
      (readNames opening closing next).map fun (names, between, t) =>
        (name :: names, ", ".toList ++ between, t) := by
  rw [readNames]
  split
  · rename_i hs
    rw [h] at hs
    cases hs
  · rename_i hs
    rw [h] at hs
    cases hs
    split
    · rename_i hn
      rw [hnext] at hn
      cases hn
      rfl
    · rename_i hn
      rw [hnext] at hn
      cases hn

end

/-! ### Placeholders outside of identifiers -/

theorem count_cons_opening (s : List Char) :
    ('(' :: s).count placeholder = s.count placeholder := by
  simp [placeholder]

theorem count_of_readGroups {s : List Char} {groups : List Nat} (h : readGroups s = some groups) :
    s.count placeholder = groups.sum := by
  induction s using readGroups.induct generalizing groups with
  | case1 s n hs =>
    rw [readGroups_last hs] at h
    cases h
    rw [count_cons_opening, count_of_readMarks hs]
    rfl
  | case2 s n rest hs ih =>
    rw [readGroups_more hs] at h
    obtain ⟨groups, hg, rfl⟩ := Option.map_eq_some_iff.1 h
    have hcount : (',' :: ' ' :: rest).count placeholder = rest.count placeholder := by
      simp [placeholder]
    rw [count_cons_opening, count_of_readMarks hs, hcount, ih hg, List.sum_cons]
  | case3 s hlast hmore =>
    rw [readGroups] at h
    split at h
    · exact absurd ‹_› (hlast _)
    · exact absurd ‹_› (hmore _ _)
    · cases h
  | case4 s hs =>
    unfold readGroups at h
    split at h
    · exact absurd rfl (hs _)
    · cases h

theorem count_of_readNames {opening closing s between t : List Char} {names : List (List Char)}
    (h : readNames opening closing s = some (names, between, t)) :
    between.count placeholder = 0 := by
  induction s using readNames.induct opening closing generalizing names between with
  | case1 s hs =>
    rw [readNames_none hs] at h
    cases h
  | case2 s name rest hs next hnext ih =>
    rw [readNames_more hs hnext] at h
    obtain ⟨⟨names, between, t⟩, hr, hp⟩ := Option.map_eq_some_iff.1 h
    cases hp
    rw [List.count_append, ih hr]
    decide
  | case3 s name rest hs hnext =>
    rw [readNames_last hs hnext] at h
    obtain ⟨t, -, hp⟩ := Option.map_eq_some_iff.1 h
    cases hp
    decide

/-- **The placeholders outside of identifiers are those of the groups,** whatever is read. -/
theorem count_outside_of_read {opening closing : List Char} {sql : String} {r : Reading}
    (h : read opening closing sql = some r) : r.outside.count placeholder = r.groups.sum := by
  unfold read at h
  obtain ⟨s, -, h⟩ := Option.bind_eq_some_iff.1 h
  obtain ⟨⟨table, s⟩, -, h⟩ := Option.bind_eq_some_iff.1 h
  obtain ⟨s, -, h⟩ := Option.bind_eq_some_iff.1 h
  obtain ⟨⟨names, between, s⟩, hnames, h⟩ := Option.bind_eq_some_iff.1 h
  obtain ⟨groups, hgroups, h⟩ := Option.bind_eq_some_iff.1 h
  cases h
  simp only [List.count_append, count_of_readNames hnames, count_of_readGroups hgroups]
  rw [Nat.add_zero, Nat.add_eq_right]
  decide

/-! ### Reading what was rendered -/

/-- A closing mark after which a statement can go on: it does not overlap itself, and does not begin
as what stands after an identifier does. -/
structure IsTerminator (mark : List Char) : Prop where
  nonempty : mark ≠ []
  borderFree : Identifier.BorderFree mark
  head_ne : ∀ c ∈ mark.head?, c ≠ ' ' ∧ c ≠ ',' ∧ c ≠ ')'

theorem isTerminator_singleton {c : Char} (h : c ≠ ' ' ∧ c ≠ ',' ∧ c ≠ ')') :
    IsTerminator [c] where
  nonempty := List.cons_ne_nil c []
  borderFree := Identifier.borderFree_singleton c
  head_ne d hd := by
    cases hd
    exact h

theorem IsTerminator.not_prefix {mark : List Char} (h : IsTerminator mark) {c : Char}
    (hc : c = ' ' ∨ c = ',' ∨ c = ')') (t : List Char) : ¬ mark <+: c :: t := by
  obtain ⟨d, rest, rfl⟩ := List.exists_cons_of_ne_nil h.nonempty
  intro hp
  obtain rfl := (List.cons_prefix_cons.1 hp).1
  obtain ⟨h1, h2, h3⟩ := h.head_ne d rfl
  rcases hc with rfl | rfl | rfl
  · exact h1 rfl
  · exact h2 rfl
  · exact h3 rfl

theorem toList_comma : ", ".toList = [',', ' '] := rfl

/-- A character that the separator lacks is in no other place than in the parts. -/
theorem count_intercalate {sep : List Char} {c : Char} (hsep : sep.count c = 0)
    (parts : List (List Char)) :
    (sep.intercalate parts).count c = (parts.map (List.count c)).sum := by
  induction parts with
  | nil => rfl
  | cons part parts ih =>
    cases parts with
    | nil => simp
    | cons part' parts =>
      rw [List.intercalate_cons_cons, List.count_append, List.count_append, ih, hsep, Nat.add_zero]
      rfl

theorem count_intercalate_replicate {sep : List Char} {c : Char} (hsep : sep.count c = 0)
    (l : List Char) (n : Nat) : (sep.intercalate (List.replicate n l)).count c = n * l.count c := by
  rw [count_intercalate hsep, List.map_replicate, List.sum_replicate_nat]

theorem dropPrefix?_append (front rest : List Char) :
    (front ++ rest).dropPrefix? front = some rest :=
  List.dropPrefix?_append_of_beq rest (beq_self_eq_true front)

/-- Reading a quoted name comes down to reading what stands after the opening mark. -/
theorem readName_append (opening closing s t : List Char) :
    readName opening closing (Identifier.enquote opening closing s ++ t) =
      Identifier.readQuoted closing (Identifier.double closing s ++ closing ++ t) := by
  rw [readName, Identifier.enquote, List.append_assoc, List.append_assoc, dropPrefix?_append,
    Option.bind_some, ← List.append_assoc]

section Rendered

variable (opening : List Char) {closing : List Char} (hclosing : IsTerminator closing)

include hclosing

theorem readName_enquote (s : List Char) {t : List Char} (ht : ¬ closing <+: t) :
    readName opening closing (Identifier.enquote opening closing s ++ t) = some (s, t) := by
  rw [readName_append]
  exact Identifier.readQuoted_double hclosing.nonempty hclosing.borderFree ht s

theorem readNames_render {names : List (List Char)} (h : names ≠ []) (t : List Char) :
    ∃ between, readNames opening closing
      (", ".toList.intercalate (names.map (Identifier.enquote opening closing))
        ++ (") VALUES ".toList ++ t)) = some (names, between, t) := by
  induction names with
  | nil => exact absurd rfl h
  | cons name names ih =>
    cases names with
    | nil =>
      have hafter : ¬ closing <+: ") VALUES ".toList ++ t :=
        hclosing.not_prefix (.inr (.inr rfl)) _
      refine ⟨") VALUES ".toList, ?_⟩
      rw [List.map_singleton, List.intercalate_singleton,
        readNames_last (readName_enquote opening hclosing name hafter) rfl, dropPrefix?_append]
      rfl
    | cons name' names =>
      obtain ⟨between, hb⟩ := ih (List.cons_ne_nil _ _)
      have hafter (u : List Char) : ¬ closing <+: ", ".toList ++ u :=
        hclosing.not_prefix (.inr (.inl rfl)) _
      refine ⟨", ".toList ++ between, ?_⟩
      rw [List.map_cons, List.map_cons, List.intercalate_cons_cons, ← List.map_cons,
        List.append_assoc, List.append_assoc,
        readNames_more (readName_enquote opening hclosing name (hafter _))
          (dropPrefix?_append ", ".toList _), hb]
      rfl

omit hclosing in
theorem readMarks_render (m : Nat) (t : List Char) :
    readMarks (", ".toList.intercalate (List.replicate (m + 1) [placeholder]) ++ ')' :: t) =
      some (m + 1, t) := by
  induction m with
  | zero => rfl
  | succ m ih =>
    rw [List.replicate_succ, List.replicate_succ, List.intercalate_cons_cons,
      ← List.replicate_succ, List.append_assoc, List.append_assoc, toList_comma]
    change readMarks ('?' :: ',' :: ' ' :: ([',', ' '].intercalate _ ++ ')' :: t)) = _
    rw [readMarks, ← toList_comma, ih]
    rfl

omit hclosing in
theorem toList_group (m : Nat) (t : List Char) :
    (group m).toList ++ t =
      '(' :: (", ".toList.intercalate (List.replicate m [placeholder]) ++ ')' :: t) := by
  simp only [group, commaSeparated, String.toList_append, String.toList_intercalate,
    List.map_replicate, String.toList_singleton, List.append_assoc]
  rfl

omit hclosing in
theorem readGroups_render (m n : Nat) :
    readGroups (", ".toList.intercalate (List.replicate (n + 1) (group (m + 1)).toList)) =
      some (List.replicate (n + 1) (m + 1)) := by
  induction n with
  | zero =>
    rw [List.replicate_one, List.intercalate_singleton, ← List.append_nil (group _).toList,
      toList_group, readGroups_last (readMarks_render m [])]
    rfl
  | succ n ih =>
    rw [List.replicate_succ, List.replicate_succ, List.intercalate_cons_cons,
      ← List.replicate_succ, List.append_assoc, toList_group]
    nth_rewrite 2 [toList_comma]
    rw [List.cons_append, List.cons_append, List.nil_append,
      readGroups_more (readMarks_render m _), ih]
    rfl

omit hclosing in
theorem toList_render (table : String) (columns : List String) (rows : Nat) :
    (render table columns rows).toList =
      "INSERT INTO ".toList ++ (table.toList ++ (" (".toList ++
        (", ".toList.intercalate (columns.map String.toList) ++ (") VALUES ".toList ++
          ", ".toList.intercalate (List.replicate rows (group columns.length).toList))))) := by
  unfold render commaSeparated
  rw [String.toList_append, String.toList_append, String.toList_append, String.toList_append,
    String.toList_append, String.toList_intercalate, String.toList_intercalate, List.map_replicate]
  simp only [List.append_assoc]

/-- **A rendered statement is read as what it was rendered from.** -/
theorem read_render (table : String) {columns : List String} (hcolumns : columns ≠ []) {rows : Nat}
    (hrows : rows ≠ 0) :
    ∃ outside, read opening closing
      (render (String.ofList (Identifier.enquote opening closing table.toList))
        (columns.map fun name =>
          String.ofList (Identifier.enquote opening closing name.toList)) rows) =
      some ⟨table, columns, List.replicate rows columns.length, outside⟩ := by
  obtain ⟨n, rfl⟩ := Nat.exists_eq_succ_of_ne_zero hrows
  obtain ⟨m, hm⟩ := Nat.exists_eq_succ_of_ne_zero (mt List.length_eq_zero_iff.1 hcolumns)
  have htable (u : List Char) : ¬ closing <+: " (".toList ++ u := hclosing.not_prefix (.inl rfl) _
  have hnonempty : columns.map String.toList ≠ [] := by simpa using hcolumns
  obtain ⟨between, hnames⟩ := readNames_render opening hclosing hnonempty
    (", ".toList.intercalate (List.replicate (n + 1) (group (m + 1)).toList))
  have hprinted : (columns.map fun name =>
      String.ofList (Identifier.enquote opening closing name.toList)).map String.toList =
        (columns.map String.toList).map (Identifier.enquote opening closing) := by
    simp only [List.map_map, Function.comp_def, String.toList_ofList]
  have hback : (columns.map String.toList).map String.ofList = columns := by
    simp only [List.map_map, Function.comp_def, String.ofList_toList, List.map_id']
  refine ⟨"INSERT INTO ".toList ++ " (".toList ++ between ++
    ", ".toList.intercalate (List.replicate (n + 1) (group (m + 1)).toList), ?_⟩
  unfold read
  rw [toList_render, dropPrefix?_append, String.toList_ofList, hprinted, List.length_map, hm]
  simp only [Option.bind_eq_bind, Option.bind_some, readName_enquote opening hclosing _ (htable _),
    dropPrefix?_append, hnames, readGroups_render, hback, String.ofList_toList]
  rfl

end Rendered

end Statement

/-! ### Reading what was compiled -/

/-- The marks are these texts, and a statement can go on after the closing one. -/
structure Delimiters.AreReadable (d : Delimiters) (opening closing : String) : Prop where
  opening_eq : d.opening.text? = some opening
  closing_eq : d.closing.text? = some closing
  terminator : Statement.IsTerminator closing.toList

theorem Delimiters.AreReadable.areTexts {d : Delimiters} {opening closing : String}
    (h : d.AreReadable opening closing) : d.AreTexts opening closing :=
  ⟨h.opening_eq, h.closing_eq⟩

/-- Between marks that are texts, only a name is quoted, and as it is. -/
theorem Delimiters.AreTexts.name_of_quotesAs {c : Compiler} {d : Delimiters}
    {opening closing : String} (hd : d.AreTexts opening closing) (hquoter : c.quoter = d.quote)
    {v : Value} {t : String} (h : c.QuotesAs v t) :
    ∃ name, v.text? = some name ∧
      t = String.ofList (Identifier.enquote opening.toList closing.toList name.toList) := by
  obtain ⟨r, hr, ht⟩ := h
  rw [hquoter] at hr
  obtain ⟨name, hname, -, rfl⟩ := hd.quote_ok hr
  cases ht
  exact ⟨name, hname, rfl⟩

theorem Delimiters.AreTexts.names_of_quotesAs {c : Compiler} {d : Delimiters}
    {opening closing : String} (hd : d.AreTexts opening closing) (hquoter : c.quoter = d.quote)
    {columns : List Column} {names : List String}
    (h : List.Forall₂ (fun column => c.QuotesAs column.toValue) columns names) :
    names = (columns.map Column.name).map fun name =>
      String.ofList (Identifier.enquote opening.toList closing.toList name.toList) := by
  induction h with
  | nil => rfl
  | cons hquotes _ ih =>
    obtain ⟨name, hname, rfl⟩ := hd.name_of_quotesAs hquoter hquotes
    rw [Column.text?_toValue] at hname
    cases hname
    rw [ih]
    rfl

namespace Compiler

/-- **A statement for a rule clause can be read back,** whatever its names contain.  The reader goes
by the marks of the quoter alone.  It finds the table, the columns, and a group of as many
placeholders for each row, and outside of the identifiers there is a placeholder for each value that
is bound. -/
theorem compile_rule_readable :
    (∀ d ∈ [Delimiters.ansi, .mysql, .mssql], ∃ opening closing, d.AreReadable opening closing) ∧
    ∀ {c : Compiler} {d : Delimiters} {opening closing : String} {clauses table values : Value}
      {s : State} {q : Query},
      d.AreReadable opening closing → c.quoter = d.quote →
      c.handlers NodeClass.rule.name = some .rule →
      (∀ q q', c.validator q = .ok q' → q' = q) →
      Clauses.HoldRule clauses table values → (c.compile clauses s).1 = .ok q →
      ∃ name columns sql reading,
        table.text? = some name ∧ IsColumns (Rows.all s.streams values) columns ∧
        q.sql = .text sql ∧
        Statement.read opening.toList closing.toList sql = some reading ∧
        reading.table = name ∧ reading.columns = columns.map Column.name ∧
        reading.groups =
          List.replicate (Rows.all s.streams values).length columns.length ∧
        reading.outside.count placeholder = q.params.length := by
  constructor
  · rintro d hd
    simp only [List.mem_cons, List.not_mem_nil, or_false] at hd
    rcases hd with rfl | rfl | rfl
    · exact ⟨"\"", "\"", rfl, rfl, Statement.isTerminator_singleton (by decide)⟩
    · exact ⟨"\x60", "\x60", rfl, rfl, Statement.isTerminator_singleton (by decide)⟩
    · exact ⟨"[", "]", rfl, rfl, Statement.isTerminator_singleton (by decide)⟩
  · intro c d opening closing clauses table values s q hd hquoter hc hvalidator h hok
    obtain ⟨hne, compiled, hinserted, rfl⟩ := insertInto_of_compile_ok hc hvalidator h hok
    obtain ⟨-, hcolumns, tableText, names, htable, hnames, hquery⟩ := insertInto_ok hinserted
    obtain ⟨name, hname, rfl⟩ := hd.areTexts.name_of_quotesAs hquoter htable
    obtain rfl := hd.areTexts.names_of_quotesAs hquoter hnames
    have hcount : (Rows.all s.streams values).length ≠ 0 := mt List.length_eq_zero_iff.1 hne
    have hnonempty : (Columns.union (Rows.all s.streams values)).map Column.name ≠ [] := by
      simpa using hcolumns
    obtain ⟨outside, hread⟩ :=
      Statement.read_render opening.toList hd.terminator name hnonempty hcount
    refine ⟨name, _, _, _, hname, Columns.isColumns_union _, congrArg Query.sql hquery, hread,
      rfl, rfl, by rw [List.length_map], ?_⟩
    rw [Statement.count_outside_of_read hread, hquery]
    simp only [List.sum_replicate_nat, List.length_map, length_cells]

set_option maxRecDepth 4000 in
/-- Names that imitate the end of the columns and a group of placeholders are read as names. -/
theorem compile_rule_readable_hostile :
    ∃ reading, Statement.read ['"'] ['"']
        "INSERT INTO \"t\"\"\" (\"\"\") VALUES (?)\", \"?\") VALUES (?, ?)" = some reading ∧
      reading.table = "t\"" ∧ reading.outside.count placeholder = 2 := by
  obtain ⟨opening, closing, hd⟩ := compile_rule_readable.1 Delimiters.ansi List.mem_cons_self
  obtain ⟨name, columns, sql, reading, hname, -, hsql, hread, htable, -, -, hcount⟩ :=
    compile_rule_readable.2 (c := Options.standard.compiler)
      (s := State.initial ⟨[], none, ⟨⟨2026, 1, 1⟩, 0, 0, 0, 0⟩⟩)
      (q := ⟨.text "INSERT INTO \"t\"\"\" (\"\"\") VALUES (?)\", \"?\") VALUES (?, ?)",
        [.int 1, .int 2]⟩)
      hd rfl rfl (fun _ _ => AllowedTypes.eq_of_validate)
      (Clauses.holdRule_sequence (.inl rfl) 0 0 (.text "t\"") (.list [.mapping .plain 0
        [(.text "?", .int 2), (.text "\") VALUES (?)", .int 1)]])) rfl
  cases hd.opening_eq
  cases hd.closing_eq
  cases hsql
  cases hname
  exact ⟨reading, hread, htable, hcount⟩

end Compiler

end RowInsert
