import RowInsert.Proofs.Ceiling
import RowInsert.Proofs.Independence

/-!
# How rows are given

* `Rows.Given` says in which forms rows can be given, and `Compiler.ruleOutcome_of_given` that what
  they come to is a function of the rows, but for the number that is reported for too many.
* `Value.Restates` relates two mappings with the same keys that answer alike when these are looked
  up; `Value.restates_of_perm` says that mappings of other kinds and orders are so related.
* `Compiler.insertInto_restated` : rows that restate others become the same query.
* `Compiler.compile_represented` puts the two together.

The proof: the columns are the increasing list of the keys, which does not know where a key came
from, and a value is read by looking up its column, which does not know where in the mapping it
stands.

What this does not say: under a limit that lets no row through, a mapping given by itself is counted
by its keys, and a mapping whose look-up ignores case answers for keys that it does not have.
-/

namespace RowInsert

/-! ### Rows in one form or another -/

/-- In which forms rows are given: in a list, tuple or deque, in an object that can be walked and
tells its size, by a stream that does not fail, or as a single mapping under a limit of one or more,
of which one more can be asked for. -/
inductive Rows.Given (limit : Int) (s : Streams) : List Value → Value → Prop where
  | sequence {kind : SequenceKind} (hkind : kind = .list ∨ kind = .tuple ∨ kind = .deque)
      (i : Identity) (rows : List Value) : Given limit s rows (.sequence kind i rows)
  | bag (i : Identity) {rows : List Value} (told : rows.length ≤ Value.greatestIndex) :
      Given limit s rows (.sequence (.bag rows.length) i rows)
  | stream (i : Identity) (items : List Value) :
      Given limit s (s.rest i items) (.stream i items none)
  | single {row : Value} (mapping : row.isMapping = true) (one : 1 ≤ limit)
      (askable : limit + 1 ≤ Value.greatestIndex) : Given limit s [row] row

/-- There are more rows than the limit, and one more than the limit has been read. -/
def Rows.Exceed (limit : Int) (rows : List Value) : Prop :=
  0 ≤ limit ∧ limit + 1 ≤ Value.greatestIndex ∧ limit < rows.length

/-- The number that is reported for too many rows: all of them if the value has a size, else those
that have been read. -/
def Rows.countFor (limit : Int) (values : Value) (rows : List Value) : Nat :=
  if values.size?.isSome then rows.length else (limit + 1).toNat

theorem Value.length_bag (i : Identity) {items : List Value}
    (h : items.length ≤ Value.greatestIndex) :
    (Value.sequence (.bag items.length) i items).length = .ok items.length := by
  simp only [Value.length]
  rw [if_neg (by omega), if_neg (by omega), Int.toNat_natCast]

namespace Compiler

variable {c : Compiler} {st : Settings} {limit : Int} {table values : Value} {rows : List Value}
  {s : State}

/-- What a rule clause comes to by its rows, with the number that is reported for too many. -/
def rowsOutcome (c : Compiler) (st : Settings) (limit : Int) (table : Value) (rows : List Value)
    (count : Nat) : Except Failure Compiled :=
  if limit + 1 < 0 ∨ Value.greatestIndex < limit + 1 then .error .limitNotWhole
  else if rows = [] ∨ limit = -1 then .error .noRows
  else if limit < rows.length then .error (.batchTooLarge count st.limit st.limit.wholeText)
  else c.insertInto table rows >>= c.validated

theorem rowsOutcome_of_exceed (h : Rows.Exceed limit rows) (count : Nat) :
    c.rowsOutcome st limit table rows count =
      .error (.batchTooLarge count st.limit st.limit.wholeText) := by
  obtain ⟨hnonneg, haskable, hmany⟩ := h
  have hne : ¬ (rows = [] ∨ limit = -1) := by
    rintro (rfl | rfl)
    · exact absurd hmany (by simpa using hnonneg)
    · exact absurd hnonneg (by decide)
  unfold rowsOutcome
  rw [if_neg (by omega), if_neg hne, if_pos hmany]

/-- Unless there are too many rows, nothing is reported of their number. -/
theorem rowsOutcome_congr (h : ¬ Rows.Exceed limit rows) (count count' : Nat) :
    c.rowsOutcome st limit table rows count = c.rowsOutcome st limit table rows count' := by
  unfold rowsOutcome
  split_ifs with hrange hnone hmany
  · rfl
  · rfl
  · have hexceed : Rows.Exceed limit rows := ⟨by omega, by omega, hmany⟩
    exact absurd hexceed h
  · rfl

section Settings

variable (hlimit : st.limit.whole? = some limit) (hsettings : c.settings = .ok st)
include hlimit hsettings

theorem ruleOutcome_of_walked (hw : Rows.isWalked values = true) (hquiet : values.failure? = none)
    {count : Nat} (hcount : 0 ≤ limit → if values.size?.isSome then values.length = .ok count
      else (count : Int) = limit + 1) :
    c.ruleOutcome table values s =
      c.rowsOutcome st limit table (Rows.all s.streams values) count := by
  unfold rowsOutcome
  split_ifs with hrange hnone hmany
  · apply ruleOutcome_of_unread
    rw [hsettings]
    exact Rows.readBounded_outOfRange hlimit hw hrange
  · apply ruleOutcome_of_unread
    rw [hsettings]
    exact Rows.readBounded_none hlimit (.inr ⟨hw, hrange⟩) hquiet (hnone.imp_right fun h => ⟨hw, h⟩)
  · have hnonneg : 0 ≤ limit := by omega
    apply ruleOutcome_of_unread
    rw [hsettings]
    exact Rows.readBounded_many hlimit (.inr ⟨hw, hrange⟩) hquiet (fun h => hnone (.inr h.2)) hmany
      (hcount hnonneg)
  · have hread := Rows.readBounded_within (s := s) hlimit (.inr ⟨hw, hrange⟩) hquiet
      (fun h => hnone (.inl h)) (Int.not_lt.1 hmany)
    unfold ruleOutcome
    rw [hsettings, hread]
    rfl

/-- **What rows come to does not depend on the form that they are given in,** except for the number
that is reported for too many. -/
theorem ruleOutcome_of_given (h : Rows.Given limit s.streams rows values) :
    c.ruleOutcome table values s =
      c.rowsOutcome st limit table rows (Rows.countFor limit values rows) := by
  cases h with
  | sequence hkind i =>
    rcases hkind with rfl | rfl | rfl
    · exact ruleOutcome_of_walked hlimit hsettings rfl rfl fun _ => rfl
    · exact ruleOutcome_of_walked hlimit hsettings rfl rfl fun _ => rfl
    · exact ruleOutcome_of_walked hlimit hsettings rfl rfl fun _ => rfl
  | bag i told =>
    exact ruleOutcome_of_walked hlimit hsettings rfl rfl fun _ => Value.length_bag i told
  | stream i items =>
    refine ruleOutcome_of_walked hlimit hsettings rfl rfl fun hnonneg => ?_
    change ((limit + 1).toNat : Int) = limit + 1
    omega
  | single mapping one askable =>
    have hall : Rows.all s.streams values = [values] := if_pos mapping
    have hquiet : values.failure? = none := by
      cases values with
      | mapping => rfl
      | _ => cases mapping
    have hread := Rows.readBounded_within (s := s) hlimit (.inl mapping) hquiet
      (by rw [hall]; exact List.cons_ne_nil _ _) (by rw [hall]; exact one)
    have hone : ¬ limit < ([values] : List Value).length := Int.not_lt.2 one
    have hnone : ¬ ([values] = [] ∨ limit = -1) := by
      rintro (h | h)
      · cases h
      · omega
    unfold ruleOutcome rowsOutcome
    rw [hsettings, hread, hall, if_neg (by omega), if_neg hnone, if_neg hone]
    rfl

end Settings

end Compiler

/-! ### Rows of one kind or another -/

namespace Value

theorem Reads.unique {row key v w : Value} (h : row.Reads key v) (h' : row.Reads key w) :
    v = w := by
  cases h with
  | found mapping member value =>
    cases h' with
    | found mapping' member' value' =>
      cases mapping.symm.trans mapping'
      exact Option.some.inj (value.symm.trans value')
    | absent mapping' notMember =>
      cases mapping.symm.trans mapping'
      rw [member] at notMember
      cases notMember
  | absent mapping notMember =>
    cases h' with
    | found mapping' member =>
      cases mapping.symm.trans mapping'
      rw [member] at notMember
      cases notMember
    | absent => rfl

/-- The second mapping has the keys of the first, which are plain texts, and gives what the first
gives when a text is looked up. -/
structure Restates (row row' : Value) : Prop where
  mapping : row.isMapping = true
  mapping' : row'.isMapping = true
  plain : ∀ key ∈ row.keys, ∃ t, key = .text t
  keys : ∀ key, key ∈ row'.keys ↔ key ∈ row.keys
  reads : ∀ t v, row.Reads (.text t) v → row'.Reads (.text t) v

variable {row row' : Value}

theorem Restates.isRow (h : row.Restates row') : row.isRow = true := by
  refine isRow_iff.2 ⟨h.mapping, fun key hkey => ?_⟩
  obtain ⟨t, rfl⟩ := h.plain key hkey
  rfl

theorem Restates.isRow' (h : row.Restates row') : row'.isRow = true := by
  refine isRow_iff.2 ⟨h.mapping', fun key hkey => ?_⟩
  obtain ⟨t, rfl⟩ := h.plain key ((h.keys key).1 hkey)
  rfl

theorem Restates.cell_eq (h : row.Restates row') {column : Column}
    (hplain : column.derived = none) : cell row' column = cell row column := by
  have hkey : column.toValue = .text column.name := by simp only [Column.toValue, hplain]
  have hfirst := reads_cell h.mapping column
  have hsecond := reads_cell h.mapping' column
  rw [hkey] at hfirst hsecond
  exact hsecond.unique (h.reads _ _ hfirst)

/-- A mapping that is no caseless one gives for a plain text what stands beside it. -/
theorem reads_iff_mem {kind : MappingKind} (hkind : kind ≠ .caseless) (i : Identity)
    {entries : List (Value × Value)} (hplain : ∀ e ∈ entries, ∃ t, e.1 = .text t)
    (hone : (entries.map Prod.fst).Nodup) (t : String) (v : Value) :
    (Value.mapping kind i entries).Reads (.text t) v ↔
      (.text t, v) ∈ entries ∨ v = .null ∧ .text t ∉ entries.map Prod.fst := by
  have hmatches : ∀ e ∈ entries, Entries.matchesKey kind (.text t) e.1 = true ↔ e.1 = .text t := by
    intro e he
    obtain ⟨name, hname⟩ := hplain e he
    have hheld : Entries.matchesKey kind (.text t) e.1 = e.1.held (.text t) := by
      cases kind with
      | caseless => exact absurd rfl hkind
      | _ => rfl
    rw [hheld, hname, held_text, beq_iff_eq, Value.text.injEq, eq_comm]
  have hcontains : Entries.contains kind entries (.text t) = true ↔
      .text t ∈ entries.map Prod.fst := by
    rw [Entries.contains, List.any_eq_true, List.mem_map]
    exact exists_congr fun e => and_congr_right (hmatches e)
  have hfind (w : Value) :
      Entries.find? kind entries (.text t) = some w → (.text t, w) ∈ entries := by
    intro h
    obtain ⟨e, he, rfl⟩ := Option.map_eq_some_iff.1 h
    have hmem := List.mem_of_find?_eq_some he
    have hmatch : Entries.matchesKey kind (.text t) e.1 = true := by simpa using List.find?_some he
    rw [← (hmatches e hmem).1 hmatch]
    exact hmem
  constructor
  · intro h
    cases h with
    | found mapping member value =>
      cases mapping
      exact .inl (hfind v value)
    | absent mapping notMember =>
      cases mapping
      refine .inr ⟨rfl, fun hmem => ?_⟩
      rw [hcontains.2 hmem] at notMember
      cases notMember
  · rintro (hmem | ⟨rfl, hnot⟩)
    · have hmember := hcontains.2 (List.mem_map_of_mem hmem)
      have hsome := hmember
      rw [Entries.contains_eq_isSome, Option.isSome_iff_exists] at hsome
      obtain ⟨w, hw⟩ := hsome
      -- Of two entries with one key, both are the same.
      have heq := List.inj_on_of_nodup_map hone (hfind w hw) hmem rfl
      cases heq
      exact .found rfl hmember hw
    · refine .absent rfl ?_
      rw [← Bool.not_eq_true, hcontains]
      exact hnot

/-- **Mappings with the same entries restate one another,** in whatever order they are put in and of
whatever kind they are, if none of them is caseless. -/
theorem restates_of_perm {kind kind' : MappingKind} (hkind : kind ≠ .caseless)
    (hkind' : kind' ≠ .caseless) (i i' : Identity) {entries entries' : List (Value × Value)}
    (hperm : entries'.Perm entries) (hplain : ∀ e ∈ entries, ∃ t, e.1 = .text t)
    (hone : (entries.map Prod.fst).Nodup) :
    (Value.mapping kind i entries).Restates (.mapping kind' i' entries') := by
  have hkeys := hperm.map Prod.fst
  have hplain' : ∀ e ∈ entries', ∃ t, e.1 = .text t := fun e he => hplain e (hperm.mem_iff.1 he)
  have hone' : (entries'.map Prod.fst).Nodup := hkeys.nodup_iff.2 hone
  refine ⟨rfl, rfl, fun key hkey => ?_, fun key => hkeys.mem_iff, fun t v h => ?_⟩
  · obtain ⟨e, he, rfl⟩ := List.mem_map.1 hkey
    exact hplain e he
  · rw [reads_iff_mem hkind i hplain hone] at h
    rw [reads_iff_mem hkind' i' hplain' hone', hperm.mem_iff, hkeys.mem_iff]
    exact h

end Value

namespace Columns

variable {rows : List Value} (hplain : ∀ row ∈ rows, ∀ key ∈ row.keys, ∃ t, key = .text t)
include hplain

/-- Keys that are plain texts are plain columns. -/
theorem derived_of_mem_union {column : Column} (hcolumn : column ∈ union rows) :
    column.derived = none := by
  obtain ⟨row, hrow, hkey⟩ := (isColumns_union rows).fromRows column hcolumn
  obtain ⟨t, ht⟩ := hplain row hrow _ hkey
  cases hderived : column.derived with
  | none => rfl
  | some i =>
    simp only [Column.toValue, hderived] at ht
    cases ht

theorem map_name_union : ((union rows).map Column.name).map (Column.mk · none) = union rows := by
  rw [List.map_map]
  conv_rhs => rw [← List.map_id (union rows)]
  refine List.map_congr_left fun column hcolumn => ?_
  have hderived := derived_of_mem_union hplain hcolumn
  cases column
  cases hderived
  rfl

end Columns

section Restated

variable {rows rows' : List Value} (h : List.Forall₂ Value.Restates rows rows')
include h

theorem Rows.mem_keys_restated (key : Value) :
    (∃ row ∈ rows', key ∈ row.keys) ↔ ∃ row ∈ rows, key ∈ row.keys := by
  induction h with
  | nil => rfl
  | cons hrow _ ih => rw [List.exists_mem_cons_iff, List.exists_mem_cons_iff, hrow.keys key, ih]

theorem Rows.hasKey_restated (t : String) : HasKey rows' t ↔ HasKey rows t := by
  have hkey (rows : List Value) :
      HasKey rows t ↔ ∃ key : Value, (∃ row ∈ rows, key ∈ row.keys) ∧ key.text? = some t := by
    constructor
    · rintro ⟨row, hrow, key, hkey, ht⟩
      exact ⟨key, ⟨row, hrow, hkey⟩, ht⟩
    · rintro ⟨key, ⟨row, hrow, hkey⟩, ht⟩
      exact ⟨row, hrow, key, hkey, ht⟩
  rw [hkey, hkey]
  exact exists_congr fun key => and_congr_left' (mem_keys_restated h key)

theorem Rows.plain_keys_restated : ∀ row ∈ rows, ∀ key ∈ row.keys, ∃ t, key = .text t := by
  have hplain := h.imp fun _ _ hrow => And.intro hrow.plain hrow
  exact ((List.forall₂_and_left _ _).1 hplain).1

/-- Keys that are plain texts are plain columns, which are told apart by their names alone. -/
theorem Columns.union_restated : union rows' = union rows := by
  have hplain := Rows.plain_keys_restated h
  have hplain' : ∀ row ∈ rows', ∀ key ∈ row.keys, ∃ t, key = .text t := by
    intro row' hrow' key hkey'
    obtain ⟨row, hrow, hkey⟩ := (Rows.mem_keys_restated h key).1 ⟨row', hrow', hkey'⟩
    exact hplain row hrow key hkey
  rw [← map_name_union hplain', names_union_congr (Rows.hasKey_restated h), map_name_union hplain]

theorem cells_restated : cells rows' (Columns.union rows) = cells rows (Columns.union rows) := by
  have hderived : ∀ column ∈ Columns.union rows, column.derived = none := fun _ hcolumn =>
    Columns.derived_of_mem_union (Rows.plain_keys_restated h) hcolumn
  revert hderived
  generalize Columns.union rows = columns
  intro hderived
  induction h with
  | nil => rfl
  | @cons row row' rows rows' hrow _ ih =>
    have hcells : columns.map (cell row') = columns.map (cell row) :=
      List.map_congr_left fun column hcolumn => hrow.cell_eq (hderived column hcolumn)
    have hrest : cells rows' columns = cells rows columns := ih
    unfold cells at hrest ⊢
    rw [List.flatMap_cons, List.flatMap_cons, hcells, hrest]

/-- **What rows come to depends on nothing but what they restate.** -/
theorem Compiler.insertInto_restated (c : Compiler) (table : Value) :
    c.insertInto table rows' = c.insertInto table rows := by
  have hboth := h.imp fun _ _ hrow => And.intro hrow.isRow hrow
  have hboth' := h.flip.imp fun _ _ hrow => And.intro hrow.isRow' hrow
  obtain ⟨hrows, -⟩ := (List.forall₂_and_left _ _).1 hboth
  obtain ⟨hrows', -⟩ := (List.forall₂_and_left _ _).1 hboth'
  rw [insertInto_of_rows hrows, insertInto_of_rows hrows', Columns.union_restated h]
  unfold insertColumns
  rw [cells_restated h, h.length_eq]

theorem Compiler.rowsOutcome_restated (c : Compiler) (st : Settings) (limit : Int) (table : Value)
    (count : Nat) :
    c.rowsOutcome st limit table rows' count = c.rowsOutcome st limit table rows count := by
  have hnone : rows' = [] ↔ rows = [] := by
    rw [← List.length_eq_zero_iff, ← h.length_eq, List.length_eq_zero_iff]
  unfold rowsOutcome
  simp only [hnone, ← h.length_eq, insertInto_restated h]

end Restated

namespace Compiler

/-! ### Compilations -/

/-- What an attempt comes to, and what of it is told by the compilation: a failure is raised, and a
query is returned only if it is the one compiled, as it always is if nothing is observed. -/
structure ComesTo (c : Compiler) (clauses : Value) (s : State) (outcome : Except Failure Compiled) :
    Prop where
  attempted : ((c.attempt clauses).exec s.tick).1 = outcome
  failed : ∀ f, outcome = .error f → ∃ second, (c.compile clauses s).1 = .error ⟨f, second⟩
  compiled : ∀ q, (c.compile clauses s).1 = .ok q → ∃ compiled, outcome = .ok compiled ∧
    compiled.query = q
  unobserved : c.observer = .ok none → (c.compile clauses s).1 = settle outcome (.ok ())

variable {c : Compiler} {st : Settings} {limit : Int} {clauses table values : Value}
  {rows : List Value} {s : State}

theorem comesTo_of_attempt {outcome : Except Failure Compiled}
    (h : ((c.attempt clauses).exec s.tick).1 = outcome) : c.ComesTo clauses s outcome where
  attempted := h
  failed f hf := compile_of_attempt_error (h.trans hf)
  compiled q hq := by
    obtain ⟨compiled, hattempt, hquery⟩ := attempt_of_compile_ok hq
    rw [h] at hattempt
    exact ⟨compiled, hattempt, hquery⟩
  unobserved ho := by
    rw [compile_of_unobserved ho, ← h]

theorem comesTo_of_given (hc : c.handlers NodeClass.rule.name = some .rule)
    (hlimit : st.limit.whole? = some limit) (hsettings : c.settings = .ok st)
    (h : Clauses.HoldRule clauses table values)
    (hgiven : Rows.Given limit s.streams rows values) :
    c.ComesTo clauses s (c.rowsOutcome st limit table rows (Rows.countFor limit values rows)) := by
  apply comesTo_of_attempt
  -- Reading the clock leaves the streams alone.
  have hgiven' : Rows.Given limit s.tick.streams rows values := hgiven
  rw [attempt_rule hc h, ruleOutcome_of_given hlimit hsettings hgiven']

/-- **What a rule clause comes to does not depend on how its rows are given.**  The same rows, or
mappings that restate them, come to the same in whatever form they are given, except that a stream
of too many rows is not counted further than it is read.  Mappings with the same entries restate one
another, if none of them is caseless. -/
theorem compile_represented {c : Compiler} {st : Settings} {limit : Int}
    (hc : c.handlers NodeClass.rule.name = some .rule) (hlimit : st.limit.whole? = some limit)
    (hsettings : c.settings = .ok st) (table : Value) :
    (∀ {clauses clauses' values values' : Value} {rows rows' : List Value} {s s' : State},
      Clauses.HoldRule clauses table values → Clauses.HoldRule clauses' table values' →
      Rows.Given limit s.streams rows values → Rows.Given limit s'.streams rows' values' →
      rows' = rows ∨ List.Forall₂ Value.Restates rows rows' →
      (¬ Rows.Exceed limit rows →
        ∃ outcome, c.ComesTo clauses s outcome ∧ c.ComesTo clauses' s' outcome) ∧
      (Rows.Exceed limit rows →
        c.ComesTo clauses s (.error
          (.batchTooLarge (Rows.countFor limit values rows) st.limit st.limit.wholeText)) ∧
        c.ComesTo clauses' s' (.error
          (.batchTooLarge (Rows.countFor limit values' rows) st.limit st.limit.wholeText)))) ∧
    ∀ (kind kind' : MappingKind) (i i' : Identity) (entries entries' : List (Value × Value)),
      kind ≠ .caseless → kind' ≠ .caseless → entries'.Perm entries →
      (∀ e ∈ entries, ∃ t, e.1 = .text t) → (entries.map Prod.fst).Nodup →
      (Value.mapping kind i entries).Restates (.mapping kind' i' entries') := by
  refine ⟨?_, fun kind kind' i i' entries entries' hkind hkind' => ?_⟩
  · intro clauses clauses' values values' rows rows' s s' hclause hclause' hgiven hgiven' hsame
    have hfirst := comesTo_of_given hc hlimit hsettings hclause hgiven
    have hsecond := comesTo_of_given hc hlimit hsettings hclause' hgiven'
    have hlength : rows'.length = rows.length := by
      rcases hsame with rfl | hrows
      · rfl
      · exact hrows.length_eq.symm
    have hcount : Rows.countFor limit values' rows' = Rows.countFor limit values' rows := by
      rw [Rows.countFor, Rows.countFor, hlength]
    have hrestated (count : Nat) :
        c.rowsOutcome st limit table rows' count = c.rowsOutcome st limit table rows count := by
      rcases hsame with rfl | hrows
      · rfl
      · exact rowsOutcome_restated hrows c st limit table count
    rw [hcount, hrestated] at hsecond
    refine ⟨fun hnot => ⟨_, hfirst, ?_⟩, fun hexceed => ?_⟩
    · rw [rowsOutcome_congr hnot _ (Rows.countFor limit values' rows)]
      exact hsecond
    · rw [rowsOutcome_of_exceed hexceed] at hfirst hsecond
      exact ⟨hfirst, hsecond⟩
  · exact Value.restates_of_perm hkind hkind' i i'

/-- A list of two rows is counted to its end, and a stream of the same two not further than the
limit asks; one row may be given by itself, or within a list with its entries in another order. -/
theorem compile_represented_rows :
    let row : Value := .mapping .plain 0 [(.text "a", .int 1), (.text "b", .int 2)]
    let row' : Value := .mapping .ordered 1 [(.text "b", .int 2), (.text "a", .int 1)]
    let clauses : Value → Value := fun values => .list [.ruleClause 0 (.text "t") values]
    let c := { Options.standard with settings := ⟨.int 1⟩ }.compiler
    let s := State.initial ⟨[], none, ⟨⟨2026, 1, 1⟩, 0, 0, 0, 0⟩⟩
    c.ComesTo (clauses (.list [row, row, row])) s (.error (.batchTooLarge 3 (.int 1) "1")) ∧
      c.ComesTo (clauses (.stream 7 [row', row', row'] none)) s
        (.error (.batchTooLarge 2 (.int 1) "1")) ∧
      (c.compile (clauses (.list [row'])) s).1 = (c.compile (clauses row) s).1 := by
  intro row row' clauses c s
  have hclause (values : Value) : Clauses.HoldRule (clauses values) (.text "t") values :=
    Clauses.holdRule_sequence (.inl rfl) 0 0 (.text "t") values
  obtain ⟨hsame, hperm⟩ := compile_represented (c := c) rfl rfl rfl (.text "t")
  have hrow : row.Restates row' := by
    refine hperm _ _ _ _ _ _ (by decide) (by decide) (List.Perm.swap _ _ _) ?_ (by simp)
    rintro e (_ | ⟨_, _ | ⟨_, ⟨⟩⟩⟩)
    · exact ⟨"a", rfl⟩
    · exact ⟨"b", rfl⟩
  have hlist (i : Identity) (rows : List Value) :
      Rows.Given 1 s.streams rows (.sequence .list i rows) := .sequence (.inl rfl) i rows
  have hthree : List.Forall₂ Value.Restates [row, row, row] [row', row', row'] :=
    .cons hrow (.cons hrow (.cons hrow .nil))
  have hstream : Rows.Given 1 s.streams [row', row', row'] (.stream 7 [row', row', row'] none) :=
    .stream 7 [row', row', row']
  obtain ⟨-, hmany⟩ := hsame (hclause (.list [row, row, row]))
    (hclause (.stream 7 [row', row', row'] none)) (hlist 0 _) hstream (.inr hthree)
  obtain ⟨hfirst, hsecond⟩ := hmany ⟨by decide, by decide, by decide⟩
  obtain ⟨hone, -⟩ := hsame (hclause row) (hclause (.list [row']))
    (.single rfl (by decide) (by decide)) (hlist 0 [row']) (.inr (.cons hrow .nil))
  obtain ⟨outcome, hsingle, hlisted⟩ := hone fun h => absurd h.2.2 (by decide)
  refine ⟨hfirst, hsecond, ?_⟩
  rw [hsingle.unobserved rfl, hlisted.unobserved rfl]

/-- Under a limit of zero, a mapping given by itself is reported with the number of its keys.  A
caseless mapping also gives its values for columns that come from the keys of other rows. -/
theorem compile_represented_not_all :
    let s := State.initial ⟨[], none, ⟨⟨2026, 1, 1⟩, 0, 0, 0, 0⟩⟩
    let clauses : Value → Value := fun values => .list [.ruleClause 0 (.text "t") values]
    let row : Value := .mapping .plain 0 [(.text "a", .int 1), (.text "b", .int 2)]
    let zero := { Options.standard.compiler with settings := .ok ⟨.int 0⟩ }
    let c := Options.standard.compiler
    let other : Value := .mapping .plain 0 [(.text "a", .int 2)]
    let rows : MappingKind → Value := fun kind =>
      .list [.mapping kind 0 [(.text "A", .int 1)], other]
    (zero.compile (clauses row) s).1 = .error ⟨.batchTooLarge 2 (.int 0) "0", none⟩ ∧
      (zero.compile (clauses (.list [row])) s).1 = .error ⟨.batchTooLarge 1 (.int 0) "0", none⟩ ∧
      ((c.compile (clauses (rows .caseless)) s).1.map Query.params).toOption =
        some [.int 1, .int 1, .null, .int 2] ∧
      ((c.compile (clauses (rows .plain)) s).1.map Query.params).toOption =
        some [.int 1, .null, .null, .int 2] :=
  ⟨rfl, rfl, rfl, rfl⟩

end Compiler

end RowInsert
