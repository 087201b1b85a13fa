import Mathlib.Data.List.Sort
import Mathlib.Data.String.Basic
import RowInsert.Columns
import RowInsert.Proofs.Run

/-!
# The columns of rows

* `Columns.union` is the union of the keys of rows as a function of the rows alone, and
  `Columns.isColumns_union` says what it is: keys of the rows in strictly increasing order of their
  texts, one for each text that is a key.
* `Columns.ofRows_eq_union` and the two lemmas after it settle what collecting columns comes to: the
  union if every row is a mapping with texts as its keys, and else the failure of the first row, and
  in it of the first key, that is none.
* `IsColumns.names_unique` : rows have just one increasing list of column names.
* `getElem?_cells` says where the value of a row in a column stands among all values.
-/

namespace RowInsert

/-- Either all items of a list meet a condition, or there is a first that does not. -/
theorem exists_first {α : Type} (p : α → Prop) [DecidablePred p] (l : List α) :
    (∀ x ∈ l, p x) ∨ ∃ front x back, l = front ++ x :: back ∧ (∀ y ∈ front, p y) ∧ ¬ p x := by
  induction l with
  | nil => exact .inl (List.forall_mem_nil p)
  | cons a l ih =>
    by_cases ha : p a
    · rcases ih with h | ⟨front, x, back, rfl, hfront, hx⟩
      · exact .inl (List.forall_mem_cons.2 ⟨ha, h⟩)
      · exact .inr ⟨a :: front, x, back, rfl, List.forall_mem_cons.2 ⟨ha, hfront⟩, hx⟩
    · exact .inr ⟨[], a, l, rfl, List.forall_mem_nil p, ha⟩

/-! ### Keys of rows -/

namespace Value

/-- The keys of a mapping, as often as walking it gives them; other values have none. -/
def keys (v : Value) : List Value :=
  match v.mapping? with
  | some (_, entries) => entries.map Prod.fst
  | none => []

/-- Whether a value can be a row: a mapping whose keys are texts. -/
def isRow (v : Value) : Bool := v.isMapping && v.keys.all isText

theorem isRow_iff {v : Value} : v.isRow = true ↔ v.isMapping = true ∧ ∀ k ∈ v.keys, k.isText := by
  simp only [isRow, Bool.and_eq_true, List.all_eq_true]

theorem isMapping_iff {v : Value} :
    v.isMapping = true ↔ ∃ kind entries, v.mapping? = some (kind, entries) := by
  simp only [isMapping, Option.isSome_iff_exists, Prod.exists]

theorem keys_of_mapping {v : Value} {kind : MappingKind} {entries : List (Value × Value)}
    (h : v.mapping? = some (kind, entries)) : v.keys = entries.map Prod.fst := by
  simp only [keys, h]

end Value

/-- A text is a key of one of these rows. -/
def Rows.HasKey (rows : List Value) (t : String) : Prop :=
  ∃ row ∈ rows, ∃ key ∈ row.keys, key.text? = some t

/-- The columns of rows: keys of theirs, in strictly increasing order of their texts, one for each
text that is a key. -/
structure IsColumns (rows : List Value) (columns : List Column) : Prop where
  increasing : (columns.map Column.name).Pairwise (· < ·)
  mem_iff : ∀ t, t ∈ columns.map Column.name ↔ Rows.HasKey rows t
  fromRows : ∀ c ∈ columns, ∃ row ∈ rows, c.toValue ∈ row.keys

theorem IsColumns.names_unique {rows : List Value} {columns : List Column}
    (h : IsColumns rows columns) {names : List String} (hlt : names.Pairwise (· < ·))
    (hmem : ∀ t, t ∈ names ↔ Rows.HasKey rows t) : names = columns.map Column.name :=
  hlt.eq_of_mem_iff h.increasing fun t => (hmem t).trans (h.mem_iff t).symm

namespace Column

theorem ofKey?_eq_none_iff {key : Value} : ofKey? key = none ↔ ¬ key.isText = true := by
  cases key <;> simp [ofKey?, Value.isText, Value.text?]

theorem toValue_of_ofKey? {key : Value} {c : Column} (h : ofKey? key = some c) :
    c.toValue = key := by
  cases key <;> simp only [ofKey?, Option.some.injEq, reduceCtorEq] at h <;> subst h <;> rfl

theorem text?_of_ofKey? {key : Value} {c : Column} (h : ofKey? key = some c) :
    key.text? = some c.name := by
  rw [← toValue_of_ofKey? h, text?_toValue]

theorem exists_ofKey? {key : Value} {t : String} (h : key.text? = some t) :
    ∃ c, ofKey? key = some c ∧ c.name = t := by
  cases key <;> simp only [Value.text?, Option.some.injEq, reduceCtorEq] at h
  · exact ⟨_, rfl, h⟩
  · exact ⟨_, rfl, h⟩

end Column

namespace Columns

/-! ### The union -/

theorem mem_names_add {c : Column} {l : List Column} {t : String} :
    t ∈ (add c l).map Column.name ↔ t = c.name ∨ t ∈ l.map Column.name := by
  induction l with
  | nil => simp only [add, List.map_cons, List.map_nil, List.mem_singleton, List.not_mem_nil,
      or_false]
  | cons d l ih =>
    unfold add
    split_ifs with hlt heq
    · simp only [List.map_cons, List.mem_cons]
    · simp only [List.map_cons, List.mem_cons, heq, or_self_left]
    · simp only [List.map_cons, List.mem_cons] at ih ⊢
      rw [ih, or_left_comm]

theorem mem_of_mem_add {c d : Column} {l : List Column} (h : d ∈ add c l) : d = c ∨ d ∈ l := by
  induction l with
  | nil => exact .inl (List.mem_singleton.1 h)
  | cons e l ih =>
    unfold add at h
    split_ifs at h
    · exact List.mem_cons.1 h
    · exact .inr h
    · rcases List.mem_cons.1 h with rfl | h
      · exact .inr List.mem_cons_self
      · exact (ih h).imp_right (List.mem_cons_of_mem e)

theorem increasing_add {c : Column} {l : List Column}
    (h : (l.map Column.name).Pairwise (· < ·)) :
    ((add c l).map Column.name).Pairwise (· < ·) := by
  induction l with
  | nil => exact List.pairwise_singleton _ _
  | cons d l ih =>
    obtain ⟨hd, hl⟩ := List.pairwise_cons.1 h
    unfold add
    split_ifs with hlt heq
    · refine List.pairwise_cons.2 ⟨fun t ht => ?_, h⟩
      rcases List.mem_cons.1 ht with rfl | ht
      · exact hlt
      · exact hlt.trans (hd t ht)
    · exact h
    · refine List.pairwise_cons.2 ⟨fun t ht => ?_, ih hl⟩
      rcases mem_names_add.1 ht with rfl | ht
      · exact lt_of_le_of_ne (not_lt.1 hlt) (Ne.symm heq)
      · exact hd t ht

/-- The columns after these have been added in turn. -/
def addAll (l : List Column) (more : List Column) : List Column :=
  more.foldl (fun l c => add c l) l

theorem addAll_append (l a b : List Column) : addAll l (a ++ b) = addAll (addAll l a) b :=
  List.foldl_append

theorem mem_names_addAll {l more : List Column} {t : String} :
    t ∈ (addAll l more).map Column.name ↔
      t ∈ l.map Column.name ∨ t ∈ more.map Column.name := by
  induction more generalizing l with
  | nil => simp only [addAll, List.foldl_nil, List.map_nil, List.not_mem_nil, or_false]
  | cons c more ih =>
    change t ∈ (addAll (add c l) more).map Column.name ↔ _
    rw [ih, mem_names_add, List.map_cons, List.mem_cons, or_assoc, or_left_comm]

theorem mem_of_mem_addAll {l more : List Column} {d : Column} (h : d ∈ addAll l more) :
    d ∈ l ∨ d ∈ more := by
  induction more generalizing l with
  | nil => exact .inl h
  | cons c more ih =>
    rcases ih h with h | h
    · rcases mem_of_mem_add h with rfl | h
      · exact .inr List.mem_cons_self
      · exact .inl h
    · exact .inr (List.mem_cons_of_mem c h)

theorem increasing_addAll {l : List Column} (more : List Column)
    (h : (l.map Column.name).Pairwise (· < ·)) :
    ((addAll l more).map Column.name).Pairwise (· < ·) := by
  induction more generalizing l with
  | nil => exact h
  | cons c more ih => exact ih (increasing_add h)

/-- The columns of those keys that are texts, as often as they occur. -/
def ofKeys (keys : List Value) : List Column := keys.filterMap Column.ofKey?

/-- The union of the keys of rows. -/
def union (rows : List Value) : List Column := addAll [] (ofKeys (rows.flatMap Value.keys))

theorem isColumns_union (rows : List Value) : IsColumns rows (union rows) where
  increasing := increasing_addAll _ List.Pairwise.nil
  mem_iff t := by
    rw [union, mem_names_addAll]
    simp only [List.map_nil, List.not_mem_nil, false_or, ofKeys, List.mem_map,
      List.mem_filterMap, List.mem_flatMap]
    constructor
    · rintro ⟨c, ⟨key, ⟨row, hrow, hkey⟩, hc⟩, rfl⟩
      exact ⟨row, hrow, key, hkey, Column.text?_of_ofKey? hc⟩
    · rintro ⟨row, hrow, key, hkey, ht⟩
      obtain ⟨c, hc, rfl⟩ := Column.exists_ofKey? ht
      exact ⟨c, ⟨key, ⟨row, hrow, hkey⟩, hc⟩, rfl⟩
  fromRows c hc := by
    rcases mem_of_mem_addAll (l := []) hc with hc | hc
    · cases hc
    · obtain ⟨key, hkey, hof⟩ := List.mem_filterMap.1 hc
      obtain ⟨row, hrow, hkey⟩ := List.mem_flatMap.1 hkey
      exact ⟨row, hrow, Column.toValue_of_ofKey? hof ▸ hkey⟩

/-! ### Collecting columns -/

theorem addKeys_eq_ok {position : Nat} {columns : List Column} {keys : List Value}
    (h : ∀ k ∈ keys, k.isText = true) :
    addKeys position columns keys = .ok (addAll columns (ofKeys keys)) := by
  induction keys generalizing columns with
  | nil => rfl
  | cons key keys ih =>
    obtain ⟨hkey, hkeys⟩ := List.forall_mem_cons.1 h
    cases hc : Column.ofKey? key with
    | none => exact absurd hkey (Column.ofKey?_eq_none_iff.1 hc)
    | some c =>
      simp only [addKeys, hc, ofKeys, List.filterMap_cons]
      exact ih hkeys

theorem addKeys_eq_error {position : Nat} {columns : List Column} {front : List Value}
    {key : Value} (back : List Value) (hfront : ∀ k ∈ front, k.isText = true)
    (hkey : ¬ key.isText = true) :
    addKeys position columns (front ++ key :: back) =
      key.listing >>= fun shown => .error (.columnNotText position shown) := by
  induction front generalizing columns with
  | nil =>
    rw [← Column.ofKey?_eq_none_iff] at hkey
    simp only [List.nil_append, addKeys, hkey]
    rfl
  | cons k front ih =>
    obtain ⟨hk, hfront⟩ := List.forall_mem_cons.1 hfront
    cases hc : Column.ofKey? k with
    | none => exact absurd hk (Column.ofKey?_eq_none_iff.1 hc)
    | some c =>
      simp only [List.cons_append, addKeys, hc]
      exact ih hfront

theorem addRows_append {position : Nat} {columns : List Column} {front : List Value}
    (rest : List Value) (h : ∀ row ∈ front, row.isRow = true) :
    addRows position columns (front ++ rest) =
      addRows (position + front.length)
        (addAll columns (ofKeys (front.flatMap Value.keys))) rest := by
  induction front generalizing position columns with
  | nil => rfl
  | cons row front ih =>
    obtain ⟨hrow, hfront⟩ := List.forall_mem_cons.1 h
    obtain ⟨hm, hkeys⟩ := Value.isRow_iff.1 hrow
    obtain ⟨kind, entries, hv⟩ := Value.isMapping_iff.1 hm
    rw [Value.keys_of_mapping hv] at hkeys
    simp only [List.cons_append, addRows, hv, addKeys_eq_ok hkeys]
    change addRows (position + 1) (addAll columns (ofKeys (entries.map Prod.fst))) _ = _
    rw [ih hfront, ← addAll_append, List.length_cons, List.flatMap_cons,
      Value.keys_of_mapping hv, ofKeys, ofKeys, ofKeys, List.filterMap_append]
    congr 1
    omega

/-- Rows that are mappings with texts as keys have the union of their keys as columns. -/
theorem ofRows_eq_union {rows : List Value} (h : ∀ row ∈ rows, row.isRow = true) :
    ofRows rows = .ok (union rows) := by
  rw [ofRows, ← List.append_nil rows, addRows_append [] h, List.append_nil]
  rfl

/-- The first row that is no mapping is refused. -/
theorem ofRows_eq_rowNotMapping {front : List Value} {row : Value} (back : List Value)
    (hfront : ∀ r ∈ front, r.isRow = true) (hrow : ¬ row.isMapping = true) :
    ofRows (front ++ row :: back) = .error (.rowNotMapping front.length row.typeName) := by
  have hv : row.mapping? = none := by simpa [Value.isMapping] using hrow
  rw [ofRows, addRows_append _ hfront, Nat.zero_add]
  simp only [addRows, hv]

/-- The first key that is no text is refused, if all rows before its own are in order. -/
theorem ofRows_eq_columnNotText {front : List Value} {row : Value} (back : List Value)
    {keysFront : List Value} {key : Value} {keysBack : List Value}
    (hfront : ∀ r ∈ front, r.isRow = true) (hrow : row.isMapping = true)
    (hkeys : row.keys = keysFront ++ key :: keysBack)
    (hkeysFront : ∀ k ∈ keysFront, k.isText = true) (hkey : ¬ key.isText = true) :
    ofRows (front ++ row :: back) =
      key.listing >>= fun shown => .error (.columnNotText front.length shown) := by
  obtain ⟨kind, entries, hv⟩ := Value.isMapping_iff.1 hrow
  rw [Value.keys_of_mapping hv] at hkeys
  rw [ofRows, addRows_append _ hfront, Nat.zero_add]
  simp only [addRows, hv, hkeys, addKeys_eq_error keysBack hkeysFront hkey]
  cases key.listing <;> rfl

/-- Columns are collected only of rows that are mappings with texts as keys. -/
theorem ofRows_eq_ok_iff {rows : List Value} {columns : List Column} :
    ofRows rows = .ok columns ↔ (∀ row ∈ rows, row.isRow = true) ∧ columns = union rows := by
  constructor
  · intro h
    rcases exists_first (fun row => row.isRow = true) rows with
      hall | ⟨front, row, back, rfl, hfront, hrow⟩
    · rw [ofRows_eq_union hall] at h
      exact ⟨hall, (Except.ok.inj h).symm⟩
    · exfalso
      by_cases hm : row.isMapping = true
      · rcases exists_first (fun k => k.isText = true) row.keys with
          hkeys | ⟨keysFront, key, keysBack, heq, hkeysFront, hkey⟩
        · exact hrow (Value.isRow_iff.2 ⟨hm, hkeys⟩)
        · rw [ofRows_eq_columnNotText back hfront hm heq hkeysFront hkey] at h
          obtain ⟨_, -, h⟩ := bind_ok h
          cases h
      · rw [ofRows_eq_rowNotMapping back hfront hm] at h
        cases h
  · rintro ⟨h, rfl⟩
    exact ofRows_eq_union h

end Columns

/-! ### Values of rows in columns -/

/-- What reading a key of a mapping gives, by the mapping's own membership and look-up: its value if
the key is in the mapping, and else null. -/
inductive Value.Reads (row key : Value) : Value → Prop where
  | found {kind : MappingKind} {entries : List (Value × Value)} {v : Value}
      (mapping : row.mapping? = some (kind, entries))
      (member : Entries.contains kind entries key = true)
      (value : Entries.find? kind entries key = some v) : Reads row key v
  | absent {kind : MappingKind} {entries : List (Value × Value)}
      (mapping : row.mapping? = some (kind, entries))
      (notMember : Entries.contains kind entries key = false) : Reads row key .null

theorem reads_cell {row : Value} (h : row.isMapping = true) (c : Column) :
    row.Reads c.toValue (cell row c) := by
  obtain ⟨kind, entries, hv⟩ := Value.isMapping_iff.1 h
  have hc := Entries.contains_eq_isSome kind entries c.toValue
  cases hf : Entries.find? kind entries c.toValue with
  | none =>
    simp only [cell, hv, hf, Option.getD_none]
    exact .absent hv (by rw [hc, hf, Option.isSome_none])
  | some v =>
    simp only [cell, hv, hf, Option.getD_some]
    exact .found hv (by rw [hc, hf, Option.isSome_some]) hf

/-- Among the values of all rows, that of row `i` in column `j` is at `i * m + j`, for `m`
columns. -/
theorem getElem?_cells {rows : List Value} {columns : List Column} {i j : Nat}
    (hi : i < rows.length) (hj : j < columns.length) :
    (cells rows columns)[i * columns.length + j]? = some (cell rows[i] columns[j]) := by
  induction rows generalizing i with
  | nil => exact absurd hi (Nat.not_lt_zero i)
  | cons row rows ih =>
    simp only [cells, List.flatMap_cons] at ih ⊢
    cases i with
    | zero =>
      rw [Nat.zero_mul, Nat.zero_add, List.getElem?_append_left (by simpa using hj)]
      simp [hj]
    | succ i =>
      have hle : columns.length ≤ (i + 1) * columns.length + j := by
        rw [Nat.succ_mul]; omega
      rw [List.getElem?_append_right (by simpa using hle), List.length_map, Nat.succ_mul,
        Nat.add_right_comm, Nat.add_sub_cancel, ih (by simpa using hi), List.getElem_cons_succ]

end RowInsert
