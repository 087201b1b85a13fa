import RowInsert.Proofs.Rule

/-!
# The order of checks

A rule clause is checked for nine things, some of them by the collaborators of the compiler.

* `RuleFault` says when a check fails, and with which failure, whatever the other checks say.
* `Compiler.compile_rule_first_fault` : the first check that fails decides, and a clause that fails
  none is compiled.
-/

namespace RowInsert

/-- A compiler with a quoter between texts, a validator by types, a limit that is a whole number and
no observer. -/
structure Compiler.IsPlain (c : Compiler) (d : Delimiters) (a : AllowedTypes) (limit : Int) :
    Prop where
  handlers : c.handlers NodeClass.rule.name = some .rule
  quoter : c.quoter = d.quote
  opening : d.opening.isText = true
  closing : d.closing.isText = true
  validator : c.validator = a.validate
  settings : c.settings = .ok ⟨.int limit⟩
  observer : c.observer = .ok none

/-- Nothing fails in the values themselves: a stream does not, a length can be asked for, and keys
can be listed. -/
structure Rows.AreTame (s : Streams) (values : Value) : Prop where
  quiet : values.failure? = none
  length : values.size?.isSome = true → ∃ n, values.length = .ok n
  listing : ∀ row ∈ all s values, ∀ key ∈ row.keys, ∃ shown, key.listing = .ok shown

/-! ### Faults -/

/-- What a rule clause is checked for, in this order. -/
inductive Check where
  | shape
  | range
  | presence
  | limit
  | rows
  | columns
  | table
  | names
  | bindings
  deriving DecidableEq, Repr

/-- The kind of error that a failed check is reported as. -/
def Check.kind : Check → ErrorKind
  | .shape | .presence | .rows | .columns => .invalidInput
  | .range => .value
  | .limit => .limitExceeded
  | .table | .names => .invalidIdentifier
  | .bindings => .invalidBinding

/-- A text is no identifier, and why. -/
inductive BadName : String → Failure → Prop where
  | empty : BadName "" .identifierEmpty
  | hasNul {name : String} (h : '\x00' ∈ name.toList) :
      BadName name (.identifierHasNul (Text.quoted name))

/-- A check fails for the rows of these values and this table, and with which failure.  No
constructor asks how other checks come out. -/
inductive RuleFault (a : AllowedTypes) (limit : Int) (table values : Value) (rows : List Value) :
    Check → Failure → Prop where
  | notRows (notMapping : values.isMapping = false)
      (h : values.isLiteral = true ∨ values.isIterable = false) :
      RuleFault a limit table values rows .shape (.valuesNotRows values.typeName)
  | outOfRange (walked : Rows.isWalked values = true)
      (h : limit + 1 < 0 ∨ Value.greatestIndex < limit + 1) :
      RuleFault a limit table values rows .range .limitNotWhole
  | noRows (h : rows = [] ∨ Rows.isWalked values = true ∧ limit = -1) :
      RuleFault a limit table values rows .presence .noRows
  | tooMany {count : Nat} (h : limit < rows.length)
      (reported : if values.size?.isSome then values.length = .ok count
        else (count : Int) = limit + 1) :
      RuleFault a limit table values rows .limit
        (.batchTooLarge count (.int limit) (toString limit))
  | notMapping {front back : List Value} {row : Value} (h : rows = front ++ row :: back)
      (least : ∀ r ∈ front, r.isRow = true) (notMapping : row.isMapping = false) :
      RuleFault a limit table values rows .rows (.rowNotMapping front.length row.typeName)
  | keyNotText {front back keysFront keysBack : List Value} {row key : Value} {shown : String}
      (h : rows = front ++ row :: back) (least : ∀ r ∈ front, r.isRow = true)
      (mapping : row.isMapping = true) (keys : row.keys = keysFront ++ key :: keysBack)
      (first : ∀ k ∈ keysFront, k.isText = true) (notText : key.isText = false)
      (listing : key.listing = .ok shown) :
      RuleFault a limit table values rows .rows (.columnNotText front.length shown)
  | noKeys (h : ∀ row ∈ rows, row.keys = []) :
      RuleFault a limit table values rows .columns .noColumns
  | tableNotText (h : table.isText = false) :
      RuleFault a limit table values rows .table (.identifierNotText table.typeName)
  | tableName {name : String} {f : Failure} (h : table.text? = some name) (bad : BadName name f) :
      RuleFault a limit table values rows .table f
  | columnName {name : String} {f : Failure} (h : Rows.HasKey rows name) (bad : BadName name f)
      (least : ∀ other, Rows.HasKey rows other → other < name → ∀ g, ¬ BadName other g) :
      RuleFault a limit table values rows .names f
  | binding {front back : List Value} {v : Value}
      (h : cells rows (Columns.union rows) = front ++ v :: back)
      (first : ∀ x ∈ front, a.admits x = true) (notAdmitted : a.admits v = false) :
      RuleFault a limit table values rows .bindings (.unsupportedBinding front.length v.typeName)

/-- The check does not fail. -/
def Check.Passes (a : AllowedTypes) (limit : Int) (table values : Value) (rows : List Value)
    (k : Check) : Prop :=
  ∀ f, ¬ RuleFault a limit table values rows k f

theorem RuleFault.kind_eq {a : AllowedTypes} {limit : Int} {table values : Value}
    {rows : List Value} {k : Check} {f : Failure} (h : RuleFault a limit table values rows k f) :
    f.kind = k.kind := by
  cases h with
  | tableName _ bad => cases bad <;> rfl
  | columnName _ bad _ => cases bad <;> rfl
  | _ => rfl

/-! ### Single checks -/

theorem check_eq_error_iff {name : String} {f : Failure} :
    Identifier.check name = .error f ↔ BadName name f := by
  unfold Identifier.check
  constructor
  · intro h
    split_ifs at h with hempty hnul
    · cases h
      obtain rfl : name = "" := by simpa using hempty
      exact .empty
    · cases h
      exact .hasNul (by simpa using hnul)
  · rintro (_ | hnul)
    · rfl
    · rw [if_neg, if_pos (by simpa using hnul)]
      intro hempty
      rw [List.isEmpty_iff.1 hempty] at hnul
      cases hnul

theorem check_eq_ok_iff {name : String} :
    Identifier.check name = .ok () ↔ ∀ f, ¬ BadName name f := by
  simp only [← check_eq_error_iff]
  cases Identifier.check name with
  | error f => simp
  | ok _ => simp

namespace AllowedTypes

theorem checkFrom_append {a : AllowedTypes} (position : Nat) {front : List Value}
    (rest : List Value) (h : ∀ v ∈ front, a.admits v = true) :
    a.checkFrom position (front ++ rest) = a.checkFrom (position + front.length) rest := by
  induction front generalizing position with
  | nil => rfl
  | cons v front ih =>
    obtain ⟨hv, hfront⟩ := List.forall_mem_cons.1 h
    rw [List.cons_append, checkFrom, if_pos hv, ih _ hfront, List.length_cons]
    congr 1
    omega

theorem check_eq_ok {a : AllowedTypes} {params : List Value}
    (h : ∀ v ∈ params, a.admits v = true) : a.check params = .ok () := by
  rw [check, ← List.append_nil params, checkFrom_append 0 [] h]
  rfl

theorem check_eq_error {a : AllowedTypes} {front : List Value} {v : Value} (back : List Value)
    (hfront : ∀ x ∈ front, a.admits x = true) (hv : a.admits v = false) :
    a.check (front ++ v :: back) = .error (.unsupportedBinding front.length v.typeName) := by
  rw [check, checkFrom_append 0 _ hfront, Nat.zero_add, checkFrom, if_neg (by simp [hv])]

theorem check_eq_ok_iff {a : AllowedTypes} {params : List Value} :
    a.check params = .ok () ↔ ∀ v ∈ params, a.admits v = true := by
  constructor
  · intro h
    rcases exists_first (fun v => a.admits v = true) params with
      hall | ⟨front, v, back, rfl, hfront, hv⟩
    · exact hall
    · rw [check_eq_error back hfront (by simpa using hv)] at h
      cases h
  · exact check_eq_ok

end AllowedTypes

theorem Statement.textsFrom_eq_ok (position : Nat) (names : List String) :
    textsFrom position (names.map .text) = .ok names :=
  (textsFrom_map (fun t _ => Value.text?_text t) position).trans (by rw [List.map_id'])

/-! ### What passed checks tell -/

namespace Check

variable {a : AllowedTypes} {limit : Int} {table values : Value} {rows : List Value}

theorem fits_of_passes (hshape : Passes a limit table values rows .shape)
    (hrange : Passes a limit table values rows .range) : Rows.Fits limit values := by
  by_cases hm : values.isMapping = true
  · exact .inl hm
  · have hw : Rows.isWalked values = true := by
      rw [Rows.isWalked_iff]
      refine ⟨hm, ?_, ?_⟩
      · by_contra hl
        exact hshape _ (.notRows (by simpa using hm) (.inl (by simpa using hl)))
      · by_contra hi
        exact hshape _ (.notRows (by simpa using hm) (.inr (by simpa using hi)))
    exact .inr ⟨hw, fun h => hrange _ (.outOfRange hw h)⟩

theorem some_of_passes (h : Passes a limit table values rows .presence) :
    rows ≠ [] ∧ ¬ (Rows.isWalked values = true ∧ limit = -1) :=
  ⟨fun hnil => h _ (.noRows (.inl hnil)), fun hwalked => h _ (.noRows (.inr hwalked))⟩

theorem within_of_passes {s : Streams} (hv : Rows.AreTame s values)
    (hfits : Rows.Fits limit values) (h : Passes a limit table values rows .limit) :
    rows.length ≤ limit := by
  by_contra hlt
  cases hsize : values.size?.isSome with
  | true =>
    obtain ⟨n, hn⟩ := hv.length hsize
    exact h _ (.tooMany (by omega) (by rw [if_pos hsize]; exact hn))
  | false =>
    rcases hfits with hm | ⟨-, hrange⟩
    · rw [Value.size?_of_isMapping hm] at hsize
      cases hsize
    · have hread : ((limit + 1).toNat : Int) = limit + 1 := by omega
      exact h _ (.tooMany (by omega) (by rw [if_neg (by simp [hsize])]; exact hread))

theorem rows_of_passes {s : Streams} (hv : Rows.AreTame s values) (hrows : rows = Rows.all s values)
    (h : Passes a limit table values rows .rows) : ∀ row ∈ rows, row.isRow = true := by
  rcases exists_first (fun row => row.isRow = true) rows with
    hall | ⟨front, row, back, heq, hfront, hrow⟩
  · exact hall
  · exfalso
    cases hm : row.isMapping with
    | false => exact h _ (.notMapping heq hfront hm)
    | true =>
      rcases exists_first (fun key => key.isText = true) row.keys with
        hkeys | ⟨keysFront, key, keysBack, hkeys, hkeysFront, hkey⟩
      · exact hrow (Value.isRow_iff.2 ⟨hm, hkeys⟩)
      · obtain ⟨shown, hshown⟩ := hv.listing row (by simp [← hrows, heq]) key (by simp [hkeys])
        exact h _ (.keyNotText heq hfront hm hkeys hkeysFront (by simpa using hkey) hshown)

theorem columns_of_passes (hrows : ∀ row ∈ rows, row.isRow = true)
    (h : Passes a limit table values rows .columns) : Columns.union rows ≠ [] := by
  intro hnil
  refine h _ (.noKeys fun row hrow => ?_)
  by_contra hkeys
  obtain ⟨key, keys, hcons⟩ := List.exists_cons_of_ne_nil hkeys
  have hmem : key ∈ row.keys := by rw [hcons]; exact List.mem_cons_self
  obtain ⟨t, ht⟩ := Option.isSome_iff_exists.1 ((Value.isRow_iff.1 (hrows row hrow)).2 key hmem)
  have := ((Columns.isColumns_union rows).mem_iff t).2 ⟨row, hrow, key, hmem, ht⟩
  rw [hnil] at this
  cases this

theorem names_of_passes (h : Passes a limit table values rows .names) :
    ∀ column ∈ Columns.union rows, Identifier.check column.name = .ok () := by
  classical
  have his := Columns.isColumns_union rows
  let good (column : Column) : Prop := ∀ f, ¬ BadName column.name f
  rcases exists_first good (Columns.union rows) with
    hall | ⟨front, column, back, heq, hfront, hbad⟩
  · exact fun column hcolumn => check_eq_ok_iff.2 (hall column hcolumn)
  · exfalso
    obtain ⟨f, hf⟩ := not_forall_not.1 hbad
    have hmem : column.name ∈ (Columns.union rows).map Column.name := by
      rw [heq]
      simp
    refine h f (.columnName ((his.mem_iff _).1 hmem) hf fun other hother hlt => ?_)
    -- A smaller name is that of a column before this one.
    have hother := (his.mem_iff other).2 hother
    have hincreasing := his.increasing
    rw [heq, List.map_append, List.map_cons] at hother hincreasing
    have hback := (List.pairwise_cons.1 (List.pairwise_append.1 hincreasing).2.1).1
    rcases List.mem_append.1 hother with hmem | hmem
    · obtain ⟨before, hbefore, rfl⟩ := List.mem_map.1 hmem
      exact hfront before hbefore
    · rcases List.mem_cons.1 hmem with rfl | hmem
      · exact absurd hlt (lt_irrefl _)
      · exact absurd hlt (lt_asymm (hback other hmem))

theorem bindings_of_passes (h : Passes a limit table values rows .bindings) :
    ∀ v ∈ cells rows (Columns.union rows), a.admits v = true := by
  rcases exists_first (fun v => a.admits v = true) (cells rows (Columns.union rows)) with
    hall | ⟨front, v, back, heq, hfront, hv⟩
  · exact hall
  · exact absurd (.binding heq hfront (by simpa using hv)) (h _)

end Check

/-! ### Stages -/

namespace Compiler

variable {c : Compiler} {d : Delimiters} {a : AllowedTypes} {limit : Int}
variable {table values : Value} {rows : List Value} {columns : List Column} {f : Failure}

theorem insertColumns_table_error (hcolumns : columns ≠ []) (htable : c.quoter table = .error f) :
    c.insertColumns table rows columns = .error f := by
  unfold insertColumns quotedNames
  rw [if_neg (by simpa using hcolumns), htable]
  rfl

theorem insertColumns_name_error (hcolumns : columns ≠ []) {r : Value}
    (htable : c.quoter table = .ok r)
    (hnames : columns.mapM (fun column => c.quoter column.toValue) = .error f) :
    c.insertColumns table rows columns = .error f := by
  unfold insertColumns quotedNames
  rw [if_neg (by simpa using hcolumns), htable, hnames]
  rfl

theorem insertColumns_ok (rows : List Value) (hcolumns : columns ≠ []) {t : String}
    {names : List String} (htable : c.quoter table = .ok (.text t))
    (hnames : columns.mapM (fun column => c.quoter column.toValue) = .ok (names.map .text)) :
    ∃ compiled, c.insertColumns table rows columns = .ok compiled ∧
      compiled.query.params = cells rows columns := by
  refine ⟨⟨⟨.text (Statement.render t names rows.length), cells rows columns⟩, some rows.length,
    some columns.length⟩, ?_, rfl⟩
  unfold insertColumns quotedNames
  rw [if_neg (by simpa using hcolumns), htable, hnames]
  change Statement.ofValues (.text t) (names.map .text) rows.length >>= _ = _
  rw [Statement.ofValues, Value.plain_text, Statement.textsFrom_eq_ok]
  rfl

theorem insertInto_of_rows (hrows : ∀ row ∈ rows, row.isRow = true) :
    c.insertInto table rows = c.insertColumns table rows (Columns.union rows) := by
  rw [insertInto, Columns.ofRows_eq_union hrows]
  rfl

/-- What is no text is not quoted, and a text if it is an identifier. -/
theorem IsPlain.exists_quoting (hc : c.IsPlain d a limit) :
    (∀ v, v.isText = false → c.quoter v = .error (.identifierNotText v.typeName)) ∧
      ∃ g : String → String, ∀ v name, v.text? = some name →
        c.quoter v = (Identifier.check name).map fun _ => .text (g name) := by
  obtain ⟨opening, hopening⟩ := Option.isSome_iff_exists.1 hc.opening
  obtain ⟨closing, hclosing⟩ := Option.isSome_iff_exists.1 hc.closing
  rw [hc.quoter]
  exact ⟨fun v => Delimiters.quote_of_notText, _, fun v name =>
    Delimiters.quote_eq hopening hclosing⟩

theorem quoter_of_bad {v : Value} {name : String} {g : String → String}
    (hquoter : c.quoter v = (Identifier.check name).map fun _ => .text (g name))
    (hbad : BadName name f) : c.quoter v = .error f := by
  rw [hquoter, check_eq_error_iff.2 hbad]
  rfl

theorem quoter_of_good {v : Value} {name : String} {g : String → String}
    (hquoter : c.quoter v = (Identifier.check name).map fun _ => .text (g name))
    (hgood : Identifier.check name = .ok ()) : c.quoter v = .ok (.text (g name)) := by
  rw [hquoter, hgood]
  rfl

theorem quoter_of_table_passes (hc : c.IsPlain d a limit)
    (h : Check.Passes a limit table values rows .table) :
    ∃ t, c.quoter table = .ok (.text t) := by
  obtain ⟨-, g, hg⟩ := hc.exists_quoting
  cases ht : table.text? with
  | none => exact absurd (.tableNotText (by rw [Value.isText, ht]; rfl)) (h _)
  | some name =>
    have hgood := check_eq_ok_iff.2 fun f hf => h f (.tableName ht hf)
    exact ⟨g name, quoter_of_good (hg table name ht) hgood⟩

theorem mapM_quoter (hc : c.IsPlain d a limit)
    (h : ∀ column ∈ columns, Identifier.check column.name = .ok ()) :
    ∃ names : List String,
      columns.mapM (fun column => c.quoter column.toValue) = .ok (names.map .text) := by
  obtain ⟨-, g, hg⟩ := hc.exists_quoting
  refine ⟨columns.map fun column => g column.name, ?_⟩
  rw [List.map_map]
  exact mapM_eq_ok fun column hcolumn =>
    quoter_of_good (hg _ _ column.text?_toValue) (h column hcolumn)

/-- The first column whose name is bad is refused. -/
theorem mapM_quoter_error (hc : c.IsPlain d a limit) {name : String}
    (hkey : Rows.HasKey rows name) (hbad : BadName name f)
    (hleast : ∀ other, Rows.HasKey rows other → other < name → ∀ g, ¬ BadName other g) :
    (Columns.union rows).mapM (fun column => c.quoter column.toValue) = .error f := by
  obtain ⟨-, g, hg⟩ := hc.exists_quoting
  have his := Columns.isColumns_union rows
  obtain ⟨column, hcolumn, rfl⟩ := List.mem_map.1 ((his.mem_iff name).2 hkey)
  obtain ⟨front, back, heq⟩ := List.append_of_mem hcolumn
  have hincreasing := his.increasing
  rw [heq, List.map_append, List.map_cons] at hincreasing
  rw [heq]
  refine mapM_eq_error back (fun before hbefore => ?_)
    (quoter_of_bad (hg _ _ column.text?_toValue) hbad)
  have hlt := (List.pairwise_append.1 hincreasing).2.2 before.name (List.mem_map_of_mem hbefore)
    column.name List.mem_cons_self
  have hbeforeKey : Rows.HasKey rows before.name := by
    refine (his.mem_iff _).1 ?_
    rw [heq, List.map_append]
    exact List.mem_append_left _ (List.mem_map_of_mem hbefore)
  exact ⟨_, quoter_of_good (hg _ _ before.text?_toValue)
    (check_eq_ok_iff.2 (hleast _ hbeforeKey hlt))⟩

theorem validated_error (hc : c.IsPlain d a limit) {compiled : Compiled} {front back : List Value}
    {v : Value} (hparams : compiled.query.params = front ++ v :: back)
    (hfront : ∀ x ∈ front, a.admits x = true) (hv : a.admits v = false) :
    c.validated compiled = .error (.unsupportedBinding front.length v.typeName) := by
  unfold validated
  rw [hparams, if_neg (by simp), hc.validator, AllowedTypes.validate, hparams,
    AllowedTypes.check_eq_error back hfront hv]
  rfl

theorem validated_ok (hc : c.IsPlain d a limit) {compiled : Compiled}
    (h : ∀ v ∈ compiled.query.params, a.admits v = true) :
    ∃ validated, c.validated compiled = .ok validated := by
  unfold validated
  rw [hc.validator, AllowedTypes.validate, AllowedTypes.check_eq_ok h]
  split_ifs
  · exact ⟨_, rfl⟩
  · exact ⟨_, rfl⟩

/-! ### The first fault -/

section Outcome

variable {s : State} {k : Check}

/-- The checks before this one pass for the rows of these values. -/
def Reaches (a : AllowedTypes) (limit : Int) (table values : Value) (s : State) (k : Check) :
    Prop :=
  ∀ k', k'.ctorIdx < k.ctorIdx →
    Check.Passes a limit table values (Rows.all s.streams values) k'

theorem ruleOutcome_of_unread
    (h : ((Rows.readBounded c.settings values).exec s).1 = .error f) :
    c.ruleOutcome table values s = .error f := by
  rw [ruleOutcome, h]
  rfl

theorem Reaches.fits (h : Reaches a limit table values s k)
    (hk : Check.range.ctorIdx < k.ctorIdx) : Rows.Fits limit values :=
  Check.fits_of_passes (h .shape (Nat.lt_of_le_of_lt (by decide) hk)) (h .range hk)

/-- Rows that are there and within the limit are read. -/
theorem Reaches.read (h : Reaches a limit table values s k) (hc : c.IsPlain d a limit)
    (hv : Rows.AreTame s.streams values) (hk : Check.limit.ctorIdx < k.ctorIdx) :
    ((Rows.readBounded c.settings values).exec s).1 = .ok (Rows.all s.streams values) := by
  have hfits := h.fits (Nat.lt_trans (by decide) hk)
  have hne := (Check.some_of_passes (h .presence (Nat.lt_trans (by decide) hk))).1
  have hle := Check.within_of_passes hv hfits (h .limit hk)
  rw [hc.settings, Rows.readBounded_within rfl hfits hv.quiet hne hle]

theorem Reaches.areRows (h : Reaches a limit table values s k) (hv : Rows.AreTame s.streams values)
    (hk : Check.rows.ctorIdx < k.ctorIdx) :
    ∀ row ∈ Rows.all s.streams values, row.isRow = true :=
  Check.rows_of_passes hv rfl (h .rows hk)

/-- Rows with columns are what is inserted. -/
theorem Reaches.ruleOutcome_eq (h : Reaches a limit table values s k) (hc : c.IsPlain d a limit)
    (hv : Rows.AreTame s.streams values) (hk : Check.rows.ctorIdx < k.ctorIdx) :
    c.ruleOutcome table values s =
      c.insertColumns table (Rows.all s.streams values)
        (Columns.union (Rows.all s.streams values)) >>= c.validated := by
  rw [ruleOutcome, h.read hc hv (Nat.lt_trans (by decide) hk)]
  change c.insertInto table (Rows.all s.streams values) >>= _ = _
  rw [insertInto_of_rows (h.areRows hv hk)]

theorem Reaches.hasColumns (h : Reaches a limit table values s k)
    (hv : Rows.AreTame s.streams values)
    (hk : Check.columns.ctorIdx < k.ctorIdx) :
    Columns.union (Rows.all s.streams values) ≠ [] :=
  Check.columns_of_passes (h.areRows hv (Nat.lt_trans (by decide) hk)) (h .columns hk)

/-- A check that is reached and fails decides. -/
theorem ruleOutcome_of_fault (hc : c.IsPlain d a limit) (hv : Rows.AreTame s.streams values)
    (hfault : RuleFault a limit table values (Rows.all s.streams values) k f)
    (h : Reaches a limit table values s k) : c.ruleOutcome table values s = .error f := by
  cases hfault with
  | notRows hm hunfit =>
    apply ruleOutcome_of_unread
    refine Rows.readBounded_of_unfit (by simp [hm]) ?_
    rcases hunfit with hl | hi
    · simp [Rows.isWalked, hl]
    · simp [Rows.isWalked, hi]
  | outOfRange hw hrange =>
    apply ruleOutcome_of_unread
    rw [hc.settings]
    exact Rows.readBounded_outOfRange rfl hw hrange
  | noRows hnone =>
    apply ruleOutcome_of_unread
    rw [hc.settings]
    exact Rows.readBounded_none rfl (h.fits (by decide)) hv.quiet hnone
  | tooMany hmany hreported =>
    apply ruleOutcome_of_unread
    rw [hc.settings]
    exact Rows.readBounded_many rfl (h.fits (by decide)) hv.quiet
      (Check.some_of_passes (h .presence (by decide))).2 hmany hreported
  | notMapping heq hfront hrow =>
    rw [ruleOutcome, h.read hc hv (by decide), heq]
    change c.insertInto table _ >>= _ = _
    rw [insertInto, Columns.ofRows_eq_rowNotMapping _ hfront (by simp [hrow])]
    rfl
  | keyNotText heq hfront hrow hkeys hkeysFront hkey hshown =>
    rw [ruleOutcome, h.read hc hv (by decide), heq]
    change c.insertInto table _ >>= _ = _
    rw [insertInto, Columns.ofRows_eq_columnNotText _ hfront hrow hkeys hkeysFront (by simp [hkey]),
      hshown]
    rfl
  | noKeys hkeys =>
    have hnone : Columns.union (Rows.all s.streams values) = [] := by
      rw [Columns.union, List.flatMap_eq_nil_iff.2 hkeys]
      rfl
    rw [h.ruleOutcome_eq hc hv (by decide), hnone]
    rfl
  | tableNotText ht =>
    rw [h.ruleOutcome_eq hc hv (by decide),
      insertColumns_table_error (h.hasColumns hv (by decide)) (hc.exists_quoting.1 table ht)]
    rfl
  | tableName ht hbad =>
    obtain ⟨-, g, hg⟩ := hc.exists_quoting
    rw [h.ruleOutcome_eq hc hv (by decide),
      insertColumns_table_error (h.hasColumns hv (by decide)) (quoter_of_bad (hg table _ ht) hbad)]
    rfl
  | columnName hkey hbad hleast =>
    -- The table is quoted before the columns, so it has to be in order.
    obtain ⟨t, ht⟩ := quoter_of_table_passes hc (h .table (by decide))
    rw [h.ruleOutcome_eq hc hv (by decide),
      insertColumns_name_error (h.hasColumns hv (by decide)) ht
        (mapM_quoter_error hc hkey hbad hleast)]
    rfl
  | binding heq hfront hv' =>
    obtain ⟨t, ht⟩ := quoter_of_table_passes hc (h .table (by decide))
    obtain ⟨names, hnames⟩ := mapM_quoter hc (Check.names_of_passes (h .names (by decide)))
    obtain ⟨compiled, hcompiled, hparams⟩ := insertColumns_ok (Rows.all s.streams values)
      (h.hasColumns hv (by decide)) ht hnames
    rw [h.ruleOutcome_eq hc hv (by decide), hcompiled]
    exact validated_error hc (hparams.trans heq) hfront hv'

theorem ruleOutcome_of_passes (hc : c.IsPlain d a limit) (hv : Rows.AreTame s.streams values)
    (h : ∀ k, Check.Passes a limit table values (Rows.all s.streams values) k) :
    ∃ compiled, c.ruleOutcome table values s = .ok compiled := by
  have hreaches : Reaches a limit table values s .bindings := fun k _ => h k
  obtain ⟨t, ht⟩ := quoter_of_table_passes hc (h .table)
  obtain ⟨names, hnames⟩ := mapM_quoter hc (Check.names_of_passes (h .names))
  obtain ⟨compiled, hcompiled, hparams⟩ := insertColumns_ok (Rows.all s.streams values)
    (hreaches.hasColumns hv (by decide)) ht hnames
  rw [hreaches.ruleOutcome_eq hc hv (by decide), hcompiled]
  exact validated_ok hc (hparams ▸ Check.bindings_of_passes (h .bindings))

/-- If a check fails, then one that is reached does. -/
theorem exists_reached_fault
    (h : RuleFault a limit table values (Rows.all s.streams values) k f) :
    ∃ k f, RuleFault a limit table values (Rows.all s.streams values) k f ∧
      Reaches a limit table values s k := by
  -- A check that is not reached comes after one that fails, so this goes back to the first.
  induction hn : k.ctorIdx using Nat.strongRecOn generalizing k f with
  | _ n ih =>
    by_cases hreaches : Reaches a limit table values s k
    · exact ⟨k, f, h, hreaches⟩
    · obtain ⟨k', hk'⟩ := not_forall.1 hreaches
      obtain ⟨hlt, hfails⟩ := Classical.not_imp.1 hk'
      obtain ⟨f', hf'⟩ := not_forall_not.1 hfails
      exact ih k'.ctorIdx (hn ▸ hlt) hf' rfl

/-- **The first check that fails decides.**  A rule clause is compiled if and only if no check
fails, and the failure is otherwise that of a check before which all pass.  It is of the kind of
that check, so no failure of another kind arises. -/
theorem compile_rule_first_fault {clauses : Value} (hc : c.IsPlain d a limit)
    (hv : Rows.AreTame s.streams values) (h : Clauses.HoldRule clauses table values) :
    ((∃ q, (c.compile clauses s).1 = .ok q) ↔
      ∀ k f, ¬ RuleFault a limit table values (Rows.all s.streams values) k f) ∧
    ∀ k f, RuleFault a limit table values (Rows.all s.streams values) k f →
      f.kind = k.kind ∧
      ((∀ k' f', k'.ctorIdx < k.ctorIdx →
          ¬ RuleFault a limit table values (Rows.all s.streams values) k' f') →
        (c.compile clauses s).1 = .error ⟨f, none⟩) := by
  have hcompile : (c.compile clauses s).1 =
      settle (c.ruleOutcome table values s.tick) (.ok ()) := by
    rw [compile_of_unobserved hc.observer, ← attempt_rule hc.handlers h]
  -- Reading the clock leaves the streams alone, so the rows are the same from there.
  have hfails {k f} (hfault : RuleFault a limit table values (Rows.all s.streams values) k f)
      (hreaches : Reaches a limit table values s k) :
      (c.compile clauses s).1 = .error ⟨f, none⟩ := by
    have hrows : Rows.AreTame s.tick.streams values := hv
    rw [hcompile, ruleOutcome_of_fault hc hrows hfault hreaches]
    rfl
  refine ⟨⟨?_, ?_⟩, fun k f hfault => ⟨hfault.kind_eq, fun hfirst => ?_⟩⟩
  · rintro ⟨q, hq⟩ k f hfault
    obtain ⟨k, f, hfault, hreaches⟩ := exists_reached_fault hfault
    rw [hfails hfault hreaches] at hq
    cases hq
  · intro hpasses
    have hrows : Rows.AreTame s.tick.streams values := hv
    obtain ⟨compiled, hok⟩ : ∃ compiled, c.ruleOutcome table values s.tick = .ok compiled :=
      ruleOutcome_of_passes hc hrows hpasses
    refine ⟨compiled.query, ?_⟩
    rw [hcompile, hok]
    rfl
  · exact hfails hfault fun k' hk' f' => hfirst k' f' hk'

/-- Of a key that is no text, in the second row, and a table without a name, the key is reported. -/
theorem compile_rule_first_fault_key :
    let first : Value := .mapping .plain 0 [(.text "b", .int 1)]
    let second : Value := .mapping .plain 0 [(.text "a", .int 2), (.int 7, .null)]
    let values : Value := .list [first, second]
    let rows := Rows.all .fresh values
    let s := State.initial ⟨[], none, ⟨⟨2026, 1, 1⟩, 0, 0, 0, 0⟩⟩
    RuleFault .standard 10000 (.text "") values rows .rows (.columnNotText 1 "7") ∧
      RuleFault .standard 10000 (.text "") values rows .table .identifierEmpty ∧
      (Options.standard.compiler.compile
        (.list [.record .rule 0 [("table", .text ""), ("values", values)]]) s).1 =
          .error ⟨.columnNotText 1 "7", none⟩ := by
  intro first second values rows s
  have hkey : RuleFault .standard 10000 (.text "") values rows .rows (.columnNotText 1 "7") := by
    have hrows : rows = [first] ++ second :: [] := rfl
    have hkeys : second.keys = [.text "a"] ++ .int 7 :: [] := rfl
    exact .keyNotText hrows (List.forall_mem_singleton.2 rfl) rfl hkeys
      (List.forall_mem_singleton.2 rfl) rfl rfl
  have hplain : Options.standard.compiler.IsPlain .ansi .standard 10000 :=
    ⟨rfl, rfl, rfl, rfl, rfl, rfl, rfl⟩
  have hlisting : ∀ row ∈ rows, ∀ key ∈ row.keys, ∃ shown, key.listing = .ok shown :=
    List.forall_mem_cons.2 ⟨List.forall_mem_singleton.2 ⟨_, rfl⟩, List.forall_mem_singleton.2
      (List.forall_mem_cons.2 ⟨⟨_, rfl⟩, List.forall_mem_singleton.2 ⟨_, rfl⟩⟩)⟩
  have htame : Rows.AreTame s.streams values := ⟨rfl, fun _ => ⟨2, rfl⟩, hlisting⟩
  have hclauses := Clauses.holdRule_sequence (.inl rfl) 0 0 (.text "") values
  refine ⟨hkey, .tableName rfl .empty, ?_⟩
  refine ((compile_rule_first_fault hplain htame hclauses).2 _ _ hkey).2 fun k f hk hfault => ?_
  cases hfault with
  | notRows _ h => rcases h with h | h <;> cases h
  | outOfRange _ h => exact absurd h (by decide)
  | noRows h =>
    rcases h with h | ⟨-, h⟩
    · cases h
    · exact absurd h (by decide)
  | tooMany h _ => exact absurd h (by decide)
  | _ => exact absurd hk (by decide)

/-- A limit below zero that one item more than it cannot be asked for is reported as such, although
there are more rows than it allows. -/
theorem compile_rule_negative_limit :
    let values : Value := .list [.mapping .plain 0 [(.text "a", .int 1)]]
    let s := State.initial ⟨[], none, ⟨⟨2026, 1, 1⟩, 0, 0, 0, 0⟩⟩
    let c := { Options.standard with settings := ⟨.int (-2)⟩ }.compiler
    Rows.isWalked values = true ∧ Rows.all s.streams values ≠ [] ∧
      (-2 : Int) < (Rows.all s.streams values).length ∧
      (c.compile (.list [.record .rule 0 [("table", .text "t"), ("values", values)]]) s).1 =
        .error ⟨.limitNotWhole, none⟩ ∧
      Failure.limitNotWhole.kind ≠ .limitExceeded :=
  ⟨rfl, List.cons_ne_nil _ _, by decide, rfl, by decide⟩

end Outcome

end Compiler

end RowInsert
