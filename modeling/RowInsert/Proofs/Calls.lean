import RowInsert.Proofs.Attempt

/-!
# Calls of collaborators

* `Value.Binds` and `Rows.Accepted` say which bindings of raw clauses and which values of rule
  clauses are accepted, before any collaborator is called.
* `Compiler.Calls` says which calls are made for a list of clauses, and in which order: a quoter is
  called until it fails once, and a validator when all has gone well.
* `Run.Makes` are the calls that a computation makes from a state; it is kept by sequences.
* `Compiler.compile_calls` : a compilation makes just these calls, however it ends and whatever
  observes it.
-/

namespace RowInsert

/-! ### What is accepted -/

/-- The bindings of a raw clause bind these elements. -/
inductive Value.Binds (s : Streams) : Value → List Value → Prop where
  | null : Binds s .null []
  | stream {i : Identity} {items : List Value} {failure : Option String}
      (quiet : (Value.stream i items failure).EndsQuietly s) :
      Binds s (.stream i items failure) (s.rest i items)
  | listed {v : Value} {elements : List Value} (notUnitary : v.isUnitary = false)
      (room : v.checkRoom = .ok ()) (items : v.items? = some elements) : Binds s v elements

/-- These values of a rule clause are rows within the limit, all mappings with texts as keys, of
which there is one. -/
structure Rows.Accepted (limit : Int) (s : Streams) (values : Value) : Prop where
  fits : Fits limit values
  quiet : values.EndsQuietly s
  some : all s values ≠ []
  within : ((all s values).length : Int) ≤ limit
  areRows : ∀ row ∈ all s values, row.isRow = true
  keyed : ∃ row ∈ all s values, row.keys ≠ []

/-- A clause made by a constructor, or an object of a class that the compiler knows nothing of. -/
inductive Compiler.Takes (c : Compiler) : Value → Prop where
  | raw (i : Identity) (sql bindings : Value) : Takes c (.rawClause i sql bindings)
  | rule (i : Identity) (table values : Value) : Takes c (.ruleClause i table values)
  | unhandled {v : Value} (h : c.handlers v.typeName = none) : Takes c v

/-! ### Which calls are made -/

/-- The calls for a list of clauses. -/
inductive Compiler.Calls (c : Compiler) (limit : Int) (s : Streams) :
    List Value → List Call → Prop where
  | none : Calls c limit s [] []
  | several {items : List Value} (h : 1 < items.length) : Calls c limit s items []
  | unhandled {v : Value} (h : c.handlers v.typeName = none) : Calls c limit s [v] []
  | rawRefused (i : Identity) (sql : Value) {bindings : Value}
      (h : ∀ elements, ¬ bindings.Binds s elements) :
      Calls c limit s [.rawClause i sql bindings] []
  | rawUnbound (i : Identity) (sql : Value) {bindings : Value} (h : bindings.Binds s []) :
      Calls c limit s [.rawClause i sql bindings] []
  | rawBound (i : Identity) (sql : Value) {bindings : Value} {elements : List Value}
      (h : bindings.Binds s elements) (hne : elements ≠ []) :
      Calls c limit s [.rawClause i sql bindings] [.validate ⟨sql, elements⟩]
  | ruleRefused (i : Identity) (table : Value) {values : Value}
      (h : ¬ Rows.Accepted limit s values) : Calls c limit s [.ruleClause i table values] []
  | ruleStopped (i : Identity) {table values v : Value} {columns : List Column}
      {front back : List Value} {f : Failure} (h : Rows.Accepted limit s values)
      (his : IsColumns (Rows.all s values) columns)
      (names : table :: columns.map Column.toValue = front ++ v :: back)
      (quoted : ∀ w ∈ front, ∃ r, c.quoter w = .ok r) (raised : c.quoter v = .error f) :
      Calls c limit s [.ruleClause i table values] ((front ++ [v]).map .quote)
  | ruleQuoted (i : Identity) {table values : Value} {columns : List Column} {tableText : String}
      {names : List String} (h : Rows.Accepted limit s values)
      (his : IsColumns (Rows.all s values) columns) (quotedTable : c.QuotesAs table tableText)
      (quotedColumns : List.Forall₂ (fun column => c.QuotesAs column.toValue) columns names) :
      Calls c limit s [.ruleClause i table values]
        ((table :: columns.map Column.toValue).map .quote ++
          [.validate ⟨.text (Statement.render tableText names (Rows.all s values).length),
            cells (Rows.all s values) columns⟩])

/-! ### Calls of computations -/

namespace Run

variable {α β : Type} {s t : State} {x : Run α} {f : α → Run β} {made more : List Call}

/-- From this state, the computation makes these calls. -/
def Makes (x : Run α) (s : State) (made : List Call) : Prop :=
  (x.exec s).2.journal.calls = s.journal.calls ++ made

theorem makes_of_reads (h : State.Reads s t) {r : Except Failure α} (hx : x.exec s = (r, t)) :
    x.Makes s [] := by
  obtain ⟨_, rfl⟩ := h
  unfold Makes
  rw [hx]
  exact (List.append_nil _).symm

theorem Makes.bind_ok {a : α} (h : x.Makes s made) (hx : x.exec s = (.ok a, t))
    (hf : (f a).Makes t more) : (x >>= f).Makes s (made ++ more) := by
  unfold Makes at h hf ⊢
  rw [hx] at h
  rw [exec_bind_ok hx, hf, h, List.append_assoc]

theorem Makes.bind_error {e : Failure} (h : x.Makes s made) (hx : x.exec s = (.error e, t)) :
    (x >>= f).Makes s made := by
  unfold Makes at h ⊢
  rw [hx] at h
  rw [exec_bind_error hx]
  exact h

/-! ### Raw clauses -/

/-- All that is left of a stream is read, and then its end. -/
theorem readAll_stream_eq_ok_iff {i : Identity} {items elements : List Value}
    {failure : Option String} :
    ((readAll (.stream i items failure)).exec s).1 = .ok elements ↔
      elements = s.streams.rest i items ∧ (Value.stream i items failure).EndsQuietly s.streams := by
  have hexec : (readAll (.stream i items failure)).exec s =
      ((finish i failure >>= fun _ => pure (s.streams.rest i items)).exec
        { s with streams := s.streams.advance i (s.streams.rest i items).length }) := rfl
  have hquiet := finish_eq_ok_iff items failure (i := i)
    (s := { s with streams := s.streams.advance i (s.streams.rest i items).length })
  rw [endsQuietly_advance] at hquiet
  rw [hexec, fst_exec_bind fun _ => yields_pure _, ← hquiet]
  rcases ((finish i failure).exec _).1 with f | _
  · exact ⟨fun h => (nomatch h), fun h => (nomatch h.2)⟩
  · exact ⟨fun h => ⟨(Except.ok.inj h).symm, rfl⟩, fun h => congrArg Except.ok h.1.symm⟩

end Run

theorem Value.eq_null {v : Value} (h : v.isNull = true) : v = .null := by
  cases v with
  | null => rfl
  | _ => cases h

/-- What is no stream is read without a change of state. -/
theorem Run.readAll_eq_require {v : Value} (h : ¬ ∃ i items failure, v = .stream i items failure) :
    readAll v = require v.items? (.notIterable v.qualifiedName) := by
  unfold readAll
  split
  · exact absurd ⟨_, _, _, rfl⟩ h
  · rfl

section RawParams

variable {bindings : Value} {s : State} {elements : List Value}

theorem Compiler.binds_of_rawParams (h : ((rawParams bindings).exec s).1 = .ok elements) :
    bindings.Binds s.streams elements := by
  unfold rawParams at h
  split at h
  · rename_i hnull
    obtain rfl := Value.eq_null hnull
    cases h
    exact .null
  split at h
  · cases h
  rename_i hunitary
  cases hroom : bindings.checkRoom with
  | error f =>
    rw [hroom] at h
    cases h
  | ok _ =>
    rw [hroom, Run.exec_lift_bind_ok] at h
    by_cases hs : ∃ i items failure, bindings = .stream i items failure
    · obtain ⟨i, items, failure, rfl⟩ := hs
      obtain ⟨rfl, hquiet⟩ := Run.readAll_stream_eq_ok_iff.1 h
      exact .stream hquiet
    · rw [Run.readAll_eq_require hs] at h
      cases hitems : bindings.items? with
      | none =>
        rw [hitems] at h
        cases h
      | some items =>
        rw [hitems] at h
        cases h
        exact .listed (by simpa using hunitary) hroom hitems

theorem Compiler.rawParams_of_binds (h : bindings.Binds s.streams elements) :
    ((rawParams bindings).exec s).1 = .ok elements := by
  cases h with
  | null => rfl
  | stream quiet => exact Run.readAll_stream_eq_ok_iff.2 ⟨rfl, quiet⟩
  | listed notUnitary room items =>
    have hnull : ¬ bindings.isNull = true := by
      intro hnull
      obtain rfl := Value.eq_null hnull
      cases items
    have hs : ¬ ∃ i items failure, bindings = .stream i items failure := by
      rintro ⟨_, _, _, rfl⟩
      cases items
    unfold rawParams
    rw [if_neg hnull, if_neg (by simp [notUnitary]), room, Run.exec_lift_bind_ok,
      Run.readAll_eq_require hs, items]
    rfl

end RawParams

/-! ### Quoting -/

/-- Marks are put around identifiers to make texts. -/
theorem Delimiters.isText_of_quote {d : Delimiters} {v r : Value} (h : d.quote v = .ok r) :
    r.isText = true := by
  unfold quote at h
  split at h
  · cases h
  · obtain ⟨_, -, h⟩ := bind_ok h
    obtain ⟨_, -, h⟩ := bind_ok h
    obtain ⟨_, -, h⟩ := bind_ok h
    cases h
    rfl

namespace Compiler

variable {c : Compiler} {limit : Int} {table values : Value} {s : State}

/-- The calls that quoting these values takes: one for each, up to the first that fails. -/
def quoteCalls (c : Compiler) : List Value → List Call
  | [] => []
  | v :: rest =>
    .quote v :: match c.quoter v with
      | .ok _ => quoteCalls c rest
      | .error _ => []

theorem quoteCalls_of_quoted {ids : List Value} (h : ∀ w ∈ ids, ∃ r, c.quoter w = .ok r) :
    c.quoteCalls ids = ids.map .quote := by
  induction ids with
  | nil => rfl
  | cons v ids ih =>
    obtain ⟨⟨r, hr⟩, hids⟩ := List.forall_mem_cons.1 h
    simp only [quoteCalls, hr, ih hids, List.map_cons]

theorem quoteCalls_of_raised {front : List Value} (h : ∀ w ∈ front, ∃ r, c.quoter w = .ok r)
    {v : Value} {f : Failure} (hv : c.quoter v = .error f) (back : List Value) :
    c.quoteCalls (front ++ v :: back) = (front ++ [v]).map .quote := by
  induction front with
  | nil => simp only [List.nil_append, quoteCalls, hv, List.map_cons, List.map_nil]
  | cons w front ih =>
    obtain ⟨⟨r, hr⟩, hfront⟩ := List.forall_mem_cons.1 h
    simp only [List.cons_append, quoteCalls, hr, ih hfront, List.map_cons]

theorem exec_quote (v : Value) (s : State) :
    (c.quote v).exec s = (c.quoter v, s.called [.quote v]) := rfl

theorem exec_quoteColumns (columns : List Column) (s : State) :
    (columns.mapM fun column => c.quote column.toValue).exec s =
      (columns.mapM fun column => c.quoter column.toValue,
        s.called (c.quoteCalls (columns.map Column.toValue))) := by
  induction columns generalizing s with
  | nil =>
    rw [List.map_nil, quoteCalls, State.called_nil]
    rfl
  | cons column columns ih =>
    rw [List.mapM_cons, List.mapM_cons, List.map_cons, quoteCalls]
    have hfirst := c.exec_quote column.toValue s
    cases hr : c.quoter column.toValue with
    | error f =>
      rw [hr] at hfirst
      exact Run.exec_bind_error hfirst
    | ok r =>
      rw [hr] at hfirst
      rw [Run.exec_bind_ok hfirst, Run.exec_bind, ih]
      dsimp only
      rw [State.called_called]
      cases columns.mapM fun column => c.quoter column.toValue <;> rfl

theorem exec_quoteNames {node : Value} (h : node.attribute? "table" = some table)
    (columns : List Column) (s : State) :
    (c.quoteNames node columns).exec s =
      (c.quotedNames table columns,
        s.called (c.quoteCalls (table :: columns.map Column.toValue))) := by
  unfold quoteNames quotedNames
  rw [Value.attribute_ok h, Run.exec_lift_bind_ok, quoteCalls]
  have hfirst := c.exec_quote table s
  cases hr : c.quoter table with
  | error f =>
    rw [hr] at hfirst
    exact Run.exec_bind_error hfirst
  | ok r =>
    rw [hr] at hfirst
    rw [Run.exec_bind_ok hfirst, Run.exec_bind, exec_quoteColumns]
    dsimp only
    rw [State.called_called]
    cases columns.mapM fun column => c.quoter column.toValue <;> rfl

/-! ### Rule clauses -/

theorem columns_of_accepted (h : Rows.Accepted limit s.streams values) :
    Columns.ofRows (Rows.all s.streams values) =
        .ok (Columns.union (Rows.all s.streams values)) ∧
      Columns.union (Rows.all s.streams values) ≠ [] := by
  refine ⟨Columns.ofRows_eq_union h.areRows, fun hnil => ?_⟩
  obtain ⟨row, hrow, hkeys⟩ := h.keyed
  obtain ⟨key, keys, hcons⟩ := List.exists_cons_of_ne_nil hkeys
  have hkey : key ∈ row.keys := by
    rw [hcons]
    exact List.mem_cons_self
  obtain ⟨t, ht⟩ := Option.isSome_iff_exists.1 ((Value.isRow_iff.1 (h.areRows row hrow)).2 key hkey)
  have hmem := ((Columns.isColumns_union _).mem_iff t).2 ⟨row, hrow, key, hkey, ht⟩
  rw [hnil] at hmem
  cases hmem

/-- Nothing is called for values that are not accepted. -/
theorem exec_compileRule_refused (hsettings : c.settings = .ok ⟨.int limit⟩)
    (h : ¬ Rows.Accepted limit s.streams values) (i : Identity) (table : Value) :
    ∃ f t, State.Reads s t ∧
      (c.compileRule (.ruleClause i table values)).exec s = (.error f, t) := by
  have hvalues : (Value.ruleClause i table values).attribute? "values" = some values := rfl
  have hmoves := Rows.moves_readBounded (.ok ⟨.int limit⟩) values s
  unfold compileRule
  rw [Value.attribute_ok hvalues, Run.exec_lift_bind_ok, hsettings]
  rcases hexec : (Rows.readBounded (.ok ⟨.int limit⟩) values).exec s with ⟨f | rows, t⟩
  · rw [hexec] at hmoves
    exact ⟨f, t, hmoves, Run.exec_bind_error hexec⟩
  rw [hexec] at hmoves
  obtain ⟨rfl, hfits, hsome, hwithin, hquiet⟩ :=
    Rows.readBounded_eq_ok_iff.1 (congrArg Prod.fst hexec)
  rw [Run.exec_bind_ok hexec]
  cases hcolumns : Columns.ofRows (Rows.all s.streams values) with
  | error f => exact ⟨f, t, hmoves, Run.exec_lift_bind_error f _ t⟩
  | ok columns =>
    obtain ⟨hrows, rfl⟩ := Columns.ofRows_eq_ok_iff.1 hcolumns
    have hnil : Columns.union (Rows.all s.streams values) = [] := by
      by_contra hne
      obtain ⟨column, hcolumn⟩ := List.exists_mem_of_ne_nil _ hne
      obtain ⟨row, hrow, hkey⟩ := (Columns.isColumns_union _).fromRows column hcolumn
      exact h ⟨hfits, hquiet, hsome, hwithin, hrows, row, hrow, List.ne_nil_of_mem hkey⟩
    refine ⟨.noColumns, t, hmoves, ?_⟩
    rw [Run.exec_lift_bind_ok, hnil]
    rfl

/-- The names of accepted rows are quoted, and nothing else is called. -/
theorem exec_compileRule_accepted (hsettings : c.settings = .ok ⟨.int limit⟩)
    (h : Rows.Accepted limit s.streams values) (i : Identity) (table : Value) :
    ∃ t, State.Reads s t ∧
      (c.compileRule (.ruleClause i table values)).exec s =
        (c.insertColumns table (Rows.all s.streams values)
            (Columns.union (Rows.all s.streams values)),
          t.called (c.quoteCalls
            (table :: (Columns.union (Rows.all s.streams values)).map Column.toValue))) := by
  have hvalues : (Value.ruleClause i table values).attribute? "values" = some values := rfl
  have htable : (Value.ruleClause i table values).attribute? "table" = some table := rfl
  obtain ⟨hcolumns, hne⟩ := columns_of_accepted h
  have hempty : (Columns.union (Rows.all s.streams values)).isEmpty = false := by simpa using hne
  have hread := Rows.readBounded_eq_ok_iff.2 ⟨rfl, h.fits, h.some, h.within, h.quiet⟩
  have hmoves := Rows.moves_readBounded (.ok ⟨.int limit⟩) values s
  rcases hexec : (Rows.readBounded (.ok ⟨.int limit⟩) values).exec s with ⟨outcome, t⟩
  rw [hexec] at hread hmoves
  dsimp only at hread hmoves
  subst hread
  refine ⟨t, hmoves, ?_⟩
  unfold compileRule insertColumns
  rw [Value.attribute_ok hvalues, Run.exec_lift_bind_ok, hsettings, Run.exec_bind_ok hexec,
    hcolumns, Run.exec_lift_bind_ok, hempty]
  change ((c.quoteNames _ _) >>= _).exec t = _
  rw [Run.exec_bind, exec_quoteNames htable]
  cases c.quotedNames table (Columns.union (Rows.all s.streams values)) with
  | error f => rfl
  | ok names =>
    change (Run.lift (Statement.ofValues names.1 names.2 _) >>= _).exec _ =
      (Statement.ofValues names.1 names.2 _ >>= _, _)
    cases Statement.ofValues names.1 names.2 (Rows.all s.streams values).length <;> rfl

/-- Names that are all quoted, with texts, become a query. -/
theorem insertColumns_quoted (hquoter : ∀ w r, c.quoter w = .ok r → r.isText = true)
    {columns : List Column} (hne : columns ≠ [])
    (hall : ∀ w ∈ table :: columns.map Column.toValue, ∃ r, c.quoter w = .ok r)
    (rows : List Value) :
    ∃ tableText names, c.QuotesAs table tableText ∧
      List.Forall₂ (fun column => c.QuotesAs column.toValue) columns names ∧
      c.insertColumns table rows columns =
        .ok ⟨⟨.text (Statement.render tableText names rows.length), cells rows columns⟩,
          some rows.length, some columns.length⟩ := by
  have hanswer (w : Value) : ∃ r t, w ∈ table :: columns.map Column.toValue →
      c.quoter w = .ok r ∧ r.text? = some t := by
    by_cases hw : w ∈ table :: columns.map Column.toValue
    · obtain ⟨r, hr⟩ := hall w hw
      obtain ⟨t, ht⟩ := Option.isSome_iff_exists.1 (hquoter w r hr)
      exact ⟨r, t, fun _ => ⟨hr, ht⟩⟩
    · exact ⟨.null, "", fun h => absurd h hw⟩
  choose answer text hanswer using hanswer
  obtain ⟨⟨htable, htableText⟩, hcolumns⟩ := List.forall_mem_cons.1 hanswer
  rw [List.forall_mem_map] at hcolumns
  have hmap : columns.mapM (fun column => c.quoter column.toValue) =
      .ok (columns.map fun column => answer column.toValue) :=
    mapM_eq_ok fun column h => (hcolumns column h).1
  have htexts : Statement.textsFrom 0 (columns.map fun column => answer column.toValue) =
      .ok (columns.map fun column => text column.toValue) :=
    Statement.textsFrom_map (fun column h => (hcolumns column h).2) 0
  have hplain := Value.plain_of_text? htableText
  refine ⟨text table, columns.map fun column => text column.toValue,
    ⟨answer table, htable, hplain⟩, ?_, ?_⟩
  · rw [List.forall₂_map_right_iff, List.forall₂_same]
    exact fun column h => ⟨_, (hcolumns column h).1, Value.plain_of_text? (hcolumns column h).2⟩
  · unfold insertColumns quotedNames
    rw [if_neg (by simpa using hne), htable, hmap]
    change Statement.ofValues (answer table) _ _ >>= _ = _
    rw [Statement.ofValues, hplain, htexts]
    rfl

/-- A name that cannot be quoted is the end. -/
theorem insertColumns_raised {columns : List Column} {front back : List Value} {v : Value}
    {f : Failure} (hne : columns ≠ [])
    (names : table :: columns.map Column.toValue = front ++ v :: back)
    (quoted : ∀ w ∈ front, ∃ r, c.quoter w = .ok r) (raised : c.quoter v = .error f)
    (rows : List Value) : c.insertColumns table rows columns = .error f := by
  have hquoted : c.quotedNames table columns = .error f := by
    unfold quotedNames
    cases front with
    | nil =>
      obtain ⟨rfl, -⟩ := List.cons.inj names
      rw [raised]
      rfl
    | cons w front =>
      obtain ⟨rfl, hcolumns⟩ : table = w ∧ columns.map Column.toValue = front ++ v :: back :=
        List.cons.inj names
      obtain ⟨⟨r, hr⟩, hfront⟩ := List.forall_mem_cons.1 quoted
      have hstopped : columns.mapM (fun column => c.quoter column.toValue) = .error f := by
        rw [← mapM_eq_error back hfront raised, ← hcolumns, List.mapM_map]
        rfl
      rw [hr, hstopped]
      rfl
  unfold insertColumns
  rw [if_neg (by simpa using hne), hquoted]
  rfl

/-! ### Lists of clauses -/

/-- A validator is called just if there is something to bind. -/
theorem makes_checked (compiled : Compiled) (s : State) :
    (c.checked compiled).Makes s
      (if compiled.query.params = [] then [] else [.validate compiled.query]) := by
  unfold checked
  by_cases hparams : compiled.query.params = []
  · rw [if_pos hparams, if_pos (by simp [hparams])]
    exact (List.append_nil _).symm
  · rw [if_neg hparams, if_neg (by simpa using hparams)]
    have hexec : (c.validate compiled.query).exec s =
        (c.validator compiled.query, s.called [.validate compiled.query]) := rfl
    unfold Run.Makes
    rw [Run.exec_bind, hexec]
    cases c.validator compiled.query <;> rfl

section Clause

variable {sql bindings : Value} {i : Identity}

theorem exists_calls_raw (hraw : c.handlers NodeClass.raw.name = some .raw) (s : State) :
    ∃ made, (c.compileClause (.rawClause i sql bindings) >>= c.checked).Makes s made ∧
      c.Calls limit s.streams [.rawClause i sql bindings] made := by
  have hmoves := moves_rawParams bindings s
  rw [compileClause_raw hraw]
  rcases hexec : (rawParams bindings).exec s with ⟨f | elements, t⟩
  · rw [hexec] at hmoves
    have hrefused : ∀ elements, ¬ bindings.Binds s.streams elements := by
      intro elements h
      have hread := rawParams_of_binds h
      rw [hexec] at hread
      cases hread
    have hclause := Run.exec_bind_error (f := fun params =>
      (pure ⟨⟨sql, params⟩, none, none⟩ : Run Compiled)) hexec
    exact ⟨[], (Run.makes_of_reads hmoves hclause).bind_error hclause, .rawRefused i sql hrefused⟩
  · rw [hexec] at hmoves
    have hbinds := binds_of_rawParams (congrArg Prod.fst hexec)
    have hclause : (rawParams bindings >>= fun params =>
        (pure ⟨⟨sql, params⟩, none, none⟩ : Run Compiled)).exec s =
          (.ok ⟨⟨sql, elements⟩, none, none⟩, t) := Run.exec_bind_ok hexec
    refine ⟨_, (Run.makes_of_reads hmoves hclause).bind_ok hclause (makes_checked _ t), ?_⟩
    by_cases hnil : elements = []
    · subst hnil
      exact .rawUnbound i sql hbinds
    · rw [if_neg hnil]
      exact .rawBound i sql hbinds hnil

theorem exists_calls_rule (hrule : c.handlers NodeClass.rule.name = some .rule)
    (hsettings : c.settings = .ok ⟨.int limit⟩)
    (hquoter : ∀ w r, c.quoter w = .ok r → r.isText = true) (table values : Value) (s : State) :
    ∃ made, (c.compileClause (.ruleClause i table values) >>= c.checked).Makes s made ∧
      c.Calls limit s.streams [.ruleClause i table values] made := by
  classical
  rw [compileClause_rule hrule]
  by_cases h : Rows.Accepted limit s.streams values
  swap
  · obtain ⟨f, t, hreads, hexec⟩ := exec_compileRule_refused hsettings h i table
    exact ⟨[], (Run.makes_of_reads hreads hexec).bind_error hexec, .ruleRefused i table h⟩
  have his := Columns.isColumns_union (Rows.all s.streams values)
  have hne := (columns_of_accepted h).2
  obtain ⟨t, ⟨streams, rfl⟩, hexec⟩ := exec_compileRule_accepted hsettings h i table
  generalize hcolumns : Columns.union (Rows.all s.streams values) = columns at his hne hexec
  have hmakes : (c.compileRule (.ruleClause i table values)).Makes s
      (c.quoteCalls (table :: columns.map Column.toValue)) := by
    unfold Run.Makes
    rw [hexec]
    rfl
  -- Either every name is quoted, or there is a first that is not.
  rcases exists_first (fun w => ∃ r, c.quoter w = .ok r) (table :: columns.map Column.toValue) with
    hall | ⟨front, v, back, hnames, hfront, hv⟩
  · obtain ⟨tableText, names, htable, hquoted, hquery⟩ :=
      insertColumns_quoted hquoter hne hall (Rows.all s.streams values)
    rw [hquery] at hexec
    refine ⟨_, hmakes.bind_ok hexec (makes_checked _ _), ?_⟩
    have hbound : cells (Rows.all s.streams values) columns ≠ [] := by
      rw [← List.length_pos_iff, length_cells]
      exact Nat.mul_pos (List.length_pos_iff.2 h.some) (List.length_pos_iff.2 hne)
    rw [quoteCalls_of_quoted hall, if_neg hbound]
    exact .ruleQuoted i h his htable hquoted
  · obtain ⟨f, hraised⟩ : ∃ f, c.quoter v = .error f := by
      cases hq : c.quoter v with
      | error f => exact ⟨f, rfl⟩
      | ok r => exact absurd ⟨r, hq⟩ hv
    rw [insertColumns_raised hne hnames hfront hraised] at hexec
    refine ⟨_, hmakes.bind_error hexec, ?_⟩
    rw [hnames, quoteCalls_of_raised hfront hraised]
    exact .ruleStopped i h his hnames hfront hraised

end Clause

section Compile

variable {kind : SequenceKind} {items : List Value}

/-- Reporting calls no collaborator. -/
theorem keeps_calls_report (c : Compiler) (clauses : Value) (started : Binary64)
    (outcome : Except Failure Compiled) :
    (c.report clauses started outcome).Moves (State.Keeps fun s => s.journal.calls) := by
  unfold report tell event
  refine Run.Moves.bind (Run.moves_lift _) fun observer => ?_
  cases observer with
  | none => exact Run.moves_pure _
  | some o =>
    refine Run.Moves.bind (Run.Moves.bind ?_ fun _ => ?_) fun e => ?_
    · refine (onlyReads_circumstances _ _).moves.mono ?_
      rintro s t ⟨_, rfl⟩
      rfl
    · refine Run.Moves.bind (fun _ => rfl) fun stopped => ?_
      exact Run.Moves.bind Run.moves_get fun _ => Run.moves_pure _
    · exact (o.moves_deliver e).mono fun _ _ h => h.calls

/-- **A compilation makes just the calls that its clauses take,** in their order, however it ends
and whatever observes it: none if the clauses are not accepted, else the quoter's for the table and
then for each column up to the first that fails, and the validator's once something is to be
bound. -/
theorem compile_calls (hraw : c.handlers NodeClass.raw.name = some .raw)
    (hrule : c.handlers NodeClass.rule.name = some .rule)
    (hsettings : c.settings = .ok ⟨.int limit⟩)
    (hquoter : ∀ w r, c.quoter w = .ok r → r.isText = true)
    (hkind : kind = .list ∨ kind = .tuple) (hitems : ∀ v ∈ items, c.Takes v) (i : Identity)
    (s : State) :
    ∃ made, (c.compile (.sequence kind i items) s).2.journal.calls = s.journal.calls ++ made ∧
      c.Calls limit s.streams items made := by
  have hattempt : ∃ made, (c.attempt (.sequence kind i items)).Makes s.tick made ∧
      c.Calls limit s.streams items made := by
    match items, hitems with
    | [], _ =>
      rw [attempt_none hkind]
      exact ⟨[], (List.append_nil _).symm, .none⟩
    | v :: w :: rest, _ =>
      have hlt : 1 < (v :: w :: rest).length := by simp
      rw [attempt_several hkind i hlt]
      exact ⟨[], (List.append_nil _).symm, .several hlt⟩
    | [v], hitems =>
      rw [attempt_single hkind]
      cases hitems v List.mem_cons_self with
      | raw j sql bindings => exact exists_calls_raw hraw s.tick
      | rule j table values => exact exists_calls_rule hrule hsettings hquoter table values s.tick
      | unhandled h =>
        rw [compileClause_unknown h]
        exact ⟨[], (List.append_nil _).symm, .unhandled h⟩
  obtain ⟨made, hmade, hcalls⟩ := hattempt
  refine ⟨made, ?_, hcalls⟩
  rw [compile_eq]
  have hreport := c.keeps_calls_report (.sequence kind i items) s.clock.read.1
    ((c.attempt (.sequence kind i items)).exec s.tick).1
    ((c.attempt (.sequence kind i items)).exec s.tick).2
  exact Eq.trans hreport hmade

/-- All calls since the beginning are those of the only compilation. -/
theorem compile_calls_first :
    let row : Value := .mapping .plain 1 [(.text "b", .int 2), (.text "a", .int 1)]
    let clause := Value.ruleClause 2 (.text "t") (.list [row])
    let c := Options.standard.compiler
    let s := State.initial ⟨[], none, ⟨⟨2026, 1, 1⟩, 0, 0, 0, 0⟩⟩
    c.Calls Settings.greatestLimit s.streams [clause]
      (c.compile (.sequence .tuple 3 [clause]) s).2.journal.calls := by
  intro row clause c s
  obtain ⟨made, hmade, hcalls⟩ := compile_calls (c := c) rfl rfl rfl
    (fun _ _ => Delimiters.isText_of_quote) (.inr rfl)
    (List.forall_mem_singleton.2 (.rule 2 (.text "t") (.list [row]))) 3 s
  rw [hmade]
  exact hcalls

/-- A single row within a limit of which one more cannot be asked for: nothing is called for it. -/
theorem compile_calls_greatest_limit :
    let row : Value := .mapping .plain 1 [(.text "a", .int 1)]
    let values : Value := .list [row]
    let c := { Options.standard with settings := ⟨.int Value.greatestIndex⟩ }.compiler
    let s := State.initial ⟨[], none, ⟨⟨2026, 1, 1⟩, 0, 0, 0, 0⟩⟩
    Rows.isWalked values = true ∧ Rows.all s.streams values = [row] ∧
      (1 : Int) ≤ Value.greatestIndex ∧ row.isRow = true ∧ row.keys ≠ [] ∧
      (c.compile (.list [.ruleClause 2 (.text "t") values]) s).1 = .error ⟨.limitNotWhole, none⟩ ∧
      (c.compile (.list [.ruleClause 2 (.text "t") values]) s).2.journal.calls = [] :=
  ⟨rfl, rfl, by decide, rfl, List.cons_ne_nil _ _, rfl, rfl⟩

end Compile

end Compiler

end RowInsert
