import RowInsert.Proofs.Attempt

/-!
# Which streams are read

Reading changes the progress of a stream, and compilations read few of those that they can reach.

* `Value.Feeds` says which streams are read when a value becomes a dictionary, and
  `Compiler.EventReads` which of them when a compilation is reported.
* `Compiler.Walks` are the values that an attempt walks: the bindings or the rows of a single clause
  that is compiled, and nothing inside them.
* `Compiler.keeps_compile` : a stream that is none of these keeps its progress, however the
  compilation ends.
* `Compiler.streams_attempt_rule` and `Compiler.streams_attempt_raw` : once the rows or the bindings
  have been read, an attempt reads no more.
-/

namespace RowInsert

namespace Value

/-- The value is the stream of this identity. -/
def IsStream (j : Identity) (v : Value) : Prop := ∃ items failure, v = .stream j items failure

/-- What is taken for pairs when a value becomes a dictionary.  The entries of a mapping are copied
as they are. -/
def pairs : Value → List Value
  | .mapping .. => []
  | .stream _ items _ => items
  | v => v.itemsByType?.getD []

/-- The stream is read when the value becomes a dictionary: it is the value itself, or what is taken
for a pair. -/
def Feeds (j : Identity) (v : Value) : Prop := v.IsStream j ∨ ∃ pair ∈ v.pairs, pair.IsStream j

theorem not_isStream {i j : Identity} (h : j ≠ i) (items : List Value) (failure : Option String) :
    ¬ (Value.stream i items failure).IsStream j := by
  rintro ⟨_, _, heq⟩
  cases heq
  exact h rfl

theorem ne_of_not_isStream {i j : Identity} {items : List Value} {failure : Option String}
    (h : ¬ (Value.stream i items failure).IsStream j) : j ≠ i := by
  rintro rfl
  exact h ⟨items, failure, rfl⟩

end Value

/-- A stream has been read no further. -/
abbrev State.KeepsStream (j : Identity) : State → State → Prop :=
  State.Keeps fun s => s.streams.progress j

/-! ### Reading one stream -/

namespace Run

variable {α β γ : Type} {i j : Identity}

/-- What the second part of a sequence keeps is as the first part leaves it. -/
theorem keeps_exec_bind {g : State → γ} {x : Run α} {f : α → Run β}
    (hf : ∀ a, (f a).Moves (State.Keeps g)) (s : State) :
    g ((x >>= f).exec s).2 = g (x.exec s).2 := by
  rw [exec_bind]
  rcases x.exec s with ⟨e | a, t⟩
  · rfl
  · exact hf a t

theorem exec_advance (i : Identity) (count : Nat) (s : State) :
    (advance i count).exec s = (.ok (), { s with streams := s.streams.advance i count }) := rfl

/-- The items of a stream that are read are taken, and its end is reached if there are fewer than
are wanted. -/
theorem streams_readStream (limit : Option Nat) (i : Identity) (items : List Value)
    (failure : Option String) (s : State) :
    ((readStream limit i items failure).exec s).2.streams =
      match limit with
      | some n =>
        let t := s.streams.advance i ((s.streams.rest i items).take n).length
        if (s.streams.rest i items).length < n then (t.finish i failure).2 else t
      | none => ((s.streams.advance i (s.streams.rest i items).length).finish i failure).2 := by
  have hend (items : List Value) (t : State) :
      ((finish i failure >>= fun _ => pure items).exec t).2.streams =
        (t.streams.finish i failure).2 := by
    rw [keeps_exec_bind (g := State.streams) (fun _ => moves_pure _), exec_finish]
  unfold readStream
  rw [exec_bind_ok (exec_get s)]
  cases limit with
  | none => exact hend _ _
  | some n =>
    dsimp only
    rw [exec_bind_ok (exec_advance i _ s)]
    split_ifs with h
    · exact hend _ _
    · rfl

theorem keeps_readStream (h : j ≠ i) (limit : Option Nat) (items : List Value)
    (failure : Option String) :
    (readStream limit i items failure).Moves (State.KeepsStream j) := by
  intro s
  change (_ : State).streams.progress j = _
  rw [streams_readStream]
  cases limit with
  | none => rw [Streams.progress_finish_of_ne _ _ h, Streams.progress_advance_of_ne _ _ h]
  | some n =>
    dsimp only
    split_ifs
    · rw [Streams.progress_finish_of_ne _ _ h, Streams.progress_advance_of_ne _ _ h]
    · rw [Streams.progress_advance_of_ne _ _ h]

section Value

variable {v : Value} (h : ¬ v.IsStream j)
include h

theorem keeps_readUpTo (limit : Nat) : (readUpTo limit v).Moves (State.KeepsStream j) := by
  unfold readUpTo
  split
  · exact keeps_readStream (Value.ne_of_not_isStream h) _ _ _
  · exact moves_require _ _

theorem keeps_readAll : (readAll v).Moves (State.KeepsStream j) := by
  unfold readAll
  split
  · exact keeps_readStream (Value.ne_of_not_isStream h) _ _ _
  · exact moves_require _ _

end Value

/-! ### Making dictionaries -/

theorem keeps_pairAt {pair : Value} (h : ¬ pair.IsStream j) (position : Nat) :
    (pairAt position pair).Moves (State.KeepsStream j) := by
  rw [pairAt_eq]
  refine Moves.bind ?_ fun parts => moves_lift _
  unfold partsAt
  split
  · exact keeps_readStream (Value.ne_of_not_isStream h) none _ _
  · exact moves_require _ _

theorem keeps_addPairs {taking : Run Unit} (htaking : taking.Moves (State.KeepsStream j))
    {elements : List Value} (h : ∀ pair ∈ elements, ¬ pair.IsStream j) (position : Nat)
    (entries : List (Value × Value)) :
    (addPairs taking position entries elements).Moves (State.KeepsStream j) := by
  induction elements generalizing position entries with
  | nil => exact moves_pure _
  | cons pair rest ih =>
    obtain ⟨hpair, hrest⟩ := List.forall_mem_cons.1 h
    unfold addPairs
    refine Moves.bind htaking fun _ => ?_
    refine Moves.bind (keeps_pairAt hpair position) fun entry => ?_
    exact ih hrest _ _

theorem keeps_checkKeysOf (v : Value) : (checkKeysOf v).Moves (State.KeepsStream j) := by
  unfold checkKeysOf
  refine Moves.bind moves_get fun s => ?_
  split
  · exact moves_throw _
  · exact moves_pure _

/-- Making a dictionary of a value reads the streams that feed it, and no others. -/
theorem keeps_dictionary {v : Value} (h : ¬ v.Feeds j) :
    (dictionary v).Moves (State.KeepsStream j) := by
  obtain ⟨hself, hpairs⟩ := not_or.1 h
  have hpairs : ∀ pair ∈ v.pairs, ¬ pair.IsStream j := by
    intro pair hpair hstream
    exact hpairs ⟨pair, hpair, hstream⟩
  unfold dictionary
  split
  · exact moves_pure _
  unfold converted
  refine Moves.bind (keeps_checkKeysOf v) fun _ => ?_
  split
  · exact moves_lift _
  · rename_i i items failure _ _
    have hne := Value.ne_of_not_isStream hself
    refine Moves.bind moves_get fun s => ?_
    have hrest : ∀ pair ∈ s.streams.rest i items, ¬ pair.IsStream j :=
      fun pair hpair => hpairs pair (List.mem_of_mem_drop hpair)
    refine Moves.bind (keeps_addPairs (fun t => ?_) hrest _ _) fun entries => ?_
    · exact Streams.progress_advance_of_ne t.streams 1 hne
    refine Moves.bind (fun t => ?_) fun _ => moves_pure _
    change (_ : State).streams.progress j = _
    rw [exec_finish]
    exact Streams.progress_finish_of_ne t.streams failure hne
  · rename_i hmapping hstream
    refine Moves.require_bind fun items hitems => ?_
    have hall : v.pairs = items := by
      unfold Value.pairs
      split
      · exact absurd rfl (hmapping _ _ _)
      · exact absurd rfl (hstream _ _ _)
      · rw [hitems, Option.getD_some]
    exact keeps_addPairs (moves_pure _) (hall ▸ hpairs) _ _

end Run

/-! ### Reports -/

/-- An event whose metadata are a plain dictionary is delivered without reading a stream. -/
theorem Observer.keeps_streams (o : Observer) {e : Event} {i : Identity}
    {entries : List (Value × Value)} (h : e.metadata = .mapping .plain i entries) :
    (o.deliver e).Moves (State.Keeps State.streams) := by
  have hdictionary : (Run.dictionary e.metadata).Moves (State.Keeps State.streams) := by
    rw [h]
    exact Run.moves_pure _
  exact Observer.moves_of_leaves e fun l _ =>
    l.moves_of_dictionary e hdictionary (fun _ _ _ => rfl) fun _ _ _ => rfl

namespace Compiler

variable {c : Compiler} {clauses : Value} {j : Identity}

/-- An observed compilation reads the stream when its metadata become a dictionary. -/
def EventReads (c : Compiler) (clauses : Value) (j : Identity) : Prop :=
  ∃ o metadata, c.observer = .ok (some o) ∧
    (c.afterReading clauses).metadata = .ok metadata ∧ metadata.Feeds j

theorem metadata_outcomeFields (outcome : Except Failure Compiled) (e : Event) :
    (outcomeFields outcome e).metadata = e.metadata := by
  cases outcome <;> rfl

theorem keeps_circumstances (h : ∀ metadata, c.metadata = .ok metadata → ¬ metadata.Feeds j)
    (clauses : Value) : (c.circumstances clauses).Moves (State.KeepsStream j) := by
  unfold circumstances
  refine Run.Moves.bind (Run.moves_lift _) fun kind => ?_
  refine Run.Moves.bind (Run.moves_lift _) fun table => ?_
  refine Run.Moves.lift_bind fun metadata hmetadata => ?_
  refine Run.Moves.bind (Run.keeps_dictionary (h metadata hmetadata)) fun entries => ?_
  exact Run.moves_pure _

/-- Of all streams, a report reads those alone that feed the metadata. -/
theorem keeps_report (h : ¬ c.EventReads clauses j) (started : Binary64)
    (outcome : Except Failure Compiled) :
    (c.report clauses started outcome).Moves (State.KeepsStream j) := by
  unfold report tell
  refine Run.Moves.lift_bind fun observer hobserver => ?_
  cases observer with
  | none => exact Run.moves_pure _
  | some o =>
    have hmetadata : ∀ metadata, (c.afterReading clauses).metadata = .ok metadata →
        ¬ metadata.Feeds j :=
      fun metadata hmetadata hfeeds => h ⟨o, metadata, hobserver, hmetadata, hfeeds⟩
    simp only [event, bind_assoc, pure_bind]
    refine Run.Moves.bind (keeps_circumstances hmetadata _) fun (kind, table, metadata) => ?_
    refine Run.Moves.bind (fun _ => rfl) fun stopped => ?_
    refine Run.Moves.bind Run.moves_get fun s => ?_
    refine (o.keeps_streams (metadata_outcomeFields outcome _)).mono fun s t hst => ?_
    exact congrArg (fun streams => streams.progress j) hst

/-! ### Attempts -/

/-- The value is walked when these clauses are compiled: there is one clause, and these are its
bindings or its values, as the handler of its class takes them. -/
inductive Walks (c : Compiler) (clauses : Value) : Value → Prop where
  | raw {node v : Value} (size : Clauses.size clauses = .ok 1)
      (first : Clauses.first clauses = .ok node)
      (handler : c.handlers node.typeName = some .raw)
      (bindings : node.attribute "bindings" = .ok v) : Walks c clauses v
  | rule {node v : Value} (size : Clauses.size clauses = .ok 1)
      (first : Clauses.first clauses = .ok node)
      (handler : c.handlers node.typeName = some .rule)
      (values : node.attribute "values" = .ok v) : Walks c clauses v

theorem keeps_rawParams {bindings : Value} (h : ¬ bindings.IsStream j) :
    (rawParams bindings).Moves (State.KeepsStream j) := by
  unfold rawParams
  split
  · exact Run.moves_pure _
  · split
    · exact Run.moves_throw _
    · refine Run.Moves.bind (Run.moves_lift _) fun _ => ?_
      exact Run.keeps_readAll h

theorem keeps_readBounded {values : Value} (h : ¬ values.IsStream j)
    (settings : Except Failure Settings) :
    (Rows.readBounded settings values).Moves (State.KeepsStream j) := by
  have hread : (Rows.read settings values).Moves (State.KeepsStream j) := by
    unfold Rows.read
    split
    · exact Run.moves_pure _
    · split
      · exact Run.moves_throw _
      · refine Run.Moves.bind (Run.moves_lift _) fun n => ?_
        exact Run.keeps_readUpTo h n
  unfold Rows.readBounded
  refine Run.Moves.bind hread fun rows => ?_
  exact Run.moves_lift _

theorem compileClause_eq {node : Value} {handler : Handler}
    (h : c.handlers node.typeName = some handler) :
    c.compileClause node = match handler with
      | .raw => compileRaw node
      | .rule => c.compileRule node
      | .value v => Run.lift (callWith v node) := by
  unfold compileClause
  rw [dispatch_ok h]
  cases handler <;> rfl

/-- An attempt reads no stream but the one that it walks. -/
theorem keeps_attempt (h : ∀ v, c.Walks clauses v → ¬ v.IsStream j) :
    (c.attempt clauses).Moves (State.KeepsStream j) := by
  unfold attempt attemptBy
  refine Run.Moves.lift_bind fun n hsize => ?_
  split
  · exact Run.moves_pure _
  split
  · exact Run.moves_throw _
  rename_i hnone hseveral
  obtain rfl : n = 1 := by omega
  refine Run.Moves.lift_bind fun node hfirst => ?_
  refine Run.Moves.bind ?_ fun compiled => moves_checked (fun _ _ => rfl) c compiled
  cases hhandler : c.handlers node.typeName with
  | none =>
    rw [compileClause_unknown hhandler]
    exact Run.moves_throw _
  | some handler =>
    rw [compileClause_eq hhandler]
    cases handler with
    | raw =>
      refine Run.Moves.lift_bind fun bindings hbindings => ?_
      have hstream := h bindings (.raw hsize hfirst hhandler hbindings)
      refine Run.Moves.bind (keeps_rawParams hstream) fun params => ?_
      refine Run.Moves.bind (Run.moves_lift _) fun sql => ?_
      exact Run.moves_pure _
    | rule =>
      refine moves_compileRule (fun _ _ => rfl) c fun values hvalues => ?_
      exact keeps_readBounded (h values (.rule hsize hfirst hhandler hvalues)) c.settings
    | value v => exact Run.moves_lift _

/-- **A compilation reads no stream but the one that it walks and those that feed its event,**
however it ends. -/
theorem keeps_compile (hevent : ¬ c.EventReads clauses j)
    (hwalks : ∀ v, c.Walks clauses v → ¬ v.IsStream j) (s : State) :
    (c.compile clauses s).2.streams.progress j = s.streams.progress j := by
  rw [compile_eq]
  have hreport := keeps_report hevent s.clock.read.1 ((c.attempt clauses).exec s.tick).1
    ((c.attempt clauses).exec s.tick).2
  exact Eq.trans hreport (keeps_attempt hwalks s.tick)

/-! ### What an attempt reads itself -/

/-- Once the rows of a rule clause have been read, an attempt reads no more. -/
theorem streams_attempt_rule {table values : Value}
    (hc : c.handlers NodeClass.rule.name = some .rule)
    (h : Clauses.HoldRule clauses table values) (s : State) :
    ((c.attempt clauses).exec s).2.streams =
      ((Rows.readBounded c.settings values).exec s).2.streams := by
  obtain ⟨hsize, node, hfirst, htype, -, hvalues⟩ := h
  have hcalls (s : State) (call : Call) : State.Keeps State.streams s (s.called [call]) := rfl
  rw [attempt_one hsize hfirst, compileClause_eq (htype ▸ hc), compileRule_eq,
    Value.attribute_ok hvalues]
  rw [Run.keeps_exec_bind fun compiled => moves_checked hcalls c compiled]
  rw [Run.exec_lift_bind_ok, Run.keeps_exec_bind fun rows => moves_insertRows hcalls c node rows]

/-- Once the bindings of a raw clause have been read, an attempt reads no more. -/
theorem streams_attempt_raw {node bindings : Value} (hsize : Clauses.size clauses = .ok 1)
    (hfirst : Clauses.first clauses = .ok node) (hc : c.handlers node.typeName = some .raw)
    (hbindings : node.attribute "bindings" = .ok bindings) (s : State) :
    ((c.attempt clauses).exec s).2.streams = ((rawParams bindings).exec s).2.streams := by
  have hcalls (s : State) (call : Call) : State.Keeps State.streams s (s.called [call]) := rfl
  have hafter (params : List Value) :
      (Run.lift (node.attribute "sql") >>= fun sql =>
        (pure ⟨⟨sql, params⟩, none, none⟩ : Run Compiled)).Moves (State.Keeps State.streams) :=
    Run.Moves.bind (Run.moves_lift _) fun sql => Run.moves_pure _
  rw [attempt_one hsize hfirst, compileClause_eq hc,
    Run.keeps_exec_bind fun compiled => moves_checked hcalls c compiled]
  unfold compileRaw
  rw [hbindings, Run.exec_lift_bind_ok, Run.keeps_exec_bind hafter]

end Compiler

end RowInsert
