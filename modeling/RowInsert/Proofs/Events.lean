import RowInsert.Proofs.Attempt

/-!
# One event for each compilation

* `Compilation` is a compiler with an observer and clauses to compile, and `Compilation.runAll`
  makes such compilations one after the other.
* `Event.Reports` says what an event tells of a compilation, without regard to how it is built.
* `Told` is a run in which every compilation delivers one event, which reports it, to its observer
  once, whether that fails or not.
* `Compilation.runAll_told` : every run is such a run, and what a recorder records of it is one
  event for each compilation, in their order.
-/

namespace RowInsert

/-- A dictionary with these entries is made of a value that is a mapping, unless something has been
put in the place of its function `keys` or a key of it is none for a dictionary. -/
inductive State.Copies (s : State) : Value → List (Value × Value) → Prop where
  | mapping {kind : MappingKind} {i : Identity} {entries copied : List (Value × Value)}
      (keys : s.attribute? (.mapping kind i entries) "keys" = none)
      (copying : Entries.copied kind entries = .ok copied) :
      Copies s (.mapping kind i entries) copied

/-- A clause made by a constructor, or an object of a class that is neither derived from those of
clauses nor bears the name of one. -/
inductive Value.IsClause : Value → Prop where
  | raw (i : Identity) (sql bindings : Value) : IsClause (.rawClause i sql bindings)
  | rule (i : Identity) (table values : Value) : IsClause (.ruleClause i table values)
  | other {v : Value} (notRaw : v.nodeClass? ≠ some .raw) (notRule : v.nodeClass? ≠ some .rule)
      (notNamedRaw : v.typeName ≠ NodeClass.raw.name)
      (notNamedRule : v.typeName ≠ NodeClass.rule.name) : IsClause v

/-- A compiler with an observer, and a list or tuple of clauses to compile. -/
structure Compilation where
  compiler : Compiler
  observer : Observer
  kind : SequenceKind
  identity : Identity
  items : List Value

namespace Compilation

def clauses (k : Compilation) : Value := .sequence k.kind k.identity k.items

/-- The clauses are compiled. -/
def run (k : Compilation) : StateM State (Except Raised Query) := k.compiler.compile k.clauses

/-- Compilations one after the other, each from the state that the one before has left. -/
def runAll (ks : List Compilation) : StateM State (List (Except Raised Query)) := ks.mapM run

/-- The compiler is one of insert clauses, with any quoter, a validator that leaves queries as they
are, and metadata that is a mapping; the clauses are clauses. -/
structure Fits (s : State) (k : Compilation) : Prop where
  observed : k.compiler.observer = .ok (some k.observer)
  kind : k.kind = .list ∨ k.kind = .tuple
  raw : k.compiler.handlers NodeClass.raw.name = some .raw
  rule : k.compiler.handlers NodeClass.rule.name = some .rule
  items : ∀ v ∈ k.items, v.IsClause
  validator : ∀ q q', k.compiler.validator q = .ok q' → q' = q
  metadata : ∃ m entries, k.compiler.metadata = .ok m ∧ s.Copies m entries

end Compilation

/-! ### What an event tells -/

namespace Event

/-- The event names the kind of the clauses, and the table of a rule clause. -/
inductive Describes (e : Event) : List Value → Prop where
  | none (kind : e.clauseKind = .text "none") (noTable : e.table = .null) : Describes e []
  | raw (i : Identity) (sql bindings : Value) (kind : e.clauseKind = .text "raw")
      (noTable : e.table = .null) : Describes e [.rawClause i sql bindings]
  | rule (i : Identity) (table values : Value) (kind : e.clauseKind = .text "rule")
      (sameTable : e.table = table) : Describes e [.ruleClause i table values]
  | unknown {v : Value} (notRaw : v.nodeClass? ≠ some .raw) (notRule : v.nodeClass? ≠ some .rule)
      (kind : e.clauseKind = .text "unknown") (noTable : e.table = .null) : Describes e [v]
  | several {items : List Value} (h : 1 < items.length) (kind : e.clauseKind = .text "multiple")
      (noTable : e.table = .null) : Describes e items

/-- The event tells of a success, and of how much was compiled. -/
structure TellsSuccess (e : Event) (items : List Value) (compiled : Compiled) : Prop where
  success : e.success = .bool true
  errorType : e.errorType = .null
  errorMessage : e.errorMessage = .null
  rowCount : e.rowCount = Compiler.countValue compiled.rowCount
  columnCount : e.columnCount = Compiler.countValue compiled.columnCount
  paramCount : e.paramCount = .int compiled.query.params.length
  rule : ∀ i table values, items = [.ruleClause i table values] → ∃ rows columns : Nat,
    e.rowCount = .int rows ∧ e.columnCount = .int columns ∧ 1 ≤ rows ∧ 1 ≤ columns ∧
      rows * columns = compiled.query.params.length
  raw : ∀ i sql bindings, items = [.rawClause i sql bindings] →
    e.rowCount = .null ∧ e.columnCount = .null
  none : items = [] → e.rowCount = .null ∧ e.columnCount = .null

/-- The event tells of this failure. -/
structure TellsFailure (e : Event) (f : Failure) : Prop where
  success : e.success = .bool false
  errorType : e.errorType = .text f.kind.name
  errorMessage : e.errorMessage = .text f.message
  rowCount : e.rowCount = .null
  columnCount : e.columnCount = .null
  paramCount : e.paramCount = .null

/-- The event tells of a compilation that began in this state, and of the outcome of its attempt. -/
structure Reports (e : Event) (k : Compilation) (s : State) (outcome : Except Failure Compiled) :
    Prop where
  timestamp : e.timestamp = .text s.clock.now.stamp
  event : e.event = .text "compile.end"
  compiler : e.compiler = .text k.compiler.name
  metadata : ∃ m entries, k.compiler.metadata = .ok m ∧ s.Copies m entries ∧
    e.metadata = .mapping .plain 0 entries
  duration : e.duration = .float (Clock.elapsed s.clock.read.1 s.tick.clock.read.1) 0
  describes : e.Describes k.items
  ok : ∀ compiled, outcome = .ok compiled → e.TellsSuccess k.items compiled
  error : ∀ f, outcome = .error f → e.TellsFailure f

end Event

/-- A run of compilations, with the event of each and what each came to.  The last index is the
state that the run leaves. -/
inductive Told : State → List Compilation → List Event → List (Except Raised Query) → State → Prop
    where
  | nil (s : State) : Told s [] [] [] s
  | cons {k : Compilation} {ks : List Compilation} {e : Event} {es : List Event}
      {results : List (Except Raised Query)} {s t u v : State}
      {outcome : Except Failure Compiled} {delivery : Except Failure Unit}
      (attempted : (k.compiler.attempt k.clauses).exec s.tick = (outcome, t))
      (unseen : State.Works s.tick t)
      (reports : e.Reports k s outcome)
      (delivered : (k.observer.deliver e).exec t.tick = (delivery, u))
      (rest : Told u ks es results v) :
      Told s (k :: ks) (e :: es) (Compiler.settle outcome delivery :: results) v

/-! ### Building an event -/

namespace State

variable {s t : State} {m : Value} {entries : List (Value × Value)}

theorem Copies.of_attributes (h : s.Copies m entries) (ht : t.attributes = s.attributes) :
    t.Copies m entries := by
  cases h with
  | mapping keys copying =>
    refine .mapping ?_ copying
    unfold attribute? assigned at keys ⊢
    rw [ht]
    exact keys

/-- Every mapping from texts can be copied. -/
theorem exists_copies {kind : MappingKind} {i : Identity} {es : List (Value × Value)}
    (keys : s.attribute? (.mapping kind i es) "keys" = none)
    (htexts : (Value.mapping kind i es).isRow = true) :
    ∃ copied, s.Copies (.mapping kind i es) copied := by
  have hkeys : ∀ e ∈ es, e.1.isText = true := fun e he =>
    (Value.isRow_iff.1 htexts).2 e.1 (List.mem_map_of_mem he)
  have hnone : Value.uncopied? es = none := by
    refine List.findSome?_eq_none_iff.2 fun e he => ?_
    have htext := hkeys e he
    revert htext
    cases e.1 <;> first
      | exact fun h => absurd h Bool.false_ne_true
      | exact fun _ => rfl
  have hchecked : Value.checkKeys kind es = .ok () := by
    unfold Value.checkKeys
    rw [hnone]
    cases kind <;> rfl
  refine ⟨if kind = .caseless then Entries.settled es else es, .mapping keys ?_⟩
  unfold Entries.copied
  rw [hchecked]
  rfl

end State

theorem Run.exec_dictionary {t : State} {m : Value} {entries : List (Value × Value)}
    (h : t.Copies m entries) : (dictionary m).exec t = (.ok entries, t) := by
  cases h with
  | @mapping kind i es _ keys copying =>
    cases kind with
    | plain =>
      cases copying
      rfl
    | _ =>
      unfold dictionary converted checkKeysOf
      dsimp only
      rw [bind_assoc, exec_bind_ok (exec_get t), keys]
      change (lift (Entries.copied _ es)).exec t = _
      rw [copying, exec_lift]

/-- The kind of clauses and the table of a rule clause can be told. -/
theorem exists_described {kind : SequenceKind} (hkind : kind = .list ∨ kind = .tuple) (i : Identity)
    {items : List Value} (hitems : ∀ v ∈ items, v.IsClause) :
    ∃ k node table, ClauseKind.of (.sequence kind i items) = .ok (k, node) ∧
      Compiler.tableOf k node = .ok table ∧
      ∀ e : Event, e.clauseKind = .text k.name → e.table = table → e.Describes items := by
  unfold ClauseKind.of
  rw [Clauses.size_sequence hkind]
  match items with
  | [] => exact ⟨.none, none, .null, rfl, rfl, fun e hk ht => .none hk ht⟩
  | v :: w :: rest =>
    exact ⟨.multiple, none, .null, rfl, rfl, fun e hk ht => .several (by simp) hk ht⟩
  | [v] =>
    rw [Clauses.first_sequence hkind]
    cases hitems v List.mem_cons_self with
    | raw j sql bindings =>
      exact ⟨.raw, _, .null, rfl, rfl, fun e hk ht => .raw j sql bindings hk ht⟩
    | rule j table values =>
      exact ⟨.rule, _, table, rfl, rfl, fun e hk ht => .rule j table values hk ht⟩
    | other notRaw notRule =>
      have hunknown : ClauseKind.ofNode v = .unknown := by
        unfold ClauseKind.ofNode
        split
        · exact absurd ‹_› notRaw
        · exact absurd ‹_› notRule
        · rfl
      refine ⟨.unknown, some v, .null, ?_, rfl, fun e hk ht => .unknown notRaw notRule hk ht⟩
      change Except.ok (ClauseKind.ofNode v, some v) = _
      rw [hunknown]

/-- An event without its outcome. -/
def Compiler.eventFor (c : Compiler) (kind : ClauseKind) (table : Value)
    (metadata : List (Value × Value)) (now : Moment) (duration : Binary64) : Event :=
  { timestamp := .text now.stamp
    event := .text Event.compileEnd
    compiler := .text c.name
    clauseKind := .text kind.name
    success := .null
    metadata := .mapping .plain 0 metadata
    table := table
    rowCount := .null
    columnCount := .null
    paramCount := .null
    duration := .float duration 0
    errorType := .null
    errorMessage := .null }

theorem Clock.now_read (c : Clock) : c.read.2.now = c.now := by
  unfold read
  split <;> rfl

section Built

variable {c : Compiler} {clauses table m : Value} {kind : ClauseKind} {node : Option Value}
variable {entries : List (Value × Value)} {t : State}
variable (hkind : ClauseKind.of clauses = .ok (kind, node))
variable (htable : Compiler.tableOf kind node = .ok table) (hm : c.metadata = .ok m)
variable (hcopies : t.Copies m entries)
include hkind htable hm hcopies

theorem Compiler.exec_circumstances :
    (c.circumstances clauses).exec t = (.ok (kind, table, entries), t) := by
  unfold circumstances
  rw [hkind, Run.exec_lift_bind_ok]
  dsimp only
  rw [htable, Run.exec_lift_bind_ok, hm, Run.exec_lift_bind_ok,
    Run.exec_bind_ok (Run.exec_dictionary hcopies)]
  rfl

theorem Compiler.exec_event (started : Binary64) (outcome : Except Failure Compiled) :
    (c.event clauses started outcome).exec t =
      (.ok (outcomeFields outcome (c.eventFor kind table entries t.clock.now
        (Clock.elapsed started t.clock.read.1))), t.tick) := by
  unfold event
  rw [Run.exec_bind_ok (exec_circumstances hkind htable hm hcopies), ← Clock.now_read]
  rfl

end Built

namespace Compilation

variable {k : Compilation} {ks : List Compilation} {s t : State}

theorem Fits.of_attributes (h : k.Fits s) (ht : t.attributes = s.attributes) : k.Fits t := by
  obtain ⟨m, entries, hm, hcopies⟩ := h.metadata
  exact { h with metadata := ⟨m, entries, hm, hcopies.of_attributes ht⟩ }

/-- What an attempt compiled of clauses is what its event tells of a success. -/
theorem tells_success (h : k.Fits s) {compiled : Compiled}
    (hok : ((k.compiler.attempt k.clauses).exec t).1 = .ok compiled) {e : Event}
    (hsuccess : e.success = .bool true) (htype : e.errorType = .null)
    (hmessage : e.errorMessage = .null)
    (hrows : e.rowCount = Compiler.countValue compiled.rowCount)
    (hcolumns : e.columnCount = Compiler.countValue compiled.columnCount)
    (hparams : e.paramCount = .int compiled.query.params.length) :
    e.TellsSuccess k.items compiled where
  success := hsuccess
  errorType := htype
  errorMessage := hmessage
  rowCount := hrows
  columnCount := hcolumns
  paramCount := hparams
  rule i table values hitems := by
    unfold clauses at hok
    rw [hitems] at hok
    obtain ⟨rows, columns, _, _, hne, hsome, rfl⟩ :=
      Compiler.compiled_of_rule h.kind h.validator h.rule hok
    exact ⟨rows.length, columns.length, hrows, hcolumns, List.length_pos_iff.2 hne,
      List.length_pos_iff.2 hsome, (length_cells rows columns).symm⟩
  raw i sql bindings hitems := by
    unfold clauses at hok
    rw [hitems] at hok
    obtain ⟨_, rfl⟩ := Compiler.compiled_of_raw h.kind h.validator h.raw hok
    exact ⟨hrows, hcolumns⟩
  none hitems := by
    unfold clauses at hok
    rw [hitems, Compiler.attempt_none h.kind] at hok
    cases hok
    exact ⟨hrows, hcolumns⟩

/-- The event of an attempt can be built, and tells of it. -/
theorem exists_event (h : k.Fits s) {outcome : Except Failure Compiled}
    (hattempt : (k.compiler.attempt k.clauses).exec s.tick = (outcome, t)) :
    ∃ e, (k.compiler.event k.clauses s.clock.read.1 outcome).exec t = (.ok e, t.tick) ∧
      e.Reports k s outcome := by
  have hworks := k.compiler.moves_attempt k.clauses s.tick
  rw [hattempt] at hworks
  obtain ⟨kind, node, table, hkind, htable, hdescribes⟩ :=
    exists_described h.kind k.identity h.items
  obtain ⟨m, entries, hm, hcopies⟩ := h.metadata
  have hclock : t.clock = s.tick.clock := hworks.clock_eq
  have hnow : s.tick.clock.now = s.clock.now := s.clock.now_read
  have hbuilt := Compiler.exec_event hkind htable hm
    (hcopies.of_attributes hworks.attributes_eq) s.clock.read.1 outcome
  rw [hclock, hnow] at hbuilt
  refine ⟨_, hbuilt, ?_⟩
  exact
    { timestamp := by cases outcome <;> rfl
      event := by cases outcome <;> rfl
      compiler := by cases outcome <;> rfl
      metadata := ⟨m, entries, hm, hcopies, by cases outcome <;> rfl⟩
      duration := by cases outcome <;> rfl
      describes := hdescribes _ (by cases outcome <;> rfl) (by cases outcome <;> rfl)
      ok := by
        rintro compiled rfl
        exact tells_success h (congrArg Prod.fst hattempt) rfl rfl rfl rfl rfl rfl
      error := by
        rintro f rfl
        exact ⟨rfl, rfl, rfl, rfl, rfl, rfl⟩ }

/-- A compilation delivers the event of its attempt, and settles what the two came to. -/
theorem run_eq (h : k.Fits s) :
    ∃ outcome t e delivery u,
      (k.compiler.attempt k.clauses).exec s.tick = (outcome, t) ∧ State.Works s.tick t ∧
      e.Reports k s outcome ∧ (k.observer.deliver e).exec t.tick = (delivery, u) ∧
      u.attributes = s.attributes ∧ k.run s = (Compiler.settle outcome delivery, u) := by
  rcases hattempt : (k.compiler.attempt k.clauses).exec s.tick with ⟨outcome, t⟩
  have hworks := k.compiler.moves_attempt k.clauses s.tick
  rw [hattempt] at hworks
  obtain ⟨e, hbuilt, hreports⟩ := exists_event h hattempt
  rcases hdelivered : (k.observer.deliver e).exec t.tick with ⟨delivery, u⟩
  refine ⟨outcome, t, e, delivery, u, rfl, hworks, hreports, hdelivered, ?_, ?_⟩
  · have hkept := k.observer.keeps_attributes e t.tick
    rw [hdelivered] at hkept
    exact hkept.trans hworks.attributes_eq
  · have hreport : k.compiler.report k.clauses s.clock.read.1 outcome =
        k.compiler.event k.clauses s.clock.read.1 outcome >>= k.observer.deliver :=
      Compiler.report_sequence h.observed k.kind k.identity k.items s.clock.read.1 outcome
    rw [run, Compiler.compile_eq, hattempt]
    dsimp only
    rw [hreport, Run.exec_bind_ok hbuilt, hdelivered]

/-- A run is a first compilation and then the run of the others. -/
theorem runAll_cons (k : Compilation) (ks : List Compilation) (s : State) :
    runAll (k :: ks) s =
      ((k.run s).1 :: (runAll ks (k.run s).2).1, (runAll ks (k.run s).2).2) := by
  unfold runAll
  rw [List.mapM_cons]
  rfl

theorem exists_told (h : ∀ k ∈ ks, k.Fits s) :
    ∃ events, Told s ks events (runAll ks s).1 (runAll ks s).2 := by
  induction ks generalizing s with
  | nil => exact ⟨[], .nil s⟩
  | cons k ks ih =>
    obtain ⟨hk, hks⟩ := List.forall_mem_cons.1 h
    obtain ⟨outcome, t, e, delivery, u, hattempt, hworks, hreports, hdelivered, hattributes,
      hrun⟩ := run_eq hk
    obtain ⟨events, hrest⟩ := ih fun k' hk' => (hks k' hk').of_attributes hattributes
    refine ⟨e :: events, ?_⟩
    rw [runAll_cons, hrun]
    exact .cons hattempt hworks hreports hdelivered hrest

end Compilation

/-! ### Recorded events -/

/-- The observer records every event, before it does anything else with it, and once. -/
def Observer.IsRecorder (o : Observer) : Prop :=
  ∃ others, o.leaves = .record :: others ∧ .record ∉ others

theorem Observer.IsRecorder.events_eq {o : Observer} (ho : o.IsRecorder) {e : Event}
    {entries : List (Value × Value)} (he : e.metadata = .mapping .plain 0 entries) (s : State) :
    ((o.deliver e).exec s).2.journal.events = s.journal.events ++ [e] := by
  obtain ⟨others, hleaves, hothers⟩ := ho
  have hcopy : ({ e with metadata := .mapping .plain 0 entries } : Event) = e := by rw [← he]
  have hrecord : (Leaf.record.deliver e).exec s =
      (.ok (), { s with journal := { s.journal with events := s.journal.events ++ [e] } }) := by
    have hentries : (Run.dictionary e.metadata).exec s = (.ok entries, s) := by
      rw [he]
      rfl
    unfold Leaf.deliver Event.snapshot
    dsimp only
    rw [bind_assoc, Run.exec_bind_ok hentries, pure_bind, hcopy]
    rfl
  rw [deliver_eq_forM, hleaves, List.forM_cons, Run.exec_bind_ok hrecord]
  exact Run.Moves.forM (R := State.Keeps fun s => s.journal.events)
    (fun l hl => Leaf.keeps_events e fun h => hothers (h ▸ hl)) _

namespace Told

variable {s v : State} {ks : List Compilation} {es : List Event}
variable {results : List (Except Raised Query)}

theorem length_eq (h : Told s ks es results v) : es.length = ks.length := by
  induction h with
  | nil => rfl
  | cons _ _ _ _ _ ih => rw [List.length_cons, List.length_cons, ih]

/-- Recorders have recorded just the events of a run. -/
theorem events_eq (h : Told s ks es results v) (hobservers : ∀ k ∈ ks, k.observer.IsRecorder) :
    v.journal.events = s.journal.events ++ es := by
  induction h with
  | nil s => exact (List.append_nil _).symm
  | @cons k ks e es results s t u v outcome delivery _ unseen reports delivered _ ih =>
    obtain ⟨hk, hks⟩ := List.forall_mem_cons.1 hobservers
    obtain ⟨_, _, _, _, hmetadata⟩ := reports.metadata
    have hrecorded := hk.events_eq hmetadata t.tick
    rw [delivered] at hrecorded
    rw [ih hks, hrecorded]
    change (t.journal.events ++ [e]) ++ es = _
    rw [unseen.events_eq, List.append_assoc]
    rfl

end Told

/-- **Every compilation tells its observer once, and tells it what happened.**  In a run of
compilations each builds one event, from the state that the ones before have left, and delivers it
to its observer, whatever becomes of that; the event says whether the attempt succeeded, how much it
compiled or how it failed.  If every observer records first, one event is recorded for each
compilation, in their order, even if something else in an observer fails. -/
theorem Compilation.runAll_told {ks : List Compilation} {s : State} (h : ∀ k ∈ ks, k.Fits s) :
    ∃ events, Told s ks events (runAll ks s).1 (runAll ks s).2 ∧ events.length = ks.length ∧
      ((∀ k ∈ ks, k.observer.IsRecorder) →
        (runAll ks s).2.journal.events = s.journal.events ++ events) := by
  obtain ⟨events, htold⟩ := exists_told h
  exact ⟨events, htold, htold.length_eq, htold.events_eq⟩

/-- Of two compilations, of which the second fails, both are recorded by an observer that fails each
time. -/
theorem Compilation.runAll_told_twice :
    let o : Observer := .compose [.leaf .record, .leaf (.refuse (.refused "down"))]
    let metadata : Value := .mapping .readOnly 1 [(.text "env", .text "test")]
    let c := { Options.standard with observer := some o, metadata := metadata }.compiler
    let row : Value := .mapping .plain 2 [(.text "a", .int 1)]
    let clause := Value.ruleClause 3 (.text "t") (.list [row])
    let ks : List Compilation := [⟨c, o, .list, 4, [clause]⟩, ⟨c, o, .tuple, 5, [clause, clause]⟩]
    let s := State.initial ⟨[], none, ⟨⟨2026, 1, 1⟩, 0, 0, 0, 0⟩⟩
    (runAll ks s).2.journal.events.length = 2 := by
  intro o metadata c row clause ks s
  obtain ⟨entries, hcopies⟩ : ∃ entries, s.Copies metadata entries := State.exists_copies rfl rfl
  have hfits {kind : SequenceKind} {items : List Value} (hkind : kind = .list ∨ kind = .tuple)
      (hitems : ∀ v ∈ items, v = clause) (i : Identity) : Fits s ⟨c, o, kind, i, items⟩ :=
    { observed := rfl
      kind := hkind
      raw := rfl
      rule := rfl
      items := fun v hv => hitems v hv ▸ .rule 3 _ _
      validator := fun _ _ => AllowedTypes.eq_of_validate
      metadata := ⟨metadata, entries, rfl, hcopies⟩ }
  have hall : ∀ k ∈ ks, k.Fits s :=
    List.forall_mem_cons.2 ⟨hfits (.inl rfl) (by simp) 4,
      List.forall_mem_singleton.2 (hfits (.inr rfl) (by simp) 5)⟩
  have hrecorder : ∀ k ∈ ks, k.observer.IsRecorder := by
    have ho : o.IsRecorder := ⟨_, rfl, by simp [Observer.leavesOf, Observer.leaves]⟩
    exact List.forall_mem_cons.2 ⟨ho, List.forall_mem_singleton.2 ho⟩
  obtain ⟨events, -, hlength, hrecorded⟩ := runAll_told hall
  rw [hrecorded hrecorder, List.length_append, hlength]
  rfl

end RowInsert
