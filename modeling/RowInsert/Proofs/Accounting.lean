import RowInsert.Proofs.Events
import RowInsert.Proofs.Metrics
import RowInsert.Proofs.Origins
import RowInsert.Proofs.ReadBack

/-!
# Metrics of whole runs

* `Statement.groupCount` counts the groups of a statement in its text.
* `Event.Reports.isCounted` gives the labels of an event that reports a compilation.
* `Metrics.AccountFor` says what the metrics have to be after some compilations;
  `Metrics.AccountFor.record` is the step from one compilation to the next.
* `Compilation.runAll_accounted` : the metrics that one keeper has of a whole run account for the
  compilations of the run.

Labels tell a failure by the name of its class, and a success by a name for no failure, which stands
in for an empty one too.  So what collaborators raise must bear neither (`Failure.IsNamed`).
-/

namespace RowInsert

/-! ### Groups of statements -/

namespace Statement

/-- The number of groups of a statement.  Nothing but groups stands after the last word, so that
these begin after the last of its letters. -/
def groupCount (sql : String) : Nat := (sql.toList.reverse.takeWhile (· ≠ 'S')).count '('

theorem count_group {c : Char} (hsep : ", ".toList.count c = 0) (hmark : [placeholder].count c = 0)
    (m : Nat) : (group m).toList.count c = ['('].count c + [')'].count c := by
  rw [← List.append_nil (group m).toList, toList_group, ← List.singleton_append, List.count_append,
    List.count_append, count_intercalate_replicate hsep, hmark, Nat.mul_zero, Nat.zero_add]

theorem takeWhile_reverse_append {c : Char} {back : List Char} (h : c ∉ back)
    (front : List Char) : (front ++ c :: back).reverse.takeWhile (· ≠ c) = back.reverse := by
  have hback : ∀ d ∈ back.reverse, decide (d ≠ c) = true := by
    intro d hd
    refine decide_eq_true ?_
    rintro rfl
    exact h (List.mem_reverse.1 hd)
  rw [List.reverse_append, List.reverse_cons, List.append_assoc,
    List.takeWhile_append_of_pos hback]
  simp

theorem groupCount_render (table : String) (columns : List String) (rows : Nat) :
    groupCount (render table columns rows) = rows := by
  obtain ⟨groups, hgroups⟩ : ∃ groups,
      groups = ", ".toList.intercalate (List.replicate rows (group columns.length).toList) :=
    ⟨_, rfl⟩
  have hcount (c : Char) (hsep : ", ".toList.count c = 0) (hmark : [placeholder].count c = 0) :
      groups.count c = rows * (['('].count c + [')'].count c) := by
    rw [hgroups, count_intercalate_replicate hsep, count_group hsep hmark]
  have hletter : 'S' ∉ ' ' :: groups := by
    rw [List.mem_cons, not_or, ← List.count_eq_zero, hcount 'S' (by decide) (by decide)]
    exact ⟨by decide, Nat.mul_zero rows⟩
  have hsplit : (render table columns rows).toList =
      ("INSERT INTO ".toList ++ (table.toList ++ (" (".toList ++
        (", ".toList.intercalate (columns.map String.toList) ++ ") VALUE".toList))))
        ++ 'S' :: ' ' :: groups := by
    rw [toList_render, ← hgroups]
    simp only [List.append_assoc]
    rfl
  rw [groupCount, hsplit, takeWhile_reverse_append hletter, List.count_reverse, List.count_cons,
    hcount '(' (by decide) (by decide)]
  exact Nat.mul_one rows

end Statement

/-! ### Labels of reported events -/

/-- The class of the failure has a name, and not the one that stands for no failure. -/
def Failure.IsNamed (f : Failure) : Prop := f.kind.name ≠ "" ∧ f.kind.name ≠ "none"

theorem Failure.IsNative.isNamed {f : Failure} (h : f.IsNative) : f.IsNamed := by
  unfold IsNative at h
  unfold IsNamed
  cases hkind : f.kind with
  | foreign name =>
    rw [hkind] at h
    cases h
  | _ => decide

/-- Whether these are a single rule clause. -/
def Clauses.areRule (items : List Value) : Bool :=
  match items with
  | [v] => v.nodeClass? = some .rule
  | _ => false

namespace Compiler

/-- What stands in the labels for how an attempt ended. -/
def errorLabel : Except Failure Compiled → String
  | .ok _ => "none"
  | .error f => f.kind.name

/-- The labels of an attempt that ended so, on clauses of this kind. -/
def outcomeLabels (name : String) (kind : ClauseKind) (outcome : Except Failure Compiled) :
    List (String × String) :=
  [("compiler", name), ("clause_kind", kind.name), ("error_type", errorLabel outcome)]

variable {name : String} {kind : ClauseKind} {outcome : Except Failure Compiled}

/-- An attempt fails with what has a name, if all that the compiler is handed has one. -/
theorem attempt_named {c : Compiler} (h : ∀ f, c.Raises f → f.IsNamed) (clauses : Value) :
    (c.attempt clauses).FailsOnly Failure.IsNamed := fun s =>
  (c.attempt_failsOnly clauses s).mono fun f hf => hf.elim Failure.IsNative.isNamed (h f)

theorem errorLabel_eq_none_iff (hnamed : FailsOnly Failure.IsNamed outcome) :
    errorLabel outcome = "none" ↔ outcome.isOk = true := by
  cases outcome with
  | ok compiled => exact ⟨fun _ => rfl, fun _ => rfl⟩
  | error f =>
    exact ⟨fun h => absurd h (hnamed f rfl).2, fun h => absurd h Bool.false_ne_true⟩

theorem noError_mem_outcomeLabels (hnamed : FailsOnly Failure.IsNamed outcome) :
    ("error_type", "none") ∈ outcomeLabels name kind outcome ↔ outcome.isOk = true := by
  rw [← errorLabel_eq_none_iff hnamed]
  simp [outcomeLabels, eq_comm]

theorem rule_mem_outcomeLabels :
    ("clause_kind", "rule") ∈ outcomeLabels name kind outcome ↔ kind = .rule := by
  have hkind : "rule" = kind.name ↔ kind = .rule := by cases kind <;> decide
  rw [← hkind]
  simp [outcomeLabels]

end Compiler

namespace Event

variable {e : Event} {k : Compilation} {s : State} {outcome : Except Failure Compiled}

theorem labelValue_text {t : String} (h : t ≠ "") (standIn : String) :
    labelValue (.text t) standIn = .ok (.text t) := by
  have htruthy : (Value.text t).truthy = .ok true := by
    have hlength : t.length ≠ 0 := by simpa using h
    simp [Value.truthy, Value.size?, hlength]
  unfold labelValue
  rw [htruthy]
  rfl

/-- The kind of clauses is named, and is that of rule clauses just for these. -/
theorem Describes.exists_kind {items : List Value} (h : e.Describes items) :
    ∃ kind : ClauseKind, e.clauseKind = .text kind.name ∧
      (kind = .rule ↔ Clauses.areRule items = true) := by
  cases h with
  | none kind => exact ⟨.none, kind, by decide⟩
  | raw i sql bindings kind =>
    have hnot : Clauses.areRule [.rawClause i sql bindings] = false := rfl
    exact ⟨.raw, kind, by simp [hnot]⟩
  | rule i table values kind => exact ⟨.rule, kind, fun _ => rfl, fun _ => rfl⟩
  | unknown _ notRule kind => exact ⟨.unknown, kind, by simp [Clauses.areRule, notRule]⟩
  | @several items hlt kind =>
    refine ⟨.multiple, kind, ?_⟩
    match items, hlt with
    | _ :: _ :: _, _ => simp [Clauses.areRule]

/-- An event that reports a compilation is counted, under labels that tell the kind of the clauses
and how the attempt ended. -/
theorem Reports.isCounted (h : e.Reports k s outcome) (hname : k.compiler.name ≠ "")
    (hnamed : FailsOnly Failure.IsNamed outcome) :
    ∃ kind : ClauseKind, (kind = .rule ↔ Clauses.areRule k.items = true) ∧
      e.IsCounted (Compiler.outcomeLabels k.compiler.name kind outcome) outcome.isOk := by
  obtain ⟨kind, hkind, hrule⟩ := h.describes.exists_kind
  refine ⟨kind, hrule, ?_, ?_, ?_⟩
  · unfold endsCompilation
    rw [h.event]
    decide
  · have hcompiler : labelValue e.compiler "unknown" = .ok (.text k.compiler.name) := by
      rw [h.compiler]
      exact labelValue_text hname _
    have hclauses : labelValue e.clauseKind "unknown" = .ok (.text kind.name) := by
      rw [hkind]
      exact labelValue_text (by cases kind <;> decide) _
    have herror : labelValue e.errorType "none" =
        .ok (.text (Compiler.errorLabel outcome)) := by
      cases outcome with
      | ok compiled =>
        rw [(h.ok compiled rfl).errorType]
        rfl
      | error f =>
        rw [(h.error f rfl).errorType]
        exact labelValue_text (hnamed f rfl).1 _
    unfold labels
    rw [hcompiler, hclauses, herror]
    rfl
  · cases outcome with
    | ok compiled => rw [(h.ok compiled rfl).success]; rfl
    | error f => rw [(h.error f rfl).success]; rfl

end Event

/-! ### Keepers of metrics -/

theorem State.Works.metricsOf_eq {s t : State} (h : s.Works t) (name : String) :
    t.journal.metricsOf name = s.journal.metricsOf name := by
  unfold Journal.metricsOf
  rw [h.metrics_eq]

/-! ### Accounts -/

/-- The number of groups of the statement that a rule clause was compiled to. -/
def Compilation.groups? (k : Compilation) (result : Except Raised Query) : Option Value :=
  match result with
  | .ok q =>
    if Clauses.areRule k.items then q.sql.text?.map fun sql => .int (Statement.groupCount sql)
    else none
  | .error _ => none

/-- The labels of rule clauses that were compiled. -/
def Metrics.compiledRules : List (String × String) :=
  [("compiler", Options.standardName), ("clause_kind", "rule"), ("error_type", "none")]

/-- The metrics are those of these compilations, each with what it came to. -/
structure Metrics.AccountFor (m : Metrics) (calls : List (Compilation × Except Raised Query)) :
    Prop where
  compiles : m.total compilesTotal = calls.length
  failures : m.total failuresTotal = calls.countP fun call => !call.2.isOk
  succeeded : ∀ labels, ("error_type", "none") ∈ labels → m.counter failuresTotal labels = 0
  failed : ∀ labels, ("error_type", "none") ∉ labels →
    m.counter failuresTotal labels = m.counter compilesTotal labels
  durations : m.observed durationName = calls.length
  rows : m.histogram rowsName compiledRules = calls.filterMap fun call => call.1.groups? call.2

namespace Metrics

theorem accountFor_empty : empty.AccountFor [] :=
  ⟨rfl, rfl, fun _ _ => rfl, fun _ _ => rfl, rfl, rfl⟩

section Step

variable {m : Metrics} {calls : List (Compilation × Except Raised Query)} {k : Compilation}
variable {e : Event} {kind : ClauseKind} {outcome : Except Failure Compiled}

/-- Only rule clauses that were compiled have the labels of such. -/
theorem sortedLabels_compiledRules (hnamed : FailsOnly Failure.IsNamed outcome) :
    sortedLabels compiledRules =
        sortedLabels (Compiler.outcomeLabels Options.standardName kind outcome) ↔
      kind = .rule ∧ outcome.isOk = true := by
  constructor
  · intro h
    have hkind := mem_of_sortedLabels_eq h (x := ("clause_kind", "rule")) (by simp [compiledRules])
    have herror := mem_of_sortedLabels_eq h (x := ("error_type", "none")) (by simp [compiledRules])
    exact ⟨Compiler.rule_mem_outcomeLabels.1 hkind,
      (Compiler.noError_mem_outcomeLabels hnamed).1 herror⟩
  · rintro ⟨rfl, hok⟩
    rw [Compiler.outcomeLabels, (Compiler.errorLabel_eq_none_iff hnamed).2 hok]
    rfl

/-- **One more compilation is accounted for** by the metrics once its event has been added. -/
theorem AccountFor.record (h : m.AccountFor calls) (hnamed : FailsOnly Failure.IsNamed outcome)
    (hcounted : e.IsCounted (Compiler.outcomeLabels Options.standardName kind outcome) outcome.isOk)
    (hkind : kind = .rule ↔ Clauses.areRule k.items = true)
    (hduration : e.duration.isNull = false)
    (hrows : ∀ compiled, outcome = .ok compiled → Clauses.areRule k.items = true →
      k.groups? (.ok compiled.query) = some e.rowCount ∧ e.rowCount.isNull = false) :
    (m.record e).1.AccountFor (calls ++ [(k, Compiler.settle outcome (.ok ()))]) where
  compiles := by
    rw [total_record hcounted, h.compiles, List.length_append]
    simp
  failures := by
    rw [total_record hcounted, h.failures, List.countP_append]
    cases outcome <;> rfl
  succeeded labels hlabels := by
    rw [failures_record hcounted, h.succeeded labels hlabels, if_neg]
    rintro ⟨hfailed, hsame⟩
    have hok := (Compiler.noError_mem_outcomeLabels hnamed).1
      (mem_of_sortedLabels_eq hsame hlabels)
    rw [hfailed] at hok
    cases hok
  failed labels hlabels := by
    rw [failures_record hcounted, compiles_record hcounted, h.failed labels hlabels]
    by_cases hsame : sortedLabels labels = sortedLabels
        (Compiler.outcomeLabels Options.standardName kind outcome)
    · have hfailed : ¬ outcome.isOk = true := fun hok =>
        hlabels (mem_of_sortedLabels_eq hsame.symm
          ((Compiler.noError_mem_outcomeLabels hnamed).2 hok))
      rw [if_pos ⟨by simpa using hfailed, hsame⟩, if_pos hsame]
    · rw [if_neg fun h => hsame h.2, if_neg hsame]
  durations := by
    rw [observed_record hcounted, h.durations, List.length_append]
    simp [hduration]
  rows := by
    have hlast : [(k, Compiler.settle outcome (.ok ()))].filterMap
        (fun call => call.1.groups? call.2) =
          (k.groups? (Compiler.settle outcome (.ok ()))).toList := by
      rw [List.filterMap_cons]
      cases k.groups? (Compiler.settle outcome (.ok ())) <;> rfl
    rw [rows_record hcounted, h.rows, List.filterMap_append, hlast]
    simp only [sortedLabels_compiledRules hnamed, hkind]
    congr 1
    cases outcome with
    | error f =>
      rw [if_neg fun h => Bool.false_ne_true h.1.2]
      rfl
    | ok compiled =>
      change _ = (k.groups? (.ok compiled.query)).toList
      by_cases hrule : Clauses.areRule k.items = true
      · obtain ⟨hgroups, hnotNull⟩ := hrows compiled rfl hrule
        rw [if_pos ⟨⟨hrule, rfl⟩, hnotNull⟩, hgroups]
        rfl
      · have hnone : k.groups? (.ok compiled.query) = none := if_neg hrule
        rw [if_neg fun h => hrule h.1.1, hnone]
        rfl

end Step

end Metrics

/-! ### Runs -/

namespace Compilation

variable {k : Compilation} {ks : List Compilation} {s t : State} {name : String}

theorem exists_ruleClause (h : k.Fits s) (hrule : Clauses.areRule k.items = true) :
    ∃ i table values, k.items = [.ruleClause i table values] := by
  have hitems := h.items
  unfold Clauses.areRule at hrule
  split at hrule
  · rename_i v heq
    rw [heq] at hitems ⊢
    have hclass : v.nodeClass? = some .rule := of_decide_eq_true hrule
    cases hitems v List.mem_cons_self with
    | raw i sql bindings => cases hclass
    | rule i table values => exact ⟨i, table, values, rfl⟩
    | other _ notRule => exact absurd hclass notRule
  · cases hrule

/-- What is observed of a compiled rule clause is the number of groups of its statement. -/
theorem groups?_of_attempt (h : k.Fits s) (hrule : Clauses.areRule k.items = true)
    {compiled : Compiled} (hok : ((k.compiler.attempt k.clauses).exec t).1 = .ok compiled)
    {e : Event} (he : e.TellsSuccess k.items compiled) :
    k.groups? (.ok compiled.query) = some e.rowCount ∧ e.rowCount.isNull = false := by
  obtain ⟨i, table, values, hitems⟩ := exists_ruleClause h hrule
  unfold clauses at hok
  rw [hitems] at hok
  obtain ⟨rows, columns, tableText, names, -, -, rfl⟩ :=
    Compiler.compiled_of_rule h.kind h.validator h.rule hok
  have hcount : e.rowCount = .int rows.length := he.rowCount
  unfold groups?
  dsimp only
  rw [hcount, if_pos hrule]
  exact ⟨congrArg (fun n : Nat => some (Value.int n))
    (Statement.groupCount_render tableText names rows.length), rfl⟩

/-- What a keeper of metrics accounted for, and the compilation that it observes. -/
theorem accountFor_run {calls : List (Compilation × Except Raised Query)} (h : k.Fits s)
    (hobserver : k.observer = .leaf (.metrics name))
    (hcompiler : k.compiler.name = Options.standardName)
    (hraises : ∀ f, k.compiler.Raises f → f.IsNamed)
    (hm : (s.journal.metricsOf name).AccountFor calls) :
    ((k.run s).2.journal.metricsOf name).AccountFor (calls ++ [(k, (k.run s).1)]) ∧
      (k.run s).2.attributes = s.attributes := by
  obtain ⟨outcome, t, e, delivery, u, hattempt, hworks, hreports, hdelivered, hattributes, hrun⟩ :=
    run_eq h
  have hname : k.compiler.name ≠ "" := by rw [hcompiler]; decide
  have hnamed : FailsOnly Failure.IsNamed outcome := by
    have hfails := Compiler.attempt_named hraises k.clauses s.tick
    rw [hattempt] at hfails
    exact hfails
  obtain ⟨kind, hkind, hcounted⟩ := hreports.isCounted hname hnamed
  have hduration : e.duration.isNull = false := by rw [hreports.duration]; rfl
  have hbefore : t.tick.journal.metricsOf name = s.journal.metricsOf name :=
    hworks.metricsOf_eq name
  have hending : ((s.journal.metricsOf name).record e).2 = .ok () :=
    congrArg Prod.snd (Metrics.record_eq hcounted)
  rw [hobserver, Observer.exec_metrics, hbefore] at hdelivered
  dsimp only at hdelivered
  rw [hending] at hdelivered
  cases hdelivered
  rw [hcompiler] at hcounted
  have hstep := hm.record hnamed hcounted hkind hduration fun compiled hcompiled hrule => by
    subst hcompiled
    exact groups?_of_attempt h hrule (congrArg Prod.fst hattempt) (hreports.ok compiled rfl)
  rw [hrun]
  refine ⟨?_, hattributes⟩
  dsimp only
  rw [Journal.metricsOf_setMetrics]
  exact hstep

theorem accountFor_runAll {calls : List (Compilation × Except Raised Query)}
    (h : ∀ k ∈ ks, k.Fits s) (hobserver : ∀ k ∈ ks, k.observer = .leaf (.metrics name))
    (hcompiler : ∀ k ∈ ks, k.compiler.name = Options.standardName)
    (hraises : ∀ k ∈ ks, ∀ f, k.compiler.Raises f → f.IsNamed)
    (hm : (s.journal.metricsOf name).AccountFor calls) :
    ((runAll ks s).2.journal.metricsOf name).AccountFor (calls ++ ks.zip (runAll ks s).1) := by
  induction ks generalizing s calls with
  | nil =>
    rw [List.zip_nil_left, List.append_nil]
    exact hm
  | cons k ks ih =>
    obtain ⟨hk, hks⟩ := List.forall_mem_cons.1 h
    obtain ⟨ho, hos⟩ := List.forall_mem_cons.1 hobserver
    obtain ⟨hc, hcs⟩ := List.forall_mem_cons.1 hcompiler
    obtain ⟨hr, hrs⟩ := List.forall_mem_cons.1 hraises
    obtain ⟨hstep, hattributes⟩ := accountFor_run hk ho hc hr hm
    have hrest := ih (fun k' hk' => (hks k' hk').of_attributes hattributes) hos hcs hrs hstep
    rw [runAll_cons, List.zip_cons_cons, List.append_cons]
    exact hrest

theorem length_runAll (ks : List Compilation) (s : State) : (runAll ks s).1.length = ks.length := by
  induction ks generalizing s with
  | nil => rfl
  | cons k ks ih => rw [runAll_cons, List.length_cons, List.length_cons, ih]

/-- **The metrics of a run account for its compilations.**  A keeper of metrics that has seen
nothing before, and observes every compilation of a run, has counted each once, and once more if it
failed, under labels that tell failures from successes; it has observed as many durations, and of
the rule clauses that were compiled the numbers of groups of their statements, in order.  What a
compiler is handed may fail in any way, as long as it is of a class with a name that is not the one
for no failure. -/
theorem runAll_accounted (h : ∀ k ∈ ks, k.Fits s)
    (hobserver : ∀ k ∈ ks, k.observer = .leaf (.metrics name))
    (hcompiler : ∀ k ∈ ks, k.compiler.name = Options.standardName)
    (hraises : ∀ k ∈ ks, ∀ f, k.compiler.Raises f → f.IsNamed)
    (hfresh : s.journal.metricsOf name = .empty) :
    let results := (runAll ks s).1
    results.length = ks.length ∧
      ((runAll ks s).2.journal.metricsOf name).AccountFor (ks.zip results) :=
  ⟨length_runAll ks s,
    accountFor_runAll h hobserver hcompiler hraises (hfresh ▸ Metrics.accountFor_empty)⟩

/-- Of two compilations, of which the first fails, both are counted and timed. -/
theorem runAll_accounted_twice :
    let o : Observer := .leaf (.metrics "m")
    let c := { Options.standard with observer := some o }.compiler
    let row : Value := .mapping .plain 2 [(.text "a", .int 1)]
    let clause := Value.ruleClause 3 (.text "t") (.list [row, row])
    let ks : List Compilation := [⟨c, o, .list, 4, [clause, clause]⟩, ⟨c, o, .tuple, 5, [clause]⟩]
    let s := State.initial ⟨[], none, ⟨⟨2026, 1, 1⟩, 0, 0, 0, 0⟩⟩
    let m := (runAll ks s).2.journal.metricsOf "m"
    m.total Metrics.compilesTotal = 2 ∧ m.observed Metrics.durationName = 2 := by
  intro o c row clause ks s m
  have hfits {kind : SequenceKind} {items : List Value} (hkind : kind = .list ∨ kind = .tuple)
      (hitems : ∀ v ∈ items, v = clause) (i : Identity) : Fits s ⟨c, o, kind, i, items⟩ :=
    { observed := rfl
      kind := hkind
      raw := rfl
      rule := rfl
      items := fun v hv => hitems v hv ▸ .rule 3 _ _
      validator := fun _ _ => AllowedTypes.eq_of_validate
      metadata := ⟨.mapping .plain 0 [], [], rfl, .mapping rfl rfl⟩ }
  have hall : ∀ k ∈ ks, k.Fits s :=
    List.forall_mem_cons.2 ⟨hfits (.inl rfl) (by simp) 4,
      List.forall_mem_singleton.2 (hfits (.inr rfl) (by simp) 5)⟩
  have hobserver : ∀ k ∈ ks, k.observer = .leaf (.metrics "m") :=
    List.forall_mem_cons.2 ⟨rfl, List.forall_mem_singleton.2 rfl⟩
  have hraises : ∀ f, c.Raises f → f.IsNamed := by
    rintro f (⟨v, h⟩ | ⟨q, h⟩ | h)
    · exact (Delimiters.failsOnly_quote .ansi v f h).isNamed
    · exact (AllowedTypes.failsOnly_validate .standard q f h).isNamed
    · cases h
  obtain ⟨hlength, haccounts⟩ := runAll_accounted hall hobserver
    (List.forall_mem_cons.2 ⟨rfl, List.forall_mem_singleton.2 rfl⟩)
    (List.forall_mem_cons.2 ⟨hraises, List.forall_mem_singleton.2 hraises⟩) rfl
  rw [haccounts.compiles, haccounts.durations, List.length_zip, hlength]
  exact ⟨rfl, rfl⟩

/-- A failure of a class without a name is counted under the labels of a rule clause that was
compiled. -/
theorem runAll_accounted_nameless :
    let o : Observer := .leaf (.metrics "m")
    let c : Compiler := { { Options.standard with observer := some o }.compiler with
      quoter := fun _ => .error (.foreign "" "down")
      validator := fun q => .ok q }
    let row : Value := .mapping .plain 2 [(.text "a", .int 1)]
    let k : Compilation := ⟨c, o, .list, 4, [Value.ruleClause 3 (.text "t") row]⟩
    let s := State.initial ⟨[], none, ⟨⟨2026, 1, 1⟩, 0, 0, 0, 0⟩⟩
    let m := (runAll [k] s).2.journal.metricsOf "m"
    k.Fits s ∧ c.name = Options.standardName ∧ s.journal.metricsOf "m" = .empty ∧
      (∀ f, c.Raises f → f.kind.name ≠ "none") ∧
      m.counter Metrics.failuresTotal Metrics.compiledRules = 1 ∧
      ¬ m.AccountFor ([k].zip (runAll [k] s).1) := by
  intro o c row k s m
  have hfits : k.Fits s :=
    { observed := rfl
      kind := .inl rfl
      raw := rfl
      rule := rfl
      items := List.forall_mem_singleton.2 (.rule 3 _ _)
      validator := fun _ _ h => (Except.ok.inj h).symm
      metadata := ⟨.mapping .plain 0 [], [], rfl, .mapping rfl rfl⟩ }
  have hraises : ∀ f, c.Raises f → f.kind.name ≠ "none" := by
    rintro f (⟨v, h⟩ | ⟨q, h⟩ | h) <;> cases h
    decide
  let e : Event := Compiler.outcomeFields (.error (.foreign "" "down"))
    (c.eventFor .rule (.text "t") [] s.clock.now
      (Clock.elapsed s.clock.read.1 s.tick.clock.read.1))
  -- The empty name is read as that of no failure, so the labels are those of a success.
  have hlabels : e.labels = .ok Metrics.compiledRules := by
    have hcompiler : Event.labelValue e.compiler "unknown" = .ok (.text Options.standardName) :=
      Event.labelValue_text (by decide) _
    have hkind : Event.labelValue e.clauseKind "unknown" = .ok (.text "rule") :=
      Event.labelValue_text (by decide) _
    unfold Event.labels
    rw [hcompiler, hkind]
    rfl
  have hcounted : e.IsCounted Metrics.compiledRules false := ⟨by decide, hlabels, rfl⟩
  have hmetrics : m = (Metrics.empty.record e).1 := rfl
  have hfailures : m.counter Metrics.failuresTotal Metrics.compiledRules = 1 := by
    rw [hmetrics, Metrics.failures_record hcounted, if_pos ⟨rfl, rfl⟩]
    rfl
  refine ⟨hfits, rfl, rfl, hraises, hfailures, fun haccounts => ?_⟩
  have hnone := haccounts.succeeded Metrics.compiledRules (by simp [Metrics.compiledRules])
  rw [hfailures] at hnone
  cases hnone

end Compilation

end RowInsert
