import RowInsert.Proofs.Attempt

/-!
# What a report depends on

The journal keeps what collaborators and observers were given.  Metrics are added to those that it
has, but nothing outside it depends on it.

* `State.Alike` relates states that differ in their journals alone.
* `Run.Overlooks` : from such states a computation comes to one outcome, and to such states again.
  It is kept by sequences and by walks over lists.
* `Compiler.overlooks_report` : what becomes of a report does not depend on the journal, whatever is
  observed.
* `Compiler.report_rule` : of a rule clause and its query, a report looks at the table and at how
  many rows, columns and values there are.
-/

namespace RowInsert

namespace State

/-- The states differ in their journals alone. -/
def Alike (s t : State) : Prop := ∃ journal, t = { s with journal := journal }

instance : Std.Refl Alike := ⟨fun s => ⟨s.journal, rfl⟩⟩

instance : IsTrans State Alike := ⟨by
  rintro s t u ⟨_, rfl⟩ ⟨journal, rfl⟩
  exact ⟨journal, rfl⟩⟩

theorem Alike.symm {s t : State} (h : s.Alike t) : t.Alike s := by
  obtain ⟨_, rfl⟩ := h
  exact ⟨s.journal, rfl⟩

theorem Alike.tick {s t : State} (h : s.Alike t) : s.tick.Alike t.tick := by
  obtain ⟨journal, rfl⟩ := h
  exact ⟨journal, rfl⟩

theorem Alike.clock_eq {s t : State} (h : s.Alike t) : t.clock = s.clock := by
  obtain ⟨_, rfl⟩ := h
  rfl

theorem alike_called (s : State) (call : Call) : s.Alike (s.called [call]) := ⟨_, rfl⟩

end State

/-! ### Computations that overlook the journal -/

namespace Run

variable {α β : Type}

/-- The journal is not read: from states that differ in nothing else, the computation comes to one
outcome, and to states that differ in nothing else. -/
def Overlooks (x : Run α) : Prop :=
  ∀ s t, s.Alike t → (x.exec s).1 = (x.exec t).1 ∧ (x.exec s).2.Alike (x.exec t).2

/-- What looks at streams and attributes alone does not read the journal. -/
theorem OnlyReads.overlooks {x : Run α} (h : x.OnlyReads) : x.Overlooks := by
  rintro s t ⟨journal, rfl⟩
  obtain ⟨houtcome, streams, hs, ht⟩ := h s { s with journal := journal } rfl rfl
  rw [hs, ht]
  exact ⟨houtcome, journal, rfl⟩

theorem overlooks_pure (a : α) : (pure a : Run α).Overlooks := fun _ _ h => ⟨rfl, h⟩

theorem overlooks_throw (f : Failure) : (throw f : Run α).Overlooks := fun _ _ h => ⟨rfl, h⟩

theorem overlooks_lift (x : Except Failure α) : (lift x).Overlooks := fun _ _ h => ⟨rfl, h⟩

/-- Writing to the journal changes nothing else. -/
theorem overlooks_modifyJournal (f : Journal → Journal) : (modifyJournal f).Overlooks := by
  rintro s t ⟨journal, rfl⟩
  exact ⟨rfl, f journal, rfl⟩

theorem overlooks_readClock : readClock.Overlooks := by
  rintro s t ⟨journal, rfl⟩
  exact ⟨rfl, journal, rfl⟩

theorem Overlooks.bind {x : Run α} {f : α → Run β} (hx : x.Overlooks)
    (hf : ∀ a, (f a).Overlooks) : (x >>= f).Overlooks := by
  intro s t h
  obtain ⟨houtcome, hafter⟩ := hx s t h
  rw [exec_bind, exec_bind]
  rcases hs : x.exec s with ⟨r, u⟩
  rcases ht : x.exec t with ⟨r', v⟩
  rw [hs, ht] at houtcome hafter
  dsimp only at houtcome hafter
  subst houtcome
  cases r with
  | error e => exact ⟨rfl, hafter⟩
  | ok a => exact hf a u v hafter

/-- Reading the state is harmless where the journal makes no difference to what follows. -/
theorem Overlooks.get_bind {f : State → Run α} (hf : ∀ s, (f s).Overlooks)
    (hsame : ∀ s journal, f { s with journal := journal } = f s) :
    ((get : Run State) >>= f).Overlooks := by
  rintro s t ⟨journal, rfl⟩
  rw [exec_bind_ok (exec_get s), exec_bind_ok (exec_get _), hsame s journal]
  exact hf s s _ ⟨journal, rfl⟩

theorem Overlooks.forM {f : α → Run PUnit} (h : ∀ a, (f a).Overlooks) (l : List α) :
    (forM l f).Overlooks := by
  induction l with
  | nil => exact overlooks_pure PUnit.unit
  | cons a l ih =>
    rw [List.forM_cons]
    exact Overlooks.bind (h a) fun _ => ih

end Run

/-! ### Delivery -/

/-- How an update of metrics ends depends on the event alone. -/
theorem Metrics.snd_record (m m' : Metrics) (e : Event) : (m.record e).2 = (m'.record e).2 := by
  unfold record recordLabelled
  split
  · split
    · split <;> rfl
    · rfl
  · rfl

theorem Event.overlooks_snapshot (e : Event) : e.snapshot.Overlooks := by
  unfold snapshot
  apply Run.Overlooks.bind (Run.onlyReads_dictionary e.metadata).overlooks
  intro entries
  exact Run.overlooks_pure _

theorem Leaf.overlooks_deliver (l : Leaf) (e : Event) : (l.deliver e).Overlooks := by
  cases l with
  | record =>
    unfold deliver
    apply Run.Overlooks.bind e.overlooks_snapshot
    intro copy
    exact Run.overlooks_modifyJournal _
  | metrics name =>
    -- The metrics so far are read, but they change nothing outside the journal.
    rintro s t ⟨journal, rfl⟩
    have hending := Metrics.snd_record (s.journal.metricsOf name) (journal.metricsOf name) e
    exact ⟨hending, journal.setMetrics name ((journal.metricsOf name).record e).1, rfl⟩
  | log level threshold =>
    unfold deliver writeLine
    apply Run.Overlooks.bind e.overlooks_snapshot
    intro copy
    refine Run.Overlooks.get_bind (fun s => ?_) fun _ _ => rfl
    apply Run.Overlooks.bind (Run.overlooks_lift _)
    intro message
    apply Run.Overlooks.bind (Run.onlyReads_require _ _).overlooks
    intro n
    split
    · exact Run.overlooks_modifyJournal _
    · exact Run.overlooks_pure _
  | refuse failure => exact Run.overlooks_throw failure

theorem Observer.overlooks_deliver (o : Observer) (e : Event) : (o.deliver e).Overlooks := by
  rw [deliver_eq_forM]
  exact Run.Overlooks.forM (fun l => l.overlooks_deliver e) o.leaves

/-! ### Reports -/

namespace Compiler

variable {c : Compiler}

theorem overlooks_event (c : Compiler) (clauses : Value) (started : Binary64)
    (outcome : Except Failure Compiled) : (c.event clauses started outcome).Overlooks := by
  unfold event
  apply Run.Overlooks.bind (onlyReads_circumstances c clauses).overlooks
  rintro ⟨kind, table, metadata⟩
  apply Run.Overlooks.bind Run.overlooks_readClock
  intro stopped
  exact Run.Overlooks.get_bind (fun s => Run.overlooks_pure _) fun _ _ => rfl

/-- **What becomes of a report does not depend on the journal,** whatever is observed. -/
theorem overlooks_report (c : Compiler) (clauses : Value) (started : Binary64)
    (outcome : Except Failure Compiled) : (c.report clauses started outcome).Overlooks := by
  unfold report tell
  apply Run.Overlooks.bind (Run.overlooks_lift _)
  intro observer
  cases observer with
  | none => exact Run.overlooks_pure _
  | some o =>
    apply Run.Overlooks.bind (overlooks_event _ _ _ _)
    intro e
    exact o.overlooks_deliver e

section Rule

variable {kind kind' : SequenceKind} (hkind : kind = .list ∨ kind = .tuple)
variable (hkind' : kind' = .list ∨ kind' = .tuple)
include hkind hkind'

/-- The event of a rule clause and its query tells the table and how many rows, columns and values
there are. -/
theorem event_rule (i i' j j' : Identity) (table values values' : Value) (started : Binary64)
    {compiled compiled' : Compiled} (hrows : compiled'.rowCount = compiled.rowCount)
    (hcolumns : compiled'.columnCount = compiled.columnCount)
    (hparams : compiled'.query.params.length = compiled.query.params.length) :
    c.event (.sequence kind' i' [.ruleClause j' table values']) started (.ok compiled') =
      c.event (.sequence kind i [.ruleClause j table values]) started (.ok compiled) := by
  have hcircumstances : c.circumstances (.sequence kind' i' [.ruleClause j' table values']) =
      c.circumstances (.sequence kind i [.ruleClause j table values]) := by
    rcases hkind with rfl | rfl <;> rcases hkind' with rfl | rfl <;> rfl
  have hfields : outcomeFields (.ok compiled') = outcomeFields (.ok compiled) := by
    funext e
    simp only [outcomeFields, hrows, hcolumns, hparams]
  unfold event
  rw [hcircumstances, hfields]

theorem report_rule (i i' j j' : Identity) (table values values' : Value) (started : Binary64)
    {compiled compiled' : Compiled} (hrows : compiled'.rowCount = compiled.rowCount)
    (hcolumns : compiled'.columnCount = compiled.columnCount)
    (hparams : compiled'.query.params.length = compiled.query.params.length) :
    c.report (.sequence kind' i' [.ruleClause j' table values']) started (.ok compiled') =
      c.report (.sequence kind i [.ruleClause j table values]) started (.ok compiled) := by
  have hevent := event_rule (c := c) hkind hkind' i i' j j' table values values' started hrows
    hcolumns hparams
  unfold report tell
  rw [afterReading_sequence, afterReading_sequence]
  cases c.observer with
  | error f => rfl
  | ok observer =>
    cases observer with
    | none => rfl
    | some o =>
      change c.event _ _ _ >>= o.deliver = c.event _ _ _ >>= o.deliver
      exact congrArg (· >>= o.deliver) hevent

end Rule

end Compiler

end RowInsert
