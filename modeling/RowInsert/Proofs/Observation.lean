import RowInsert.Collaborators
import RowInsert.Proofs.Rows

/-!
# Compiling with an observer

* `Run.OnlyReads` says that a computation looks at streams and attributes and reads streams, and
  `Run.onlyReads_dictionary` that making a dictionary does nothing else.
* `Observer.moves_deliver` : an event that is delivered reaches the journal only in copies of
  itself, whatever observers are composed, and delivery calls no collaborator.
* `Compiler.Notified` says how one event is built and delivered, and `Compiler.Notified.tells` what
  is left of it in the state.
* `Compiler.compile_observed` compares a compilation with the same one without an observer.
-/

namespace RowInsert

namespace State

/-- What `f` tells of a state has not changed. -/
def Keeps {β : Type} (f : State → β) (s t : State) : Prop := f t = f s

/-- Streams may have been read, and nothing else has happened. -/
def Reads (s t : State) : Prop := ∃ streams, t = { s with streams := streams }

/-- Nothing has been recorded, and the clock has not been read. -/
structure Quiet (s t : State) : Prop where
  journal : t.journal = s.journal
  clock : t.clock = s.clock

/-- Of events, only copies of this one have been recorded, which have metadata of their own.  No
collaborator has been called, and the clock has not been read. -/
structure Tells (e : Event) (s t : State) : Prop where
  events : ∃ recorded, t.journal.events = s.journal.events ++ recorded ∧
    ∀ r ∈ recorded, { r with metadata := e.metadata } = e
  calls : t.journal.calls = s.journal.calls
  clock : t.clock = s.clock

instance {β : Type} (f : State → β) : Std.Refl (Keeps f) := ⟨fun _ => rfl⟩

instance {β : Type} (f : State → β) : IsTrans State (Keeps f) := ⟨fun _ _ _ h h' => h'.trans h⟩

instance : Std.Refl Reads := ⟨fun s => ⟨s.streams, rfl⟩⟩

instance : IsTrans State Reads := ⟨by
  rintro s t u ⟨first, rfl⟩ ⟨second, rfl⟩
  exact ⟨second, rfl⟩⟩

instance (e : Event) : Std.Refl (Tells e) :=
  ⟨fun _ => ⟨⟨[], (List.append_nil _).symm, List.forall_mem_nil _⟩, rfl, rfl⟩⟩

instance (e : Event) : IsTrans State (Tells e) where
  trans s t u h h' := by
    obtain ⟨first, hfirst, hcopies⟩ := h.events
    obtain ⟨second, hsecond, hcopies'⟩ := h'.events
    refine ⟨⟨first ++ second, ?_, ?_⟩, h'.calls.trans h.calls, h'.clock.trans h.clock⟩
    · rw [hsecond, hfirst, List.append_assoc]
    · intro r hr
      rcases List.mem_append.1 hr with hr | hr
      · exact hcopies r hr
      · exact hcopies' r hr

theorem Reads.quiet {s t : State} (h : Reads s t) : Quiet s t := by
  obtain ⟨_, rfl⟩ := h
  exact ⟨rfl, rfl⟩

theorem Quiet.tells (e : Event) {s t : State} (h : Quiet s t) : Tells e s t where
  events := ⟨[], by rw [h.journal, List.append_nil], List.forall_mem_nil _⟩
  calls := by rw [h.journal]
  clock := h.clock

end State

/-! ### Dictionaries -/

namespace Run

variable {α β : Type}

/-- The computation looks at streams and attributes alone, and does nothing but read streams: from
states that have the same, it comes to one outcome and reads as far. -/
def OnlyReads (x : Run α) : Prop :=
  ∀ s t, t.streams = s.streams → t.attributes = s.attributes → (x.exec s).1 = (x.exec t).1 ∧
    ∃ streams, (x.exec s).2 = { s with streams := streams } ∧
      (x.exec t).2 = { t with streams := streams }

theorem OnlyReads.moves {x : Run α} (h : x.OnlyReads) : x.Moves State.Reads := by
  intro s
  obtain ⟨-, streams, hs, -⟩ := h s s rfl rfl
  exact ⟨streams, hs⟩

theorem onlyReads_of_still {x : Run α} {r : Except Failure α} (h : ∀ s, x.exec s = (r, s)) :
    x.OnlyReads := by
  intro s t hstreams _
  rw [h s, h t]
  exact ⟨rfl, s.streams, rfl, by rw [← hstreams]⟩

theorem onlyReads_pure (a : α) : (pure a : Run α).OnlyReads := onlyReads_of_still fun _ => rfl

theorem onlyReads_throw (f : Failure) : (throw f : Run α).OnlyReads :=
  onlyReads_of_still fun _ => rfl

theorem onlyReads_lift (x : Except Failure α) : (lift x).OnlyReads :=
  onlyReads_of_still fun _ => rfl

theorem onlyReads_require (x : Option α) (f : Failure) : (require x f).OnlyReads := by
  cases x with
  | none => exact onlyReads_throw f
  | some a => exact onlyReads_pure a

theorem OnlyReads.bind {x : Run α} {f : α → Run β} (hx : x.OnlyReads)
    (hf : ∀ a, (f a).OnlyReads) : (x >>= f).OnlyReads := by
  intro s t hstreams hattributes
  obtain ⟨houtcome, streams, hs, ht⟩ := hx s t hstreams hattributes
  rw [exec_bind, exec_bind]
  rcases hexec : x.exec s with ⟨r, u⟩
  rcases hexec' : x.exec t with ⟨r', v⟩
  rw [hexec, hexec'] at houtcome
  rw [hexec] at hs
  rw [hexec'] at ht
  dsimp only at houtcome hs ht
  subst houtcome hs ht
  cases r with
  | error e => exact ⟨rfl, streams, rfl, rfl⟩
  | ok a => exact hf a _ _ rfl hattributes

theorem OnlyReads.get_bind {f : State → Run α} (hf : ∀ s, (f s).OnlyReads)
    (hsame : ∀ s t, t.streams = s.streams → t.attributes = s.attributes → f t = f s) :
    ((get : Run State) >>= f).OnlyReads := by
  intro s t hstreams hattributes
  rw [exec_bind_ok (exec_get s), exec_bind_ok (exec_get t), hsame s t hstreams hattributes]
  exact hf s s t hstreams hattributes

theorem onlyReads_advance (i : Identity) (count : Nat) : (advance i count).OnlyReads := by
  intro s t hstreams _
  refine ⟨rfl, s.streams.advance i count, rfl, ?_⟩
  rw [← hstreams]
  rfl

theorem onlyReads_finish (i : Identity) (failure : Option String) :
    (finish i failure).OnlyReads := by
  intro s t hstreams _
  rw [exec_finish, exec_finish, hstreams]
  exact ⟨rfl, _, rfl, rfl⟩

theorem onlyReads_readStream (limit : Option Nat) (i : Identity) (items : List Value)
    (failure : Option String) : (readStream limit i items failure).OnlyReads := by
  unfold readStream
  refine OnlyReads.get_bind (fun s => ?_) fun s t hstreams _ => by rw [hstreams]
  apply OnlyReads.bind (onlyReads_advance i _)
  intro _
  cases limit with
  | none =>
    apply OnlyReads.bind (onlyReads_finish i failure)
    intro _
    exact onlyReads_pure _
  | some n =>
    dsimp only
    split
    · apply OnlyReads.bind (onlyReads_finish i failure)
      intro _
      exact onlyReads_pure _
    · exact onlyReads_pure _

/-- The parts of an element that is taken for a pair. -/
def partsAt (position : Nat) (element : Value) : Run (List Value) :=
  match element with
  | .stream i items failure => readStream none i items failure
  | _ => require element.items? (.pairNotSequence position)

/-- The pair that these parts are, if they are two and the first can be a key. -/
def pairOf (position : Nat) (parts : List Value) : Except Failure (Value × Value) :=
  match parts with
  | [k, v] =>
    match k.unhashable? with
    | some f => .error f
    | none => .ok (k, v)
  | _ => .error (.pairLength position parts.length)

/-- Once an element has been walked, its parts decide. -/
theorem pairAt_eq (position : Nat) (element : Value) :
    pairAt position element =
      partsAt position element >>= fun parts => lift (pairOf position parts) := by
  unfold pairAt partsAt
  -- Only a stream is walked in a way of its own, and what follows is the same for all.
  cases element
  all_goals
    refine bind_congr fun parts => ?_
    rcases parts with _ | ⟨k, _ | ⟨v, _ | ⟨w, rest⟩⟩⟩
    · rfl
    · rfl
    · unfold pairOf
      dsimp only
      cases k.unhashable? with
      | none => rfl
      | some f => rfl
    · rfl

theorem onlyReads_pairAt (position : Nat) (element : Value) :
    (pairAt position element).OnlyReads := by
  rw [pairAt_eq]
  apply OnlyReads.bind
  · unfold partsAt
    split
    · exact onlyReads_readStream none _ _ _
    · exact onlyReads_require _ _
  · intro parts
    exact onlyReads_lift _

theorem onlyReads_addPairs {taking : Run Unit} (htaking : taking.OnlyReads) (position : Nat)
    (entries : List (Value × Value)) (elements : List Value) :
    (addPairs taking position entries elements).OnlyReads := by
  induction elements generalizing position entries with
  | nil => exact onlyReads_pure _
  | cons element rest ih =>
    unfold addPairs
    apply OnlyReads.bind htaking
    intro _
    apply OnlyReads.bind (onlyReads_pairAt position element)
    rintro ⟨k, v⟩
    exact ih _ _

theorem onlyReads_checkKeysOf (v : Value) : (checkKeysOf v).OnlyReads := by
  unfold checkKeysOf
  refine OnlyReads.get_bind (fun s => ?_) fun s t _ hattributes => ?_
  · split
    · exact onlyReads_throw _
    · exact onlyReads_pure _
  · unfold State.attribute? State.assigned
    rw [hattributes]

theorem onlyReads_converted (v : Value) : (converted v).OnlyReads := by
  unfold converted
  apply OnlyReads.bind (onlyReads_checkKeysOf v)
  intro _
  split
  · exact onlyReads_lift _
  · refine OnlyReads.get_bind (fun s => ?_) fun s t hstreams _ => by rw [hstreams]
    apply OnlyReads.bind (onlyReads_addPairs (onlyReads_advance _ 1) _ _ _)
    intro entries
    apply OnlyReads.bind (onlyReads_finish _ _)
    intro _
    exact onlyReads_pure _
  · apply OnlyReads.bind (onlyReads_require _ _)
    intro items
    exact onlyReads_addPairs (onlyReads_pure _) _ _ _

/-- Making a dictionary may read a stream, and does nothing else to the state. -/
theorem onlyReads_dictionary (v : Value) : (dictionary v).OnlyReads := by
  unfold dictionary
  split
  · exact onlyReads_pure _
  · exact onlyReads_converted v

end Run

/-! ### Delivery -/

namespace Observer

variable {m : Type → Type} [Monad m] [LawfulMonad m] (call : Leaf → Event → m Unit) (e : Event)

mutual

/-- Delivery to composed observers is delivery to their leaves, whatever these do. -/
theorem deliverBy_eq_forM : ∀ o : Observer, o.deliverBy call e = forM o.leaves (call · e)
  | .leaf l => by
    unfold deliverBy leaves
    rw [List.forM_cons, List.forM_nil]
    exact (bind_pure_unit (x := call l e)).symm
  | .compose parts => by
    unfold deliverBy leaves
    exact deliverPartsBy_eq_forM parts

theorem deliverPartsBy_eq_forM :
    ∀ parts : List Observer, deliverPartsBy call parts e = forM (leavesOf parts) (call · e)
  | [] => rfl
  | o :: rest => by
    unfold deliverPartsBy leavesOf
    rw [List.forM_append, deliverBy_eq_forM o, deliverPartsBy_eq_forM rest]

end

end Observer

section Delivery

variable (e : Event)

/-- Whatever a leaf does to the state is made of making the metadata a dictionary, recording a copy
of the event, and changing the metrics or the lines of the journal. -/
theorem Leaf.moves_of_dictionary {R : State → State → Prop} [Std.Refl R] [IsTrans State R]
    (l : Leaf) (dictionary : (Run.dictionary e.metadata).Moves R)
    (record : l = .record → ∀ s metadata, R s { s with journal := { s.journal with
      events := s.journal.events ++ [{ e with metadata := metadata }] } })
    (note : ∀ s metrics lines, R s { s with journal := { s.journal with
      metrics := metrics, lines := lines } }) :
    (l.deliver e).Moves R := by
  cases l with
  | record =>
    simp only [deliver, Event.snapshot, bind_assoc, pure_bind]
    exact Run.Moves.bind dictionary fun entries s => record rfl s (.mapping .plain 0 entries)
  | metrics name =>
    unfold deliver updateMetrics
    refine Run.Moves.bind Run.moves_get fun s => ?_
    refine Run.Moves.bind (fun t => note t _ t.journal.lines) fun _ => ?_
    exact Run.moves_lift _
  | log level threshold =>
    unfold deliver writeLine Event.snapshot
    refine Run.Moves.bind ?_ fun copy => ?_
    · exact Run.Moves.bind dictionary fun _ => Run.moves_pure _
    refine Run.Moves.bind Run.moves_get fun s => ?_
    refine Run.Moves.bind (Run.moves_lift _) fun message => ?_
    refine Run.Moves.bind (Run.moves_require _ _) fun n => ?_
    split
    · exact fun t => note t t.journal.metrics _
    · exact Run.moves_pure _
  | refuse failure => exact Run.moves_throw failure

/-- Whatever a leaf does to the state is made of reading streams, recording a copy of the event, and
changing the metrics or the lines of the journal. -/
theorem Leaf.moves_of_journal {R : State → State → Prop} [Std.Refl R] [IsTrans State R] (l : Leaf)
    (reads : ∀ s t, State.Reads s t → R s t)
    (record : l = .record → ∀ s metadata, R s { s with journal := { s.journal with
      events := s.journal.events ++ [{ e with metadata := metadata }] } })
    (note : ∀ s metrics lines, R s { s with journal := { s.journal with
      metrics := metrics, lines := lines } }) :
    (l.deliver e).Moves R :=
  l.moves_of_dictionary e ((Run.onlyReads_dictionary e.metadata).moves.mono reads) record note

theorem Leaf.moves_deliver (l : Leaf) : (l.deliver e).Moves (State.Tells e) := by
  refine moves_of_journal e l (fun _ _ h => h.quiet.tells e) (fun _ s metadata => ?_)
    fun s metrics lines => ?_
  · exact ⟨⟨[{ e with metadata := metadata }], rfl,
      fun r hr => by rw [List.mem_singleton.1 hr]⟩, rfl, rfl⟩
  · exact ⟨⟨[], (List.append_nil _).symm, List.forall_mem_nil _⟩, rfl, rfl⟩

/-- Only recorders record. -/
theorem Leaf.keeps_events {l : Leaf} (h : l ≠ .record) :
    (l.deliver e).Moves (State.Keeps fun s => s.journal.events) := by
  refine moves_of_journal e l ?_ (fun hrecord => absurd hrecord h) fun _ _ _ => rfl
  rintro s t ⟨_, rfl⟩
  rfl

theorem Leaf.keeps_attributes (l : Leaf) : (l.deliver e).Moves (State.Keeps State.attributes) := by
  refine moves_of_journal e l ?_ (fun _ _ _ => rfl) fun _ _ _ => rfl
  rintro s t ⟨_, rfl⟩
  rfl

/-- Delivery to composed observers is delivery to their leaves, one after the other. -/
theorem Observer.deliver_eq_forM (o : Observer) : o.deliver e = forM o.leaves (·.deliver e) :=
  o.deliverBy_eq_forM Leaf.deliver e

/-- What every leaf does to the state is what the observer does. -/
theorem Observer.moves_of_leaves {R : State → State → Prop} [Std.Refl R] [IsTrans State R]
    {o : Observer} (h : ∀ l ∈ o.leaves, (l.deliver e).Moves R) : (o.deliver e).Moves R := by
  rw [deliver_eq_forM]
  exact Run.Moves.forM h

/-- **What is delivered is recorded as it is,** by whatever observers are composed. -/
theorem Observer.moves_deliver (o : Observer) : (o.deliver e).Moves (State.Tells e) :=
  moves_of_leaves e fun l _ => l.moves_deliver e

theorem Observer.keeps_attributes (o : Observer) :
    (o.deliver e).Moves (State.Keeps State.attributes) :=
  moves_of_leaves e fun l _ => l.keeps_attributes e

end Delivery

theorem Observer.exec_metrics (name : String) (e : Event) (s : State) :
    ((Observer.leaf (.metrics name)).deliver e).exec s =
      let r := (s.journal.metricsOf name).record e
      (r.2, { s with journal := s.journal.setMetrics name r.1 }) := rfl

/-! ### Events -/

namespace Compiler

variable {c : Compiler} {clauses : Value} {started : Binary64} {outcome : Except Failure Compiled}
variable {s t : State}

theorem onlyReads_circumstances (c : Compiler) (clauses : Value) :
    (c.circumstances clauses).OnlyReads := by
  unfold circumstances
  refine Run.OnlyReads.bind (Run.onlyReads_lift _) fun kind => ?_
  refine Run.OnlyReads.bind (Run.onlyReads_lift _) fun table => ?_
  refine Run.OnlyReads.bind (Run.onlyReads_lift _) fun metadata => ?_
  refine Run.OnlyReads.bind (Run.onlyReads_dictionary _) fun entries => ?_
  exact Run.onlyReads_pure _

/-- An event that is built tells whether the attempt succeeded, and the clock has been read once. -/
theorem event_ok {e : Event} (h : (c.event clauses started outcome).exec s = (.ok e, t)) :
    e.success = .bool outcome.isOk ∧ t.journal = s.journal ∧ t.clock = s.clock.read.2 := by
  have hquiet := ((onlyReads_circumstances c clauses).moves s).quiet
  unfold event at h
  obtain ⟨⟨kind, table, metadata⟩, u, hcirc, h⟩ := Run.exec_bind_eq_ok h
  rw [hcirc] at hquiet
  cases h
  refine ⟨?_, hquiet.journal, congrArg (fun clock => clock.read.2) hquiet.clock⟩
  cases outcome <;> rfl

/-- An event that cannot be built leaves no trace. -/
theorem event_error {f : Failure} (h : (c.event clauses started outcome).exec s = (.error f, t)) :
    State.Quiet s t := by
  have hquiet := ((onlyReads_circumstances c clauses).moves s).quiet
  unfold event at h
  rw [Run.exec_bind] at h
  rcases hcirc : (c.circumstances clauses).exec s with ⟨f' | ⟨kind, table, metadata⟩, u⟩
  · rw [hcirc] at h hquiet
    cases h
    exact hquiet
  · rw [hcirc] at h
    cases h

/-- One event is built of an outcome and, if that does not fail, delivered once.  The index before
the last is the failure of the one or the other, if one of them fails. -/
inductive Notified (c : Compiler) (o : Observer) (clauses : Value) (started : Binary64)
    (outcome : Except Failure Compiled) (s : State) : Option Failure → State → Prop where
  | notBuilt {f : Failure} {t : State}
      (built : (c.event clauses started outcome).exec s = (.error f, t)) :
      Notified c o clauses started outcome s (some f) t
  | notDelivered {e : Event} {f : Failure} {u t : State}
      (built : (c.event clauses started outcome).exec s = (.ok e, u))
      (delivered : (o.deliver e).exec u = (.error f, t)) :
      Notified c o clauses started outcome s (some f) t
  | delivered {e : Event} {u t : State}
      (built : (c.event clauses started outcome).exec s = (.ok e, u))
      (delivered : (o.deliver e).exec u = (.ok (), t)) :
      Notified c o clauses started outcome s none t

/-- What is left of an event in the state: whatever was recorded tells how the attempt ended, and
the clock was read once at most. -/
theorem Notified.tells {o : Observer} {second : Option Failure}
    (h : Notified c o clauses started outcome s second t) :
    (∃ recorded, t.journal.events = s.journal.events ++ recorded ∧
        ∀ r ∈ recorded, r.success = .bool outcome.isOk) ∧
      t.journal.calls = s.journal.calls ∧
      (t.clock = s.clock ∨ t.clock = s.clock.read.2) := by
  -- Copies differ from the event in their metadata alone, so they tell of the same success.
  have hdelivered {e : Event} {r : Except Failure Unit} {u t : State}
      (hb : (c.event clauses started outcome).exec s = (.ok e, u))
      (hd : (o.deliver e).exec u = (r, t)) :
      (∃ recorded, t.journal.events = s.journal.events ++ recorded ∧
          ∀ r ∈ recorded, r.success = .bool outcome.isOk) ∧
        t.journal.calls = s.journal.calls ∧
        (t.clock = s.clock ∨ t.clock = s.clock.read.2) := by
    obtain ⟨hsuccess, hjournal, hclock⟩ := event_ok hb
    obtain ⟨⟨recorded, hrecorded, hcopies⟩, hcalls, hsame⟩ := o.moves_deliver e u
    rw [hd] at hrecorded hcalls hsame
    refine ⟨⟨recorded, by rw [hrecorded, hjournal], fun r hr => ?_⟩, by rw [hcalls, hjournal],
      .inr (hsame.trans hclock)⟩
    have := congrArg Event.success (hcopies r hr)
    exact this.trans hsuccess
  cases h with
  | notBuilt hb =>
    have hquiet := event_error hb
    exact ⟨⟨[], by rw [hquiet.journal, List.append_nil], List.forall_mem_nil _⟩,
      by rw [hquiet.journal], .inl hquiet.clock⟩
  | notDelivered hb hd => exact hdelivered hb hd
  | delivered hb hd => exact hdelivered hb hd

theorem exists_notified (c : Compiler) (o : Observer) (clauses : Value) (started : Binary64)
    (outcome : Except Failure Compiled) (s : State) :
    ∃ second t, Notified c o clauses started outcome s second t ∧
      (c.event clauses started outcome >>= o.deliver).exec s =
        (match second with | none => .ok () | some f => .error f, t) := by
  rcases hb : (c.event clauses started outcome).exec s with ⟨f | e, u⟩
  · exact ⟨some f, u, .notBuilt hb, Run.exec_bind_error hb⟩
  · rw [Run.exec_bind_ok hb]
    rcases hd : (o.deliver e).exec u with ⟨f | _, t⟩
    · exact ⟨some f, t, .notDelivered hb hd, rfl⟩
    · exact ⟨none, t, .delivered hb hd, rfl⟩

/-! ### Compilations with and without an observer -/

/-- The same compiler without an observer. -/
def unobserved (c : Compiler) : Compiler := { c with observer := .ok none }

/-- Only a defaulting mapping is changed when its first item is read, and a sequence is none. -/
theorem afterReading_sequence (c : Compiler) (kind : SequenceKind) (i : Identity)
    (items : List Value) : c.afterReading (.sequence kind i items) = c := by
  have hmetadata :
      c.metadata.map (Clauses.afterFirstIn (.sequence kind i items)) = c.metadata := by
    cases c.metadata <;> rfl
  unfold afterReading
  rw [hmetadata]

theorem report_sequence {o : Observer} (ho : c.observer = .ok (some o)) (kind : SequenceKind)
    (i : Identity) (items : List Value) (started : Binary64)
    (outcome : Except Failure Compiled) :
    c.report (.sequence kind i items) started outcome =
      c.event (.sequence kind i items) started outcome >>= o.deliver := by
  unfold report tell
  rw [afterReading_sequence, ho]
  rfl

/-- Both compilations come from one attempt, after which one of them notifies the observer. -/
theorem compile_both {o : Observer} (ho : c.observer = .ok (some o)) (kind : SequenceKind)
    (i : Identity) (items : List Value) (s : State) :
    ∃ outcome second t u,
      c.unobserved.compile (.sequence kind i items) s = (settle outcome (.ok ()), t) ∧
      c.Notified o (.sequence kind i items) s.clock.read.1 outcome t second u ∧
      c.compile (.sequence kind i items) s =
        (settle outcome (match second with | none => .ok () | some f => .error f), u) := by
  rcases hattempt : (c.attempt (.sequence kind i items)).exec s.tick with ⟨outcome, t⟩
  obtain ⟨second, u, hnotified, hexec⟩ :=
    exists_notified c o (.sequence kind i items) s.clock.read.1 outcome t
  refine ⟨outcome, second, t, u, ?_, hnotified, ?_⟩
  · rw [compile_of_unobserved rfl]
    change (settle ((c.attempt _).exec s.tick).1 _, ((c.attempt _).exec s.tick).2) = _
    rw [hattempt]
  · rw [compile_eq, hattempt]
    dsimp only
    rw [report_sequence ho, hexec]

/-- **An observer changes neither what is compiled nor why it fails.**  Compared with the same
compilation without an observer, a failure stays the failure, and one of the event is kept beside
it; a query stays the query unless the event fails, whose failure is then the outcome.  Either way
one event at most is built, and after a query nothing is recorded that tells of a failure. -/
theorem compile_observed {o : Observer} (ho : c.observer = .ok (some o)) (kind : SequenceKind)
    (i : Identity) (items : List Value) (s : State) :
    let clauses := Value.sequence kind i items
    let plain := c.unobserved.compile clauses s
    let observed := c.compile clauses s
    (∀ e, plain.1 = .error e → ∃ second,
      c.Notified o clauses s.clock.read.1 (.error e.failure) plain.2 second observed.2 ∧
      e.context = none ∧ observed.1 = .error ⟨e.failure, second⟩) ∧
    ∀ q, plain.1 = .ok q → ∃ compiled second, compiled.query = q ∧
      c.Notified o clauses s.clock.read.1 (.ok compiled) plain.2 second observed.2 ∧
      observed.1 = (match second with | none => .ok q | some f => .error ⟨f, none⟩) ∧
      (observed.2.clock = plain.2.clock ∨ observed.2.clock = plain.2.clock.read.2) ∧
      ∃ recorded, observed.2.journal.events = plain.2.journal.events ++ recorded ∧
        ∀ r ∈ recorded, r.success = .bool true := by
  obtain ⟨outcome, second, t, u, hplain, hnotified, hobserved⟩ := compile_both ho kind i items s
  dsimp only
  rw [hplain, hobserved]
  -- Settling keeps the first failure, so the cases are those of the attempt.
  constructor
  · rintro e he
    cases outcome with
    | ok compiled => cases he
    | error f =>
      cases he
      refine ⟨second, hnotified, rfl, ?_⟩
      cases second <;> rfl
  · rintro q hq
    cases outcome with
    | error f => cases hq
    | ok compiled =>
      cases hq
      obtain ⟨hrecorded, -, hclock⟩ := hnotified.tells
      refine ⟨compiled, second, rfl, hnotified, ?_, hclock, hrecorded⟩
      cases second <;> rfl

/-- An observer that fails after a failed compilation does not hide why that failed. -/
theorem compile_observed_refused :
    let o : Observer := .compose [.leaf .record, .leaf (.refuse (.refused "down"))]
    let c := { Options.standard with observer := some o }.compiler
    let node : Value := .record .rule 0 [("table", .text "t"), ("values", .list [])]
    let s := State.initial ⟨[], none, ⟨⟨2026, 1, 1⟩, 0, 0, 0, 0⟩⟩
    ∃ second, (c.compile (.list [node]) s).1 = .error ⟨.noRows, second⟩ := by
  intro o c node s
  obtain ⟨second, -, -, h⟩ :=
    (compile_observed (c := c) (o := o) rfl .list 0 [node] s).1 ⟨.noRows, none⟩ rfl
  exact ⟨second, h⟩

end Compiler

end RowInsert
