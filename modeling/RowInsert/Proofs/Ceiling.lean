import RowInsert.Proofs.Kinds
import RowInsert.Proofs.Precedence
import RowInsert.Proofs.Progress

/-!
# The ceiling of a batch

* `Settings.Limits` are settings that were accepted with a whole number for their limit;
  `Settings.ofLimit_eq_ok_iff` says which numbers are.
* `Rows.progress_readBounded` : how far a stream of rows is read under such a limit.
* `Rows.exceeded_of_readBounded` : a batch is refused for its size only if it is walked and has a
  row too many.
* `Compiler.compile_bounded` : how far every stream is read, and when a batch is too large.

The proof: nothing after the reading of the rows touches a stream, except the dictionary of an
event's metadata, so what is taken of the rows by a compilation is what the reading takes, whichever
step fails later.

What this does not say: a text has a length and items too, but these are no rows.  It is refused for
what it is, however long it is.
-/

namespace RowInsert

/-! ### Limits that are whole numbers -/

namespace Value

/-- Whole numbers are compared as such, whatever their type. -/
theorem less_of_whole {v w : Value} {m n : Int} (hv : v.whole? = some m) (hw : w.whole? = some n) :
    v.less w = .ok (decide (m < n)) := by
  have hmagnitude {u : Value} {k : Int} (hu : u.whole? = some k) :
      u.magnitude? = some (.ofRat (k : Rat)) ∧ u.isDecimal = false := by
    cases u <;> simp_all [whole?, magnitude?, isDecimal]
  obtain ⟨hv', hdv⟩ := hmagnitude hv
  obtain ⟨hw', hdw⟩ := hmagnitude hw
  have hless : v.less w = lessNumber v w := by
    cases v with
    | int | bool | colour => simp only [less]
    | _ => cases hv
  simp only [hless, lessNumber, hv', hw', hdv, hdw, Magnitude.less_ofRat, Bool.or_self,
    Bool.false_and, Bool.false_eq_true, ↓reduceIte, Rat.intCast_lt_intCast]

theorem size?_of_length {v : Value} {n : Nat} (h : v.length = .ok n) : v.size?.isSome = true := by
  unfold length at h
  split at h
  · rfl
  · rfl
  · cases hsize : v.size? with
    | none =>
      rw [hsize] at h
      cases h
    | some m => rfl

end Value

namespace Settings

/-- The settings were accepted, and have this whole number for their limit. -/
structure Limits (st : Settings) (limit : Int) : Prop where
  whole : st.limit.whole? = some limit
  accepted : ofLimit st.limit = .ok st

theorem ofLimit_of_whole {v : Value} {limit : Int} (h : v.whole? = some limit) :
    ofLimit v =
      if limit < 1 then .error .limitTooSmall
      else if greatestLimit < limit then .error (.limitTooLarge greatestLimit)
      else .ok ⟨v⟩ := by
  have hsmall := Value.less_of_whole h (Value.whole?_int 1)
  have hlarge := Value.less_of_whole (Value.whole?_int greatestLimit) h
  unfold ofLimit
  rw [hsmall, hlarge]
  by_cases h1 : limit < 1
  · rw [if_pos h1, decide_eq_true h1]
    rfl
  rw [if_neg h1, decide_eq_false h1]
  by_cases h2 : (greatestLimit : Int) < limit
  · rw [if_pos h2, decide_eq_true h2]
    rfl
  · rw [if_neg h2, decide_eq_false h2]
    rfl

/-- The whole numbers from one to the greatest limit are accepted, and no others. -/
theorem ofLimit_eq_ok_iff {v : Value} {limit : Int} (h : v.whole? = some limit) :
    ofLimit v = .ok ⟨v⟩ ↔ 1 ≤ limit ∧ limit ≤ greatestLimit := by
  rw [ofLimit_of_whole h]
  split_ifs with hsmall hlarge
  · simp [Int.not_le.2 hsmall]
  · simp [Int.not_le.2 hlarge]
  · simp [Int.not_lt.1 hsmall, Int.not_lt.1 hlarge]

variable {st : Settings} {limit : Int} (h : st.Limits limit)
include h

theorem Limits.bounds : 1 ≤ limit ∧ limit ≤ greatestLimit :=
  (ofLimit_eq_ok_iff h.whole).1 h.accepted

/-- One item more can be asked for. -/
theorem Limits.askable : ¬ (limit + 1 < 0 ∨ Value.greatestIndex < limit + 1) := by
  have hbounds := h.bounds
  simp only [Value.greatestIndex, greatestLimit] at *
  omega

end Settings

/-! ### Reading up to the limit -/

theorem Run.readUpTo_error {n : Nat} {v : Value} (hv : v.isIterable = true) {s : State}
    {f : Failure} (h : ((readUpTo n v).exec s).1 = .error f) :
    ∃ message, f = .streamFailed message := by
  by_cases hs : ∃ i items failure, v = .stream i items failure
  · obtain ⟨i, items, failure, rfl⟩ := hs
    rw [readUpTo, exec_readStream_some] at h
    dsimp only at h
    split_ifs at h
    rw [exec_finish] at h
    cases hraised : (Streams.finish _ i failure).1 with
    | none =>
      rw [hraised] at h
      cases h
    | some message =>
      rw [hraised] at h
      cases h
      exact ⟨message, rfl⟩
  · rw [readUpTo_eq_pure hv hs n s.streams] at h
    cases h

namespace Rows

variable {st : Settings} {limit : Int} {values : Value} {s : State} {f : Failure}

section Limits

variable (h : st.Limits limit)
include h

/-- A stream that has no row too many is read to its end, which may fail. -/
theorem readBounded_of_failing {i : Identity} {items : List Value} {message : String}
    (hle : (s.streams.rest i items).length ≤ limit)
    (hended : (s.streams.progress i).ended = false) :
    ((readBounded (.ok st) (.stream i items (some message))).exec s).1 =
      .error (.streamFailed message) := by
  have hw : isWalked (.stream i items (some message)) = true := rfl
  have hshort : (s.streams.rest i items).length < (limit + 1).toNat := by omega
  rw [exec_readBounded_of_walked h.whole hw h.askable,
    Run.fst_exec_bind fun rows => Run.yields_lift _, Run.readUpTo, Run.exec_readStream_some]
  dsimp only
  rw [if_pos hshort, Run.exec_finish]
  simp [Streams.finish, hended]
  rfl

/-- A batch is refused for its size only if it is walked and has a row too many. -/
theorem exceeded_of_readBounded (herror : ((readBounded (.ok st) values).exec s).1 = .error f)
    (hkind : f.kind = .limitExceeded) :
    isWalked values = true ∧ limit < (all s.streams values).length := by
  have hbounds := h.bounds
  -- Rows within the limit are refused only if there are none.
  have hwithin {rows : List Value} (hle : (rows.length : Int) ≤ limit) :
      bounded (.ok st) values rows ≠ .error f := by
    intro hbounded
    by_cases hne : rows = []
    · subst hne
      rw [bounded_nil] at hbounded
      cases hbounded
      cases hkind
    · rw [bounded_of_whole h.whole hne, if_neg (Int.not_lt.2 hle)] at hbounded
      cases hbounded
  by_cases hm : values.isMapping = true
  · unfold readBounded at herror
    rw [read_of_mapping hm, pure_bind, Run.exec_lift] at herror
    have hone : (([values] : List Value).length : Int) ≤ limit := hbounds.1
    exact absurd herror (hwithin hone)
  cases hw : isWalked values with
  | false =>
    rw [readBounded_of_unfit hm hw] at herror
    cases herror
    cases hkind
  | true =>
    refine ⟨rfl, ?_⟩
    have hiterable := (isWalked_iff.1 hw).2.2
    rw [exec_readBounded_of_walked h.whole hw h.askable,
      Run.fst_exec_bind fun rows => Run.yields_lift _] at herror
    rcases bind_error herror with hread | ⟨rows, hread, hbounded⟩
    · obtain ⟨message, rfl⟩ := Run.readUpTo_error hiterable hread
      cases hkind
    · have hrows := Run.eq_of_readUpTo hiterable hread
      by_contra hle
      rw [all_of_walked hw] at hle
      refine hwithin ?_ hbounded
      rw [hrows, List.length_take]
      omega

/-- How far a stream of rows is read: up to one row more than the limit, and to its end if it has no
row too many. -/
theorem progress_readBounded (i : Identity) (items : List Value) (failure : Option String)
    (s : State) :
    ((readBounded (.ok st) (.stream i items failure)).exec s).2.streams.progress i =
      { taken := s.streams.taken i + min (s.streams.rest i items).length (limit + 1).toNat
        ended := (s.streams.progress i).ended ||
          (decide ((s.streams.rest i items).length ≤ limit) && failure.isSome) } := by
  have hbounds := h.bounds
  have hw : isWalked (.stream i items failure) = true := rfl
  rw [exec_readBounded_of_walked h.whole hw h.askable,
    Run.keeps_exec_bind (g := State.streams) fun rows => Run.moves_lift _, Run.readUpTo,
    Run.streams_readStream]
  dsimp only
  rw [List.length_take, min_comm]
  split_ifs with hshort
  · have hle : ((s.streams.rest i items).length : Int) ≤ limit := by omega
    simp [hle, Streams.taken]
  · have hlt : ¬ ((s.streams.rest i items).length : Int) ≤ limit := by omega
    simp [hlt, Streams.taken]

end Limits

end Rows

/-! ### Compilations -/

namespace Compiler

variable {c : Compiler} {clauses table values : Value} {s : State} {f : Failure}

/-- The failure was raised by a collaborator or, after an attempt that did not fail, while it was
reported. -/
inductive OthersRaise (c : Compiler) (clauses : Value) (s : State) (f : Failure) : Prop where
  | quoter {v : Value} (h : c.quoter v = .error f) : OthersRaise c clauses s f
  | validator {q : Query} (h : c.validator q = .error f) : OthersRaise c clauses s f
  | report {compiled : Compiled} {t : State}
      (attempted : (c.attempt clauses).exec s.tick = (.ok compiled, t))
      (reported : ((c.report clauses s.clock.read.1 (.ok compiled)).exec t).1 = .error f) :
      OthersRaise c clauses s f

section Rule

variable (hc : c.handlers NodeClass.rule.name = some .rule)
variable (hclause : Clauses.HoldRule clauses table values)
include hc hclause

/-- Rows that cannot be read are the end of a compilation. -/
theorem compile_of_unread (h : ((Rows.readBounded c.settings values).exec s.tick).1 = .error f) :
    ∃ second, (c.compile clauses s).1 = .error ⟨f, second⟩ := by
  apply compile_of_attempt_error
  rw [attempt_rule hc hclause]
  exact ruleOutcome_of_unread h

/-- Of the rows of a clause, no more is read than is read of them at first. -/
theorem progress_compile_rule {i : Identity} (h : ¬ c.EventReads clauses i) :
    (c.compile clauses s).2.streams.progress i =
      ((Rows.readBounded c.settings values).exec s.tick).2.streams.progress i := by
  rw [compile_eq, ← streams_attempt_rule hc hclause]
  exact keeps_report h s.clock.read.1 ((c.attempt clauses).exec s.tick).1
    ((c.attempt clauses).exec s.tick).2

theorem eq_of_walks {v : Value} (h : c.Walks clauses v) : v = values := by
  obtain ⟨-, node, hfirst, htype, -, hvalues⟩ := hclause
  cases h with
  | raw size first handler bindings =>
    obtain rfl := Except.ok.inj (hfirst.symm.trans first)
    rw [htype, hc] at handler
    cases handler
  | rule size first handler walked =>
    obtain rfl := Except.ok.inj (hfirst.symm.trans first)
    rw [Value.attribute_ok hvalues] at walked
    exact (Except.ok.inj walked).symm

/-- A limit is exceeded only by rows above the ceiling, or else in a collaborator or a report. -/
theorem exceeded_of_compile {st : Settings} {limit : Int} (hsettings : c.settings = .ok st)
    (hlimits : st.Limits limit) {e : Raised} (h : (c.compile clauses s).1 = .error e)
    (hkind : e.failure.kind = .limitExceeded) :
    (Rows.isWalked values = true ∧ limit < (Rows.all s.streams values).length) ∨
      c.OthersRaise clauses s e.failure := by
  rcases attempt_of_compile_error h with hattempt | ⟨compiled, t, hattempt, hreport⟩
  swap
  · exact .inr (.report hattempt hreport)
  rw [attempt_rule hc hclause, ruleOutcome, hsettings] at hattempt
  rcases bind_error hattempt with hinserted | ⟨compiled, -, hvalidated⟩
  · rcases bind_error hinserted with hread | ⟨rows, -, hinsert⟩
    · exact .inl (Rows.exceeded_of_readBounded (s := s.tick) hlimits hread hkind)
    · rcases insertInto_error hinsert with hother | ⟨v, hquoter⟩
      · rw [hkind] at hother
        exact absurd hother (by decide)
      · exact .inr (.quoter hquoter)
  · unfold validated at hvalidated
    split at hvalidated
    · cases hvalidated
    · rcases bind_error hvalidated with hvalidator | ⟨_, -, hvalidated⟩
      · exact .inr (.validator hvalidator)
      · cases hvalidated

end Rule

/-- The bindings of a raw clause are read completely. -/
theorem progress_compile_raw {node : Value} {i : Identity} {items : List Value}
    {failure : Option String} (hsize : Clauses.size clauses = .ok 1)
    (hfirst : Clauses.first clauses = .ok node) (hc : c.handlers node.typeName = some .raw)
    (hbindings : node.attribute "bindings" = .ok (.stream i items failure))
    (h : ¬ c.EventReads clauses i) :
    (c.compile clauses s).2.streams.progress i =
      { taken := s.streams.taken i + (s.streams.rest i items).length
        ended := (s.streams.progress i).ended || failure.isSome } := by
  have hattempt : ((c.attempt clauses).exec s.tick).2.streams.progress i =
      { taken := s.streams.taken i + (s.streams.rest i items).length
        ended := (s.streams.progress i).ended || failure.isSome } := by
    have hread : (rawParams (.stream i items failure)).exec s.tick =
        (Run.readStream none i items failure).exec s.tick := rfl
    rw [streams_attempt_raw hsize hfirst hc hbindings, hread, Run.streams_readStream]
    simp [Streams.taken, State.tick]
  rw [compile_eq, ← hattempt]
  exact keeps_report h s.clock.read.1 ((c.attempt clauses).exec s.tick).1
    ((c.attempt clauses).exec s.tick).2

/-- **No more is read of anything than it takes,** and a batch is too large just if it is walked
and has more rows than the limit.  Of a stream of rows one more than the limit is taken at most,
whatever fails later, so that a failure at its end is raised only if there are no rows too many.
The bindings of a raw clause are read completely, and no other stream is read at all, except by the
dictionary of an event's metadata. -/
theorem compile_bounded {c : Compiler} {st : Settings} {limit : Int}
    (hsettings : c.settings = .ok st) (hlimits : st.Limits limit) (clauses : Value) (s : State) :
    let outcome := (c.compile clauses s).1
    let before := s.streams
    let after := (c.compile clauses s).2.streams
    (∀ table values, c.handlers NodeClass.rule.name = some .rule →
      Clauses.HoldRule clauses table values →
      let rows := Rows.all before values
      (∀ i items failure, values = .stream i items failure →
        (¬ c.EventReads clauses i →
          after.taken i = before.taken i + min rows.length (limit + 1).toNat ∧
          (limit < rows.length → (after.progress i).ended = (before.progress i).ended)) ∧
        (limit < rows.length → ∃ second, outcome =
          .error ⟨.batchTooLarge (limit + 1).toNat st.limit st.limit.wholeText, second⟩) ∧
        ∀ message, failure = some message → (before.progress i).ended = false →
          rows.length ≤ limit → ∃ second, outcome = .error ⟨.streamFailed message, second⟩) ∧
      (Rows.isWalked values = true → values.length = .ok rows.length → limit < rows.length →
        ∃ second, outcome =
          .error ⟨.batchTooLarge rows.length st.limit st.limit.wholeText, second⟩) ∧
      (values.isMapping = true → rows = [values] ∧ Rows.isWalked values = false) ∧
      ∀ e, outcome = .error e → e.failure.kind = .limitExceeded →
        (Rows.isWalked values = true ∧ limit < rows.length) ∨
          c.OthersRaise clauses s e.failure) ∧
    (∀ node i items failure, Clauses.size clauses = .ok 1 → Clauses.first clauses = .ok node →
      c.handlers node.typeName = some .raw →
      node.attribute "bindings" = .ok (.stream i items failure) → ¬ c.EventReads clauses i →
      after.progress i = { taken := before.taken i + (before.rest i items).length
                           ended := (before.progress i).ended || failure.isSome }) ∧
    (∀ j, ¬ c.EventReads clauses j → (∀ v, c.Walks clauses v → ¬ v.IsStream j) →
      after.progress j = before.progress j) ∧
    (∀ n, Clauses.size clauses = .ok n → n ≠ 1 → ∀ v, ¬ c.Walks clauses v) ∧
    ∀ node, Clauses.first clauses = .ok node → c.handlers node.typeName = none →
      ∀ v, ¬ c.Walks clauses v := by
  intro outcome before after
  have hbounds := hlimits.bounds
  have hnonneg : 0 ≤ limit := by omega
  refine ⟨fun table values hc hclause => ?_, fun node i items failure hsize hfirst hc hb h => ?_,
    fun j hevent hwalks => keeps_compile hevent hwalks s, fun n hsize hn v hwalks => ?_,
    fun node hfirst hnone v hwalks => ?_⟩
  · intro rows
    -- A failure to read the rows is the failure of the compilation.
    have hunread {f : Failure}
        (h : ((Rows.readBounded (.ok st) values).exec s.tick).1 = .error f) :
        ∃ second, outcome = .error ⟨f, second⟩ :=
      compile_of_unread hc hclause (by rw [hsettings]; exact h)
    refine ⟨?_, fun hw hlength hmany => ?_, fun hm => ⟨if_pos hm, ?_⟩,
      fun e he hkind => exceeded_of_compile hc hclause hsettings hlimits he hkind⟩
    · rintro i items failure rfl
      refine ⟨fun hevent => ?_, fun hmany => ?_, fun message hfailure hended hle => ?_⟩
      · have hprogress := progress_compile_rule (s := s) hc hclause hevent
        rw [hsettings, Rows.progress_readBounded hlimits] at hprogress
        refine ⟨congrArg Progress.taken hprogress, fun hmany => ?_⟩
        have hended : (after.progress i).ended = ((before.progress i).ended ||
            (decide (rows.length ≤ limit) && failure.isSome)) := congrArg Progress.ended hprogress
        rw [hended, decide_eq_false (Int.not_le.2 hmany), Bool.false_and, Bool.or_false]
      · refine hunread (Rows.readBounded_of_exceeded (s := s.tick) hlimits.whole rfl hnonneg
          hlimits.askable hmany ?_)
        have hlength : (rows.take (limit + 1).toNat).length = (limit + 1).toNat := by
          rw [List.length_take]
          omega
        exact congrArg Except.ok hlength
      · subst hfailure
        exact hunread (Rows.readBounded_of_failing (s := s.tick) hlimits hle hended)
    · refine hunread (Rows.readBounded_of_exceeded (s := s.tick) hlimits.whole hw hnonneg
        hlimits.askable hmany ?_)
      rw [Rows.reportedCount, if_pos (Value.size?_of_length hlength)]
      exact hlength
    · simp [Rows.isWalked, hm]
  · exact progress_compile_raw hsize hfirst hc hb h
  · cases hwalks with
    | raw hone | rule hone =>
      exact hn (Except.ok.inj (hsize.symm.trans hone))
  · cases hwalks with
    | raw _ hfirst' hhandler | rule _ hfirst' hhandler =>
      obtain rfl := Except.ok.inj (hfirst.symm.trans hfirst')
      rw [hnone] at hhandler
      cases hhandler

/-- Two of three rows are taken for a limit of one, the failure behind them is not raised, and the
stream inside a row is not read. -/
theorem compile_bounded_stream :
    let row : Value := .mapping .plain 0 [(.text "a", .stream 8 [.int 1] none)]
    let values : Value := .stream 7 [row, row, row] (some "late")
    let clauses : Value := .list [.ruleClause 0 (.text "t") values]
    let c := { Options.standard with settings := ⟨.int 1⟩ }.compiler
    let s := State.initial ⟨[], none, ⟨⟨2026, 1, 1⟩, 0, 0, 0, 0⟩⟩
    (c.compile clauses s).2.streams.taken 7 = 2 ∧
      (∃ second, (c.compile clauses s).1 =
        .error ⟨.batchTooLarge 2 (.int 1) "1", second⟩) ∧
      (c.compile clauses s).2.streams.progress 8 = ⟨0, false⟩ := by
  intro row values clauses c s
  have hlimits : (⟨.int 1⟩ : Settings).Limits 1 :=
    ⟨rfl, (Settings.ofLimit_eq_ok_iff rfl).2 (by decide)⟩
  have hclause : Clauses.HoldRule clauses (.text "t") values :=
    Clauses.holdRule_sequence (.inl rfl) 0 0 (.text "t") values
  have hunobserved (j : Identity) : ¬ c.EventReads clauses j := by
    rintro ⟨o, -, ho, -⟩
    cases ho
  obtain ⟨hrule, -, hothers, -⟩ := compile_bounded (c := c) rfl hlimits clauses s
  obtain ⟨hstream, -⟩ := hrule (.text "t") values rfl hclause
  obtain ⟨htaken, hexceeded, -⟩ := hstream 7 [row, row, row] (some "late") rfl
  have hthree : (Rows.all s.streams values).length = 3 := rfl
  refine ⟨?_, hexceeded (by rw [hthree]; decide), ?_⟩
  · rw [(htaken (hunobserved 7)).1, hthree]
    rfl
  · refine hothers 8 (hunobserved 8) fun v hwalks => ?_
    rw [eq_of_walks rfl hclause hwalks]
    exact Value.not_isStream (by decide) _ _

/-- A text has a length and can be walked, but is refused for what it is, however long.  A stream
that is told of in the metadata as well is read to its end by the event. -/
theorem compile_bounded_not_all :
    let s := State.initial ⟨[], none, ⟨⟨2026, 1, 1⟩, 0, 0, 0, 0⟩⟩
    let word : Value := .text "abc"
    let clauses : Value := .list [.ruleClause 0 (.text "t") word]
    let c := { Options.standard with settings := ⟨.int 2⟩ }.compiler
    let pair : Value := .tuple [.text "k", .int 1]
    let pairs : Value := .stream 7 [pair, pair, pair] none
    let clauses' : Value := .list [.ruleClause 0 (.text "t") pairs]
    let c' := { Options.standard with
      settings := ⟨.int 1⟩, observer := some (.leaf .record), metadata := pairs }.compiler
    (word.isMapping = false ∧ word.isIterable = true ∧ word.length = .ok 3 ∧ (2 : Int) < 3 ∧
      (c.compile clauses s).1 = .error ⟨.valuesNotRows "str", none⟩ ∧
      (Failure.valuesNotRows "str").kind ≠ .limitExceeded) ∧
    min (Rows.all s.streams pairs).length 2 = 2 ∧
      (c'.compile clauses' s).2.streams.taken 7 = 3 :=
  ⟨⟨rfl, rfl, rfl, by decide, rfl, by decide⟩, rfl, rfl⟩

end Compiler

end RowInsert
