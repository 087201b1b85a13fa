import RowInsert.Proofs.Attempt
import RowInsert.Proofs.Kinds

/-!
# Where failures come from

A collaborator may raise anything, failures of classes from elsewhere included.

* `FailsOnly P` says of a result that whatever failure it is satisfies `P`, and `Run.FailsOnly P`
  says so of a computation from every state.  Sequences keep both.
* `Compiler.Raises` are the failures that a compiler is handed: by its quoter, by its validator, or
  in the place of its settings.
* `Compiler.attempt_failsOnly` : these are the only foreign failures of an attempt, whatever clauses
  it is made on.
-/

namespace RowInsert

/-- Whether errors of the kind are of a class from elsewhere. -/
def ErrorKind.isForeign : ErrorKind → Bool
  | .foreign _ => true
  | _ => false

/-- A failure that is not of a class from elsewhere. -/
def Failure.IsNative (f : Failure) : Prop := f.kind.isForeign = false

theorem Failure.IsNative.of_kind {f : Failure} {k : ErrorKind} (h : f.kind = k)
    (hk : k.isForeign = false) : f.IsNative := by
  rw [IsNative, h]
  exact hk

/-! ### Results that fail in one way only -/

/-- Whatever failure the result is satisfies `P`. -/
def FailsOnly {α : Type} (P : Failure → Prop) (x : Except Failure α) : Prop :=
  ∀ f, x = .error f → P f

section FailsOnly

variable {α β : Type} {P : Failure → Prop}

theorem failsOnly_ok (a : α) : FailsOnly P (.ok a) := fun _ h => by cases h

theorem failsOnly_error {f : Failure} (h : P f) : FailsOnly P (.error f : Except Failure α) := by
  rintro g ⟨⟩
  exact h

theorem FailsOnly.mono {Q : Failure → Prop} {x : Except Failure α} (h : FailsOnly P x)
    (hPQ : ∀ f, P f → Q f) : FailsOnly Q x := fun f hf => hPQ f (h f hf)

theorem FailsOnly.bind {x : Except Failure α} {f : α → Except Failure β} (hx : FailsOnly P x)
    (hf : ∀ a, FailsOnly P (f a)) : FailsOnly P (x >>= f) := by
  intro e he
  rcases bind_error he with h | ⟨a, -, h⟩
  · exact hx e h
  · exact hf a e h

end FailsOnly

namespace Run

variable {α β : Type} {P : Failure → Prop}

/-- From every state, whatever the computation fails with satisfies `P`. -/
def FailsOnly (P : Failure → Prop) (x : Run α) : Prop := ∀ s, RowInsert.FailsOnly P (x.exec s).1

theorem failsOnly_pure (a : α) : (pure a : Run α).FailsOnly P := fun _ => failsOnly_ok a

theorem failsOnly_throw {f : Failure} (h : P f) : (throw f : Run α).FailsOnly P :=
  fun _ => failsOnly_error h

theorem failsOnly_lift {x : Except Failure α} (h : RowInsert.FailsOnly P x) :
    (lift x).FailsOnly P := fun _ => h

theorem failsOnly_require (x : Option α) {f : Failure} (h : P f) : (require x f).FailsOnly P := by
  cases x with
  | none => exact failsOnly_throw h
  | some a => exact failsOnly_pure a

theorem FailsOnly.mono {Q : Failure → Prop} {x : Run α} (h : x.FailsOnly P)
    (hPQ : ∀ f, P f → Q f) : x.FailsOnly Q := fun s => (h s).mono hPQ

theorem FailsOnly.bind {x : Run α} {f : α → Run β} (hx : x.FailsOnly P)
    (hf : ∀ a, (f a).FailsOnly P) : (x >>= f).FailsOnly P := by
  intro s
  have h := hx s
  rw [exec_bind]
  rcases hr : x.exec s with ⟨e | a, t⟩
  · rw [hr] at h
    exact failsOnly_error (h e rfl)
  · exact hf a t

theorem FailsOnly.mapM {f : α → Run β} (h : ∀ a, (f a).FailsOnly P) (l : List α) :
    (l.mapM f).FailsOnly P := by
  induction l with
  | nil =>
    rw [List.mapM_nil]
    exact failsOnly_pure []
  | cons a l ih =>
    rw [List.mapM_cons]
    refine FailsOnly.bind (h a) fun b => ?_
    refine FailsOnly.bind ih fun bs => ?_
    exact failsOnly_pure (b :: bs)

section Streams

variable (hends : ∀ message, P (.streamFailed message))
include hends

theorem failsOnly_finish (i : Identity) (failure : Option String) :
    (finish i failure).FailsOnly P := by
  intro s
  rw [exec_finish]
  cases (s.streams.finish i failure).1 with
  | none => exact failsOnly_ok ()
  | some message => exact failsOnly_error (hends message)

theorem failsOnly_readStream (limit : Option Nat) (i : Identity) (items : List Value)
    (failure : Option String) : (readStream limit i items failure).FailsOnly P := by
  unfold readStream
  refine FailsOnly.bind (fun s => failsOnly_ok s) fun s => ?_
  refine FailsOnly.bind (fun _ => failsOnly_ok ()) fun _ => ?_
  cases limit with
  | none => exact FailsOnly.bind (failsOnly_finish hends i failure) fun _ => failsOnly_pure _
  | some n =>
    dsimp only
    split
    · exact FailsOnly.bind (failsOnly_finish hends i failure) fun _ => failsOnly_pure _
    · exact failsOnly_pure _

end Streams

theorem failsOnly_readUpTo (limit : Nat) (v : Value) :
    (readUpTo limit v).FailsOnly Failure.IsNative := by
  unfold readUpTo
  split
  · exact failsOnly_readStream (fun _ => rfl) (some limit) _ _ _
  · exact failsOnly_require _ rfl

theorem failsOnly_readAll (v : Value) : (readAll v).FailsOnly Failure.IsNative := by
  unfold readAll
  split
  · exact failsOnly_readStream (fun _ => rfl) none _ _ _
  · exact failsOnly_require _ rfl

end Run

/-! ### Values -/

namespace Value

theorem failsOnly_length (v : Value) : FailsOnly Failure.IsNative v.length := by
  unfold length
  split
  case h_1 claimed _ _ =>
    split_ifs
    · exact failsOnly_error rfl
    · exact failsOnly_error rfl
    · exact failsOnly_ok _
  case h_2 r =>
    split_ifs
    · exact failsOnly_error rfl
    · exact failsOnly_ok _
  case h_3 =>
    split
    · exact failsOnly_ok _
    · exact failsOnly_error rfl

theorem failsOnly_checkRoom (v : Value) : FailsOnly Failure.IsNative v.checkRoom := by
  have hlength : FailsOnly Failure.IsNative
      (v.length >>= fun n => if beyondRoom ≤ n then throw .noRoom else pure ()) := by
    refine FailsOnly.bind v.failsOnly_length fun n => ?_
    split
    · exact failsOnly_error rfl
    · exact failsOnly_ok ()
  unfold checkRoom
  split
  · exact hlength
  · exact hlength
  · exact failsOnly_ok ()

theorem failsOnly_plain (v : Value) : FailsOnly Failure.IsNative v.plain :=
  fun _ h => .of_kind (kind_of_plain h) rfl

theorem failsOnly_attribute (v : Value) (name : String) :
    FailsOnly Failure.IsNative (v.attribute name) := by
  unfold Value.attribute
  split
  · exact failsOnly_ok _
  · exact failsOnly_error rfl

end Value

theorem Identifier.failsOnly_check (s : String) : FailsOnly Failure.IsNative (check s) := by
  unfold check
  split_ifs
  · exact failsOnly_error rfl
  · exact failsOnly_error rfl
  · exact failsOnly_ok ()

namespace Delimiters

variable (d : Delimiters)

theorem failsOnly_checkClosing : FailsOnly Failure.IsNative d.checkClosing := by
  unfold checkClosing
  split_ifs
  · exact failsOnly_error rfl
  · exact failsOnly_error rfl
  · exact failsOnly_ok ()
  · exact failsOnly_error rfl

theorem failsOnly_closingText : FailsOnly Failure.IsNative d.closingText := by
  unfold closingText
  split
  · exact failsOnly_ok _
  · exact FailsOnly.bind d.failsOnly_checkClosing fun _ => failsOnly_error rfl

/-- A quoter between marks raises nothing foreign. -/
theorem failsOnly_quote (identifier : Value) : FailsOnly Failure.IsNative (d.quote identifier) := by
  unfold quote
  split
  · exact failsOnly_error rfl
  · refine FailsOnly.bind (Identifier.failsOnly_check _) fun _ => ?_
    refine FailsOnly.bind d.failsOnly_closingText fun closing => ?_
    exact FailsOnly.bind d.opening.failsOnly_plain fun opening => failsOnly_ok _

end Delimiters

namespace AllowedTypes

variable (a : AllowedTypes)

theorem failsOnly_checkFrom (position : Nat) (params : List Value) :
    FailsOnly Failure.IsNative (a.checkFrom position params) := by
  induction params generalizing position with
  | nil => exact failsOnly_ok ()
  | cons v rest ih =>
    unfold checkFrom
    split
    · exact ih (position + 1)
    · exact failsOnly_error rfl

/-- A validator of types raises nothing foreign. -/
theorem failsOnly_validate (q : Query) : FailsOnly Failure.IsNative (a.validate q) :=
  FailsOnly.bind (a.failsOnly_checkFrom 0 q.params) fun _ => failsOnly_ok q

end AllowedTypes

theorem Value.failsOnly_call (v argument : Value) :
    FailsOnly Failure.IsNative (v.call argument) := by
  unfold call
  split
  · exact Delimiters.failsOnly_quote _ argument
  · exact failsOnly_error rfl

namespace Clauses

theorem failsOnly_supplied (kind : MappingKind) : FailsOnly Failure.IsNative (supplied kind) := by
  unfold supplied
  split
  · exact failsOnly_ok _
  · exact failsOnly_error rfl
  · exact failsOnly_error rfl
  · exact failsOnly_error rfl

theorem failsOnly_first (clauses : Value) : FailsOnly Failure.IsNative (first clauses) := by
  unfold first
  split
  · exact failsOnly_error rfl
  · exact failsOnly_error rfl
  · exact failsOnly_error rfl
  · split
    · exact failsOnly_ok _
    · exact failsOnly_supplied _
  · split
    · exact failsOnly_ok _
    · exact failsOnly_error rfl

end Clauses

theorem failsOnly_dispatch {α : Type} (visitor : String) (methods : String → Option α)
    (node : Value) : FailsOnly Failure.IsNative (dispatch visitor methods node) := by
  unfold dispatch
  split
  · exact failsOnly_ok _
  · exact failsOnly_error rfl

/-! ### Rows -/

namespace Settings

theorem isNative_notReadUpTo (limit : Value) : (notReadUpTo limit).IsNative := by
  unfold notReadUpTo
  split
  case h_3 => split_ifs <;> rfl
  all_goals rfl

theorem failsOnly_itemsToRead (s : Settings) : FailsOnly Failure.IsNative s.itemsToRead := by
  unfold itemsToRead
  split
  · split_ifs
    · exact failsOnly_error rfl
    · exact failsOnly_ok _
  · exact failsOnly_error (isNative_notReadUpTo s.limit)

theorem isNative_notComparedWith (limit : Value) : (notComparedWith limit).IsNative := by
  unfold notComparedWith
  split <;> rfl

theorem failsOnly_exceededBy (s : Settings) (rows : Nat) :
    FailsOnly Failure.IsNative (s.exceededBy rows) := by
  unfold exceededBy
  split
  · exact failsOnly_ok _
  · split_ifs
    · exact failsOnly_error rfl
    · exact failsOnly_ok _
  · exact failsOnly_error (isNative_notComparedWith s.limit)

end Settings

namespace Rows

theorem failsOnly_reportedCount (values : Value) (rows : List Value) :
    FailsOnly Failure.IsNative (reportedCount values rows) := by
  unfold reportedCount
  split
  · exact values.failsOnly_length
  · exact failsOnly_ok _

/-- Reading the rows of a value fails natively, or for want of settings. -/
theorem failsOnly_readBounded (settings : Except Failure Settings) (values : Value) :
    (readBounded settings values).FailsOnly fun f => f.IsNative ∨ settings = .error f := by
  have hsettings : FailsOnly (fun f => f.IsNative ∨ settings = .error f) settings :=
    fun _ h => .inr h
  unfold readBounded
  refine Run.FailsOnly.bind ?_ fun rows => Run.failsOnly_lift ?_
  · unfold read
    split
    · exact Run.failsOnly_pure _
    · split
      · exact Run.failsOnly_throw (.inl rfl)
      · refine Run.FailsOnly.bind (Run.failsOnly_lift ?_) fun n => ?_
        · exact hsettings.bind fun s => s.failsOnly_itemsToRead.mono fun _ => .inl
        · exact (Run.failsOnly_readUpTo n values).mono fun _ => .inl
  · unfold bounded
    split
    · exact failsOnly_error (.inl rfl)
    · refine hsettings.bind fun s => ?_
      refine FailsOnly.bind ((s.failsOnly_exceededBy _).mono fun _ => .inl) fun exceeded => ?_
      split
      · refine FailsOnly.mono (P := Failure.IsNative) ?_ fun _ => .inl
        refine FailsOnly.bind (failsOnly_reportedCount values rows) fun count => ?_
        exact FailsOnly.bind s.limit.failsOnly_plain fun shown => failsOnly_error rfl
      · exact failsOnly_ok _

end Rows

/-! ### Columns and statements -/

theorem Columns.failsOnly_ofRows (rows : List Value) :
    FailsOnly Failure.IsNative (ofRows rows) := by
  intro f h
  rcases kind_of_ofRows h with h | h
  · exact .of_kind h rfl
  · exact .of_kind h rfl

theorem Statement.failsOnly_ofValues (table : Value) (columns : List Value) (rows : Nat) :
    FailsOnly Failure.IsNative (ofValues table columns rows) := by
  refine FailsOnly.bind table.failsOnly_plain fun tableText => ?_
  refine FailsOnly.bind ?_ fun texts => failsOnly_ok _
  exact fun _ h => .of_kind (kind_of_textsFrom h) rfl

/-! ### Attempts -/

namespace Compiler

/-- The failures that a compiler is handed: what its quoter and its validator raise, and what stands
in the place of settings that are missing. -/
inductive Raises (c : Compiler) (f : Failure) : Prop where
  | quoter (identifier : Value) (h : c.quoter identifier = .error f)
  | validator (q : Query) (h : c.validator q = .error f)
  | settings (h : c.settings = .error f)

/-- A failure that is native, or that the compiler was handed. -/
def FailsWith (c : Compiler) (f : Failure) : Prop := f.IsNative ∨ c.Raises f

variable (c : Compiler)

theorem failsOnly_native {α : Type} {x : Except Failure α} (h : FailsOnly Failure.IsNative x) :
    (Run.lift x).FailsOnly c.FailsWith := Run.failsOnly_lift (h.mono fun _ => .inl)

theorem failsOnly_quote (v : Value) : (c.quote v).FailsOnly c.FailsWith := by
  unfold quote
  refine Run.FailsOnly.bind (fun _ => failsOnly_ok ()) fun _ => ?_
  exact Run.failsOnly_lift fun _ h => .inr (.quoter v h)

theorem failsOnly_quoteNames (node : Value) (columns : List Column) :
    (c.quoteNames node columns).FailsOnly c.FailsWith := by
  unfold quoteNames
  refine Run.FailsOnly.bind (c.failsOnly_native (node.failsOnly_attribute _)) fun table => ?_
  refine Run.FailsOnly.bind (c.failsOnly_quote table) fun quotedTable => ?_
  refine Run.FailsOnly.bind ?_ fun quotedColumns => Run.failsOnly_pure _
  exact Run.FailsOnly.mapM (fun column : Column => c.failsOnly_quote column.toValue) columns

theorem failsOnly_compileRaw (node : Value) : (compileRaw node).FailsOnly c.FailsWith := by
  unfold compileRaw
  refine Run.FailsOnly.bind (c.failsOnly_native (node.failsOnly_attribute _)) fun bindings => ?_
  refine Run.FailsOnly.bind ?_ fun params => ?_
  · unfold rawParams
    split
    · exact Run.failsOnly_pure _
    · split
      · exact Run.failsOnly_throw (.inl rfl)
      · refine Run.FailsOnly.bind (c.failsOnly_native bindings.failsOnly_checkRoom) fun _ => ?_
        exact (Run.failsOnly_readAll bindings).mono fun _ => .inl
  · refine Run.FailsOnly.bind (c.failsOnly_native (node.failsOnly_attribute _)) fun sql => ?_
    exact Run.failsOnly_pure _

theorem failsOnly_insertRows (node : Value) (rows : List Value) :
    (c.insertRows node rows).FailsOnly c.FailsWith := by
  unfold insertRows
  refine Run.FailsOnly.bind (c.failsOnly_native (Columns.failsOnly_ofRows rows)) fun columns => ?_
  cases columns.isEmpty with
  | true => exact Run.failsOnly_throw (.inl rfl)
  | false =>
    refine Run.FailsOnly.bind (c.failsOnly_quoteNames node columns) fun names => ?_
    have hstatement := c.failsOnly_native (Statement.failsOnly_ofValues names.1 names.2 rows.length)
    exact Run.FailsOnly.bind hstatement fun sql => Run.failsOnly_pure _

theorem failsOnly_compileRule (node : Value) : (c.compileRule node).FailsOnly c.FailsWith := by
  rw [compileRule_eq]
  refine Run.FailsOnly.bind (c.failsOnly_native (node.failsOnly_attribute _)) fun values => ?_
  refine Run.FailsOnly.bind ?_ fun rows => c.failsOnly_insertRows node rows
  exact (Rows.failsOnly_readBounded c.settings values).mono fun f => Or.imp_right .settings

theorem failsOnly_compileClause (node : Value) : (c.compileClause node).FailsOnly c.FailsWith := by
  unfold compileClause
  refine Run.FailsOnly.bind (c.failsOnly_native (failsOnly_dispatch _ _ node)) fun handler => ?_
  cases handler with
  | raw => exact c.failsOnly_compileRaw node
  | rule => exact c.failsOnly_compileRule node
  | value v =>
    refine c.failsOnly_native ?_
    exact FailsOnly.bind (v.failsOnly_call node) fun answer => failsOnly_error rfl

theorem failsOnly_checked (compiled : Compiled) :
    (c.checked compiled).FailsOnly c.FailsWith := by
  unfold checked validate
  split
  · exact Run.failsOnly_pure _
  · refine Run.FailsOnly.bind ?_ fun query => Run.failsOnly_pure _
    refine Run.FailsOnly.bind (fun _ => failsOnly_ok ()) fun _ => ?_
    exact Run.failsOnly_lift fun _ h => .inr (.validator compiled.query h)

/-- **A foreign failure was handed to the compiler.**  Whatever clauses an attempt is made on, and
from whatever state, it fails natively or with what the quoter or the validator raised, or for want
of settings. -/
theorem attempt_failsOnly (clauses : Value) : (c.attempt clauses).FailsOnly c.FailsWith := by
  unfold attempt attemptBy
  refine Run.FailsOnly.bind (c.failsOnly_native clauses.failsOnly_length) fun n => ?_
  split
  · exact Run.failsOnly_pure _
  · split
    · exact Run.failsOnly_throw (.inl rfl)
    · have hfirst := c.failsOnly_native (Clauses.failsOnly_first clauses)
      refine Run.FailsOnly.bind hfirst fun node => ?_
      refine Run.FailsOnly.bind (c.failsOnly_compileClause node) fun compiled => ?_
      exact c.failsOnly_checked compiled

end Compiler

end RowInsert
