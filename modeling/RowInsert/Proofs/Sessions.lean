import RowInsert.Proofs.Run
import RowInsert.Session.Member

/-!
# Compilations in sessions

A session compiles by an object, whose attributes can stand in the place of a compiler's
collaborators and of its steps.

* `Override.compile_eq` : a compiler with nothing in the place of its steps compiles as it does
  without that possibility.
* `Session.compileWith_eq` : what a session answers, and what it shows of its state after that, are
  those of the compiler with the attributes of the object.
* `Session.compileWith_setUp` : if the object has none, they are those of the compiler that it was
  set up as.
-/

namespace RowInsert

/-! ### Steps that are left alone -/

namespace Override

variable {o : Override} (hsteps : ∀ step, o.instead step = none)
include hsteps

theorem rows_eq (values : Value) : o.rows values = Rows.readBounded o.compiler.settings values := by
  unfold rows
  rw [hsteps]

theorem columns_eq (rows : List Value) : o.columns rows = Columns.ofRows rows := by
  unfold columns
  rw [hsteps]

theorem report_eq (telling : Run Unit) : o.report telling = telling := by
  unfold report
  rw [hsteps]

theorem compileRule_eq (hquoter : o.quoterMissing = none) (node : Value) :
    o.compileRule node = o.compiler.compileRule node := by
  unfold compileRule Compiler.compileRule
  simp only [rows_eq hsteps, columns_eq hsteps, hquoter, hsteps, Option.isSome_none,
    Bool.false_eq_true, if_false]

theorem compileClause_eq (hquoter : o.quoterMissing = none) :
    o.compileClause = o.compiler.compileClause := by
  funext node
  refine congrArg (Bind.bind _) (funext fun handler => ?_)
  cases handler with
  | raw => rfl
  | rule => exact compileRule_eq hsteps hquoter node
  | value v => rfl

/-- **Where nothing stands in the place of a step, a compilation is that of the compiler.** -/
theorem compile_eq (hquoter : o.quoterMissing = none) (clauses : Value) :
    o.compile clauses = o.compiler.compile clauses := by
  unfold compile Compiler.compile Compiler.attempt
  simp only [hsteps, compileClause_eq hsteps hquoter, report_eq hsteps]

end Override

theorem Compiler.withAttributes_nil (c : Compiler)
    (attributeOf : Value → String → Except Failure Value) :
    c.withAttributes attributeOf [] = c := by
  have hhandlers : (fun name => (c.handlers name).or none) = c.handlers := by
    funext name
    exact Option.or_none
  unfold withAttributes
  simp only [List.lookup_nil, Option.map_none, Option.none_or, hhandlers]

/-! ### What a session shows -/

namespace Session

/-- What a session shows of its state once a step is done: how far streams have been read, the
clock, the events that were recorded and the lines that were logged. -/
def shown (s : Session) : Streams × Clock × List Event × List LogLine :=
  (s.state.streams, s.state.clock, s.state.journal.events, s.state.journal.lines)

theorem shown_replace (s : Session) (i : Identity) (new : Value) :
    (s.replace i new).shown = s.shown := by
  unfold replace
  split <;> rfl

theorem shown_giveAttributes (s : Session) (object : Value) (own : List (String × Value)) :
    (s.giveAttributes object own).shown = s.shown := by
  unfold giveAttributes
  split
  · exact shown_replace s _ _
  · rfl

/-- An object that takes a new form changes nothing that is shown. -/
theorem shown_amend (s : Session) (old new : Value) : (s.amend old new).shown = s.shown := by
  unfold amend
  refine List.foldlRecOn (motive := fun t : Session => t.shown = s.shown) _ _ ?_ ?_
  · exact shown_replace s _ _
  · intro t ht sharer _
    exact (shown_giveAttributes t _ _).trans ht

/-! ### Compilations -/

/-- A text has something in the place of the function that replaces its parts only if that was
assigned to it. -/
theorem quote_eq {s : Session} {marks : Option Delimiters} {quoter : Quoter}
    (hreplace : ∀ i, (s.state.assigned i).lookup "replace" = none)
    (hmarks : ∀ d, marks = some d → quoter = d.quote) : s.quote marks quoter = quoter := by
  funext v
  unfold quote
  split
  · rename_i d f hfound
    have hnotText : v.text? = none := by
      unfold State.attribute? at hfound
      rw [hreplace, Option.none_or] at hfound
      cases v with
      | record => rfl
      | _ => cases hfound
    rw [hmarks d rfl, Delimiters.quoteBy, Delimiters.quote, hnotText]
  · rfl

section Compile

variable {s : Session} {target : Value} {o : Options}

theorem marks_eq {own : List (String × Value)} {d : Delimiters}
    (h : marks? o false own = some d) :
    (o.compiler.withAttributes s.attributeOf own).quoter = d.quote := by
  unfold marks? at h
  unfold Compiler.withAttributes
  cases hown : own.lookup "quoter" with
  | some v =>
    rw [hown] at h
    funext identifier
    have hmarks : Delimiters.ofValue? v = some d := h
    dsimp only
    unfold Value.call
    rw [hmarks]
  | none =>
    rw [hown] at h
    dsimp only at h ⊢
    unfold Options.compiler
    cases hquoter : o.quoter with
    | delimited marks =>
      rw [hquoter] at h
      cases h
      rfl
    | _ =>
      rw [hquoter] at h
      cases h

/-- A session answers with what its compiler comes to, and shows what that leaves. -/
theorem exists_told (s : Session) (target : Value) (o : Options) (clauses : Value) :
    let r := (s.override target o).compile clauses s.state
    ∃ t : Session,
      t.shown = (r.2.streams, r.2.clock, r.2.journal.events, r.2.journal.lines) ∧
      s.compileWith target o clauses = match r.1 with
        | .ok q => (t.newQuery q).map .ok id
        | .error e => (.error e, t) := by
  obtain ⟨⟨outcome, state⟩, hr⟩ : ∃ r, (s.override target o).compile clauses s.state = r :=
    ⟨_, rfl⟩
  rw [hr]
  let own := target.fields
  let calls := noted o (s.bare.contains target.identity) own state.journal.calls
  let after := { s with state := { state with journal := { state.journal with calls } } }
  refine ⟨if (s.override target o).reads then after.amend clauses (Clauses.afterFirst clauses)
    else after, ?_, ?_⟩
  · split
    · exact shown_amend after _ _
    · rfl
  · have hrun : ((s.override target o).compile clauses).run s.state = (outcome, state) := hr
    unfold compileWith
    cases outcome with
    | ok q => simp only [hrun, after, calls, own]
    | error e => simp only [hrun, after, calls, own]

/-- **A session compiles as the compiler does** that its object stands for, with the attributes of
the object in the place of collaborators: the answer is the query, as a new object, or the failure
that the compiler comes to, and what is shown is what the compiler leaves.  Nothing may have been
put in the place of a step, nor of the function by which texts replace their parts. -/
theorem compileWith_eq (clauses : Value)
    (hkept : s.bare.contains target.identity = false)
    (hsteps : ∀ step : Step, target.fields.lookup step.attributeName = none)
    (hreplace : ∀ i, (s.state.assigned i).lookup "replace" = none) :
    let c := o.compiler.withAttributes s.attributeOf target.fields
    let r := c.compile clauses s.state
    let told := s.compileWith target o clauses
    (∃ t : Session, told.1 = r.1.map fun q => (t.newQuery q).1) ∧
      told.2.shown = (r.2.streams, r.2.clock, r.2.journal.events, r.2.journal.lines) := by
  intro c r
  have hoverride : s.override target o =
      ⟨c, fun step => target.fields.lookup step.attributeName, none⟩ := by
    have hquoter : s.quote (marks? o false target.fields)
        (Override.ofAttributes o.compiler false s.attributeOf target.fields).compiler.quoter =
          c.quoter := quote_eq hreplace fun _ => marks_eq
    unfold override
    rw [hkept]
    dsimp only
    rw [hquoter]
    rfl
  have hcompile : (s.override target o).compile clauses s.state = r := by
    rw [hoverride]
    exact congrFun (Override.compile_eq hsteps rfl clauses) s.state
  obtain ⟨t, hshown, htold⟩ := s.exists_told target o clauses
  rw [hcompile] at hshown htold
  dsimp only
  rw [htold]
  cases hr : r.1 with
  | ok q => exact ⟨⟨t, rfl⟩, hshown⟩
  | error e => exact ⟨⟨t, rfl⟩, hshown⟩

/-- A compiler that has just been set up compiles as what it was set up as. -/
theorem compileWith_setUp (clauses : Value) (hunused : s.nextIdentity ∉ s.bare)
    (hreplace : ∀ i, (s.state.assigned i).lookup "replace" = none) :
    let r := o.compiler.compile clauses s.state
    let told := (s.setUp o).2.compileWith (s.setUp o).1 o clauses
    (∃ t : Session, told.1 = r.1.map fun q => (t.newQuery q).1) ∧
      told.2.shown = (r.2.streams, r.2.clock, r.2.journal.events, r.2.journal.lines) := by
  have hkept : (s.setUp o).2.bare.contains (s.setUp o).1.identity = false := by
    rw [← Bool.not_eq_true, List.contains_iff_mem]
    exact hunused
  have h := compileWith_eq (o := o) clauses hkept (fun _ => rfl) hreplace
  have hnone : (s.setUp o).1.fields = [] := rfl
  rw [hnone, Compiler.withAttributes_nil] at h
  exact h

end Compile

end Session

end RowInsert
