import Mathlib.Data.List.Forall2
import Mathlib.Order.Defs.Unbundled
import RowInsert.Compiler

/-!
# Runs of computations

A `Run` is opened here once, so that no later proof looks inside it.

* `Run.exec` is the outcome of a computation from a state, with the state that it leaves;
  `Run.exec_bind_ok` and `Run.exec_bind_error` step through a sequence of two.
* `Run.Yields` says that a computation comes to one outcome from every state.  It is kept by
  sequences (`Run.Yields.bind`) and by walks over lists (`Run.Yields.mapM`), so a part of the
  compiler that only takes notes is as good as a computation without state.
* `Run.Moves` relates the states before and after a computation, whatever its outcome, and is kept
  by sequences too.
* `Compiler.compile_eq` is a compilation as an attempt and its report.
-/

namespace RowInsert

/-! ### Computations that may fail -/

theorem bind_ok {ε α β : Type} {x : Except ε α} {f : α → Except ε β} {b : β}
    (h : x >>= f = .ok b) : ∃ a, x = .ok a ∧ f a = .ok b := by
  cases x with
  | error e => cases h
  | ok a => exact ⟨a, rfl, h⟩

theorem bind_error {ε α β : Type} {x : Except ε α} {f : α → Except ε β} {e : ε}
    (h : x >>= f = .error e) : x = .error e ∨ ∃ a, x = .ok a ∧ f a = .error e := by
  cases x with
  | error _ =>
    cases h
    exact .inl rfl
  | ok a => exact .inr ⟨a, rfl, h⟩

/-- A condition that fails when it holds is passed only when it does not. -/
theorem guard_ok {ε α : Type} {p : Prop} [Decidable p] {e : ε} {x : Except ε α} {a : α}
    (h : (if p then .error e else x) = .ok a) : ¬ p ∧ x = .ok a := by
  split at h
  · cases h
  · rename_i hp
    exact ⟨hp, h⟩

theorem mapM_ok_iff {ε α β : Type} {f : α → Except ε β} {l : List α} {r : List β} :
    l.mapM f = .ok r ↔ List.Forall₂ (fun a b => f a = .ok b) l r := by
  constructor
  · intro h
    induction l generalizing r with
    | nil =>
      cases h
      exact .nil
    | cons a l ih =>
      rw [List.mapM_cons] at h
      obtain ⟨b, hb, h⟩ := bind_ok h
      obtain ⟨bs, hbs, h⟩ := bind_ok h
      cases h
      exact .cons hb (ih hbs)
  · intro h
    induction h with
    | nil => rfl
    | cons hb _ ih =>
      rw [List.mapM_cons, hb, ih]
      rfl

theorem exists_mem_of_forall₂ {α β : Type} {R : α → β → Prop} {l : List α} {r : List β} {b : β}
    (h : List.Forall₂ R l r) (hb : b ∈ r) : ∃ a ∈ l, R a b := by
  induction h with
  | nil => cases hb
  | @cons a c l r hac _ ih =>
    rcases List.mem_cons.1 hb with rfl | hb
    · exact ⟨a, List.mem_cons_self, hac⟩
    · obtain ⟨x, hx, hxb⟩ := ih hb
      exact ⟨x, List.mem_cons_of_mem a hx, hxb⟩

theorem mapM_eq_ok {ε α β : Type} {f : α → Except ε β} {g : α → β} {l : List α}
    (h : ∀ x ∈ l, f x = .ok (g x)) : l.mapM f = .ok (l.map g) := by
  rw [mapM_ok_iff, List.forall₂_map_right_iff]
  exact List.forall₂_same.2 h

theorem mapM_eq_error {ε α β : Type} {f : α → Except ε β} {front : List α} {x : α} {e : ε}
    (back : List α) (hfront : ∀ y ∈ front, ∃ b, f y = .ok b) (hx : f x = .error e) :
    (front ++ x :: back).mapM f = .error e := by
  induction front with
  | nil =>
    rw [List.nil_append, List.mapM_cons, hx]
    rfl
  | cons y front ih =>
    obtain ⟨⟨b, hb⟩, hfront⟩ := List.forall_mem_cons.1 hfront
    rw [List.cons_append, List.mapM_cons, hb, ih hfront]
    rfl

theorem mapM_error {ε α β : Type} {f : α → Except ε β} {l : List α} {e : ε}
    (h : l.mapM f = .error e) : ∃ a ∈ l, f a = .error e := by
  induction l with
  | nil => cases h
  | cons a l ih =>
    rw [List.mapM_cons] at h
    rcases bind_error h with ha | ⟨b, -, hrest⟩
    · exact ⟨a, List.mem_cons_self, ha⟩
    · rcases bind_error hrest with hl | ⟨bs, -, hpure⟩
      · obtain ⟨a', ha', he⟩ := ih hl
        exact ⟨a', List.mem_cons_of_mem a ha', he⟩
      · cases hpure

/-- The outcome of a sequence is that of its second part, unless the first part fails. -/
theorem run_bind {σ ε α β : Type} (x : ExceptT ε (StateM σ) α) (f : α → ExceptT ε (StateM σ) β)
    (s : σ) :
    (x >>= f).run s = match x.run s with
      | (.ok a, t) => (f a).run t
      | (.error e, t) => (.error e, t) := by
  change (let p := x.run s; (ExceptT.bindCont f p.1 : StateM σ (Except ε β)) p.2) = _
  rcases x.run s with ⟨e | a, t⟩ <;> rfl

namespace Run

variable {α β : Type}

/-- The outcome of a computation from a state, and the state that it leaves. -/
def exec (x : Run α) (s : State) : Except Failure α × State := x.run s

@[simp] theorem exec_pure (a : α) (s : State) : (pure a : Run α).exec s = (.ok a, s) := rfl

@[simp] theorem exec_lift (x : Except Failure α) (s : State) : (lift x).exec s = (x, s) := rfl

@[simp] theorem exec_get (s : State) : (get : Run State).exec s = (.ok s, s) := rfl

@[simp] theorem exec_modify (f : State → State) (s : State) :
    (modify f : Run Unit).exec s = (.ok (), f s) := rfl

theorem exec_bind (x : Run α) (f : α → Run β) (s : State) :
    (x >>= f).exec s = match x.exec s with
      | (.ok a, t) => (f a).exec t
      | (.error e, t) => (.error e, t) := by
  unfold exec
  rw [run_bind]
  rcases x.run s with ⟨e | a, t⟩ <;> rfl

theorem exec_bind_ok {x : Run α} {f : α → Run β} {s t : State} {a : α}
    (h : x.exec s = (.ok a, t)) : (x >>= f).exec s = (f a).exec t := by
  rw [exec_bind, h]

theorem exec_bind_error {x : Run α} {f : α → Run β} {s t : State} {e : Failure}
    (h : x.exec s = (.error e, t)) : (x >>= f).exec s = (.error e, t) := by
  rw [exec_bind, h]

/-- A sequence that came to something has passed both of its parts. -/
theorem exec_bind_eq_ok {x : Run α} {f : α → Run β} {s t : State} {b : β}
    (h : (x >>= f).exec s = (.ok b, t)) :
    ∃ a u, x.exec s = (.ok a, u) ∧ (f a).exec u = (.ok b, t) := by
  rw [exec_bind] at h
  rcases hx : x.exec s with ⟨e | a, u⟩
  · rw [hx] at h
    cases h
  · rw [hx] at h
    exact ⟨a, u, rfl, h⟩

@[simp] theorem exec_lift_bind_ok (a : α) (f : α → Run β) (s : State) :
    (lift (.ok a) >>= f).exec s = (f a).exec s := exec_bind_ok (exec_lift _ s)

@[simp] theorem exec_lift_bind_error (e : Failure) (f : α → Run β) (s : State) :
    (lift (.error e) >>= f).exec s = (.error e, s) := exec_bind_error (exec_lift _ s)

/-! ### Outcomes that do not depend on the state -/

/-- The computation comes to this outcome from every state. -/
def Yields (x : Run α) (r : Except Failure α) : Prop := ∀ s, (x.exec s).1 = r

theorem yields_pure (a : α) : (pure a : Run α).Yields (.ok a) := fun _ => rfl

theorem yields_throw (f : Failure) : (throw f : Run α).Yields (.error f) := fun _ => rfl

theorem yields_lift (x : Except Failure α) : (lift x).Yields x := fun _ => rfl

/-- Of a sequence whose second part does not depend on the state, only the first part does. -/
theorem fst_exec_bind {x : Run α} {f : α → Run β} {g : α → Except Failure β}
    (hf : ∀ a, (f a).Yields (g a)) (s : State) :
    ((x >>= f).exec s).1 = (x.exec s).1 >>= g := by
  rw [exec_bind]
  rcases x.exec s with ⟨e | a, t⟩
  · rfl
  · exact hf a t

theorem Yields.bind {x : Run α} {r : Except Failure α} {f : α → Run β}
    {g : α → Except Failure β} (hx : x.Yields r) (hf : ∀ a, (f a).Yields (g a)) :
    (x >>= f).Yields (r >>= g) := fun s => by
  rw [fst_exec_bind hf, hx s]

theorem Yields.lift_bind {a : α} {f : α → Run β} {r : Except Failure β} (h : (f a).Yields r) :
    (lift (.ok a) >>= f).Yields r := h

theorem Yields.mapM {f : α → Run β} {g : α → Except Failure β} (h : ∀ a, (f a).Yields (g a)) :
    ∀ l : List α, (l.mapM f).Yields (l.mapM g)
  | [] => by
    simp only [List.mapM_nil]
    exact yields_pure []
  | a :: l => by
    simp only [List.mapM_cons]
    exact (h a).bind fun b => (Yields.mapM h l).bind fun bs => yields_pure (b :: bs)

/-! ### States that a computation leads to -/

/-- Whatever the outcome, the state that the computation leaves is so related to the one before. -/
def Moves (R : State → State → Prop) (x : Run α) : Prop := ∀ s, R s (x.exec s).2

section Moves

variable {R : State → State → Prop}

theorem Moves.mono {R' : State → State → Prop} {x : Run α} (h : x.Moves R)
    (hR : ∀ s t, R s t → R' s t) : x.Moves R' := fun s => hR _ _ (h s)

variable [Std.Refl R]

theorem moves_pure (a : α) : (pure a : Run α).Moves R := fun s => refl_of R s

theorem moves_throw (f : Failure) : (throw f : Run α).Moves R := fun s => refl_of R s

theorem moves_lift (x : Except Failure α) : (lift x).Moves R := fun s => refl_of R s

theorem moves_get : (get : Run State).Moves R := fun s => refl_of R s

theorem moves_require (x : Option α) (f : Failure) : (require x f).Moves R := by
  cases x with
  | none => exact moves_throw f
  | some a => exact moves_pure a

omit [Std.Refl R] in
theorem Moves.bind [IsTrans State R] {x : Run α} {f : α → Run β} (hx : x.Moves R)
    (hf : ∀ a, (f a).Moves R) : (x >>= f).Moves R := by
  intro s
  have h := hx s
  rw [exec_bind]
  rcases hr : x.exec s with ⟨e | a, t⟩
  · rw [hr] at h
    exact h
  · rw [hr] at h
    exact trans_of R h (hf a t)

theorem Moves.lift_bind {x : Except Failure α} {f : α → Run β}
    (h : ∀ a, x = .ok a → (f a).Moves R) : (lift x >>= f).Moves R := by
  intro s
  cases x with
  | error e =>
    rw [exec_lift_bind_error]
    exact refl_of R s
  | ok a =>
    rw [exec_lift_bind_ok]
    exact h a rfl s

theorem Moves.require_bind {x : Option α} {e : Failure} {f : α → Run β}
    (h : ∀ a, x = some a → (f a).Moves R) : (require x e >>= f).Moves R := by
  cases x with
  | none => exact moves_throw e
  | some a => exact h a rfl

theorem Moves.mapM [IsTrans State R] {f : α → Run β} (h : ∀ a, (f a).Moves R) (l : List α) :
    (l.mapM f).Moves R := by
  induction l with
  | nil =>
    rw [List.mapM_nil]
    exact moves_pure []
  | cons a l ih =>
    rw [List.mapM_cons]
    refine Moves.bind (h a) fun b => ?_
    refine Moves.bind ih fun bs => ?_
    exact moves_pure (b :: bs)

theorem Moves.forM [IsTrans State R] {f : α → Run PUnit} {l : List α}
    (h : ∀ a ∈ l, (f a).Moves R) : (forM l f).Moves R := by
  induction l with
  | nil => exact moves_pure PUnit.unit
  | cons a l ih =>
    obtain ⟨ha, hl⟩ := List.forall_mem_cons.1 h
    rw [List.forM_cons]
    exact Moves.bind ha fun _ => ih hl

end Moves

end Run

/-! ### Compilations -/

/-- The state after the clock has been read. -/
def State.tick (s : State) : State := { s with clock := s.clock.read.2 }

namespace Compiler

variable (c : Compiler)

theorem yields_quote (v : Value) : (c.quote v).Yields (c.quoter v) := fun _ => rfl

theorem yields_validate (q : Query) : (c.validate q).Yields (c.validator q) := fun _ => rfl

/-- A compilation is an attempt, which begins once the clock has been read, and its report. -/
theorem compile_eq (clauses : Value) (s : State) :
    c.compile clauses s =
      let attempted := (c.attempt clauses).exec s.tick
      let reported := (c.report clauses s.clock.read.1 attempted.1).exec attempted.2
      (settle attempted.1 reported.1, reported.2) := rfl

/-- Without an observer there is nothing to report. -/
theorem report_of_unobserved {c : Compiler} (h : c.observer = .ok none) (clauses : Value)
    (started : Binary64) (outcome : Except Failure Compiled) :
    c.report clauses started outcome = pure () := by
  have hafter : (c.afterReading clauses).observer = .ok none := h
  unfold report tell
  rw [hafter]
  rfl

theorem compile_of_unobserved {c : Compiler} (h : c.observer = .ok none) (clauses : Value)
    (s : State) :
    c.compile clauses s =
      let attempted := (c.attempt clauses).exec s.tick
      (settle attempted.1 (.ok ()), attempted.2) := by
  rw [compile_eq]
  simp only [report_of_unobserved h, Run.exec_pure]

theorem settle_eq_ok_iff {outcome : Except Failure Compiled} {reported : Except Failure Unit}
    {q : Query} :
    settle outcome reported = .ok q ↔
      ∃ compiled, outcome = .ok compiled ∧ reported = .ok () ∧ compiled.query = q := by
  cases outcome <;> cases reported <;> simp [settle]

/-- What is settled as a failure is that of the attempt or, if it did not fail, of the report. -/
theorem failure_of_settle {outcome : Except Failure Compiled} {reported : Except Failure Unit}
    {e : Raised} (h : settle outcome reported = .error e) :
    outcome = .error e.failure ∨
      ∃ compiled, outcome = .ok compiled ∧ reported = .error e.failure := by
  cases outcome <;> cases reported <;> cases h <;> simp

/-- A failure of the attempt stays the failure, whatever becomes of the report. -/
theorem settle_error (f : Failure) (reported : Except Failure Unit) :
    ∃ second, settle (.error f) reported = .error ⟨f, second⟩ := by
  cases reported with
  | error g => exact ⟨some g, rfl⟩
  | ok _ => exact ⟨none, rfl⟩

variable {c} {clauses : Value} {s : State}

/-- A query is the outcome only of an attempt that came to it and of a report that did not fail. -/
theorem compile_eq_ok_iff {q : Query} :
    (c.compile clauses s).1 = .ok q ↔
      ∃ compiled, ((c.attempt clauses).exec s.tick).1 = .ok compiled ∧
        ((c.report clauses s.clock.read.1 (.ok compiled)).exec
          ((c.attempt clauses).exec s.tick).2).1 = .ok () ∧ compiled.query = q := by
  rw [compile_eq]
  dsimp only
  rw [settle_eq_ok_iff]
  refine exists_congr fun compiled => and_congr_right fun hattempt => ?_
  rw [hattempt]

theorem attempt_of_compile_ok {q : Query} (h : (c.compile clauses s).1 = .ok q) :
    ∃ compiled, ((c.attempt clauses).exec s.tick).1 = .ok compiled ∧ compiled.query = q := by
  obtain ⟨compiled, hattempt, -, hquery⟩ := compile_eq_ok_iff.1 h
  exact ⟨compiled, hattempt, hquery⟩

theorem compile_of_attempt_error {f : Failure}
    (h : ((c.attempt clauses).exec s.tick).1 = .error f) :
    ∃ second, (c.compile clauses s).1 = .error ⟨f, second⟩ := by
  rw [compile_eq]
  dsimp only
  rw [h]
  exact settle_error f _

/-- The failure of a compilation is that of the attempt or, if it did not fail, of the report. -/
theorem attempt_of_compile_error {e : Raised} (h : (c.compile clauses s).1 = .error e) :
    ((c.attempt clauses).exec s.tick).1 = .error e.failure ∨
      ∃ compiled t, (c.attempt clauses).exec s.tick = (.ok compiled, t) ∧
        ((c.report clauses s.clock.read.1 (.ok compiled)).exec t).1 = .error e.failure := by
  rw [compile_eq] at h
  rcases failure_of_settle h with hattempt | ⟨compiled, hattempt, hreport⟩
  · exact .inl hattempt
  · rw [hattempt] at hreport
    exact .inr ⟨compiled, _, Prod.ext hattempt rfl, hreport⟩

end Compiler

end RowInsert
