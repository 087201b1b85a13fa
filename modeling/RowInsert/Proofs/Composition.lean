import RowInsert.Proofs.Observation

/-!
# Composed observers

A composition knows nothing of its parts but that they can be called, so what a call of a leaf does
is left open here: it changes a state of some kind, and may fail in some way.  A leaf stands for
what is called, so it may occur several times, and leaves that do different things are different
leaves.

* `Leaf.Reaction` is what calls of leaves do; `Leaf.deliver` is the one of this library.
  `Leaf.Reaction.noted` notes every call besides.
* `Leaf.Served` : leaves get an event one after the other, up to the first that fails.
  `Leaf.ServedEach` : they get several events so, each from the state that the one before has left.
* `Observer.deliverBy_eq_error_iff` : a delivery fails just as its first failing leaf does, in the
  state to which the leaves before it have come.
* `Observer.interchangeable_iff` : two observers do the same with every event, whatever their leaves
  do, just if they have the same leaves in the same order.
* `Observer.deliverEach_flattened` : an observer is the flat composition of its leaves.
-/

namespace RowInsert

variable {σ ε : Type}

namespace Leaf

/-- What calls of leaves with events do. -/
abbrev Reaction (σ ε : Type) := Leaf → Event → ExceptT ε (StateM σ) Unit

/-- The same, and a note of every call. -/
def Reaction.noted (call : Reaction σ ε) : Reaction (σ × List (Leaf × Event)) ε := fun l e =>
  ExceptT.mk fun (s, notes) =>
    let (outcome, t) := (call l e).run s
    (outcome, t, notes ++ [(l, e)])

/-- Leaves get an event one after the other: each is called once for every place where it stands, up
to and including the first that fails, whose failure is the outcome.  The second list is that of
the leaves that were called, and the last index is the state that they leave. -/
inductive Served (call : Reaction σ ε) (e : Event) :
    List Leaf → σ → List Leaf → Except ε Unit → σ → Prop where
  | all (s : σ) : Served call e [] s [] (.ok ()) s
  | failed {l : Leaf} {f : ε} {s t : σ} (rest : List Leaf)
      (raised : (call l e).run s = (.error f, t)) :
      Served call e (l :: rest) s [l] (.error f) t
  | passed {l : Leaf} {rest called : List Leaf} {r : Except ε Unit} {s t u : σ}
      (done : (call l e).run s = (.ok (), t)) (served : Served call e rest t called r u) :
      Served call e (l :: rest) s (l :: called) r u

/-- Leaves get several events, each from the state that the one before has left, whatever came of
it.  The calls are those that were made for each event, and the results what each came to. -/
inductive ServedEach (call : Reaction σ ε) (leaves : List Leaf) :
    List Event → σ → List (Leaf × Event) → List (Except ε Unit) → σ → Prop where
  | nil (s : σ) : ServedEach call leaves [] s [] [] s
  | cons {e : Event} {es : List Event} {called : List Leaf} {calls : List (Leaf × Event)}
      {r : Except ε Unit} {results : List (Except ε Unit)} {s t u : σ}
      (first : Served call e leaves s called r t)
      (rest : ServedEach call leaves es t calls results u) :
      ServedEach call leaves (e :: es) s (called.map (·, e) ++ calls) (r :: results) u

variable {call : Reaction σ ε} {e : Event} {leaves called : List Leaf} {r : Except ε Unit}
variable {s t : σ}

theorem Reaction.run_noted (call : Reaction σ ε) (l : Leaf) (e : Event) (s : σ)
    (notes : List (Leaf × Event)) :
    (call.noted l e).run (s, notes) =
      (((call l e).run s).1, ((call l e).run s).2, notes ++ [(l, e)]) := rfl

/-- Calling leaves in order serves them, and what is noted of it are the calls made. -/
theorem exists_served (call : Reaction σ ε) (e : Event) (leaves : List Leaf) (s : σ) :
    ∃ called r t, Served call e leaves s called r t ∧
      (forM leaves (call · e)).run s = (r, t) ∧
      ∀ notes, (forM leaves (call.noted · e)).run (s, notes) =
        (r, t, notes ++ called.map (·, e)) := by
  induction leaves generalizing s with
  | nil => exact ⟨[], .ok (), s, .all s, rfl, fun notes => by simp; rfl⟩
  | cons l leaves ih =>
    simp only [List.forM_cons, run_bind, Reaction.run_noted]
    rcases hl : (call l e).run s with ⟨f | _, t⟩
    · exact ⟨[l], .error f, t, .failed leaves hl, rfl, fun notes => rfl⟩
    · obtain ⟨called, r, u, hserved, hrun, hnoted⟩ := ih t
      refine ⟨l :: called, r, u, .passed hl hserved, hrun, fun notes => ?_⟩
      simp [hnoted]

/-- Either all leaves were called and none failed, or they were called up to one that did, in the
state that those before it have left. -/
theorem Served.cut (h : Served call e leaves s called r t) :
    (r = .ok () ∧ called = leaves) ∨
      ∃ f front l back u, r = .error f ∧ leaves = front ++ l :: back ∧ called = front ++ [l] ∧
        (forM front (call · e)).run s = (.ok (), u) ∧ (call l e).run u = (.error f, t) := by
  induction h with
  | all s => exact .inl ⟨rfl, rfl⟩
  | @failed l f s t rest raised => exact .inr ⟨f, [], l, rest, s, rfl, rfl, rfl, rfl, raised⟩
  | @passed l rest called r s t u done _ ih =>
    rcases ih with ⟨hr, hcalled⟩ | ⟨f, front, k, back, v, hr, hrest, hcalled, hfront, hk⟩
    · exact .inl ⟨hr, congrArg (l :: ·) hcalled⟩
    · refine .inr ⟨f, l :: front, k, back, v, hr, by simp [hrest], by simp [hcalled], ?_, hk⟩
      rw [List.forM_cons, run_bind, done]
      exact hfront

end Leaf

namespace Observer

/-- Events are delivered one after the other, each from the state that the one before has left,
whatever came of it. -/
def deliverEach (call : Leaf.Reaction σ ε) (o : Observer) (es : List Event) :
    StateM σ (List (Except ε Unit)) :=
  es.mapM fun e => (o.deliverBy call e).run

/-- The composition of the leaves of an observer. -/
def flat (o : Observer) : Observer := .compose (o.leaves.map .leaf)

/-- Two observers do the same with all events, whatever their leaves do. -/
def Interchangeable (o p : Observer) : Prop :=
  ∀ (σ ε : Type) (call : Leaf.Reaction σ ε), o.deliverEach call = p.deliverEach call

theorem deliverEach_cons (call : Leaf.Reaction σ ε) (o : Observer) (e : Event) (es : List Event)
    (s : σ) :
    o.deliverEach call (e :: es) s =
      let first := (o.deliverBy call e).run s
      let rest := o.deliverEach call es first.2
      (first.1 :: rest.1, rest.2) := by
  unfold deliverEach
  rw [List.mapM_cons]
  rfl

/-- Events that are delivered serve the leaves, and what is noted of it are the calls made. -/
theorem exists_servedEach (call : Leaf.Reaction σ ε) (o : Observer) (es : List Event) (s : σ) :
    ∃ calls results t, Leaf.ServedEach call o.leaves es s calls results t ∧
      o.deliverEach call es s = (results, t) ∧
      ∀ notes, o.deliverEach call.noted es (s, notes) = (results, t, notes ++ calls) := by
  induction es generalizing s with
  | nil => exact ⟨[], [], s, .nil s, rfl, fun notes => by simp; rfl⟩
  | cons e es ih =>
    obtain ⟨called, r, t, hserved, hrun, hnoted⟩ := Leaf.exists_served call e o.leaves s
    obtain ⟨calls, results, u, heach, hrest, hrests⟩ := ih t
    refine ⟨_, _, u, .cons hserved heach, ?_, fun notes => ?_⟩
    · simp only [deliverEach_cons, deliverBy_eq_forM, hrun, hrest]
    · simp only [deliverEach_cons, deliverBy_eq_forM, hnoted, hrests, List.append_assoc]

/-- A delivery fails just as its first failing leaf does, and leaves the state that this leaf makes
of the one to which the leaves before it have come. -/
theorem deliverBy_eq_error_iff {call : Leaf.Reaction σ ε} {o : Observer} {e : Event} {s t : σ}
    {f : ε} :
    (o.deliverBy call e).run s = (.error f, t) ↔
      ∃ front l back u, o.leaves = front ++ l :: back ∧
        (forM front (call · e)).run s = (.ok (), u) ∧ (call l e).run u = (.error f, t) := by
  rw [deliverBy_eq_forM]
  constructor
  · intro h
    obtain ⟨called, r, u, hserved, hrun, -⟩ := Leaf.exists_served call e o.leaves s
    rw [hrun] at h
    cases h
    rcases hserved.cut with ⟨hr, -⟩ | ⟨_, front, l, back, u, hr, hleaves, -, hfront, hl⟩
    · cases hr
    · cases hr
      exact ⟨front, l, back, u, hleaves, hfront, hl⟩
  · rintro ⟨front, l, back, u, hleaves, hfront, hl⟩
    rw [hleaves, List.forM_append, run_bind, hfront]
    simp only [List.forM_cons, run_bind, hl]

/-- Leaves that never fail are all called, in order. -/
theorem noted_deliverEach (o : Observer) (e : Event) :
    o.deliverEach (Leaf.Reaction.noted (σ := Unit) (ε := Empty) fun _ _ => pure ()) [e] ((), []) =
      ([.ok ()], (), o.leaves.map (·, e)) := by
  obtain ⟨called, r, t, hserved, -, hnoted⟩ :=
    Leaf.exists_served (σ := Unit) (ε := Empty) (fun _ _ => pure ()) e o.leaves ()
  rcases hserved.cut with ⟨rfl, rfl⟩ | ⟨f, -⟩
  · simp only [deliverEach_cons, deliverBy_eq_forM, hnoted]
    rfl
  · exact f.elim

/-- **An observer is nothing but its leaves.**  Two observers do the same with all events, whatever
their leaves do, just if they have the same leaves in the same order. -/
theorem interchangeable_iff {o p : Observer} : o.Interchangeable p ↔ o.leaves = p.leaves := by
  constructor
  · intro h
    have hcalls := noted_deliverEach o default
    rw [h, noted_deliverEach p default] at hcalls
    have hleaves := (Prod.mk.inj (Prod.mk.inj hcalls).2).2
    exact List.map_injective_iff.2 (fun _ _ h => congrArg Prod.fst h) hleaves.symm
  · intro h σ ε call
    funext es
    simp only [deliverEach, deliverBy_eq_forM, h]

theorem leavesOf_eq_flatMap (parts : List Observer) : leavesOf parts = parts.flatMap leaves := by
  induction parts with
  | nil => rfl
  | cons o parts ih => simp [leavesOf, ih]

theorem leaves_compose (parts : List Observer) : (compose parts).leaves = parts.flatMap leaves := by
  rw [leaves, leavesOf_eq_flatMap]

theorem leaves_flat (o : Observer) : o.flat.leaves = o.leaves := by
  simp [flat, leaves_compose, List.flatMap_map, leaves]

/-- A composition within a composition is its parts in its place. -/
theorem interchangeable_splice (before parts after : List Observer) :
    (compose (before ++ compose parts :: after)).Interchangeable
      (compose (before ++ parts ++ after)) := by
  simp [interchangeable_iff, leaves_compose]

/-- **Composed observers are their leaves from left to right, up to the first that fails.**
Whatever calls of leaves do, events that are delivered call the leaves in order, once for every
place where one stands, until one fails; a failure takes nothing back that the leaves before it have
done.  So an observer can be taken for the flat composition of its leaves, compositions can be
nested in any way, and the empty one adds nothing. -/
theorem deliverEach_flattened (o p q : Observer) :
    (∀ (σ ε : Type) (call : Leaf.Reaction σ ε),
      (∀ (es : List Event) (s : σ), ∃ calls results t,
        Leaf.ServedEach call o.leaves es s calls results t ∧
        o.deliverEach call es s = (results, t) ∧
        ∀ notes, o.deliverEach call.noted es (s, notes) = (results, t, notes ++ calls)) ∧
      ∀ (e : Event) (s t : σ) (f : ε), (o.deliverBy call e).run s = (.error f, t) ↔
        ∃ front l back u, o.leaves = front ++ l :: back ∧
          (forM front (call · e)).run s = (.ok (), u) ∧ (call l e).run u = (.error f, t)) ∧
    o.Interchangeable o.flat ∧ (∀ e, o.deliver e = o.flat.deliver e) ∧
    (∀ before parts after, (compose (before ++ compose parts :: after)).Interchangeable
      (compose (before ++ parts ++ after))) ∧
    (compose [compose [o, p], q]).Interchangeable (compose [o, compose [p, q]]) ∧
    (compose [compose [], o]).Interchangeable o ∧
    (compose [o, compose []]).Interchangeable o := by
  refine ⟨fun σ ε call => ⟨exists_servedEach call o, fun _ _ _ _ => deliverBy_eq_error_iff⟩,
    interchangeable_iff.2 o.leaves_flat.symm, fun e => ?_, interchangeable_splice, ?_, ?_, ?_⟩
  · rw [deliver_eq_forM, deliver_eq_forM, leaves_flat]
  · simp [interchangeable_iff, leaves_compose]
  · simp [interchangeable_iff, leaves_compose]
  · simp [interchangeable_iff, leaves_compose]

end Observer

end RowInsert
