import RowInsert.Value.Basic

/-!
# Streams

The items of a stream can be taken once, so how far it has been read is state.

* `Progress` is how far one stream has been read, `Streams` that of all.
* `Streams.take` reads at most so many items of a stream.
-/

namespace RowInsert

/-- How far a stream has been read. -/
structure Progress where
  /-- The number of items taken. -/
  taken : Nat
  /-- Whether the failure at its end has been raised. -/
  ended : Bool
  deriving DecidableEq, Repr, Inhabited

/-- The progress of every stream. -/
structure Streams where
  progress : Identity → Progress

namespace Streams

/-- Nothing has been read. -/
def fresh : Streams := ⟨fun _ => ⟨0, false⟩⟩

/-- The progress of one stream is set. -/
def set (s : Streams) (i : Identity) (p : Progress) : Streams :=
  ⟨fun j => if j = i then p else s.progress j⟩

@[simp] theorem progress_set_self (s : Streams) (i : Identity) (p : Progress) :
    (s.set i p).progress i = p := by simp only [set, ↓reduceIte]

@[simp] theorem progress_set_of_ne (s : Streams) {i j : Identity} (p : Progress) (h : j ≠ i) :
    (s.set i p).progress j = s.progress j := by simp only [set, h, ↓reduceIte]

/-- The number of items taken from a stream. -/
def taken (s : Streams) (i : Identity) : Nat := (s.progress i).taken

/-- The items of a stream that are left. -/
def rest (s : Streams) (i : Identity) (items : List Value) : List Value := items.drop (s.taken i)

/-- One more item has been taken. -/
def advance (s : Streams) (i : Identity) (count : Nat) : Streams :=
  s.set i { s.progress i with taken := s.taken i + count }

@[simp] theorem progress_advance_self (s : Streams) (i : Identity) (count : Nat) :
    (s.advance i count).progress i = { s.progress i with taken := s.taken i + count } := by
  simp only [advance, progress_set_self]

@[simp] theorem progress_advance_of_ne (s : Streams) {i j : Identity} (count : Nat) (h : j ≠ i) :
    (s.advance i count).progress j = s.progress j := by
  simp only [advance, progress_set_of_ne _ _ h]

/-- The stream has been asked for more than it has: its failure, if it has one that was not raised
before, is raised. -/
def finish (s : Streams) (i : Identity) (failure : Option String) : Option String × Streams :=
  match failure with
  | some message =>
    if (s.progress i).ended then (none, s)
    else (some message, s.set i { s.progress i with ended := true })
  | none => (none, s)

/-- A stream that fails at its end has done so once it has been asked for more than it has. -/
@[simp] theorem progress_finish_self (s : Streams) (i : Identity) (failure : Option String) :
    (s.finish i failure).2.progress i =
      { s.progress i with ended := (s.progress i).ended || failure.isSome } := by
  cases failure with
  | none => simp only [finish, Option.isSome_none, Bool.or_false]
  | some message =>
    rcases h : s.progress i with ⟨taken, ended⟩
    cases ended <;> simp [finish, h]

@[simp] theorem progress_finish_of_ne (s : Streams) {i j : Identity} (failure : Option String)
    (h : j ≠ i) : (s.finish i failure).2.progress j = s.progress j := by
  unfold finish
  split
  · split
    · rfl
    · exact progress_set_of_ne s _ h
  · rfl

end Streams

end RowInsert
