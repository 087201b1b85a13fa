/-!
# Search in a list in order

A test that holds from some place of a list on, and nowhere before it, has a first place.  The test
may fail, so it matters which elements are tested.

* `firstBetween` tests the middle of what is left.
* `firstNear` starts at a given place and goes away from it in steps that double, until it has
  passed the first place; then it tests the middle of the last step.
-/

namespace RowInsert.Sort

variable {α ε : Type}

/-- The test of the element at a place; beyond the end it holds. -/
def testAt (test : α → Except ε Bool) (xs : Array α) (i : Nat) : Except ε Bool :=
  match xs[i]? with
  | some x => test x
  | none => .ok true

/-- The first place from `low` to `high` at which the test holds, or `high`; `fuel` is at least
the number of places. -/
def firstBetween (test : α → Except ε Bool) (xs : Array α) : Nat → Nat → Nat → Except ε Nat
  | 0, low, _ => .ok low
  | fuel + 1, low, high =>
    if low < high then do
      let middle := low + (high - low) / 2
      if ← testAt test xs middle then firstBetween test xs fuel low middle
      else firstBetween test xs fuel (middle + 1) high
    else .ok low

/-- The last two distances, up to `limit`, of steps that double while `goOn` holds of the
distance; `fuel` is at least `limit`. -/
def stretch (goOn : Nat → Except ε Bool) (limit : Nat) : Nat → Nat → Nat → Except ε (Nat × Nat)
  | 0, last, distance => .ok (last, min distance limit)
  | fuel + 1, last, distance =>
    if distance < limit then do
      if ← goOn distance then stretch goOn limit fuel distance (2 * distance + 1)
      else return (last, distance)
    else .ok (last, limit)

/-- The first place at which the test holds, or the length, sought from the place `hint` on. -/
def firstNear (test : α → Except ε Bool) (xs : Array α) (hint : Nat) : Except ε Nat := do
  let n := xs.size
  if ← testAt test xs hint then
    let (last, distance) ←
      stretch (fun d => testAt test xs (hint - d)) (hint + 1) (hint + 1) 0 1
    firstBetween test xs n (hint + 1 - distance) (hint - last)
  else
    let (last, distance) ←
      stretch (fun d => return !(← testAt test xs (hint + d))) (n - hint) (n - hint) 0 1
    firstBetween test xs n (hint + last + 1) (hint + distance)

/-- A search between two places stays between them. -/
theorem firstBetween_mem {test : α → Except ε Bool} {xs : Array α}
    {fuel low high i : Nat} (h : firstBetween test xs fuel low high = .ok i)
    (hle : low ≤ high) : low ≤ i ∧ i ≤ high := by
  induction fuel generalizing low high with
  | zero => cases h; exact ⟨Nat.le_refl _, hle⟩
  | succ fuel ih =>
    rw [firstBetween] at h
    by_cases hlt : low < high
    · rw [if_pos hlt] at h
      dsimp only at h
      cases ht : testAt test xs (low + (high - low) / 2) with
      | error e => rw [ht] at h; cases h
      | ok b =>
        rw [ht] at h
        cases b with
        | true => have := @ih low _ h (by omega); omega
        | false => have := @ih _ high h (by omega); omega
    · rw [if_neg hlt] at h
      cases h
      exact ⟨Nat.le_refl _, hle⟩

end RowInsert.Sort
