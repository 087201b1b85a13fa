import Mathlib.Algebra.GroupWithZero.Nat
import RowInsert.Proofs.Run
import RowInsert.Value.Order

/-!
# Sorting keeps all elements

A sort whose comparison may fail, but did not, gives the elements that it was given.  Each step is
shown to keep the number of elements that satisfy any test, so that what a merge does with its two
runs comes down to sums: `Sort.countP_consume` for a merge, `Sort.sortBy_perm` and `sortKeyed_perm`
for the whole sort.
-/

namespace RowInsert.Sort

variable {α ε : Type} {less : α → α → Except ε Bool} {p : α → Bool} {side : Side}

theorem countP_take_add_drop (k : Nat) (l : List α) :
    (l.take k).countP p + (l.drop k).countP p = l.countP p := by
  rw [← List.countP_append, List.take_append_drop]

/-! ### Merges -/

theorem countP_orient (side : Side) (l : List α) : (side.orient l).countP p = l.countP p := by
  cases side
  · rfl
  · exact List.countP_reverse

theorem countP_rest {away stayed rest : List α} (h : Side.finished?.rest away stayed = some rest) :
    rest.countP p = away.countP p + stayed.countP p := by
  unfold Side.finished?.rest at h
  split at h
  · cases h
    rfl
  · cases h
    simp
  · cases h
    simp [List.countP_append, Nat.add_comm]
  · cases h

theorem countP_finished {a b rest : List α} (h : side.finished? a b = some rest) :
    rest.countP p = a.countP p + b.countP p := by
  cases side with
  | front => exact countP_rest h
  | back => exact (countP_rest h).trans (Nat.add_comm _ _)

section Consume

variable {fuel patience after : Nat} {a b out rest merged : List α} {x y : α}

/-- What is left over at the end of a merge follows what was consumed. -/
theorem countP_of_ended {n : Nat}
    (h : (.ok (out.reverse ++ rest, n) : Except ε (List α × Nat)) = .ok (merged, after)) :
    merged.countP p = rest.countP p + out.countP p := by
  cases h
  rw [List.countP_append, List.countP_reverse, Nat.add_comm]

theorem countP_consume_pairs {wins : Nat} {winner : Bool}
    (hnext : ∀ {patience mode a b out}, consume less side fuel patience mode a b out =
      .ok (merged, after) → merged.countP p = a.countP p + b.countP p + out.countP p)
    (h : consume less side (fuel + 1) patience (.pairs wins winner) (x :: a) (y :: b) out =
      .ok (merged, after)) :
    merged.countP p = (x :: a).countP p + (y :: b).countP p + out.countP p := by
  rw [consume] at h
  obtain ⟨first, -, h⟩ := bind_ok h
  dsimp only at h
  -- whichever run gives its element away, the three lists together keep theirs
  generalize htaken : (if (first == (side == Side.front)) = true then (x :: a, b, y :: out)
    else (a, y :: b, x :: out)) = taken at h
  have htotal : taken.1.countP p + taken.2.1.countP p + taken.2.2.countP p =
      (x :: a).countP p + (y :: b).countP p + out.countP p := by
    rw [← htaken]
    split_ifs <;> simp only [List.countP_cons] <;> omega
  split at h
  · rename_i rest hrest
    rw [countP_of_ended h, countP_finished hrest, htotal]
  · split_ifs at h
    all_goals rw [hnext h, htotal]

theorem countP_consume_search
    (hnext : ∀ {patience mode a b out}, consume less side fuel patience mode a b out =
      .ok (merged, after) → merged.countP p = a.countP p + b.countP p + out.countP p)
    (h : consume less side (fuel + 1) patience .search (x :: a) (y :: b) out =
      .ok (merged, after)) :
    merged.countP p = (x :: a).countP p + (y :: b).countP p + out.countP p := by
  rw [consume] at h
  obtain ⟨k, -, h⟩ := bind_ok h
  have hfirst := countP_take_add_drop (p := p) k (x :: a)
  have hout : (((x :: a).take k).reverse ++ out).countP p =
      ((x :: a).take k).countP p + out.countP p := by
    rw [List.countP_append, List.countP_reverse]
  -- from here on only the sums matter, not which elements were taken
  generalize (x :: a).drop k = a', ((x :: a).take k).reverse ++ out = out' at h hfirst hout
  dsimp only at h
  split at h
  · rename_i rest hrest
    have hrest := countP_finished (p := p) hrest
    have hmerged := countP_of_ended (p := p) h
    omega
  · rename_i rest _ hrest
    have hrest := countP_finished (p := p) hrest
    have hmerged := countP_of_ended (p := p) h
    simp only [List.countP_cons] at *
    omega
  · have hmerged := countP_of_ended (p := p) h
    simp only [List.countP_cons, List.countP_nil] at *
    omega
  · rename_i x' a'' _ _
    -- neither run is finished: the second one is searched with what the first one comes to
    obtain ⟨m, -, h⟩ := bind_ok h
    have hsecond := countP_take_add_drop (p := p) m b
    have hout' : ((b.take m).reverse ++ y :: out').countP p =
        (b.take m).countP p + (y :: out').countP p := by
      rw [List.countP_append, List.countP_reverse]
    generalize b.drop m = b', (b.take m).reverse ++ y :: out' = out'' at h hsecond hout'
    simp only [List.countP_cons] at hfirst hout' ⊢
    split at h
    · rename_i rest hrest
      have hrest := countP_finished (p := p) hrest
      have hmerged := countP_of_ended (p := p) h
      simp only [List.countP_cons] at hrest
      omega
    · rename_i rest _ hrest
      have hrest := countP_finished (p := p) hrest
      have hmerged := countP_of_ended (p := p) h
      simp only [List.countP_cons] at hmerged
      omega
    · have hmerged : merged.countP p =
          a''.countP p + b'.countP p + (x' :: out'').countP p := by
        split_ifs at h
        all_goals exact hnext h
      simp only [List.countP_cons] at hmerged
      omega

/-- Whatever a merge does, none of the elements of the two runs is lost. -/
theorem countP_consume {mode : Mode}
    (h : consume less side fuel patience mode a b out = .ok (merged, after)) :
    merged.countP p = a.countP p + b.countP p + out.countP p := by
  induction fuel generalizing patience mode a b out with
  | zero =>
    rw [consume, List.append_assoc] at h
    · rw [countP_of_ended h, List.countP_append]
    all_goals simp
  | succ fuel ih =>
    match mode, a, b with
    | .pairs .., [], b | .pairs .., _ :: _, [] | .search, [], b | .search, _ :: _, [] =>
      rw [consume, List.append_assoc] at h
      · rw [countP_of_ended h, List.countP_append]
      all_goals simp
    | .pairs .., _ :: _, _ :: _ => exact countP_consume_pairs ih h
    | .search, _ :: _, _ :: _ => exact countP_consume_search ih h

end Consume

theorem countP_consumeFrom {patience after : Nat} {a b merged : List α}
    (h : consumeFrom less side patience a b = .ok (merged, after)) :
    merged.countP p = a.countP p + b.countP p := by
  have hfront := countP_take_add_drop (p := p) 1 b
  have hback := countP_take_add_drop (p := p) 1 a.reverse
  have ha := List.countP_reverse (p := p) (l := a)
  have hb := List.countP_reverse (p := p) (l := b)
  unfold consumeFrom at h
  cases side
  all_goals
    dsimp only at h
    split at h
    · rename_i rest hrest
      cases h
      rw [countP_orient, List.countP_append, countP_finished hrest]
      omega
    · obtain ⟨⟨consumed, _⟩, hconsumed, h⟩ := bind_ok h
      cases h
      rw [countP_orient, countP_consume hconsumed]
      omega

theorem countP_mergeRuns {patience after : Nat} {a b merged : List α}
    (h : mergeRuns less patience a b = .ok (merged, after)) :
    merged.countP p = a.countP p + b.countP p := by
  have hboth {n : Nat} (h : (.ok (a ++ b, n) : Except ε (List α × Nat)) = .ok (merged, after)) :
      merged.countP p = a.countP p + b.countP p := by
    cases h
    exact List.countP_append
  unfold mergeRuns at h
  split at h
  · obtain ⟨k, -, h⟩ := bind_ok h
    split at h
    · exact hboth h
    · obtain ⟨m, -, h⟩ := bind_ok h
      split at h
      · exact hboth h
      · obtain ⟨⟨middle, _⟩, hmiddle, h⟩ := bind_ok h
        cases h
        have := countP_consumeFrom (p := p) hmiddle
        have := countP_take_add_drop (p := p) k a
        have := countP_take_add_drop (p := p) m b
        simp only [List.countP_append]
        omega
  · exact hboth h

/-! ### Runs -/

theorem countP_insertAll {xs ys : List α} {sorted : Array α}
    (h : insertAll less xs sorted = .ok ys) :
    ys.countP p = xs.countP p + sorted.toList.countP p := by
  induction xs generalizing sorted with
  | nil =>
    cases h
    simp
  | cons x xs ih =>
    obtain ⟨place, -, h⟩ := bind_ok h
    have := countP_take_add_drop (p := p) place sorted.toList
    rw [ih h, List.countP_append, List.countP_cons, List.countP_cons]
    omega

theorem countP_takeRun {least : Nat} {xs run left : List α}
    (h : takeRun less least xs = .ok (run, left)) :
    run.countP p + left.countP p = xs.countP p := by
  unfold takeRun at h
  split at h
  · rename_i a b rest
    obtain ⟨falling, -, h⟩ := bind_ok h
    obtain ⟨n, -, h⟩ := bind_ok h
    have hall := countP_take_add_drop (p := p) (n + 1) (a :: b :: rest)
    generalize hrun : (if falling = true then ((a :: b :: rest).take (n + 1)).reverse
      else (a :: b :: rest).take (n + 1)) = run' at h
    have hsame : run'.countP p = ((a :: b :: rest).take (n + 1)).countP p := by
      rw [← hrun]
      split_ifs
      · exact List.countP_reverse
      · rfl
    dsimp only at h
    split_ifs at h with hshort
    · obtain ⟨filled, hfilled, h⟩ := bind_ok h
      cases h
      have hmore := countP_take_add_drop (p := p) least (a :: b :: rest)
      have hfirst := countP_take_add_drop (p := p) (n + 1) ((a :: b :: rest).take least)
      rw [List.take_take, Nat.min_eq_left (Nat.le_of_lt hshort)] at hfirst
      rw [countP_insertAll hfilled]
      dsimp only
      omega
    · cases h
      omega
  · cases h
    simp

/-! ### The stack of runs -/

theorem countP_mergeTop {patience after : Nat} {below top merged : Pending α}
    (h : mergeTop less patience below top = .ok (merged, after)) :
    merged.run.countP p = below.run.countP p + top.run.countP p := by
  obtain ⟨⟨run, _⟩, hrun, h⟩ := bind_ok h
  cases h
  exact countP_mergeRuns hrun

/-- The number of elements on a stack that satisfy a test. -/
def pendingCount (p : α → Bool) (stack : List (Pending α)) : Nat :=
  (stack.map fun r => r.run.countP p).sum

theorem pendingCount_cons (r : Pending α) (stack : List (Pending α)) :
    pendingCount p (r :: stack) = r.run.countP p + pendingCount p stack := by
  rw [pendingCount, List.map_cons, List.sum_cons]
  rfl

theorem pendingCount_collapse {power fuel patience after : Nat} {stack collapsed : List (Pending α)}
    (h : collapse less power fuel stack patience = .ok (collapsed, after)) :
    pendingCount p collapsed = pendingCount p stack := by
  induction fuel generalizing stack patience with
  | zero =>
    cases h
    rfl
  | succ fuel ih =>
    match stack with
    | [] | [_] =>
      cases h
      rfl
    | top :: below :: rest =>
      rw [collapse] at h
      split_ifs at h
      · obtain ⟨⟨merged, _⟩, hmerged, h⟩ := bind_ok h
        rw [ih h, pendingCount_cons, countP_mergeTop hmerged, pendingCount_cons, pendingCount_cons]
        omega
      · cases h
        rfl

theorem pendingCount_setPower (power : Nat) (stack : List (Pending α)) :
    pendingCount p (setPower power stack) = pendingCount p stack := by
  cases stack <;> rfl

theorem countP_flatMap_reverse (stack : List (Pending α)) :
    (stack.reverse.flatMap Pending.run).countP p = pendingCount p stack := by
  induction stack with
  | nil => rfl
  | cons r stack ih =>
    rw [List.reverse_cons, List.flatMap_append, List.countP_append, ih, pendingCount_cons]
    simp [Nat.add_comm]

theorem countP_collapseAll {fuel patience : Nat} {stack : List (Pending α)} {sorted : List α}
    (h : collapseAll less fuel stack patience = .ok sorted) :
    sorted.countP p = pendingCount p stack := by
  have hpair {patience : Nat} {top below : Pending α}
      (h : (do return (← mergeTop less patience below top).1.run) = Except.ok sorted) :
      sorted.countP p = pendingCount p [top, below] := by
    obtain ⟨⟨merged, _⟩, hmerged, h⟩ := bind_ok h
    cases h
    rw [countP_mergeTop hmerged]
    simp [pendingCount, Nat.add_comm]
  induction fuel generalizing stack patience with
  | zero =>
    match stack with
    | [top, below] => exact hpair h
    | [] | [_] | _ :: _ :: _ :: _ =>
      cases h
      exact countP_flatMap_reverse _
  | succ fuel ih =>
    match stack with
    | [top, below] => exact hpair h
    | [] | [_] =>
      cases h
      exact countP_flatMap_reverse _
    | top :: below :: deeper :: rest =>
      rw [collapseAll] at h
      split_ifs at h
      all_goals
        obtain ⟨⟨merged, _⟩, hmerged, h⟩ := bind_ok h
        rw [ih h]
        simp only [pendingCount_cons, countP_mergeTop hmerged]
        omega

/-- A run takes at least one element. -/
theorem length_takeRun {least : Nat} {x : α} {rest run left : List α}
    (h : takeRun less least (x :: rest) = .ok (run, left)) : left.length ≤ rest.length := by
  unfold takeRun at h
  split at h
  · rename_i a b rest' heq
    cases heq
    obtain ⟨falling, -, h⟩ := bind_ok h
    obtain ⟨n, -, h⟩ := bind_ok h
    generalize (if falling = true then _ else _) = run' at h
    split at h
    · obtain ⟨filled, -, h⟩ := bind_ok h
      cases h
      rw [List.length_drop]
      simp only [List.length_cons]
      omega
    · cases h
      rw [List.length_drop]
      simp only [List.length_cons]
      omega
  · cases h
    exact Nat.zero_le _

/-- As long as there is fuel for every element, none is left behind. -/
theorem countP_sortRuns {n least fuel start patience : Nat} {xs sorted : List α}
    {stack : List (Pending α)} (hfuel : xs.length ≤ fuel)
    (h : sortRuns less n least fuel start xs stack patience = .ok sorted) :
    sorted.countP p = xs.countP p + pendingCount p stack := by
  induction fuel generalizing start xs stack patience with
  | zero =>
    -- without fuel the elements that are left would be lost; there are none
    obtain rfl := List.eq_nil_of_length_eq_zero (Nat.le_zero.1 hfuel)
    rw [countP_collapseAll h]
    simp
  | succ fuel ih =>
    match xs with
    | [] =>
      rw [countP_collapseAll h]
      simp
    | x :: rest =>
      rw [sortRuns] at h
      obtain ⟨⟨run, left⟩, htaken, h⟩ := bind_ok h
      have hleft : left.length ≤ fuel :=
        Nat.le_trans (length_takeRun htaken) (Nat.le_of_succ_le_succ hfuel)
      have htotal := countP_takeRun (p := p) htaken
      dsimp only at h
      split at h
      · rw [ih hleft h, pendingCount_cons]
        dsimp only
        omega
      · obtain ⟨⟨collapsed, _⟩, hcollapsed, h⟩ := bind_ok h
        rw [ih hleft h, pendingCount_cons, pendingCount_setPower, pendingCount_collapse hcollapsed]
        dsimp only
        omega

/-- **A sort gives the elements that it was given,** whatever the comparison is. -/
theorem sortBy_perm {xs sorted : List α} (h : sortBy less xs = .ok sorted) : sorted.Perm xs := by
  classical
  refine List.perm_iff_count.2 fun x => ?_
  rw [List.count, countP_sortRuns (Nat.le_refl _) h]
  rfl

end RowInsert.Sort

namespace RowInsert

theorem sortKeyed_perm {α : Type} {entries sorted : List (Value × α)}
    (h : sortKeyed entries = .ok sorted) : sorted.Perm entries := by
  unfold sortKeyed at h
  split_ifs at h
  · cases h
    exact List.mergeSort_perm _ _
  · exact Sort.sortBy_perm h

end RowInsert
