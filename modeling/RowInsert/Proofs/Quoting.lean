import Mathlib.Data.List.Basic
import Mathlib.Tactic.SplitIfs
import RowInsert.Identifier

/-!
# Reading quoted identifiers

* `Identifier.readQuoted` reads up to the first closing mark that is not written twice.
* `Identifier.mark_induction` is the induction that follows the occurrences of a mark in a text.
* `Identifier.readQuoted_double` : what has been quoted is read as it was, if the mark does not
  overlap itself and what follows does not begin with it.
* `Identifier.double_injective` : doubling keeps texts apart, whether the mark overlaps itself or
  not.
* `Identifier.readQuoted_overlap` : a mark that overlaps itself is met inside a text that it does
  not occur in, once the mark follows.
-/

namespace RowInsert.Identifier

/-- `readQuoted` where `pending` characters belong to marks that have been read already. -/
def readFrom (mark : List Char) : Nat → List Char → Option (List Char × List Char)
  | _, [] => none
  | pending + 1, _ :: rest => readFrom mark pending rest
  | 0, c :: rest =>
    if (mark ++ mark).isPrefixOf (c :: rest) then
      (readFrom mark (2 * mark.length - 1) rest).map fun (s, t) => (mark ++ s, t)
    else if mark.isPrefixOf (c :: rest) then some ([], (c :: rest).drop mark.length)
    else (readFrom mark 0 rest).map fun (s, t) => (c :: s, t)

/-- A text up to the first mark that is not written twice, with those that are read once each, and
what follows that mark. -/
def readQuoted (mark s : List Char) : Option (List Char × List Char) := readFrom mark 0 s

/-- The mark does not overlap itself: what begins it and ends it is all of it, or nothing. -/
def BorderFree (mark : List Char) : Prop := ∀ w, w <+: mark → w <:+ mark → w = [] ∨ w = mark

theorem borderFree_singleton (c : Char) : BorderFree [c] := by
  intro w hw _
  rcases List.prefix_cons_iff.1 hw with rfl | ⟨t, rfl, ht⟩
  · exact .inl rfl
  · rw [List.prefix_nil.1 ht]
    exact .inr rfl

theorem readFrom_eq_drop (mark : List Char) (pending : Nat) (s : List Char) :
    readFrom mark pending s = readFrom mark 0 (s.drop pending) := by
  induction pending generalizing s with
  | zero => rw [List.drop_zero]
  | succ n ih =>
    cases s with
    | nil => simp only [readFrom, List.drop_nil]
    | cons c rest => rw [readFrom, ih, List.drop_succ_cons]

theorem length_of_readFrom {mark : List Char} {pending : Nat} {s name rest : List Char}
    (h : readFrom mark pending s = some (name, rest)) :
    rest.length < s.length := by
  induction s generalizing pending name rest with
  | nil => cases pending <;> simp [readFrom] at h
  | cons c s ih =>
    cases pending with
    | succ n => exact Nat.lt_succ_of_lt (ih h)
    | zero =>
      unfold readFrom at h
      split_ifs at h with htwo
      · obtain ⟨⟨n, r⟩, hr, hp⟩ := Option.map_eq_some_iff.1 h
        cases hp
        exact Nat.lt_succ_of_lt (ih hr)
      · cases h
        have hmark : mark ≠ [] := by
          rintro rfl
          exact htwo rfl
        have := List.length_pos_iff.2 hmark
        simp only [List.length_drop, List.length_cons]
        omega
      · obtain ⟨⟨n, r⟩, hr, hp⟩ := Option.map_eq_some_iff.1 h
        cases hp
        exact Nat.lt_succ_of_lt (ih hr)

section Mark

variable {mark : List Char}

/-! ### One step -/

theorem readQuoted_twice (hmark : mark ≠ []) (s : List Char) :
    readQuoted mark (mark ++ mark ++ s) =
      (readQuoted mark s).map fun (name, t) => (mark ++ name, t) := by
  obtain ⟨c, rest, rfl⟩ := List.exists_cons_of_ne_nil hmark
  have hp : (c :: rest ++ c :: rest).isPrefixOf (c :: rest ++ c :: rest ++ s) = true :=
    List.isPrefixOf_iff_prefix.2 (List.prefix_append _ _)
  have hd : (rest ++ c :: rest ++ s).drop (2 * (rest.length + 1) - 1) = s := by
    rw [List.drop_left' (by simp only [List.length_append, List.length_cons]; omega)]
  simp only [readQuoted, List.cons_append, readFrom] at hp ⊢
  rw [if_pos hp, readFrom_eq_drop, List.length_cons]
  simp only [← List.cons_append] at hd ⊢
  rw [hd]

theorem readQuoted_end (hmark : mark ≠ []) {t : List Char} (ht : ¬ mark <+: t) :
    readQuoted mark (mark ++ t) = some ([], t) := by
  have hone : mark.isPrefixOf (mark ++ t) = true :=
    List.isPrefixOf_iff_prefix.2 (List.prefix_append mark t)
  have htwo : ¬ (mark ++ mark).isPrefixOf (mark ++ t) = true := by
    rwa [List.isPrefixOf_iff_prefix, List.prefix_append_right_inj]
  obtain ⟨c, rest, rfl⟩ := List.exists_cons_of_ne_nil hmark
  simp only [List.cons_append] at hone htwo
  simp only [readQuoted, List.cons_append, readFrom]
  rw [if_neg htwo, if_pos hone, ← List.cons_append, List.drop_left]

theorem readQuoted_cons {c : Char} {s : List Char} (h : ¬ mark <+: c :: s) :
    readQuoted mark (c :: s) = (readQuoted mark s).map fun (name, t) => (c :: name, t) := by
  have hone : ¬ mark.isPrefixOf (c :: s) = true := by rwa [List.isPrefixOf_iff_prefix]
  have htwo : ¬ (mark ++ mark).isPrefixOf (c :: s) = true := by
    rw [List.isPrefixOf_iff_prefix]
    exact fun h2 => h ((List.prefix_append mark mark).trans h2)
  simp only [readQuoted, readFrom]
  rw [if_neg htwo, if_neg hone]

/-! ### All steps -/

/-- Induction along the occurrences of a mark, from left to right and without overlap. -/
theorem mark_induction (hmark : mark ≠ []) {motive : List Char → Prop} (nil : motive [])
    (occurrence : ∀ s, motive s → motive (mark ++ s))
    (cons : ∀ c s, ¬ mark <+: c :: s → motive s → motive (c :: s)) (s : List Char) : motive s := by
  induction hn : s.length using Nat.strongRecOn generalizing s with
  | _ n ih =>
    by_cases hp : mark <+: s
    · obtain ⟨rest, rfl⟩ := hp
      have := List.length_pos_iff.2 hmark
      exact occurrence rest (ih rest.length (by rw [← hn, List.length_append]; omega) rest rfl)
    · cases s with
      | nil => exact nil
      | cons c s => exact cons c s hp (ih s.length (by rw [← hn, List.length_cons]; omega) s rfl)

/-- Writing marks twice does not bring about an occurrence at the front. -/
theorem prefix_of_prefix_double (hmark : mark ≠ []) {s t : List Char}
    (h : mark <+: double mark s ++ mark ++ t) : mark <+: s ++ mark := by
  -- Up to its first occurrence, and with that, nothing but the mark at the end is added to `s`.
  have hfirst : ∃ u x y, s ++ mark = u ++ mark ++ x ∧ double mark s ++ mark = u ++ mark ++ y := by
    clear h
    induction s using mark_induction hmark with
    | nil => exact ⟨[], [], [], by simp only [List.nil_append, List.append_nil],
        by simp only [double_nil, List.nil_append, List.append_nil]⟩
    | occurrence s _ =>
      refine ⟨[], s ++ mark, mark ++ double mark s ++ mark, ?_, ?_⟩
      · simp only [List.nil_append, List.append_assoc]
      · simp only [double_append hmark, List.nil_append, List.append_assoc]
    | cons c s hc ih =>
      obtain ⟨u, x, y, hx, hy⟩ := ih
      refine ⟨c :: u, x, y, ?_, ?_⟩
      · simp only [List.cons_append, hx]
      · simp only [double_cons hc, List.cons_append, hy]
  obtain ⟨u, x, y, hx, hy⟩ := hfirst
  rw [hy, List.append_assoc (u ++ mark)] at h
  rw [hx]
  have hu : mark <+: u ++ mark := List.prefix_of_prefix_length_le h (List.prefix_append _ _)
    (by rw [List.length_append]; omega)
  exact hu.trans (List.prefix_append _ x)

/-- A mark that does not overlap itself occurs in front of itself only where it is. -/
theorem prefix_of_prefix_append (hb : BorderFree mark) {s : List Char} (hs : s ≠ [])
    (h : mark <+: s ++ mark) : mark <+: s := by
  rcases List.prefix_or_prefix_of_prefix h (List.prefix_append s mark) with h' | ⟨w, rfl⟩
  · exact h'
  · have hw : w <+: s ++ w := (List.prefix_append_right_inj s).1 h
    rcases hb w hw (List.suffix_append s w) with rfl | hw
    · exact ⟨[], by simp only [List.append_nil]⟩
    · exact absurd (List.self_eq_append_left.1 hw) hs

/-- **What has been quoted is read as it was.** -/
theorem readQuoted_double (hmark : mark ≠ []) (hb : BorderFree mark) {t : List Char}
    (ht : ¬ mark <+: t) (s : List Char) :
    readQuoted mark (double mark s ++ mark ++ t) = some (s, t) := by
  induction s using mark_induction hmark with
  | nil =>
    rw [double_nil, List.nil_append]
    exact readQuoted_end hmark ht
  | occurrence s ih =>
    rw [double_append hmark, List.append_assoc, List.append_assoc, readQuoted_twice hmark,
      ← List.append_assoc, ih]
    rfl
  | cons c s hc ih =>
    have hfront : ¬ mark <+: c :: (double mark s ++ mark ++ t) := by
      intro hp
      rw [← List.cons_append, ← List.cons_append, ← double_cons hc] at hp
      exact hc (prefix_of_prefix_append hb (List.cons_ne_nil c s)
        (prefix_of_prefix_double hmark hp))
    rw [double_cons hc, List.cons_append, List.cons_append, readQuoted_cons hfront, ih]
    rfl

/-! ### Doubling keeps texts apart -/

/-- A mark does not occur in a text that is shorter. -/
theorem double_of_length_lt {s : List Char} (h : s.length < mark.length) : double mark s = s := by
  induction s with
  | nil => exact double_nil mark
  | cons c s ih =>
    have hfront : ¬ mark <+: c :: s := fun hp => absurd hp.length_le (by omega)
    have hrest : s.length < mark.length := by
      rw [List.length_cons] at h
      omega
    rw [double_cons hfront, ih hrest]

/-- What a doubled text begins with, the text itself begins with. -/
theorem prefix_of_prefix_double_self (hmark : mark ≠ []) {s : List Char}
    (h : mark <+: double mark s) : mark <+: s := by
  rcases Nat.lt_or_ge s.length mark.length with hlt | hle
  · rwa [double_of_length_lt hlt] at h
  · have hlong : mark <+: double mark s ++ mark ++ [] := by
      rw [List.append_nil]
      exact h.trans (List.prefix_append _ mark)
    have hends : mark <+: s ++ mark := prefix_of_prefix_double hmark hlong
    exact List.prefix_of_prefix_length_le hends (List.prefix_append s mark) hle

theorem double_eq_nil_iff {s : List Char} : double mark s = [] ↔ s = [] := by
  constructor
  · intro h
    by_cases hmark : mark = []
    · subst hmark
      exact h
    · cases s using mark_induction hmark with
      | nil => rfl
      | occurrence s =>
        rw [double_append hmark] at h
        exact absurd (List.append_eq_nil_iff.1 (List.append_eq_nil_iff.1 h).1).1 hmark
      | cons c s hc =>
        rw [double_cons hc] at h
        cases h
  · rintro rfl
    exact double_nil mark

/-- **Doubling a mark keeps texts apart,** whatever the mark is. -/
theorem double_injective (mark : List Char) : Function.Injective (double mark) := by
  intro s t h
  by_cases hmark : mark = []
  · subst hmark
    exact h
  -- Both texts are followed along the occurrences of the mark in the first: what is doubled begins
  -- with the mark just if the text does, so the second text has its occurrences in the same places.
  induction s using mark_induction hmark generalizing t with
  | nil =>
    rw [double_nil] at h
    exact (double_eq_nil_iff.1 h.symm).symm
  | occurrence s ih =>
    rw [double_append hmark, List.append_assoc] at h
    have hfront : mark <+: t := by
      apply prefix_of_prefix_double_self hmark
      rw [← h]
      exact List.prefix_append mark _
    obtain ⟨t, rfl⟩ := hfront
    rw [double_append hmark, List.append_assoc] at h
    have hrest : double mark s = double mark t :=
      List.append_cancel_left (List.append_cancel_left h)
    rw [ih hrest]
  | cons c s hc ih =>
    have hfront : ¬ mark <+: t := by
      rintro ⟨t, rfl⟩
      rw [double_append hmark, List.append_assoc] at h
      apply hc
      apply prefix_of_prefix_double_self hmark
      rw [h]
      exact List.prefix_append mark _
    rw [double_cons hc] at h
    cases t with
    | nil =>
      rw [double_nil] at h
      cases h
    | cons d t =>
      rw [double_cons hfront] at h
      obtain ⟨rfl, hrest⟩ := List.cons.inj h
      rw [ih hrest]

/-! ### Marks that overlap themselves -/

/-- **A mark that overlaps itself ends a quotation too early.**  The text is what stands before the
overlap: followed by the mark, it begins with the mark. -/
theorem readQuoted_overlap (h : ¬ BorderFree mark) :
    ∃ s, s ≠ [] ∧ (∀ c ∈ s, c ∈ mark) ∧ readQuoted mark (double mark s ++ mark) ≠ some (s, []) := by
  unfold BorderFree at h
  push Not at h
  obtain ⟨w, ⟨after, hafter⟩, ⟨before, hbefore⟩, hne, hproper⟩ := h
  have hpos : 0 < w.length := List.length_pos_iff.2 hne
  have hlength : before.length + w.length = mark.length := by
    rw [← hbefore, List.length_append]
  have hlength' : w.length + after.length = mark.length := by
    rw [← hafter, List.length_append]
  have hmark : mark ≠ [] := by
    rintro rfl
    exact hne (List.append_eq_nil_iff.1 hafter).1
  have hsome : before ≠ [] := by
    rintro rfl
    exact hproper hbefore
  refine ⟨before, hsome, fun c hc => ?_, ?_⟩
  · rw [← hbefore]
    exact List.mem_append_left w hc
  · -- The mark is read at once, and what is left of it after the overlap is no mark.
    have hplain : double mark before = before := double_of_length_lt (by omega)
    have hfront : before ++ mark = mark ++ after := calc
      before ++ mark = before ++ (w ++ after) := by rw [hafter]
      _ = before ++ w ++ after := (List.append_assoc before w after).symm
      _ = mark ++ after := by rw [hbefore]
    have hshort : ¬ mark <+: after := fun hp => absurd hp.length_le (by omega)
    rw [hplain, hfront, readQuoted_end hmark hshort]
    intro heq
    have := congrArg Prod.fst (Option.some.inj heq)
    exact hsome this.symm

end Mark

end RowInsert.Identifier
