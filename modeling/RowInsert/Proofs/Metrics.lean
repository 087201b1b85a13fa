import Mathlib.Algebra.GroupWithZero.Nat
import Mathlib.Tactic.SplitIfs
import RowInsert.State

/-!
# What an event adds to the metrics

* `lookup_alter` reads a table of series after one of its entries has been changed, and
  `sumOver_alter` adds up the entries under a name.
* `Event.IsCounted` is an event that ends a compilation, with its labels and whether it tells of a
  success; the lemmas on `Metrics.record` say what such an event adds to each metric: to the series
  of given labels, and to all series together.
-/

namespace RowInsert

/-! ### Tables of series -/

theorem lookup_cons_ite {κ α : Type} [DecidableEq κ] (k l : κ) (a : α) (rest : List (κ × α)) :
    ((l, a) :: rest).lookup k = if k = l then some a else rest.lookup k := by
  rw [List.lookup_cons]
  by_cases h : k = l
  · rw [if_pos h, beq_iff_eq.2 h]
  · rw [if_neg h, beq_false_of_ne h]

section Tables

variable {α : Type} (table : List (SeriesKey × α)) (key : SeriesKey) (start : α) (f : α → α)

theorem lookup_alter (k : SeriesKey) :
    (alter table key start f).lookup k =
      if k = key then some (f ((table.lookup key).getD start)) else table.lookup k := by
  induction table with
  | nil =>
    rw [alter, lookup_cons_ite]
    rfl
  | cons entry rest ih =>
    obtain ⟨l, a⟩ := entry
    simp only [lookup_cons_ite]
    unfold alter
    by_cases hl : l = key
    · subst hl
      simp only [lookup_cons_ite, ↓reduceIte, Option.getD_some]
      split_ifs <;> rfl
    · rw [if_neg hl, lookup_cons_ite, ih, if_neg (Ne.symm hl)]
      split_ifs with hk hkey
      · exact absurd (hk.symm.trans hkey) hl
      all_goals rfl

/-- The sizes of all entries under a name, whatever their labels, added up. -/
def sumOver (name : String) (size : α → Nat) (table : List (SeriesKey × α)) : Nat :=
  ((table.filter fun entry => entry.1.name = name).map fun entry => size entry.2).sum

theorem sumOver_cons (name : String) (size : α → Nat) (k : SeriesKey) (a : α)
    (rest : List (SeriesKey × α)) :
    sumOver name size ((k, a) :: rest) =
      (if k.name = name then size a else 0) + sumOver name size rest := by
  unfold sumOver
  by_cases h : k.name = name
  · simp [h]
  · simp [h]

/-- An entry whose size grows by one adds one to the sum under its name. -/
theorem sumOver_alter (name : String) {size : α → Nat} (hstart : size start = 0)
    (hf : ∀ a, size (f a) = size a + 1) :
    sumOver name size (alter table key start f) =
      sumOver name size table + if key.name = name then 1 else 0 := by
  induction table with
  | nil =>
    rw [alter, sumOver_cons, hf, hstart]
    exact Nat.add_comm _ _
  | cons entry rest ih =>
    obtain ⟨k, a⟩ := entry
    unfold alter
    rw [sumOver_cons]
    by_cases hk : k = key
    · subst hk
      rw [if_pos rfl, sumOver_cons, hf]
      split_ifs <;> omega
    · rw [if_neg hk, sumOver_cons, ih]
      omega

end Tables

theorem Journal.metricsOf_setMetrics (j : Journal) (name : String) (m : Metrics) :
    (j.setMetrics name m).metricsOf name = m := by
  have hput (table : List (String × Metrics)) :
      (setMetrics.put name m table).lookup name = some m := by
    induction table with
    | nil => exact List.lookup_cons_self
    | cons entry rest ih =>
      obtain ⟨n, old⟩ := entry
      unfold setMetrics.put
      split_ifs with hn
      · rw [hn, List.lookup_cons_self]
      · rw [lookup_cons_ite, if_neg (Ne.symm hn), ih]
  unfold metricsOf setMetrics
  dsimp only
  rw [hput]
  rfl

/-! ### Labels -/

theorem mem_of_sortedLabels_eq {a b : List (String × String)} (h : sortedLabels a = sortedLabels b)
    {x : String × String} (hx : x ∈ a) : x ∈ b := by
  unfold sortedLabels at h
  rw [← List.mem_mergeSort, ← h, List.mem_mergeSort]
  exact hx

theorem SeriesKey.of_eq_iff {n n' : String} {a b : List (String × String)} :
    SeriesKey.of n a = SeriesKey.of n' b ↔ n = n' ∧ sortedLabels a = sortedLabels b := by
  rw [SeriesKey.of, SeriesKey.of, SeriesKey.mk.injEq]

/-- The event ends a compilation, has these labels, and tells whether it was a success. -/
structure Event.IsCounted (e : Event) (labels : List (String × String)) (succeeded : Bool) :
    Prop where
  ends : e.endsCompilation = true
  labels : e.labels = .ok labels
  success : e.success.truthy = .ok succeeded

namespace Metrics

variable {m : Metrics} {e : Event} {labels : List (String × String)} {succeeded : Bool}

/-- The value of a counter for all labels together. -/
def total (m : Metrics) (name : String) : Nat := sumOver name id m.counters

/-- The number of observations of a histogram for all labels together. -/
def observed (m : Metrics) (name : String) : Nat := sumOver name List.length m.histograms

@[simp] theorem compilesTotal_ne_failuresTotal : compilesTotal ≠ failuresTotal := by decide

@[simp] theorem failuresTotal_ne_compilesTotal : failuresTotal ≠ compilesTotal := by decide

@[simp] theorem durationName_ne_rowsName : durationName ≠ rowsName := by decide

@[simp] theorem rowsName_ne_durationName : rowsName ≠ durationName := by decide

/-! ### Counting and observing -/

theorem counter_increment (key : SeriesKey) (name : String) (asked : List (String × String)) :
    (m.increment key).counter name asked =
      m.counter name asked + if SeriesKey.of name asked = key then 1 else 0 := by
  unfold counter increment
  rw [lookup_alter]
  split_ifs with h
  · rw [h]
    rfl
  · rfl

theorem total_increment (key : SeriesKey) (name : String) :
    (m.increment key).total name = m.total name + if key.name = name then 1 else 0 :=
  sumOver_alter _ _ _ _ name rfl fun _ => rfl

theorem counters_observe (key : SeriesKey) (v : Value) :
    (m.observe key v).counters = m.counters := by
  unfold observe
  split_ifs <;> rfl

theorem histogram_observe (key : SeriesKey) (v : Value) (name : String)
    (asked : List (String × String)) :
    (m.observe key v).histogram name asked =
      m.histogram name asked ++
        if SeriesKey.of name asked = key ∧ v.isNull = false then [v] else [] := by
  unfold observe histogram
  cases hv : v.isNull with
  | true => simp
  | false =>
    rw [if_neg Bool.false_ne_true, lookup_alter]
    by_cases h : SeriesKey.of name asked = key
    · subst h
      simp
    · simp [h]

theorem observed_observe (key : SeriesKey) (v : Value) (name : String) :
    (m.observe key v).observed name =
      m.observed name + if key.name = name ∧ v.isNull = false then 1 else 0 := by
  unfold observe observed
  cases hv : v.isNull with
  | true => simp
  | false =>
    simp only [Bool.false_eq_true, ↓reduceIte, and_true]
    exact sumOver_alter _ _ _ _ name rfl fun _ => List.length_append

/-! ### Adding an event -/

theorem record_eq (h : e.IsCounted labels succeeded) :
    m.record e =
      ((m.increment (.of compilesTotal labels)).recordOutcome e labels succeeded, .ok ()) := by
  unfold record recordLabelled
  rw [if_pos h.ends, h.labels]
  dsimp only
  rw [h.success]

theorem counters_recordOutcome :
    (m.recordOutcome e labels succeeded).counters =
      if succeeded then m.counters else (m.increment (.of failuresTotal labels)).counters := by
  unfold recordOutcome
  dsimp only
  rw [counters_observe, counters_observe]
  cases succeeded <;> rfl

theorem counter_recordOutcome (name : String) (asked : List (String × String)) :
    (m.recordOutcome e labels succeeded).counter name asked =
      m.counter name asked +
        if succeeded = false ∧ SeriesKey.of name asked = .of failuresTotal labels then 1
        else 0 := by
  have hcounter : (m.recordOutcome e labels succeeded).counter name asked =
      if succeeded then m.counter name asked
      else (m.increment (.of failuresTotal labels)).counter name asked := by
    unfold counter
    rw [counters_recordOutcome]
    cases succeeded <;> rfl
  rw [hcounter]
  cases succeeded with
  | true => simp
  | false => simp [counter_increment]

theorem total_recordOutcome (name : String) :
    (m.recordOutcome e labels succeeded).total name =
      m.total name + if succeeded = false ∧ failuresTotal = name then 1 else 0 := by
  have htotal : (m.recordOutcome e labels succeeded).total name =
      if succeeded then m.total name else (m.increment (.of failuresTotal labels)).total name := by
    unfold total
    rw [counters_recordOutcome]
    cases succeeded <;> rfl
  rw [htotal]
  cases succeeded with
  | true => simp
  | false => simp [total_increment, SeriesKey.of]

section Record

variable (h : e.IsCounted labels succeeded) (name : String) (asked : List (String × String))
include h

theorem counter_record :
    (m.record e).1.counter name asked =
      m.counter name asked
        + (if SeriesKey.of name asked = .of compilesTotal labels then 1 else 0)
        + if succeeded = false ∧ SeriesKey.of name asked = .of failuresTotal labels then 1
          else 0 := by
  rw [record_eq h]
  dsimp only
  rw [counter_recordOutcome, counter_increment]

theorem compiles_record :
    (m.record e).1.counter compilesTotal asked =
      m.counter compilesTotal asked +
        if sortedLabels asked = sortedLabels labels then 1 else 0 := by
  simp [counter_record h, SeriesKey.of_eq_iff]

theorem failures_record :
    (m.record e).1.counter failuresTotal asked =
      m.counter failuresTotal asked +
        if succeeded = false ∧ sortedLabels asked = sortedLabels labels then 1 else 0 := by
  simp [counter_record h, SeriesKey.of_eq_iff]

theorem total_record :
    (m.record e).1.total name =
      m.total name + (if compilesTotal = name then 1 else 0)
        + if succeeded = false ∧ failuresTotal = name then 1 else 0 := by
  rw [record_eq h]
  dsimp only
  rw [total_recordOutcome, total_increment]
  rfl

/-- Counting leaves the histograms alone. -/
theorem histograms_record :
    (m.record e).1.histograms =
      ((m.observe (.of durationName labels) e.duration).observe
        (.of rowsName labels) e.rowCount).histograms := by
  rw [record_eq h]
  unfold recordOutcome observe increment
  dsimp only
  cases succeeded <;> split_ifs <;> rfl

theorem histogram_record :
    (m.record e).1.histogram name asked =
      m.histogram name asked
        ++ (if SeriesKey.of name asked = .of durationName labels ∧ e.duration.isNull = false then
            [e.duration] else [])
        ++ if SeriesKey.of name asked = .of rowsName labels ∧ e.rowCount.isNull = false then
            [e.rowCount] else [] := by
  rw [← histogram_observe, ← histogram_observe, histogram, histograms_record h]
  rfl

theorem rows_record :
    (m.record e).1.histogram rowsName asked =
      m.histogram rowsName asked ++
        if sortedLabels asked = sortedLabels labels ∧ e.rowCount.isNull = false then
          [e.rowCount] else [] := by
  simp [histogram_record h, SeriesKey.of_eq_iff]

theorem observed_record :
    (m.record e).1.observed name =
      m.observed name
        + (if durationName = name ∧ e.duration.isNull = false then 1 else 0)
        + if rowsName = name ∧ e.rowCount.isNull = false then 1 else 0 := by
  rw [observed, histograms_record h]
  change ((m.observe _ e.duration).observe _ e.rowCount).observed name = _
  rw [observed_observe, observed_observe]
  rfl

end Record

end Metrics

end RowInsert
