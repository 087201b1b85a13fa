import Mathlib.Data.List.Induction
import Mathlib.Data.List.Nodup
import Mathlib.Data.String.Basic
import RowInsert.Proofs.Metrics
import RowInsert.Proofs.Observation

/-!
# What metrics say of a stream of events

* `Metrics.ofUses` are the metrics in which some series were counted and some values observed, and
  nothing else: each series has one entry, in the order of first use.
* `Metrics.record_ofUses` is the step: an event adds the series that it marks and the values that
  are observed of it.
* `sortedLabels_eq_iff` : sets of labels are kept apart, whatever order they come in.
* `Leaf.deliver_summarised` : a keeper of metrics that was given a stream of events has counted and
  observed just what the events say, series by series.
-/

namespace RowInsert

/-! ### Sets of labels -/

/-- The order that labels are kept in. -/
def labelLE (a b : String × String) : Bool := a.1 < b.1 || (a.1 == b.1 && a.2 ≤ b.2)

theorem labelLE_iff {a b : String × String} :
    labelLE a b = true ↔ a.1 < b.1 ∨ a.1 = b.1 ∧ a.2 ≤ b.2 := by
  simp [labelLE]

theorem labelLE_trans (a b c : String × String) (hab : labelLE a b = true)
    (hbc : labelLE b c = true) : labelLE a c = true := by
  rw [labelLE_iff] at *
  rcases hab with hab | ⟨hab, hab'⟩
  · rcases hbc with hbc | ⟨hbc, -⟩
    · exact .inl (lt_trans hab hbc)
    · exact .inl (hbc ▸ hab)
  · rcases hbc with hbc | ⟨hbc, hbc'⟩
    · exact .inl (hab ▸ hbc)
    · exact .inr ⟨hab.trans hbc, le_trans hab' hbc'⟩

theorem labelLE_total (a b : String × String) : (labelLE a b || labelLE b a) = true := by
  rw [Bool.or_eq_true, labelLE_iff, labelLE_iff]
  rcases lt_trichotomy a.1 b.1 with h | h | h
  · exact .inl (.inl h)
  · rcases le_total a.2 b.2 with h' | h'
    · exact .inl (.inr ⟨h, h'⟩)
    · exact .inr (.inr ⟨h.symm, h'⟩)
  · exact .inr (.inl h)

theorem labelLE_antisymm {a b : String × String} (hab : labelLE a b = true)
    (hba : labelLE b a = true) : a = b := by
  rw [labelLE_iff] at hab hba
  rcases hab with hab | ⟨hab, hab'⟩
  · rcases hba with hba | ⟨hba, -⟩
    · exact absurd hba (lt_asymm hab)
    · exact absurd hab (hba ▸ lt_irrefl _)
  · rcases hba with hba | ⟨-, hba'⟩
    · exact absurd hba (hab ▸ lt_irrefl _)
    · exact Prod.ext hab (le_antisymm hab' hba')

theorem perm_sortedLabels (labels : List (String × String)) : (sortedLabels labels).Perm labels :=
  List.mergeSort_perm labels labelLE

theorem eq_sortedLabels {labels sorted : List (String × String)} (hperm : sorted.Perm labels)
    (hsorted : sorted.Pairwise fun a b => labelLE a b = true) : sortedLabels labels = sorted :=
  List.Perm.eq_of_pairwise (fun _ _ _ _ => labelLE_antisymm)
    (List.pairwise_mergeSort labelLE_trans labelLE_total labels) hsorted
    ((perm_sortedLabels labels).trans hperm.symm)

/-- **Labels are kept under one form just if they are the same,** in whatever order they come. -/
theorem sortedLabels_eq_iff {a b : List (String × String)} :
    sortedLabels a = sortedLabels b ↔ a.Perm b := by
  constructor
  · intro h
    exact (perm_sortedLabels a).symm.trans (h ▸ perm_sortedLabels b)
  · intro h
    exact eq_sortedLabels ((perm_sortedLabels b).trans h.symm)
      (List.pairwise_mergeSort labelLE_trans labelLE_total b)

/-! ### Tables by first use -/

section FirstUse

variable {α β : Type} [DecidableEq β]

/-- One more use adds an entry only if it is the first. -/
theorem eraseDups_append_singleton (keys : List β) (key : β) :
    (keys ++ [key]).eraseDups =
      if key ∈ keys then keys.eraseDups else keys.eraseDups ++ [key] := by
  rw [List.eraseDups_append]
  by_cases h : key ∈ keys
  · simp [List.removeAll, h]
  · simp [List.removeAll, h, List.eraseDups_cons]

theorem nodup_eraseDups (keys : List β) : keys.eraseDups.Nodup := by
  induction keys using List.reverseRecOn with
  | nil => exact List.nodup_nil
  | append_singleton keys key ih =>
    rw [eraseDups_append_singleton]
    split_ifs with h
    · exact ih
    · exact List.nodup_append.2 ⟨ih, List.nodup_singleton key, fun a ha b hb => by
        rintro rfl
        exact h (List.mem_eraseDups.1 (List.mem_singleton.1 hb ▸ ha))⟩

/-- The table with an entry for each key, in the order of first use. -/
def firstUses (keys : List β) (value : β → α) : List (β × α) :=
  keys.eraseDups.map fun k => (k, value k)

theorem lookup_firstUses (keys : List β) (value : β → α) (key : β) :
    (firstUses keys value).lookup key = if key ∈ keys then some (value key) else none := by
  have htable (l : List β) : (l.map fun k => (k, value k)).lookup key =
      if key ∈ l then some (value key) else none := by
    induction l with
    | nil => rfl
    | cons k l ih =>
      rw [List.map_cons, lookup_cons_ite, ih]
      by_cases h : key = k
      · subst h
        simp
      · simp [h]
  simp only [firstUses, htable, List.mem_eraseDups]

end FirstUse

theorem alter_of_mem {α : Type} {l : List SeriesKey} {key : SeriesKey} (value : SeriesKey → α)
    (start : α) (f : α → α) (hl : l.Nodup) (h : key ∈ l) :
    alter (l.map fun k => (k, value k)) key start f =
      l.map fun k => (k, if k = key then f (value k) else value k) := by
  induction l with
  | nil => cases h
  | cons k l ih =>
    obtain ⟨hk, hl⟩ := List.nodup_cons.1 hl
    rw [List.map_cons, List.map_cons, alter]
    by_cases hkey : k = key
    · subst hkey
      have hrest : ∀ x ∈ l, x ≠ k := fun x hx heq => hk (heq ▸ hx)
      rw [if_pos rfl, if_pos rfl]
      congr 1
      exact List.map_congr_left fun x hx => by rw [if_neg (hrest x hx)]
    · rw [if_neg hkey, if_neg hkey, ih hl (List.mem_of_ne_of_mem (Ne.symm hkey) h)]

theorem alter_of_not_mem {α : Type} {l : List SeriesKey} {key : SeriesKey} (value : SeriesKey → α)
    (start : α) (f : α → α) (h : key ∉ l) :
    alter (l.map fun k => (k, value k)) key start f =
      (l.map fun k => (k, value k)) ++ [(key, f start)] := by
  induction l with
  | nil => rfl
  | cons k l ih =>
    obtain ⟨hk, hl⟩ := not_or.1 (mt List.mem_cons.2 h)
    rw [List.map_cons, alter, if_neg (Ne.symm hk), ih hl, List.cons_append]

/-- One more use of a series is an entry that changes, or a new one at the end. -/
theorem alter_firstUses {α : Type} {keys : List SeriesKey} {key : SeriesKey}
    {value value' : SeriesKey → α} {start : α} {f : α → α}
    (hkey : value' key = f (if key ∈ keys then value key else start))
    (hother : ∀ k, k ≠ key → value' k = value k) :
    alter (firstUses keys value) key start f = firstUses (keys ++ [key]) value' := by
  unfold firstUses
  rw [eraseDups_append_singleton]
  -- a series that was used before keeps its place, another one comes last
  by_cases h : key ∈ keys
  · rw [if_pos h] at hkey ⊢
    rw [alter_of_mem value start f (nodup_eraseDups keys) (List.mem_eraseDups.2 h)]
    refine List.map_congr_left fun k _ => ?_
    split_ifs with hk
    · rw [hk, hkey]
    · rw [hother k hk]
  · rw [if_neg h] at hkey ⊢
    rw [alter_of_not_mem value start f (mt List.mem_eraseDups.1 h), List.map_append,
      List.map_singleton, hkey]
    congr 1
    refine List.map_congr_left fun k hk => ?_
    rw [hother k]
    rintro rfl
    exact h (List.mem_eraseDups.1 hk)

/-! ### Metrics of uses -/

namespace Metrics

/-- The metrics in which these series were counted, and these values observed. -/
def ofUses (counted : List SeriesKey) (observed : List (SeriesKey × Value)) : Metrics where
  counters := firstUses counted counted.count
  histograms := firstUses (observed.map Prod.fst) fun k =>
    (observed.filter fun o => o.1 = k).map Prod.snd

variable {counted : List SeriesKey} {observed : List (SeriesKey × Value)}

theorem ofUses_nil : ofUses [] [] = empty := rfl

theorem increment_ofUses (key : SeriesKey) :
    (ofUses counted observed).increment key = ofUses (counted ++ [key]) observed := by
  unfold increment ofUses
  dsimp only
  congr 1
  apply alter_firstUses
  · rw [List.count_append, List.count_singleton_self]
    split_ifs with h
    · rfl
    · rw [List.count_eq_zero.2 h]
  · intro k hk
    rw [List.count_append, List.count_singleton, if_neg (by simpa using Ne.symm hk), Nat.add_zero]

theorem observe_ofUses (key : SeriesKey) (v : Value) :
    (ofUses counted observed).observe key v =
      ofUses counted (observed ++ if v.isNull then [] else [(key, v)]) := by
  unfold observe
  split_ifs with hnull
  · rw [List.append_nil]
  · unfold ofUses
    dsimp only
    congr 1
    rw [List.map_append, List.map_singleton]
    apply alter_firstUses
    · rw [List.filter_append, List.map_append]
      split_ifs with h
      · simp
      · have hnone : (observed.filter fun o => o.1 = key) = [] := by
          rw [List.filter_eq_nil_iff]
          intro o ho heq
          exact h (List.mem_map.2 ⟨o, ho, by simpa using heq⟩)
        simp [hnone]
    · intro k hk
      simp [List.filter_append, Ne.symm hk]

theorem counter_ofUses (name : String) (labels : List (String × String)) :
    (ofUses counted observed).counter name labels = counted.count (.of name labels) := by
  unfold counter ofUses
  dsimp only
  rw [lookup_firstUses]
  split_ifs with h
  · rfl
  · exact (List.count_eq_zero.2 h).symm

theorem histogram_ofUses (name : String) (labels : List (String × String)) :
    (ofUses counted observed).histogram name labels =
      (observed.filter fun o => o.1 = .of name labels).map Prod.snd := by
  unfold histogram ofUses
  dsimp only
  rw [lookup_firstUses]
  split_ifs with h
  · rfl
  · symm
    rw [Option.getD_none, List.map_eq_nil_iff, List.filter_eq_nil_iff]
    intro o ho heq
    exact h (List.mem_map.2 ⟨o, ho, by simpa using heq⟩)

/-- The list of the counters has each series that was counted once, by first use. -/
theorem counterPoints_ofUses (h : ∀ k ∈ counted, sortedLabels k.labels = k.labels) :
    (ofUses counted observed).counterPoints = counted.eraseDups.map fun k =>
      ⟨k.name, k.labels, .int ((ofUses counted observed).counter k.name k.labels)⟩ := by
  unfold counterPoints
  change (firstUses counted counted.count).map _ = _
  unfold firstUses
  rw [List.map_map]
  refine List.map_congr_left fun k hk => ?_
  rw [counter_ofUses, SeriesKey.of, h k (List.mem_eraseDups.1 hk)]
  rfl

/-- The list of the observations has each series that was observed once, by first use. -/
theorem histogramPoints_ofUses
    (h : ∀ k ∈ observed.map Prod.fst, sortedLabels k.labels = k.labels) :
    (ofUses counted observed).histogramPoints =
      (observed.map Prod.fst).eraseDups.flatMap fun k =>
        ((ofUses counted observed).histogram k.name k.labels).map fun v =>
          ⟨k.name, k.labels, v⟩ := by
  unfold histogramPoints
  change (firstUses (observed.map Prod.fst) fun k =>
    (observed.filter fun o => o.1 = k).map Prod.snd).flatMap _ = _
  unfold firstUses
  rw [List.flatMap_map]
  refine List.flatMap_congr fun k hk => ?_
  rw [histogram_ofUses, SeriesKey.of, h k (List.mem_eraseDups.1 hk)]

end Metrics

/-! ### What an event adds -/

namespace Event

/-- A text that labels an event, or a stand-in for one that is empty or absent. -/
def tag (v : Value) (standIn : String) : String :=
  match v.text? with
  | some t => if t = "" then standIn else t
  | none => standIn

/-- The labels of an event, in the order of their names. -/
def tags (e : Event) : List (String × String) :=
  [("clause_kind", tag e.clauseKind "unknown"), ("compiler", tag e.compiler "unknown"),
    ("error_type", tag e.errorType "none")]

/-- Whether the event says that it ends a compilation. -/
def isEnd (e : Event) : Bool := e.event.text? = some compileEnd

/-- Whether the event says that the compilation succeeded. -/
def isSuccess (e : Event) : Bool :=
  match e.success with
  | .bool b => b
  | _ => false

/-- The fields that metrics look at are of the types that they are declared with. -/
structure IsTyped (e : Event) : Prop where
  event : e.event.isText = true
  compiler : e.compiler.isText = true
  clauseKind : e.clauseKind.isText = true
  errorType : e.errorType.isNull = true ∨ e.errorType.isText = true
  success : ∃ b, e.success = .bool b

/-- The counters that an event adds to, in order. -/
def counted (e : Event) : List SeriesKey :=
  if e.isEnd then
    ⟨Metrics.compilesTotal, e.tags⟩ ::
      if e.isSuccess then [] else [⟨Metrics.failuresTotal, e.tags⟩]
  else []

/-- The values that are observed of an event, with the histograms that they are added to. -/
def observed (e : Event) : List (SeriesKey × Value) :=
  if e.isEnd then
    (if e.duration.isNull then [] else [(⟨Metrics.durationName, e.tags⟩, e.duration)])
      ++ if e.rowCount.isNull then [] else [(⟨Metrics.rowsName, e.tags⟩, e.rowCount)]
  else []

variable {e : Event} {m : Metrics}

theorem plain_labelValue {v : Value} (h : v.isNull = true ∨ v.isText = true) (standIn : String) :
    ∃ w, labelValue v standIn = .ok w ∧ w.plain = .ok (tag v standIn) := by
  have htext {t : String} (hv : v.text? = some t) (hplain : v.plain = .ok t)
      (htruthy : v.truthy = .ok (t.length != 0)) :
      ∃ w, labelValue v standIn = .ok w ∧ w.plain = .ok (tag v standIn) := by
    unfold labelValue tag
    rw [htruthy, hv]
    by_cases ht : t = ""
    · subst ht
      exact ⟨.text standIn, rfl, rfl⟩
    · have hlength : (t.length != 0) = true := by simpa using ht
      rw [hlength]
      dsimp only
      rw [if_neg ht]
      exact ⟨v, rfl, hplain⟩
  cases v with
  | null => exact ⟨.text standIn, rfl, rfl⟩
  | text t | derivedText t i => exact htext rfl rfl rfl
  | _ => cases h <;> contradiction

theorem IsTyped.endsCompilation_eq (h : e.IsTyped) : e.endsCompilation = e.isEnd := by
  obtain ⟨t, ht⟩ := Option.isSome_iff_exists.1 h.event
  have hname : (Value.text compileEnd).text? = some compileEnd := rfl
  unfold endsCompilation isEnd
  rw [Value.same_of_text? ht, ht, hname]
  rw [Bool.eq_iff_iff, beq_iff_eq, decide_eq_true_iff]
  exact eq_comm

theorem IsTyped.truthy_success (h : e.IsTyped) : e.success.truthy = .ok e.isSuccess := by
  obtain ⟨b, hb⟩ := h.success
  unfold isSuccess
  rw [hb]
  rfl

theorem sortedLabels_tags (e : Event) : sortedLabels e.tags = e.tags := by
  have hle {a b : String} (hlt : a < b) (x y : String) : labelLE (a, x) (b, y) = true :=
    labelLE_iff.2 (.inl hlt)
  have h₁ : "clause_kind" < "compiler" := by decide
  have h₂ : "compiler" < "error_type" := by decide
  exact eq_sortedLabels (.refl _) (by simp [tags, hle h₁, hle h₂, hle (lt_trans h₁ h₂)])

theorem of_eq_tags_iff {name name' : String} {labels : List (String × String)} :
    SeriesKey.of name labels = ⟨name', e.tags⟩ ↔ name = name' ∧ labels.Perm e.tags := by
  rw [← sortedLabels_eq_iff, ← SeriesKey.of_eq_iff, SeriesKey.of, SeriesKey.of, sortedLabels_tags]

/-- The labels that an event is counted under are its tags, in another order. -/
theorem IsTyped.isCounted (h : e.IsTyped) (hend : e.isEnd = true) :
    ∃ labels, labels.Perm e.tags ∧ e.IsCounted labels e.isSuccess := by
  obtain ⟨compiler, hcompiler, hcompiler'⟩ := plain_labelValue (.inr h.compiler) "unknown"
  obtain ⟨clauseKind, hkind, hkind'⟩ := plain_labelValue (.inr h.clauseKind) "unknown"
  obtain ⟨errorType, herror, herror'⟩ := plain_labelValue h.errorType "none"
  refine ⟨[("compiler", tag e.compiler "unknown"), ("clause_kind", tag e.clauseKind "unknown"),
    ("error_type", tag e.errorType "none")], .swap _ _ _,
    ⟨h.endsCompilation_eq.trans hend, ?_, h.truthy_success⟩⟩
  unfold labels
  rw [hcompiler, hkind, herror]
  change (do
    return [("compiler", ← compiler.plain), ("clause_kind", ← clauseKind.plain),
      ("error_type", ← errorType.plain)]) = _
  rw [hcompiler', hkind', herror']
  rfl

end Event

namespace Metrics

variable {e : Event} {counted : List SeriesKey} {observed : List (SeriesKey × Value)}

theorem record_of_not_isEnd (m : Metrics) (h : e.IsTyped) (hend : e.isEnd = false) :
    m.record e = (m, .ok ()) := by
  unfold record
  rw [h.endsCompilation_eq, hend, if_neg Bool.false_ne_true]

/-- **One more event adds its uses,** after those that there were. -/
theorem record_ofUses (h : e.IsTyped) :
    (ofUses counted observed).record e =
      (ofUses (counted ++ e.counted) (observed ++ e.observed), .ok ()) := by
  cases hend : e.isEnd with
  | false =>
    rw [record_of_not_isEnd _ h hend, Event.counted, Event.observed, hend]
    simp
  | true =>
    obtain ⟨labels, hperm, hcounted⟩ := h.isCounted hend
    -- the labels come in the order of the event's fields, but are kept by name
    have hkey (name : String) : SeriesKey.of name labels = ⟨name, e.tags⟩ :=
      Event.of_eq_tags_iff.2 ⟨rfl, hperm⟩
    rw [record_eq hcounted, recordOutcome]
    simp only [hkey, increment_ofUses]
    rw [Event.counted, Event.observed, hend]
    cases e.isSuccess <;> simp [observe_ofUses]

end Metrics

/-! ### What the uses of a stream of events come to -/

theorem count_flatMap_eq_countP {α β : Type} [DecidableEq β] {f : α → List β} {key : β}
    {p : α → Bool} (h : ∀ a, (f a).count key = if p a then 1 else 0) (l : List α) :
    (l.flatMap f).count key = l.countP p := by
  induction l with
  | nil => rfl
  | cons a l ih =>
    rw [List.flatMap_cons, List.count_append, h, ih, List.countP_cons, Nat.add_comm]

theorem filter_flatMap_eq_filter {α β γ : Type} [DecidableEq β] {f : α → List (β × γ)} {key : β}
    {p : α → Bool} {g : α → γ}
    (h : ∀ a, ((f a).filter fun o => o.1 = key).map Prod.snd = if p a then [g a] else [])
    (l : List α) :
    ((l.flatMap f).filter fun o => o.1 = key).map Prod.snd = (l.filter p).map g := by
  induction l with
  | nil => rfl
  | cons a l ih =>
    rw [List.flatMap_cons, List.filter_append, List.map_append, h, ih, List.filter_cons]
    split_ifs <;> rfl

namespace Event

/-- The event ends a compilation and is kept under these labels. -/
def endsWith (labels : List (String × String)) (e : Event) : Bool :=
  e.isEnd && decide (labels.Perm e.tags)

/-- Whether a counter counts an event that ends a compilation. -/
def countsFor (name : String) (e : Event) : Bool :=
  name = Metrics.compilesTotal || name = Metrics.failuresTotal && !e.isSuccess

/-- What a histogram is given of an event that ends a compilation. -/
def sampleFor (name : String) (e : Event) : Value :=
  if name = Metrics.durationName then e.duration
  else if name = Metrics.rowsName then e.rowCount
  else .null

variable (name : String) (labels : List (String × String)) (e : Event)

theorem count_counted :
    e.counted.count (.of name labels) = if e.endsWith labels && e.countsFor name then 1 else 0 := by
  have hcount (name' : String) (rest : List SeriesKey) :
      (⟨name', e.tags⟩ :: rest).count (SeriesKey.of name labels) =
        rest.count (.of name labels) + if name = name' ∧ labels.Perm e.tags then 1 else 0 := by
    rw [List.count_cons]
    simp only [beq_iff_eq, eq_comm (b := SeriesKey.of name labels), of_eq_tags_iff]
  unfold counted endsWith countsFor
  by_cases hend : e.isEnd = true
  · rw [if_pos hend, hcount, hend]
    by_cases hlabels : labels.Perm e.tags
    · cases hsuccess : e.isSuccess with
      | true => simp [hlabels]
      | false =>
        rw [if_neg Bool.false_ne_true, hcount]
        by_cases hname : name = Metrics.compilesTotal
        · subst hname
          simp [hlabels]
        · simp [hlabels, hname]
    · cases e.isSuccess <;> simp [hlabels, hcount]
  · simp [hend]

theorem filter_observed :
    (e.observed.filter fun o => o.1 = .of name labels).map Prod.snd =
      if e.endsWith labels && !(e.sampleFor name).isNull then [e.sampleFor name] else [] := by
  have hfilter (name' : String) (v : Value) :
      ((if v.isNull then [] else [((⟨name', e.tags⟩ : SeriesKey), v)]).filter fun o =>
          o.1 = .of name labels).map Prod.snd =
        if (name = name' ∧ labels.Perm e.tags) ∧ v.isNull = false then [v] else [] := by
    cases v.isNull with
    | true => simp
    | false =>
      simp only [Bool.false_eq_true, ↓reduceIte, and_true, List.filter_cons, List.filter_nil,
        decide_eq_true_iff, eq_comm (b := SeriesKey.of name labels), of_eq_tags_iff]
      split_ifs <;> rfl
  unfold observed endsWith sampleFor
  by_cases hend : e.isEnd = true
  · rw [if_pos hend, List.filter_append, List.map_append, hfilter, hfilter, hend]
    by_cases hduration : name = Metrics.durationName
    · subst hduration
      simp
    · by_cases hrows : name = Metrics.rowsName
      · simp [hrows]
      · simp [hduration, hrows, Value.isNull]
  · simp [hend]

theorem labels_of_mem_counted {e : Event} {k : SeriesKey} (h : k ∈ e.counted) :
    k.labels = e.tags := by
  unfold counted at h
  split_ifs at h with hend hsuccess
  · rw [List.mem_singleton.1 h]
  · rcases List.mem_pair.1 h with rfl | rfl <;> rfl
  · cases h

theorem labels_of_mem_observed {e : Event} {k : SeriesKey} (h : k ∈ e.observed.map Prod.fst) :
    k.labels = e.tags := by
  obtain ⟨⟨k, v⟩, ho, rfl⟩ := List.mem_map.1 h
  have hentry {name : String} {w : Value}
      (hmem : (k, v) ∈ if w.isNull then [] else [((⟨name, e.tags⟩ : SeriesKey), w)]) :
      k.labels = e.tags := by
    split_ifs at hmem
    · cases hmem
    · cases List.mem_singleton.1 hmem
      rfl
  unfold observed at ho
  by_cases hend : e.isEnd = true
  · rw [if_pos hend] at ho
    exact (List.mem_append.1 ho).elim hentry hentry
  · rw [if_neg hend] at ho
    cases ho

end Event

namespace Value

/-- The value is a mapping in which one reads these labels, in some order. -/
def HasLabels (v : Value) (labels : List (String × String)) : Prop :=
  ∃ kind i entries, v = .mapping kind i entries ∧
    List.Forall₂ (fun entry label =>
      entry.1.text? = some label.1 ∧
        (if kind = .caseless then (Entries.find? kind entries entry.1).getD entry.2
          else entry.2).text? = some label.2) entries labels

theorem lost?_of_text? {v : Value} {t : String} (h : v.text? = some t) : v.lost? = none := by
  cases v <;> cases h <;> rfl

theorem unhashable?_of_text? {v : Value} {t : String} (h : v.text? = some t) :
    v.unhashable? = none := by
  cases v <;> cases h <;> rfl

theorem HasLabels.labelsOf_eq {v : Value} {labels : List (String × String)}
    (h : v.HasLabels labels) : Metrics.labelsOf v = .ok labels := by
  obtain ⟨kind, i, entries, rfl, hlabels⟩ := h
  refine mapM_ok_iff.2 (hlabels.imp ?_)
  rintro ⟨k, own⟩ ⟨key, label⟩ ⟨hkey, hown⟩
  dsimp only at hkey hown ⊢
  split_ifs with hkind
  · subst hkind
    rw [if_pos rfl] at hown
    unfold Entries.read
    rw [lost?_of_text? hkey]
    change (do return (← k.plain, ← ((Entries.find? .caseless entries k).getD own).plain)) = _
    rw [plain_of_text? hkey, plain_of_text? hown]
    rfl
  · rw [if_neg hkind] at hown
    change (do return (← k.plain, ← own.plain)) = _
    rw [plain_of_text? hkey, plain_of_text? hown]
    rfl

end Value

namespace Metrics

/-- The metrics say this of a stream of events: the counters how many ended a compilation under
given labels, and how many of these failed; the histograms the durations and the numbers of rows of
those that have them, in order.  Lists have each series once, by first use. -/
structure Summarise (m : Metrics) (events : List Event) : Prop where
  compiles : ∀ labels, m.counter compilesTotal labels = events.countP (Event.endsWith labels)
  failures : ∀ labels, m.counter failuresTotal labels =
    events.countP fun e => e.endsWith labels && !e.isSuccess
  durations : ∀ labels, m.histogram durationName labels =
    ((events.filter (Event.endsWith labels)).map Event.duration).filter (!·.isNull)
  rows : ∀ labels, m.histogram rowsName labels =
    ((events.filter (Event.endsWith labels)).map Event.rowCount).filter (!·.isNull)
  otherCounters : ∀ name labels, name ≠ compilesTotal → name ≠ failuresTotal →
    m.counter name labels = 0
  otherHistograms : ∀ name labels, name ≠ durationName → name ≠ rowsName →
    m.histogram name labels = []
  counterPoints : m.counterPoints =
    (events.flatMap Event.counted).eraseDups.map fun k =>
      ⟨k.name, k.labels, .int (m.counter k.name k.labels)⟩
  histogramPoints : m.histogramPoints =
    ((events.flatMap Event.observed).map Prod.fst).eraseDups.flatMap fun k =>
      (m.histogram k.name k.labels).map fun v => ⟨k.name, k.labels, v⟩

theorem counterOf_eq (m : Metrics) {metric asked : Value} {name : String}
    {labels : List (String × String)} (hname : metric.text? = some name)
    (hlabels : asked.HasLabels labels) :
    m.counterOf metric asked = .ok (m.counter name labels) ∧
      m.histogramOf metric asked = .ok (m.histogram name labels) := by
  have hnameOf : nameOf? metric = .ok (some name) := by
    unfold nameOf?
    rw [Value.unhashable?_of_text? hname, hname]
  unfold counterOf histogramOf
  rw [hlabels.labelsOf_eq, hnameOf]
  exact ⟨rfl, rfl⟩

theorem summarise_ofUses (events : List Event) :
    (ofUses (events.flatMap Event.counted) (events.flatMap Event.observed)).Summarise events := by
  obtain ⟨m, hm⟩ : ∃ m, m = ofUses (events.flatMap Event.counted) (events.flatMap Event.observed) :=
    ⟨_, rfl⟩
  have hcounter (name : String) (labels : List (String × String)) :
      m.counter name labels = events.countP fun e => e.endsWith labels && e.countsFor name := by
    rw [hm, counter_ofUses]
    exact count_flatMap_eq_countP (Event.count_counted name labels) events
  have hhistogram (name : String) (labels : List (String × String)) :
      m.histogram name labels = (events.filter fun e =>
        e.endsWith labels && !(e.sampleFor name).isNull).map (Event.sampleFor name) := by
    rw [hm, histogram_ofUses]
    exact filter_flatMap_eq_filter (Event.filter_observed name labels) events
  have hsamples {name : String} {field : Event → Value} (hfield : ∀ e, e.sampleFor name = field e)
      (labels : List (String × String)) : m.histogram name labels =
        ((events.filter (Event.endsWith labels)).map field).filter (!·.isNull) := by
    obtain rfl : Event.sampleFor name = field := funext hfield
    rw [hhistogram, List.filter_map, List.filter_filter]
    simp only [Function.comp_def, Bool.and_comm]
  rw [← hm]
  constructor
  case compiles =>
    intro labels
    simp [hcounter, Event.countsFor]
  case failures =>
    intro labels
    simp [hcounter, Event.countsFor]
  case otherCounters =>
    intro name labels hcompiles hfailures
    simp [hcounter, Event.countsFor, hcompiles, hfailures]
  case durations => exact hsamples fun _ => rfl
  case rows => exact hsamples fun _ => rfl
  case otherHistograms =>
    intro name labels hdurations hrows
    simp [hhistogram, Event.sampleFor, hdurations, hrows, Value.isNull]
  case counterPoints =>
    rw [hm]
    refine counterPoints_ofUses fun k hk => ?_
    obtain ⟨e, -, hk⟩ := List.mem_flatMap.1 hk
    rw [Event.labels_of_mem_counted hk, Event.sortedLabels_tags]
  case histogramPoints =>
    rw [hm]
    refine histogramPoints_ofUses fun k hk => ?_
    rw [List.map_flatMap] at hk
    obtain ⟨e, -, hk⟩ := List.mem_flatMap.1 hk
    rw [Event.labels_of_mem_observed hk, Event.sortedLabels_tags]

end Metrics

namespace Leaf

theorem exec_deliver_metrics {name : String} {events : List Event} {s : State}
    {counted : List SeriesKey} {observed : List (SeriesKey × Value)}
    (hs : s.journal.metricsOf name = .ofUses counted observed) (h : ∀ e ∈ events, e.IsTyped) :
    ∃ t, (forM events (metrics name).deliver).exec s = (.ok (), t) ∧
      t.journal.metricsOf name = .ofUses (counted ++ events.flatMap Event.counted)
        (observed ++ events.flatMap Event.observed) := by
  induction events generalizing s counted observed with
  | nil => exact ⟨s, rfl, by simpa using hs⟩
  | cons e events ih =>
    obtain ⟨he, hevents⟩ := List.forall_mem_cons.1 h
    -- the metrics stay those of uses, to which each event adds its own at the end
    obtain ⟨m, hm⟩ : ∃ m, m = Metrics.ofUses (counted ++ e.counted) (observed ++ e.observed) :=
      ⟨_, rfl⟩
    have hstep : ((metrics name).deliver e).exec s =
        (.ok (), { s with journal := s.journal.setMetrics name m }) := by
      refine (Observer.exec_metrics name e s).trans ?_
      rw [hs, Metrics.record_ofUses he, hm]
    have hnext : (s.journal.setMetrics name m).metricsOf name = .ofUses (counted ++ e.counted)
        (observed ++ e.observed) := by
      rw [Journal.metricsOf_setMetrics, hm]
    obtain ⟨t, ht, hmetrics⟩ := ih (s := { s with journal := s.journal.setMetrics name m })
      hnext hevents
    refine ⟨t, ?_, ?_⟩
    · rw [List.forM_cons, Run.exec_bind_ok hstep, ht]
    · rw [hmetrics, List.flatMap_cons, List.flatMap_cons, List.append_assoc, List.append_assoc]

/-- **Metrics are an exact summary of the events.**  A keeper of metrics that has seen nothing
before takes any stream of events, and its metrics then say just what the events do; whoever asks
for a series by labels in any order is told, and an event that ends no compilation changes
nothing. -/
theorem deliver_summarised {name : String} {events : List Event} {s : State}
    (hfresh : s.journal.metricsOf name = .empty) (h : ∀ e ∈ events, e.IsTyped) :
    ∃ t, (forM events (metrics name).deliver).exec s = (.ok (), t) ∧
      (t.journal.metricsOf name).Summarise events ∧
      (∀ metric asked series labels, metric.text? = some series → asked.HasLabels labels →
        (t.journal.metricsOf name).counterOf metric asked =
            .ok ((t.journal.metricsOf name).counter series labels) ∧
          (t.journal.metricsOf name).histogramOf metric asked =
            .ok ((t.journal.metricsOf name).histogram series labels)) ∧
      ∀ e : Event, e.IsTyped → e.isEnd = false →
        (((metrics name).deliver e).exec t).2.journal.metricsOf name =
          t.journal.metricsOf name := by
  obtain ⟨t, ht, hmetrics⟩ := exec_deliver_metrics (hfresh.trans Metrics.ofUses_nil.symm) h
  refine ⟨t, ht, ?_, fun _ _ _ _ => Metrics.counterOf_eq _, fun e he hend => ?_⟩
  · rw [hmetrics]
    exact Metrics.summarise_ofUses events
  · have hstep := congrArg (fun r => r.2.journal.metricsOf name) (Observer.exec_metrics name e t)
    refine hstep.trans ?_
    dsimp only
    rw [Journal.metricsOf_setMetrics, Metrics.record_of_not_isEnd _ he hend]

/-- Of three events two end a compilation, with the same labels but for the name of the compiler,
which the first leaves empty. -/
theorem deliver_summarised_unnamed :
    let ended : Event := Event.ofFields [("event", .text "compile.end"),
      ("compiler", .text ""), ("clause_kind", .text "raw"), ("success", .bool true),
      ("row_count", .int 2)]
    let failed : Event := { ended with compiler := .text "c", success := .bool false }
    let other : Event := { failed with event := .text "compile.start" }
    let asked : Value := .mapping .plain 1 [(.text "error_type", .text "none"),
      (.text "compiler", .text "unknown"), (.text "clause_kind", .text "raw")]
    let s := State.initial ⟨[], none, ⟨⟨2026, 1, 1⟩, 0, 0, 0, 0⟩⟩
    ∃ t, (forM [ended, other, failed] (metrics "m").deliver).exec s = (.ok (), t) ∧
      (t.journal.metricsOf "m").counterOf (.text Metrics.compilesTotal) asked = .ok 1 ∧
      (t.journal.metricsOf "m").histogramOf (.text Metrics.rowsName) asked = .ok [.int 2] := by
  intro ended failed other asked s
  have hfresh : s.journal.metricsOf "m" = .empty := rfl
  have htyped : ∀ e ∈ [ended, other, failed], e.IsTyped :=
    List.forall_mem_cons.2 ⟨⟨rfl, rfl, rfl, .inl rfl, _, rfl⟩,
      List.forall_mem_cons.2 ⟨⟨rfl, rfl, rfl, .inl rfl, _, rfl⟩,
        List.forall_mem_singleton.2 ⟨rfl, rfl, rfl, .inl rfl, _, rfl⟩⟩⟩
  have hasked : asked.HasLabels [("error_type", "none"), ("compiler", "unknown"),
      ("clause_kind", "raw")] :=
    ⟨_, _, _, rfl, .cons ⟨rfl, rfl⟩ (.cons ⟨rfl, rfl⟩ (.cons ⟨rfl, rfl⟩ .nil))⟩
  obtain ⟨t, ht, hsays, hlookup, -⟩ := deliver_summarised hfresh htyped
  refine ⟨t, ht, ?_, ?_⟩
  · rw [(hlookup _ _ _ _ rfl hasked).1, hsays.compiles]
    rfl
  · rw [(hlookup _ _ _ _ rfl hasked).2, hsays.rows]
    rfl

end Leaf

end RowInsert
