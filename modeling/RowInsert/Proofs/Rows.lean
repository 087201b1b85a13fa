import Mathlib.Tactic.SplitIfs
import RowInsert.Proofs.Run
import RowInsert.Rows

/-!
# Reading rows

* `Rows.all` are the rows of a value as the value alone determines them: the value itself if it is a
  mapping, else all its items, of a stream those that are left.
* `Rows.readBounded_ok` : rows that come through the limit are all rows of the value, and there are
  some.
* `Rows.readBounded_of_exceeded` : one row more than a whole limit is enough to refuse all of them.
* The lemmas on whole limits say in what order reading rows up to a limit that is a whole number is
  refused, and that it gives all rows otherwise; `Rows.readBounded_eq_ok_iff` says just when it is
  not refused, streams that fail at their end included.
-/

namespace RowInsert

namespace Value

/-- The items that walking a value gives when streams have been read this far: what is left of a
stream, and all items of anything else. -/
def itemsFrom (s : Streams) (v : Value) : List Value :=
  match v with
  | .stream i items _ => s.rest i items
  | _ => v.items?.getD []

/-- The failure at the end of a stream; nothing else has one. -/
def failure? : Value → Option String
  | .stream _ _ failure => failure
  | _ => none

/-- Reaching the end of a value raises nothing: only a stream that fails there does, and does so
once. -/
def EndsQuietly (s : Streams) (v : Value) : Prop :=
  ∀ i items message, v = .stream i items (some message) → (s.progress i).ended = true

theorem take_length_toList (t : String) : t.toList.take t.length = t.toList :=
  List.take_of_length_le (Nat.le_of_eq String.length_toList)

/-- Reading some items of what is no stream gives the first of all its items. -/
theorem take?_eq_some {v : Value} (h : v.isIterable = true)
    (hv : ¬ ∃ i items failure, v = .stream i items failure) (s : Streams) (n : Nat) :
    v.take? n = some ((v.itemsFrom s).take n) := by
  cases v with
  | stream i items failure => exact absurd ⟨i, items, failure, rfl⟩ hv
  | text t =>
    simp only [take?, itemsFrom, items?, size?, Option.bind_some, Option.getD_some,
      take_length_toList, ← List.map_take]
  | derivedText t i =>
    simp only [take?, itemsFrom, items?, size?, Option.bind_some, Option.getD_some,
      take_length_toList, ← List.map_take]
  | bytes kind i contents => simp [take?, itemsFrom, items?, size?, ← List.map_take]
  | sequence kind i items => simp [take?, itemsFrom, items?]
  | mapping kind i entries => simp [take?, itemsFrom, items?, size?, ← List.map_take]
  | range r =>
    simp [take?, itemsFrom, items?, size?, Progression.take, ← List.map_take, List.take_range]
  | _ => simp [isIterable, size?] at h

theorem size?_of_isMapping {v : Value} (h : v.isMapping = true) : v.size?.isSome = true := by
  cases v with
  | mapping => rfl
  | _ => cases h

end Value

namespace Run

/-- The end of a stream is reached only by a reader that wants more than is left. -/
theorem exec_readStream_some (n : Nat) (i : Identity) (items : List Value)
    (failure : Option String) (s : State) :
    (readStream (some n) i items failure).exec s =
      let rest := s.streams.rest i items
      let t := { s with streams := s.streams.advance i (rest.take n).length }
      match if rest.length < n then (finish i failure).exec t else (.ok (), t) with
      | (.ok _, u) => (.ok (rest.take n), u)
      | (.error e, u) => (.error e, u) := by
  unfold readStream
  simp only [exec_bind, exec_get, advance, exec_modify]
  split_ifs with h
  · simp only [exec_bind]
    rcases (finish i failure).exec _ with ⟨e | _, u⟩ <;> rfl
  · rfl

/-- What is no stream is read without a change of state. -/
theorem readUpTo_eq_pure {v : Value} (hv : v.isIterable = true)
    (hs : ¬ ∃ i items failure, v = .stream i items failure) (n : Nat) (s : Streams) :
    readUpTo n v = pure ((v.itemsFrom s).take n) := by
  unfold readUpTo
  split
  · exact absurd ⟨_, _, _, rfl⟩ hs
  · rw [Value.take?_eq_some hv hs s]
    rfl

/-- What has been read of a value is the first of its items. -/
theorem eq_of_readUpTo {n : Nat} {v : Value} {s : State} {rows : List Value}
    (hv : v.isIterable = true) (h : ((readUpTo n v).exec s).1 = .ok rows) :
    rows = (v.itemsFrom s.streams).take n := by
  by_cases hs : ∃ i items failure, v = .stream i items failure
  · obtain ⟨i, items, failure, rfl⟩ := hs
    rw [readUpTo, exec_readStream_some] at h
    dsimp only at h
    split at h
    · exact (Except.ok.inj h).symm
    · cases h
  · rw [readUpTo_eq_pure hv hs n s.streams] at h
    exact (Except.ok.inj h).symm

/-- Reading fails only at the end of a stream that fails there. -/
theorem readUpTo_of_quiet {v : Value} (hv : v.isIterable = true) (hf : v.failure? = none)
    (n : Nat) (s : State) : ((readUpTo n v).exec s).1 = .ok ((v.itemsFrom s.streams).take n) := by
  by_cases hs : ∃ i items failure, v = .stream i items failure
  · obtain ⟨i, items, failure, rfl⟩ := hs
    obtain rfl : failure = none := hf
    rw [readUpTo, exec_readStream_some]
    dsimp only
    split_ifs <;> rfl
  · rw [readUpTo_eq_pure hv hs n s.streams]
    rfl

theorem exec_finish (i : Identity) (failure : Option String) (s : State) :
    (finish i failure).exec s =
      (match (s.streams.finish i failure).1 with
        | some message => .error (.streamFailed message)
        | none => .ok (), { s with streams := (s.streams.finish i failure).2 }) := by
  have hstep : (modifyGet fun s : State => ((s.streams.finish i failure).1,
      { s with streams := (s.streams.finish i failure).2 }) : Run (Option String)).exec s =
      (.ok (s.streams.finish i failure).1, { s with streams := (s.streams.finish i failure).2 }) :=
    rfl
  unfold finish
  rw [exec_bind_ok hstep]
  cases (s.streams.finish i failure).1 <;> rfl

theorem finish_eq_ok_iff {i : Identity} (items : List Value) (failure : Option String)
    {s : State} : ((finish i failure).exec s).1 = .ok () ↔
      (Value.stream i items failure).EndsQuietly s.streams := by
  rw [exec_finish]
  unfold Streams.finish Value.EndsQuietly
  cases failure with
  | none => simp
  | some message =>
    cases hended : (s.streams.progress i).ended <;> simp [hended]

/-- Taking items does not change whether the end of a stream raises. -/
theorem endsQuietly_advance {v : Value} {s : Streams} (i : Identity) (count : Nat) :
    v.EndsQuietly (s.advance i count) ↔ v.EndsQuietly s := by
  have hended (j : Identity) : ((s.advance i count).progress j).ended = (s.progress j).ended := by
    unfold Streams.advance
    by_cases hj : j = i
    · rw [hj, Streams.progress_set_self]
    · rw [Streams.progress_set_of_ne _ _ hj]
  unfold Value.EndsQuietly
  simp only [hended]

/-- Reading up to so many items succeeds unless it comes to the end of a stream that fails there. -/
theorem readUpTo_eq_ok_iff {n : Nat} {v : Value} (hv : v.isIterable = true) {s : State}
    {items : List Value} :
    ((readUpTo n v).exec s).1 = .ok items ↔
      items = (v.itemsFrom s.streams).take n ∧
        ((v.itemsFrom s.streams).length < n → v.EndsQuietly s.streams) := by
  by_cases hs : ∃ i items failure, v = .stream i items failure
  · obtain ⟨i, all, failure, rfl⟩ := hs
    have hrest : (Value.stream i all failure).itemsFrom s.streams = s.streams.rest i all := rfl
    rw [readUpTo, exec_readStream_some, hrest]
    dsimp only
    by_cases hlt : (s.streams.rest i all).length < n
    · have hquiet := finish_eq_ok_iff all failure (i := i)
        (s := { s with streams := s.streams.advance i ((s.streams.rest i all).take n).length })
      rw [endsQuietly_advance] at hquiet
      rw [if_pos hlt, ← hquiet]
      rcases (finish i failure).exec _ with ⟨e | _, u⟩
      · simp [hlt]
      · simp [hlt, eq_comm]
    · simp [hlt, eq_comm]
  · have hquiet : v.EndsQuietly s.streams := fun i items message h => absurd ⟨i, items, _, h⟩ hs
    rw [readUpTo_eq_pure hv hs n s.streams, exec_pure, Except.ok.injEq, eq_comm]
    exact ⟨fun h => ⟨h, fun _ => hquiet⟩, fun h => h.1⟩

end Run

theorem Value.plain_of_text? {v : Value} {t : String} (h : v.text? = some t) :
    v.plain = .ok t := by
  cases v with
  | text s | derivedText s =>
    cases h
    rfl
  | _ => cases h

theorem Value.plain_of_whole {v : Value} {n : Int} (h : v.whole? = some n) :
    v.plain = .ok v.wholeText := by
  cases v with
  | int | bool | colour => rfl
  | _ => cases h

namespace Settings

theorem itemsToRead_of_whole {s : Settings} {limit : Int} (h : s.limit.whole? = some limit) :
    s.itemsToRead =
      if limit + 1 < 0 ∨ Value.greatestIndex < limit + 1 then .error .limitNotWhole
      else .ok (limit + 1).toNat := by
  simp only [itemsToRead, h]

theorem itemsToRead_ok {s : Settings} {n : Nat} (h : s.itemsToRead = .ok n) :
    ∃ limit : Int, s.limit.whole? = some limit ∧ (n : Int) = limit + 1 := by
  unfold itemsToRead at h
  split at h
  · rename_i limit hlimit
    obtain ⟨hrange, h⟩ := guard_ok h
    cases h
    exact ⟨limit, hlimit, by omega⟩
  · cases h

theorem exceededBy_of_whole {s : Settings} {limit : Int} (h : s.limit.whole? = some limit)
    (rows : Nat) : s.exceededBy rows = .ok (decide (limit < rows)) := by
  simp only [exceededBy, h]

end Settings

namespace Rows

/-- All rows of a value when streams have been read this far: the value itself if it is a mapping,
else its items. -/
def all (s : Streams) (values : Value) : List Value :=
  if values.isMapping then [values] else values.itemsFrom s

/-- Whether the rows of a value are what walking it gives: it is no mapping, text or constant bytes,
and says that it can be walked. -/
def isWalked (values : Value) : Bool :=
  !values.isMapping && !values.isLiteral && values.isIterable

variable {settings : Except Failure Settings} {values : Value}

theorem isWalked_iff : isWalked values = true ↔
    ¬ values.isMapping = true ∧ values.isLiteral = false ∧ values.isIterable = true := by
  simp only [isWalked, Bool.and_eq_true, Bool.not_eq_true', Bool.not_eq_true, and_assoc]

theorem read_of_mapping (h : values.isMapping = true) : read settings values = pure [values] := by
  simp only [read, h, ↓reduceIte]

theorem read_of_unfit (h : ¬ values.isMapping = true) (hw : isWalked values = false) :
    read settings values = throw (.valuesNotRows values.typeName) := by
  have hl : (values.isLiteral || !values.isIterable) = true := by
    simp only [isWalked, h] at hw
    revert hw
    cases values.isLiteral <;> cases values.isIterable <;> decide
  simp only [read, h, hl, Bool.false_eq_true, ↓reduceIte]

theorem read_of_walked (hw : isWalked values = true) :
    read settings values =
      Run.lift (settings.bind Settings.itemsToRead) >>= fun n => Run.readUpTo n values := by
  obtain ⟨hm, hl, hi⟩ := isWalked_iff.1 hw
  simp only [read, hm, hl, hi, Bool.not_true, Bool.or_self, Bool.false_eq_true, ↓reduceIte]

theorem bounded_ok {rows result : List Value} (h : bounded settings values rows = .ok result) :
    result = rows ∧ rows ≠ [] ∧
      ∃ s, settings = .ok s ∧ s.exceededBy rows.length = .ok false := by
  unfold bounded at h
  dsimp only at h
  split_ifs at h with hempty
  · cases h
  · obtain ⟨s, hs, hrest⟩ := bind_ok h
    obtain ⟨exceeded, hexceeded, hrest⟩ := bind_ok hrest
    cases exceeded with
    | true =>
      obtain ⟨_, -, hrest⟩ := bind_ok hrest
      obtain ⟨_, -, hrest⟩ := bind_ok hrest
      cases hrest
    | false =>
      cases hrest
      exact ⟨rfl, by simpa using hempty, s, hs, hexceeded⟩

/-- A whole number limits rows: there have to be some, and not more than it says. -/
theorem bounded_of_whole {s : Settings} {limit : Int} (hlimit : s.limit.whole? = some limit)
    {rows : List Value} (hrows : rows ≠ []) :
    bounded (.ok s) values rows =
      if limit < rows.length then do
        let count ← reportedCount values rows
        let shown ← s.limit.plain
        .error (.batchTooLarge count s.limit shown)
      else .ok rows := by
  have hempty : rows.isEmpty = false := by simpa using hrows
  have hexceeded := Settings.exceededBy_of_whole hlimit rows.length
  unfold bounded
  simp only [hempty, Bool.false_eq_true, ↓reduceIte]
  change (s.exceededBy rows.length >>= _) = _
  rw [hexceeded]
  change (if decide (limit < rows.length) = true then _ else _) = _
  simp only [decide_eq_true_eq]
  rfl

theorem bounded_nil : bounded settings values [] = .error .noRows := rfl

/-- **Rows that come through the limit are all rows of their value.**  Of what is walked one item
more than the limit is read, so rows within the limit are all there are. -/
theorem readBounded_ok {s : State} {rows : List Value}
    (h : ((readBounded settings values).exec s).1 = .ok rows) :
    rows = all s.streams values ∧ rows ≠ [] := by
  unfold readBounded at h
  obtain ⟨got, t, hread, hbounded⟩ := Run.exec_bind_eq_ok (Prod.ext h rfl)
  obtain ⟨rfl, hne, st, rfl, hexceeded⟩ := bounded_ok (congrArg Prod.fst hbounded)
  refine ⟨?_, hne⟩
  unfold all
  by_cases hm : values.isMapping = true
  · rw [read_of_mapping hm] at hread
    cases hread
    rw [if_pos hm]
  · rw [if_neg hm]
    -- One item more than the limit was asked for, so within the limit none is left.
    cases hw : isWalked values with
    | false => rw [read_of_unfit hm hw] at hread; cases hread
    | true =>
      rw [read_of_walked hw] at hread
      obtain ⟨n, u, hitems, hread⟩ := Run.exec_bind_eq_ok hread
      have hn : st.itemsToRead = .ok n := congrArg Prod.fst hitems
      obtain rfl : s = u := congrArg Prod.snd hitems
      obtain ⟨limit, hlimit, hnl⟩ := Settings.itemsToRead_ok hn
      have hgot := Run.eq_of_readUpTo (isWalked_iff.1 hw).2.2 (congrArg Prod.fst hread)
      rw [Settings.exceededBy_of_whole hlimit] at hexceeded
      have hle := of_decide_eq_false (Except.ok.inj hexceeded)
      rw [hgot, List.length_take] at hle
      rw [hgot, List.take_of_length_le (by omega)]

/-! ### Whole limits -/

section Whole

variable {limit : Int} {s : State} {rows : List Value}

theorem all_of_walked (hw : isWalked values = true) (s : Streams) :
    all s values = values.itemsFrom s := if_neg (isWalked_iff.1 hw).1

/-- Reading the rows of a value is not refused: it is a mapping, or it can be walked and one item
more than the limit can be asked for. -/
def Fits (limit : Int) (values : Value) : Prop :=
  values.isMapping = true ∨
    isWalked values = true ∧ ¬ (limit + 1 < 0 ∨ Value.greatestIndex < limit + 1)

/-- The rows that are read: all that there are, but at most one more than the limit. -/
def readable (limit : Int) (s : Streams) (values : Value) : List Value :=
  if values.isMapping then [values] else (all s values).take (limit + 1).toNat

theorem readBounded_of_unfit (h : ¬ values.isMapping = true) (hw : isWalked values = false) :
    ((readBounded settings values).exec s).1 = .error (.valuesNotRows values.typeName) := by
  unfold readBounded
  rw [read_of_unfit h hw]
  rfl

section Settings

variable {st : Settings} (hlimit : st.limit.whole? = some limit)
include hlimit

theorem readBounded_outOfRange (hw : isWalked values = true)
    (h : limit + 1 < 0 ∨ Value.greatestIndex < limit + 1) :
    ((readBounded (.ok st) values).exec s).1 = .error .limitNotWhole := by
  have hread : st.itemsToRead = .error .limitNotWhole := by
    rw [Settings.itemsToRead_of_whole hlimit, if_pos h]
  unfold readBounded
  rw [read_of_walked hw]
  change (((Run.lift st.itemsToRead >>= _) >>= _).exec s).1 = _
  rw [hread, Run.exec_bind, Run.exec_lift_bind_error]

/-- One item more than the limit is asked for. -/
theorem exec_readBounded_of_walked (hw : isWalked values = true)
    (hrange : ¬ (limit + 1 < 0 ∨ Value.greatestIndex < limit + 1)) (s : State) :
    (readBounded (.ok st) values).exec s =
      (Run.readUpTo (limit + 1).toNat values >>= fun rows =>
        Run.lift (bounded (.ok st) values rows)).exec s := by
  have hitems : st.itemsToRead = .ok (limit + 1).toNat := by
    rw [Settings.itemsToRead_of_whole hlimit, if_neg hrange]
  unfold readBounded
  rw [read_of_walked hw]
  change ((Run.lift st.itemsToRead >>= _) >>= _).exec s = _
  rw [hitems]
  rfl

theorem readBounded_of_fits (hfits : Fits limit values) (hquiet : values.failure? = none) :
    ((readBounded (.ok st) values).exec s).1 =
      bounded (.ok st) values (readable limit s.streams values) := by
  unfold readable all
  rcases hfits with hm | ⟨hw, hrange⟩
  · rw [if_pos hm, readBounded, read_of_mapping hm, pure_bind, Run.exec_lift]
  · obtain ⟨hm, -, hi⟩ := isWalked_iff.1 hw
    rw [exec_readBounded_of_walked hlimit hw hrange,
      Run.fst_exec_bind fun rows => Run.yields_lift _, Run.readUpTo_of_quiet hi hquiet, if_neg hm,
      if_neg hm]
    rfl

theorem readBounded_none (hfits : Fits limit values) (hquiet : values.failure? = none)
    (h : all s.streams values = [] ∨ isWalked values = true ∧ limit = -1) :
    ((readBounded (.ok st) values).exec s).1 = .error .noRows := by
  have hnone : readable limit s.streams values = [] := by
    unfold readable
    split_ifs with hm
    · rcases h with h | ⟨hw, -⟩
      · rw [all, if_pos hm] at h
        cases h
      · exact absurd hm (isWalked_iff.1 hw).1
    · rcases h with h | ⟨-, rfl⟩
      · rw [h, List.take_nil]
      · rfl
  rw [readBounded_of_fits hlimit hfits hquiet, hnone, bounded_nil]

/-- **One row too many is enough.**  Nothing that comes after it is looked at. -/
theorem readBounded_of_exceeded (hw : isWalked values = true) (hnonneg : 0 ≤ limit)
    (hrange : ¬ (limit + 1 < 0 ∨ Value.greatestIndex < limit + 1))
    (hmany : limit < (all s.streams values).length) {count : Nat}
    (hcount : reportedCount values ((all s.streams values).take (limit + 1).toNat) = .ok count) :
    ((readBounded (.ok st) values).exec s).1 =
      .error (.batchTooLarge count st.limit st.limit.wholeText) := by
  rw [all_of_walked hw] at hmany hcount
  have hlength : ((values.itemsFrom s.streams).take (limit + 1).toNat).length =
      (limit + 1).toNat := by
    rw [List.length_take]
    omega
  have hread : ((Run.readUpTo (limit + 1).toNat values).exec s).1 =
      .ok ((values.itemsFrom s.streams).take (limit + 1).toNat) :=
    (Run.readUpTo_eq_ok_iff (isWalked_iff.1 hw).2.2).2 ⟨rfl, fun hshort => by omega⟩
  have hne : (values.itemsFrom s.streams).take (limit + 1).toNat ≠ [] := by
    rw [← List.length_pos_iff, hlength]
    omega
  rw [exec_readBounded_of_walked hlimit hw hrange,
    Run.fst_exec_bind fun rows => Run.yields_lift _, hread]
  change bounded (.ok st) values _ = _
  rw [bounded_of_whole hlimit hne, if_pos (by omega), hcount, Value.plain_of_whole hlimit]
  rfl

/-- Too many rows are reported by their number: of a value that has a length that, and else of those
that were read. -/
theorem readBounded_many (hfits : Fits limit values) (hquiet : values.failure? = none)
    (hsome : ¬ (isWalked values = true ∧ limit = -1)) {count : Nat}
    (hmany : limit < (all s.streams values).length)
    (hcount : if values.size?.isSome then values.length = .ok count
      else (count : Int) = limit + 1) :
    ((readBounded (.ok st) values).exec s).1 =
      .error (.batchTooLarge count st.limit st.limit.wholeText) := by
  by_cases hm : values.isMapping = true
  · have hall : all s.streams values = [values] := if_pos hm
    have hsize := Value.size?_of_isMapping hm
    rw [hall] at hmany
    rw [if_pos hsize] at hcount
    rw [readBounded_of_fits hlimit hfits hquiet, readable, if_pos hm,
      bounded_of_whole hlimit (List.cons_ne_nil _ _), if_pos hmany, reportedCount, if_pos hsize,
      hcount, Value.plain_of_whole hlimit]
    rfl
  · obtain ⟨hw, hrange⟩ := hfits.resolve_left hm
    have hnonneg : 0 ≤ limit := by
      have : limit ≠ -1 := fun h => hsome ⟨hw, h⟩
      omega
    apply readBounded_of_exceeded hlimit hw hnonneg hrange hmany
    unfold reportedCount
    split_ifs at hcount ⊢
    · exact hcount
    · rw [List.length_take]
      exact congrArg Except.ok (by omega)

theorem readBounded_within (hfits : Fits limit values) (hquiet : values.failure? = none)
    (hne : all s.streams values ≠ []) (hle : (all s.streams values).length ≤ limit) :
    ((readBounded (.ok st) values).exec s).1 = .ok (all s.streams values) := by
  have hread : readable limit s.streams values = all s.streams values := by
    unfold readable
    split_ifs with hm
    · rw [all, if_pos hm]
    · exact List.take_of_length_le (by omega)
  rw [readBounded_of_fits hlimit hfits hquiet, hread, bounded_of_whole hlimit hne,
    if_neg (by omega)]

end Settings

theorem bounded_eq_ok_iff {got : List Value} :
    bounded (.ok ⟨.int limit⟩) values got = .ok rows ↔
      rows = got ∧ got ≠ [] ∧ (got.length : Int) ≤ limit := by
  constructor
  · intro h
    obtain ⟨rfl, hne, st, hst, hexceeded⟩ := bounded_ok h
    cases hst
    rw [Settings.exceededBy_of_whole rfl] at hexceeded
    exact ⟨rfl, hne, Int.not_lt.1 (of_decide_eq_false (Except.ok.inj hexceeded))⟩
  · rintro ⟨rfl, hne, hle⟩
    rw [bounded_of_whole rfl hne, if_neg (Int.not_lt.2 hle)]

/-- Of what is walked one item more than the limit is asked for, so that its end is reached unless
there are too many items. -/
theorem readBounded_of_walked_eq_ok_iff (hw : isWalked values = true)
    (hrange : ¬ (limit + 1 < 0 ∨ Value.greatestIndex < limit + 1)) :
    ((readBounded (.ok ⟨.int limit⟩) values).exec s).1 = .ok rows ↔
      rows = values.itemsFrom s.streams ∧ values.itemsFrom s.streams ≠ [] ∧
        ((values.itemsFrom s.streams).length : Int) ≤ limit ∧ values.EndsQuietly s.streams := by
  have hiterable := (isWalked_iff.1 hw).2.2
  rw [exec_readBounded_of_walked rfl hw hrange, Run.fst_exec_bind fun rows => Run.yields_lift _]
  constructor
  · intro h
    obtain ⟨got, hgot, hbounded⟩ := bind_ok h
    obtain ⟨rfl, hquiet⟩ := (Run.readUpTo_eq_ok_iff hiterable).1 hgot
    obtain ⟨rfl, hne, hle⟩ := bounded_eq_ok_iff.1 hbounded
    have hlength := List.length_take (i := (limit + 1).toNat) (l := values.itemsFrom s.streams)
    have hshort : (values.itemsFrom s.streams).length < (limit + 1).toNat := by omega
    have hfull := List.take_of_length_le (Nat.le_of_lt hshort)
    rw [hfull] at hne hle ⊢
    exact ⟨rfl, hne, hle, hquiet hshort⟩
  · rintro ⟨rfl, hne, hle, hquiet⟩
    have hshort : (values.itemsFrom s.streams).length < (limit + 1).toNat := by omega
    have hgot := (Run.readUpTo_eq_ok_iff hiterable (n := (limit + 1).toNat)).2
      ⟨(List.take_of_length_le (Nat.le_of_lt hshort)).symm, fun _ => hquiet⟩
    rw [hgot]
    exact bounded_eq_ok_iff.2 ⟨rfl, hne, hle⟩

/-- Rows are read of a value unless it is none to be read, there are no rows or too many, or the end
of a stream raises. -/
theorem readBounded_eq_ok_iff :
    ((readBounded (.ok ⟨.int limit⟩) values).exec s).1 = .ok rows ↔
      rows = all s.streams values ∧ Fits limit values ∧ all s.streams values ≠ [] ∧
        ((all s.streams values).length : Int) ≤ limit ∧ values.EndsQuietly s.streams := by
  by_cases hm : values.isMapping = true
  · have hall : all s.streams values = [values] := if_pos hm
    have hquiet : values.EndsQuietly s.streams := by
      rintro i items message rfl
      cases hm
    rw [readBounded, read_of_mapping hm, pure_bind, Run.exec_lift, bounded_eq_ok_iff, hall]
    exact ⟨fun ⟨heq, hne, hle⟩ => ⟨heq, .inl hm, hne, hle, hquiet⟩,
      fun ⟨heq, _, hne, hle, _⟩ => ⟨heq, hne, hle⟩⟩
  · have hall : all s.streams values = values.itemsFrom s.streams := if_neg hm
    by_cases hfits : Fits limit values
    · obtain ⟨hw, hrange⟩ := hfits.resolve_left hm
      rw [readBounded_of_walked_eq_ok_iff hw hrange, hall]
      exact ⟨fun ⟨heq, hrest⟩ => ⟨heq, hfits, hrest⟩, fun ⟨heq, _, hrest⟩ => ⟨heq, hrest⟩⟩
    · have hrefused : ¬ ((readBounded (.ok ⟨.int limit⟩) values).exec s).1 = .ok rows := by
        cases hw : isWalked values with
        | false =>
          rw [readBounded_of_unfit hm hw]
          exact fun h => nomatch h
        | true =>
          rw [readBounded_outOfRange rfl hw (by_contra fun hrange => hfits (.inr ⟨hw, hrange⟩))]
          exact fun h => nomatch h
      exact ⟨fun h => absurd h hrefused, fun h => absurd h.2.1 hfits⟩

end Whole

end Rows

end RowInsert
