import RowInsert.Proofs.Rule

/-!
# What rows fail with

* `Value.kind_of_listing` : a value cannot be listed only if a record in it lacks a field, and
  `Value.kind_of_plain` is the same for running text.
* `Compiler.insertInto_error` : rows that have been read become no query only for what they are
  themselves, or because the quoter fails.  No other kind of failure arises.
-/

namespace RowInsert

/-! ### Listings -/

theorem RecordClass.enclose_error {cls : RecordClass}
    {fields : List (String × Except Failure String)} {f : Failure}
    (h : cls.enclose fields = .error f) :
    f.kind = .absentAttribute ∨ ∃ name, (name, .error f) ∈ fields := by
  unfold enclose at h
  split at h
  · rcases bind_error h with h | ⟨_, -, h⟩
    · obtain ⟨name, -, hname⟩ := mapM_error h
      cases hlookup : fields.lookup name with
      | none =>
        simp only [hlookup] at hname
        split at hname
        · cases hname
        · cases hname
          exact .inl rfl
      | some shown =>
        simp only [hlookup] at hname
        obtain ⟨front, back, rfl, -⟩ := List.lookup_eq_some_iff.1 hlookup
        cases shown with
        | error g =>
          cases hname
          exact .inr ⟨name, by simp⟩
        | ok text => cases hname
    · cases h
  · cases h

namespace Value

theorem of_unlessWithin_error {outer : List Identity} {i : Identity} {again : String}
    {shown : Except Failure String} {f : Failure}
    (h : unlessWithin outer i again shown = .error f) : shown = .error f := by
  unfold unlessWithin at h
  split at h
  · cases h
  · exact h

mutual

/-- Inside of whatever objects a value is listed, a field that a record lacks is all that can
fail. -/
theorem kind_of_listingIn (outer : List Identity) :
    ∀ (v : Value) {f : Failure}, v.listingIn outer = .error f → f.kind = .absentAttribute
  | .sequence kind i items, f, h => by
    unfold listingIn at h
    split at h
    · rcases bind_error (of_unlessWithin_error h) with h | ⟨_, -, h⟩
      · exact kind_of_listItems (i :: outer) items h
      · cases h
    · cases h
  | .mapping kind i entries, f, h => by
    unfold listingIn at h
    split at h
    · rcases bind_error (of_unlessWithin_error h) with h | ⟨_, -, h⟩
      · exact kind_of_listEntries (i :: outer) entries h
      · cases h
    · cases h
  | .record cls i fields, f, h => by
    unfold listingIn at h
    rcases RecordClass.enclose_error (of_unlessWithin_error h) with h | ⟨name, h⟩
    · exact h
    · exact kind_of_listFields (i :: outer) fields name h
  | .null, _, h | .bool _, _, h | .int _, _, h | .float .., _, h | .complex .., _, h
  | .text _, _, h | .derivedText .., _, h | .colour _, _, h | .bytes .., _, h | .range _, _, h
  | .stream .., _, h | .date _, _, h | .moment _, _, h | .decimal .., _, h | .object _, _, h => by
    cases h

theorem kind_of_listItems (outer : List Identity) :
    ∀ (items : List Value) {f : Failure}, listItems outer items = .error f →
      f.kind = .absentAttribute
  | [], _, h => by cases h
  | x :: xs, f, h => by
    unfold listItems at h
    rcases bind_error h with h | ⟨_, -, h⟩
    · exact kind_of_listingIn outer x h
    · rcases bind_error h with h | ⟨_, -, h⟩
      · exact kind_of_listItems outer xs h
      · cases h

theorem kind_of_listEntries (outer : List Identity) :
    ∀ (entries : List (Value × Value)) {f : Failure}, listEntries outer entries = .error f →
      f.kind = .absentAttribute
  | [], _, h => by cases h
  | (k, v) :: es, f, h => by
    unfold listEntries at h
    rcases bind_error h with h | ⟨_, -, h⟩
    · exact kind_of_listingIn outer k h
    · rcases bind_error h with h | ⟨_, -, h⟩
      · exact kind_of_listingIn outer v h
      · rcases bind_error h with h | ⟨_, -, h⟩
        · exact kind_of_listEntries outer es h
        · cases h

theorem kind_of_listFields (outer : List Identity) :
    ∀ (fields : List (String × Value)) (name : String) {f : Failure},
      (name, .error f) ∈ listFields outer fields → f.kind = .absentAttribute
  | [], _, _, h => by cases h
  | (name', v) :: fs, name, f, h => by
    unfold listFields at h
    rcases List.mem_cons.1 h with h | h
    · exact kind_of_listingIn outer v (Prod.mk.inj h).2.symm
    · exact kind_of_listFields outer fs name h

end

/-- A value cannot be listed only if a record in it lacks a field. -/
theorem kind_of_listing {v : Value} {f : Failure} (h : v.listing = .error f) :
    f.kind = .absentAttribute := kind_of_listingIn [] v h

theorem kind_of_plain {v : Value} {f : Failure} (h : v.plain = .error f) :
    f.kind = .absentAttribute := by
  unfold plain at h
  split at h
  · cases h
  · cases h
  · cases h
  · cases h
  · cases h
  · cases h
  · exact kind_of_listing h
  · exact kind_of_listing h

end Value

/-! ### Queries -/

/-- Columns are not collected only for what rows or their keys are. -/
theorem Columns.kind_of_ofRows {rows : List Value} {f : Failure} (h : ofRows rows = .error f) :
    f.kind = .invalidInput ∨ f.kind = .absentAttribute := by
  rcases exists_first (fun row => row.isRow = true) rows with
    hall | ⟨front, row, back, rfl, hfront, hrow⟩
  · rw [ofRows_eq_union hall] at h
    cases h
  by_cases hm : row.isMapping = true
  · rcases exists_first (fun k => k.isText = true) row.keys with
      hkeys | ⟨keysFront, key, keysBack, heq, hkeysFront, hkey⟩
    · exact absurd (Value.isRow_iff.2 ⟨hm, hkeys⟩) hrow
    · rw [ofRows_eq_columnNotText back hfront hm heq hkeysFront hkey] at h
      rcases bind_error h with h | ⟨shown, -, h⟩
      · exact .inr (Value.kind_of_listing h)
      · cases h
        exact .inl rfl
  · rw [ofRows_eq_rowNotMapping back hfront hm] at h
    cases h
    exact .inl rfl

theorem Statement.kind_of_textsFrom {position : Nat} {l : List Value} {f : Failure}
    (h : textsFrom position l = .error f) : f.kind = .type := by
  induction l generalizing position with
  | nil => cases h
  | cons v l ih =>
    unfold textsFrom at h
    split at h
    · cases hrest : textsFrom (position + 1) l with
      | error g =>
        rw [hrest] at h
        cases h
        exact ih hrest
      | ok names =>
        rw [hrest] at h
        cases h
    · cases h
      rfl

namespace Compiler

variable {c : Compiler} {table : Value} {rows : List Value} {f : Failure}

theorem quotedNames_error {columns : List Column} (h : c.quotedNames table columns = .error f) :
    ∃ v, c.quoter v = .error f := by
  rcases bind_error h with h | ⟨_, -, h⟩
  · exact ⟨table, h⟩
  · rcases bind_error h with h | ⟨_, -, h⟩
    · obtain ⟨column, -, hcolumn⟩ := mapM_error h
      exact ⟨_, hcolumn⟩
    · cases h

/-- **Rows that have been read become no query only for what they are,** or because the quoter
fails.  It may answer with what is no text, or what has no text. -/
theorem insertInto_error (h : c.insertInto table rows = .error f) :
    f.kind ∈ [ErrorKind.invalidInput, .absentAttribute, .type] ∨ ∃ v, c.quoter v = .error f := by
  rcases bind_error h with h | ⟨columns, -, h⟩
  · left
    rcases Columns.kind_of_ofRows h with h | h <;> simp [h]
  unfold insertColumns at h
  split at h
  · cases h
    exact .inl (by decide)
  rcases bind_error h with h | ⟨names, -, h⟩
  · exact .inr (quotedNames_error h)
  rcases bind_error h with h | ⟨sql, -, h⟩
  · left
    rcases bind_error h with h | ⟨_, -, h⟩
    · simp [Value.kind_of_plain h]
    · rcases bind_error h with h | ⟨_, -, h⟩
      · simp [Statement.kind_of_textsFrom h]
      · cases h
  · cases h

end Compiler

end RowInsert
